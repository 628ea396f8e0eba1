import Klldap.Lib.Run
import Klldap.Plain

/-!
# Klldap.Opaque.Replay: which blob a registration accepts

Both start calls seal their state under one key, and the finish calls tell the states apart only by
decoding them. A registration state is a user name; a login state is a user name followed by the
state of the login. The decoder of the former takes the name and drops the rest, so it accepts the
latter as well.

Here the four calls run in any order, with any replay of handed-out blobs. The AEAD is ideal: a
presented blob that opens is one the server sealed earlier (`Admissible`).
-/

namespace Klldap
namespace Opaque

open Lib (Event Run eventAt Bytes Eff except_bind_ok)
open Lib.Bincode

inductive Call (S : Suite) where
  | loginStart (request : ClientLoginStartRequest S)
  | loginFinish (request : ClientLoginFinishRequest S)
  | registrationStart (request : ClientRegistrationStartRequest S)
  | registrationFinish (request : ClientRegistrationFinishRequest S)

/-- A call with the clock and the random bits it sees. -/
structure Input (S : Suite) where
  now : DateTime
  rng : S.Coins
  call : Call S

inductive Answer (S : Suite) where
  | loginStarted (response : ServerLoginStartResponse S)
  | loginFinished (user : UserId)
  | registrationStarted (response : ServerRegistrationStartResponse S)
  | registrationFinished
  | failed (error : DomainError)

variable {S : Suite}

def answer {α : Type} (f : α → Answer S) (r : Except DomainError α × Store) : Answer S × Store :=
  match r with
  | (.ok a, db) => (f a, db)
  | (.error e, db) => (.failed e, db)

def step (S : Suite) (setup : S.ServerSetup) (db : Store) (i : Input S) : Answer S × Store :=
  match i.call with
  | .loginStart request => answer .loginStarted (loginStart S setup i.rng request db)
  | .loginFinish request => answer .loginFinished (loginFinish S setup request db)
  | .registrationStart request =>
    answer .registrationStarted (registrationStart S setup i.rng request db)
  | .registrationFinish request =>
    answer (fun _ => .registrationFinished) (registrationFinish S setup i.now request db)

abbrev History (S : Suite) := List (Event Store (Input S) (Answer S))

def Call.serverData : Call S → Option String
  | .loginFinish request => some request.serverData
  | .registrationFinish request => some request.serverData
  | _ => none

def Call.username : Call S → Option UserId
  | .loginStart request => some request.username
  | .registrationStart request => some request.username
  | _ => none

/-- `blob` was handed out by a registration start for `u`. -/
def HandedByRegistration (h : History S) (blob : String) (u : UserId) : Prop :=
  ∃ e ∈ h, ∃ request response, e.input.call = .registrationStart request ∧
    e.output = .registrationStarted response ∧ request.username = u ∧ response.serverData = blob

/-- `blob` was handed out by a login start for `u`. -/
def HandedByLogin (h : History S) (blob : String) (u : UserId) : Prop :=
  ∃ e ∈ h, ∃ request response, e.input.call = .loginStart request ∧
    e.output = .loginStarted response ∧ request.username = u ∧ response.serverData = blob

/-- What the environment can do: present nothing that opens but what was handed out before, and
name users by strings whose length the machine can count. -/
structure Admissible (S : Suite) (setup : S.ServerSetup) (h : History S) (_ : Store)
    (i : Input S) : Prop where
  ideal : ∀ blob key sealed state, i.call.serverData = some blob →
    S.base64Decode blob = some sealed → S.secretKey setup = some key →
    S.aeadOpen key sealed = some state →
    ∃ blob' u, (HandedByRegistration h blob' u ∨ HandedByLogin h blob' u) ∧
      S.base64Decode blob' = some sealed
  fits : ∀ u, i.call.username = some u → Fits u.asStr

section Steps

variable {setup : S.ServerSetup} {db : Store} {i : Input S}

theorem step_loginStart {request : ClientLoginStartRequest S}
    {response : ServerLoginStartResponse S} (hcall : i.call = .loginStart request)
    (hout : (step S setup db i).1 = .loginStarted response) :
    ∃ state : S.ServerLogin, sealState S setup i.rng
      (LoginServerData.serialize ⟨request.username, state⟩) = .ok response.serverData := by
  simp only [step, hcall, answer] at hout
  split at hout
  · rename_i response' db' hrun
    cases hout
    exact loginStart_ok hrun
  · cases hout

theorem step_registrationStart (hS : S.Lawful) {request : ClientRegistrationStartRequest S}
    {response : ServerRegistrationStartResponse S} (hu : Fits request.username.asStr)
    (hcall : i.call = .registrationStart request)
    (hout : (step S setup db i).1 = .registrationStarted response) :
    registrationTarget S setup response.serverData = .ok request.username := by
  simp only [step, hcall, answer] at hout
  split at hout
  · rename_i response' db' hrun
    cases hout
    exact registrationTarget_of_registrationStart hS hu hrun
  · cases hout

theorem step_registrationFinish {request : ClientRegistrationFinishRequest S}
    (hcall : i.call = .registrationFinish request) :
    (step S setup db i).1 = .registrationFinished ↔
      ∃ u, registrationTarget S setup request.serverData = .ok u ∧
        (db.users.find? u).isSome := by
  simp only [step, hcall, answer]
  constructor
  · intro hout
    split at hout
    · rename_i db' hrun
      obtain ⟨u, hu, hrow, -⟩ := registrationFinish_ok.mp hrun
      exact ⟨u, hu, hrow⟩
    · cases hout
  · rintro ⟨u, hu, hrow⟩
    rw [registrationFinish_ok.mpr ⟨u, hu, hrow, rfl⟩]

end Steps

/-! ## Runs -/

section Runs

variable {setup : S.ServerSetup} {db₀ db : Store} {h : History S}

theorem target_of_handedByRegistration (hS : S.Lawful)
    (hr : Run (step S setup) (Admissible S setup) db₀ h db) {blob : String} {u : UserId}
    (hb : HandedByRegistration h blob u) : registrationTarget S setup blob = .ok u := by
  obtain ⟨e, he, request, response, hcall, hout, rfl, rfl⟩ := hb
  obtain ⟨h₁, h₂, rfl⟩ := List.append_of_mem he
  obtain ⟨-, hadm, heq⟩ := hr.event rfl
  have hfits := hadm.fits request.username (by rw [hcall]; rfl)
  rw [heq] at hout
  exact step_registrationStart hS hfits hcall hout

theorem target_of_handedByLogin (hS : S.Lawful)
    (hr : Run (step S setup) (Admissible S setup) db₀ h db) {blob : String} {u : UserId}
    (hb : HandedByLogin h blob u) : registrationTarget S setup blob = .ok u := by
  obtain ⟨e, he, request, response, hcall, hout, rfl, rfl⟩ := hb
  obtain ⟨h₁, h₂, rfl⟩ := List.append_of_mem he
  obtain ⟨-, hadm, heq⟩ := hr.event rfl
  have hfits := hadm.fits request.username (by rw [hcall]; rfl)
  rw [heq] at hout
  obtain ⟨state, hseal⟩ := step_loginStart hcall hout
  exact registrationTarget_of_sealState hS hfits hseal

/-- Every registration of the run that finished, and so overwrote the password file of the user in
its blob, used a blob that an earlier registration start handed out for that user, and none that a
login start handed out. -/
def DomainSeparated (S : Suite) (setup : S.ServerSetup) (h : History S) : Prop :=
  ∀ h₁ e h₂, h = h₁ ++ e :: h₂ → ∀ request, e.input.call = .registrationFinish request →
    e.output = .registrationFinished →
    (∀ u, registrationTarget S setup request.serverData = .ok u →
      HandedByRegistration h₁ request.serverData u) ∧
    ∀ v, ¬ HandedByLogin h₁ request.serverData v

/-- A registration is given a login blob only of a user without a row. -/
def LoginBlobsInert (h : History S) : Prop :=
  ∀ h₁ e h₂, h = h₁ ++ e :: h₂ → ∀ request, e.input.call = .registrationFinish request →
    ∀ v, HandedByLogin h₁ request.serverData v → e.pre.users.find? v = none

theorem handed_of_target (hS : S.Lawful) {i : Input S}
    {request : ClientRegistrationFinishRequest S} {u : UserId}
    (hadm : Admissible S setup h db i) (hcall : i.call = .registrationFinish request)
    (ht : registrationTarget S setup request.serverData = .ok u) :
    ∃ v, HandedByRegistration h request.serverData v ∨ HandedByLogin h request.serverData v := by
  obtain ⟨state, hopen, -⟩ := except_bind_ok.mp ht
  obtain ⟨key, sealed, hkey, hdec, haead⟩ := openState_ok.mp hopen
  obtain ⟨blob', v, hhand, hdec'⟩ :=
    hadm.ideal _ key sealed state (by rw [hcall]; rfl) hdec hkey haead
  have hblob : blob' = request.serverData := by
    rw [← hS.encode_decode hdec', ← hS.encode_decode hdec]
  exact ⟨v, hblob ▸ hhand⟩

/-- In every run, the registrations use registration blobs only if and only if none of them is given
a login blob of a stored user. -/
theorem domainSeparated_iff (hS : S.Lawful)
    (hr : Run (step S setup) (Admissible S setup) db₀ h db) :
    DomainSeparated S setup h ↔ LoginBlobsInert h := by
  constructor
  · intro hsep h₁ e h₂ hh request hcall v hlogin
    obtain ⟨hr₁, -, heq⟩ := hr.event hh
    have ht := target_of_handedByLogin hS hr₁ hlogin
    by_contra hrow
    have hout : e.output = .registrationFinished := by
      rw [heq]
      exact (step_registrationFinish hcall).mpr ⟨v, ht, Option.isSome_iff_ne_none.mpr hrow⟩
    exact (hsep h₁ e h₂ hh request hcall hout).2 v hlogin
  · intro hinert h₁ e h₂ hh request hcall hout
    obtain ⟨hr₁, hadm, heq⟩ := hr.event hh
    rw [heq] at hout
    obtain ⟨u, ht, hrow⟩ := (step_registrationFinish hcall).mp hout
    have hlogin : ∀ v, ¬ HandedByLogin h₁ request.serverData v := by
      intro v hv
      have hvu := (target_of_handedByLogin hS hr₁ hv).symm.trans ht
      cases hvu
      rw [hinert h₁ e h₂ hh request hcall _ hv] at hrow
      cases hrow
    refine ⟨?_, hlogin⟩
    intro u' ht'
    obtain ⟨v, hv | hv⟩ := handed_of_target hS hadm hcall ht
    · have hvu := (target_of_handedByRegistration hS hr₁ hv).symm.trans ht'
      cases hvu
      exact hv
    · exact absurd hv (hlogin v)

end Runs

/-! ## A run that crosses over -/

def bob : UserId := UserId.new "bob"

/-- A database whose only row is a user `bob` without a password. -/
def bobStore : Store :=
  { Store.empty with
    users := ⟨[⟨bob, ⟨""⟩, "", none, 0, none, ⟨""⟩, 0, 0, none⟩], by simp⟩ }

/-- The blobs that a login start and a registration start for `bob` hand out. -/
def bobLoginBlob : String :=
  plainSuite.base64Encode (LoginServerData.serialize (⟨bob, ()⟩ : LoginServerData plainSuite))

def bobRegistrationBlob : String :=
  plainSuite.base64Encode (RegistrationServerData.serialize ⟨bob⟩)

def startLoginOfBob : Input plainSuite := ⟨0, (), .loginStart ⟨bob, ()⟩⟩

def startRegistrationOfBob : Input plainSuite := ⟨0, (), .registrationStart ⟨bob, ()⟩⟩

def finishRegistration (blob : String) : Input plainSuite :=
  ⟨1, (), .registrationFinish ⟨blob, ()⟩⟩

/-- A start call on the database of `bob`, then a registration finish with `blob`. -/
def startThenFinish (start : Input plainSuite) (blob : String) : History plainSuite :=
  [eventAt (step plainSuite ()) bobStore start,
    eventAt (step plainSuite ()) (step plainSuite () bobStore start).2 (finishRegistration blob)]

theorem run_startThenFinish (start : Input plainSuite) (blob : String)
    (hname : ∀ u, start.call.username = some u → u = bob)
    (hfresh : start.call.serverData = none)
    (hhand : ∃ u, HandedByRegistration [eventAt (step plainSuite ()) bobStore start] blob u ∨
      HandedByLogin [eventAt (step plainSuite ()) bobStore start] blob u) :
    ∃ db, Run (step plainSuite ()) (Admissible plainSuite ()) bobStore
      (startThenFinish start blob) db := by
  have hstart : Admissible plainSuite () [] bobStore start := by
    constructor
    · intro blob' key sealed state hb
      rw [hfresh] at hb
      cases hb
    · intro u hu
      rw [hname u hu]
      decide
  have hfinish : Admissible plainSuite () [eventAt (step plainSuite ()) bobStore start]
      (step plainSuite () bobStore start).2 (finishRegistration blob) := by
    constructor
    · intro blob' key sealed state hb hdec _ _
      cases hb
      obtain ⟨u, hu⟩ := hhand
      exact ⟨blob, u, hu, hdec⟩
    · intro u hu
      cases hu
  exact ⟨_, (Run.nil.snoc start hstart).snoc (finishRegistration blob) hfinish⟩

/-- Anyone may start a login for `bob`; the blob of that call then sets the password of `bob`. -/
theorem login_blob_registers :
    ∃ (S : Suite) (setup : S.ServerSetup) (db₀ db : Store) (h : History S), S.Lawful ∧
      Run (step S setup) (Admissible S setup) db₀ h db ∧ ¬ DomainSeparated S setup h := by
  have hlogin : HandedByLogin [eventAt (step plainSuite ()) bobStore startLoginOfBob]
      bobLoginBlob bob :=
    ⟨_, List.mem_singleton_self _, ⟨bob, ()⟩, ⟨bobLoginBlob, ()⟩, rfl, rfl, rfl, rfl⟩
  obtain ⟨db, hrun⟩ := run_startThenFinish startLoginOfBob bobLoginBlob
    (by rintro u ⟨⟩; rfl) rfl ⟨bob, .inr hlogin⟩
  refine ⟨plainSuite, (), bobStore, db, _, plainSuite_lawful, hrun, ?_⟩
  intro hsep
  have hsplit : startThenFinish startLoginOfBob bobLoginBlob =
    [eventAt (step plainSuite ()) bobStore startLoginOfBob] ++
      eventAt (step plainSuite ()) (step plainSuite () bobStore startLoginOfBob).2
        (finishRegistration bobLoginBlob) :: [] := rfl
  obtain ⟨hrun₁, -, -⟩ := hrun.event hsplit
  have htarget := target_of_handedByLogin plainSuite_lawful hrun₁ hlogin
  have hout : (step plainSuite () (step plainSuite () bobStore startLoginOfBob).2
      (finishRegistration bobLoginBlob)).1 = .registrationFinished :=
    (step_registrationFinish rfl).mpr ⟨bob, htarget, rfl⟩
  exact (hsep _ _ _ hsplit ⟨bobLoginBlob, ()⟩ rfl hout).2 bob hlogin

/-- The intended order of calls is a run that keeps the protocols apart. -/
theorem domainSeparated_of_registration_blob :
    ∃ db, Run (step plainSuite ()) (Admissible plainSuite ()) bobStore
        (startThenFinish startRegistrationOfBob bobRegistrationBlob) db ∧
      DomainSeparated plainSuite ()
        (startThenFinish startRegistrationOfBob bobRegistrationBlob) := by
  have hhand : HandedByRegistration
      [eventAt (step plainSuite ()) bobStore startRegistrationOfBob] bobRegistrationBlob bob :=
    ⟨_, List.mem_singleton_self _, ⟨bob, ()⟩, ⟨bobRegistrationBlob, ()⟩, rfl, rfl, rfl, rfl⟩
  obtain ⟨db, hrun⟩ := run_startThenFinish startRegistrationOfBob bobRegistrationBlob
    (by rintro u ⟨⟩; rfl) rfl ⟨bob, .inl hhand⟩
  refine ⟨db, hrun, (domainSeparated_iff plainSuite_lawful hrun).mpr ?_⟩
  rintro h₁ e h₂ hh - - v ⟨e', he', request, response, hcall, -⟩
  have hmem : e' ∈ startThenFinish startRegistrationOfBob bobRegistrationBlob := by
    rw [hh]
    exact List.mem_append_left _ he'
  simp only [startThenFinish, List.mem_cons, List.not_mem_nil, or_false] at hmem
  rcases hmem with rfl | rfl <;> cases hcall

end Opaque
end Klldap
