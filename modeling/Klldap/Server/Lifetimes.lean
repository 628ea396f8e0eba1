import Klldap.Server.Readiness

/-!
# Klldap.Server.Lifetimes: a server that is started, serves, stops and is started again

The state of `Klldap.Server.Startup` over the whole life of an installation: starts under any
configuration, requests of GraphQL and LDAP while the server is up, stops at any point, and an
operator who edits the key files in between.
-/

namespace Klldap

open Lib (Bytes Eff)
open Lib.Eff (Frames Keeps)
open Opaque (Suite)

namespace Server

/-- An installation: what is stored, and the key of the server while it is up. -/
structure Life (S : Suite) where
  state : State
  up : Option S.ServerSetup

inductive LifeInput (S : Suite) where
  | start (i : StartInput S)
  | request (i : RequestInput S)
  | stop
  | editKeyFile (path : String) (content : Option Bytes)

inductive LifeAnswer where
  | serving
  | failed (e : StartError)
  | answered (r : RequestAnswer)
  | done
  /-- The input does not apply: a second start, or a request to a server that is down. -/
  | refused

section Runs

variable [External] [Ldap.Library] {S : Suite} (L : KeyLibrary S) (ldapInfo : Ldap.LdapInfo)

def startStep (life : Life S) (i : StartInput S) : LifeAnswer × Life S :=
  match runServer L i life.state with
  | (.ok setup, state) => (.serving, ⟨state, some setup⟩)
  | (.error e, state) => (.failed e, ⟨state, none⟩)

def requestStep (life : Life S) (setup : S.ServerSetup) (i : RequestInput S) :
    LifeAnswer × Life S :=
  let r := answerRequest setup ldapInfo life.state.world i
  (.answered r.1, { life with state := { life.state with world := r.2 } })

def lifeStep (life : Life S) : LifeInput S → LifeAnswer × Life S
  | .start i => if life.up.isSome then (.refused, life) else startStep L life i
  | .request i =>
    match life.up with
    | none => (.refused, life)
    | some setup => requestStep ldapInfo life setup i
  | .stop => (.done, { life with up := none })
  | .editKeyFile path content =>
    (.done, { life with
      state := { life.state with keyFiles := Function.update life.state.keyFiles path content } })

variable {L ldapInfo} {life : Life S}

/-! ## What one input does -/

omit [Ldap.Library] in
theorem startStep_cases (L : KeyLibrary S) (life : Life S) (i : StartInput S) :
    (startStep L life i).2.state = (runServer L i life.state).2 ∧
      ∀ setup, (startStep L life i).2.up = some setup →
        ∃ state, runServer L i life.state = (.ok setup, state) ∧
          (startStep L life i).2.state = state := by
  unfold startStep
  rcases h : runServer L i life.state with ⟨r, state⟩
  cases r with
  | ok setup => exact ⟨rfl, fun setup' hup => ⟨state, by rw [Option.some.inj hup], rfl⟩⟩
  | error e => exact ⟨rfl, fun setup' hup => by cases hup⟩

theorem lifeStep_cases (L : KeyLibrary S) (ldapInfo : Ldap.LdapInfo) (life : Life S)
    (i : LifeInput S) :
    (∃ start, i = .start start ∧ life.up = none ∧
      (lifeStep L ldapInfo life i).2 = (startStep L life start).2) ∨
    (∃ request setup, i = .request request ∧ life.up = some setup ∧
      (lifeStep L ldapInfo life i).2 = (requestStep ldapInfo life setup request).2) ∨
    ((lifeStep L ldapInfo life i).2.state.privateKeyInfo = life.state.privateKeyInfo ∧
      (lifeStep L ldapInfo life i).2.state.world = life.state.world ∧
      ((lifeStep L ldapInfo life i).2.up = life.up ∨ (lifeStep L ldapInfo life i).2.up = none)) := by
  cases i with
  | start start =>
    cases hup : life.up with
    | none => exact .inl ⟨start, rfl, rfl, by simp [lifeStep, hup]⟩
    | some setup => exact .inr (.inr (by simp [lifeStep, hup]))
  | request request =>
    cases hup : life.up with
    | none => exact .inr (.inr (by simp [lifeStep, hup]))
    | some setup => exact .inr (.inl ⟨request, setup, rfl, rfl, by simp [lifeStep, hup]⟩)
  | stop => exact .inr (.inr ⟨rfl, rfl, .inr rfl⟩)
  | editKeyFile path content => exact .inr (.inr ⟨rfl, rfl, .inl rfl⟩)

/-- The input is no start that forces an update of the key. -/
def LifeInput.Unforced : LifeInput S → Prop
  | .start i => i.config.forceUpdatePrivateKey = false
  | _ => True

/-- The recorded hash is that of the key of the server that is up. -/
def Life.KeyRecorded (L : KeyLibrary S) (life : Life S) : Prop :=
  ∀ setup, life.up = some setup →
    ∃ info, life.state.privateKeyInfo = some info ∧ info.privateKeyHash = keyHash L setup

theorem lifeStep_keyRecorded (ldapInfo : Ldap.LdapInfo) (i : LifeInput S) (h : life.KeyRecorded L) :
    (lifeStep L ldapInfo life i).2.KeyRecorded L := by
  intro setup hup
  rcases lifeStep_cases L ldapInfo life i with
    ⟨start, -, -, heq⟩ | ⟨request, setup', -, hup', heq⟩ | ⟨hinfo, -, hsame | hnone⟩
  · rw [heq] at hup ⊢
    obtain ⟨state, hrun, hstate⟩ := (startStep_cases L life start).2 setup hup
    rw [hstate]
    exact runServer_key hrun
  · rw [heq] at hup ⊢
    exact h setup hup
  · rw [hinfo]
    exact h setup (hsame ▸ hup)
  · rw [hnone] at hup
    cases hup

theorem lifeStep_keepsKeyInfo (L : KeyLibrary S) (ldapInfo : Ldap.LdapInfo) (life : Life S)
    {i : LifeInput S} (hi : i.Unforced) :
    KeepsKeyInfo life.state (lifeStep L ldapInfo life i).2.state := by
  intro info hinfo
  rcases lifeStep_cases L ldapInfo life i with
    ⟨start, rfl, -, heq⟩ | ⟨request, setup', -, -, heq⟩ | ⟨hsame, -⟩
  · rw [heq, (startStep_cases L life start).1]
    exact runServer_keepsKeyInfo hi life.state info hinfo
  · rw [heq]
    exact hinfo
  · rw [hsame]
    exact hinfo

/-- In every life without a forced update of the key, a key that was recorded at its beginning stays
recorded, and every server that has ever been up had the key whose hash is recorded at its end:
edited key files, other seeds and starts that fail notwithstanding. -/
theorem served_keys_agree {init : Life S} {history} (hdown : init.up = none)
    (run : Lib.Run (lifeStep L ldapInfo) (fun _ _ i => i.Unforced) init history life) :
    KeepsKeyInfo init.state life.state ∧
      ∀ e ∈ history, ∀ setup, e.post.up = some setup →
        ∃ info, life.state.privateKeyInfo = some info ∧ info.privateKeyHash = keyHash L setup := by
  have hinit : init.KeyRecorded L := fun setup hup => by
    rw [hdown] at hup
    cases hup
  refine (run.invariant
    (P := fun history life => life.KeyRecorded L ∧ KeepsKeyInfo init.state life.state ∧
      ∀ e ∈ history, ∀ setup, e.post.up = some setup →
        ∃ info, life.state.privateKeyInfo = some info ∧ info.privateKeyHash = keyHash L setup)
    ⟨hinit, refl_of KeepsKeyInfo _, fun e he => by cases he⟩ ?_).2
  rintro history life i ⟨hrecorded, hkeeps, hserved⟩ hi
  have hrecorded' := lifeStep_keyRecorded ldapInfo i hrecorded
  have hkeeps' := lifeStep_keepsKeyInfo L ldapInfo life hi
  refine ⟨hrecorded', trans_of KeepsKeyInfo hkeeps hkeeps', fun e he setup hup => ?_⟩
  rcases List.mem_append.mp he with he | he
  · obtain ⟨info, hinfo, hhash⟩ := hserved e he setup hup
    exact ⟨info, hkeeps' info hinfo, hhash⟩
  · obtain rfl := List.mem_singleton.mp he
    exact hrecorded' setup hup

/-- No layer of the configuration has a seed. -/
def LifeInput.Unseeded : LifeInput S → Prop
  | .start i => i.config.keySeed = ⟨none, none, none⟩
  | _ => True

def defaultKey (L : KeyLibrary S) : S.ServerSetup := L.fromSeed (List.replicate 32 0)

theorem lifeStep_defaultKey {i : LifeInput S} (hi : i.Unseeded)
    (h : ∀ setup, life.up = some setup → setup = defaultKey L) (setup : S.ServerSetup)
    (hup : (lifeStep L ldapInfo life i).2.up = some setup) : setup = defaultKey L := by
  rcases lifeStep_cases L ldapInfo life i with
    ⟨start, rfl, -, heq⟩ | ⟨request, setup', -, -, heq⟩ | ⟨-, -, hsame | hnone⟩
  · rw [heq] at hup
    obtain ⟨state, hrun, -⟩ := (startStep_cases L life start).2 setup hup
    obtain ⟨-, -, location, s₁, -, -, hinit, -⟩ := runServer_ok hrun
    exact (init_unseeded hi hinit).1
  · rw [heq] at hup
    exact h setup hup
  · exact h setup (hsame ▸ hup)
  · rw [hnone] at hup
    cases hup

/-- In every life whose starts are configured without a seed, every server that has ever been up had
the key that is derived from a seed of zeros, whatever its key file holds. -/
theorem unseeded_keys_fixed {init : Life S} {history} (hdown : init.up = none)
    (run : Lib.Run (lifeStep L ldapInfo) (fun _ _ i => i.Unseeded) init history life) :
    ∀ e ∈ history, ∀ setup, e.post.up = some setup → setup = L.fromSeed (List.replicate 32 0) := by
  refine (run.invariant
    (P := fun history life => (∀ setup, life.up = some setup → setup = defaultKey L) ∧
      ∀ e ∈ history, ∀ setup, e.post.up = some setup → setup = defaultKey L)
    ⟨fun setup hup => ?_, fun e he => by cases he⟩ ?_).2
  · rw [hdown] at hup
    cases hup
  · rintro history life i ⟨hkey, hserved⟩ hi
    refine ⟨lifeStep_defaultKey hi hkey, fun e he => ?_⟩
    rcases List.mem_append.mp he with he | he
    · exact hserved e he
    · obtain rfl := List.mem_singleton.mp he
      exact lifeStep_defaultKey hi hkey

/-! ## The roster -/

/-- What holds of the groups of an installation, up or down. -/
structure Life.Sound (life : Life S) : Prop where
  ready : life.state.roster.Ready
  builtin : life.up.isSome = true → life.state.roster.Builtin

theorem lifeStep_sound (i : LifeInput S) (h : life.Sound) :
    (lifeStep L ldapInfo life i).2.Sound := by
  rcases lifeStep_cases L ldapInfo life i with
    ⟨start, -, -, heq⟩ | ⟨request, setup, -, hup, heq⟩ | ⟨-, hworld, hup⟩
  · rw [heq]
    obtain ⟨hstate, hserves⟩ := startStep_cases L life start
    constructor
    · rw [hstate]
      exact (runServer_keepsReady start life.state h.ready).1
    · intro hup
      obtain ⟨setup, hup⟩ := Option.isSome_iff_exists.mp hup
      obtain ⟨state, hrun, hstate⟩ := hserves setup hup
      rw [hstate]
      exact (runServer_serves h.ready hrun).1
  · rw [heq]
    have hsteps : RosterSteps life.state.world.db
        (answerRequest setup ldapInfo life.state.world request).2.db :=
      answerRequest_rosterSteps ldapInfo life.state.world request
    have hbuiltin := hsteps.builtin (h.builtin (by rw [hup]; rfl))
    exact ⟨hbuiltin.ready (hsteps.referenced h.ready.referenced), fun _ => hbuiltin⟩
  · refine ⟨by rw [State.roster, hworld]; exact h.ready, fun hsome => ?_⟩
    rw [State.roster, hworld]
    refine h.builtin ?_
    rcases hup with hsame | hnone
    · exact hsame ▸ hsome
    · rw [hnone] at hsome
      cases hsome

omit [Ldap.Library] in
theorem Life.Sound.of_down (hready : life.state.roster.Ready) (hdown : life.up = none) :
    life.Sound :=
  ⟨hready, fun hup => by rw [hdown] at hup; cases hup⟩

theorem sound_of_run {init : Life S} {history} (h : init.Sound)
    (run : Lib.Run (lifeStep L ldapInfo) (fun _ _ _ => True) init history life) : life.Sound :=
  run.invariant (P := fun _ => Life.Sound) h fun _ _ i h _ => lifeStep_sound i h

/-- In every life, whenever the server is up, the five built-in groups are there under their exact
names and nobody is both an administrator and disabled. -/
theorem served_builtin {init : Life S} {history} (hready : init.state.roster.Ready)
    (hdown : init.up = none)
    (run : Lib.Run (lifeStep L ldapInfo) (fun _ _ _ => True) init history life)
    (hup : life.up.isSome = true) : life.state.roster.Builtin :=
  (sound_of_run (.of_down hready hdown) run).builtin hup

/-- The input is no request that deletes the only administrator. -/
def LifeInput.Spares (ldapInfo : Ldap.LdapInfo) (life : Life S) : LifeInput S → Prop
  | .request i => SparesAdmin ldapInfo life.state.world i
  | _ => True

theorem lifeStep_hasAdmin {i : LifeInput S} (hsound : life.Sound) (hi : i.Spares ldapInfo life)
    (h : life.up.isSome = true → life.state.roster.HasAdmin)
    (hup : (lifeStep L ldapInfo life i).2.up.isSome = true) :
    (lifeStep L ldapInfo life i).2.state.roster.HasAdmin := by
  rcases lifeStep_cases L ldapInfo life i with
    ⟨start, -, -, heq⟩ | ⟨request, setup, rfl, hup', heq⟩ | ⟨-, hworld, hsame | hnone⟩
  · rw [heq] at hup ⊢
    obtain ⟨setup, hup⟩ := Option.isSome_iff_exists.mp hup
    obtain ⟨state, hrun, hstate⟩ := (startStep_cases L life start).2 setup hup
    rw [hstate]
    exact (runServer_serves hsound.ready hrun).2
  · rw [heq]
    exact answerRequest_hasAdmin (h (by rw [hup']; rfl)) hi
  · rw [State.roster, hworld]
    exact h (hsame ▸ hup)
  · rw [hnone] at hup
    cases hup

/-- In every life, whenever the server is up there is an administrator, if no request deletes a user
who is the only one at the time: a server that comes up has found or created one. -/
theorem served_admin {init : Life S} {history} (hready : init.state.roster.Ready)
    (hdown : init.up = none)
    (run : Lib.Run (lifeStep L ldapInfo) (fun _ life i => i.Spares ldapInfo life) init history life)
    (hup : life.up.isSome = true) : life.state.roster.HasAdmin := by
  refine (run.invariant (P := fun _ life => life.Sound ∧
    (life.up.isSome = true → life.state.roster.HasAdmin))
    ⟨.of_down hready hdown, fun hup => ?_⟩ ?_).2 hup
  · rw [hdown] at hup
    cases hup
  · rintro _ life i ⟨hsound, hadmin⟩ hi
    exact ⟨lifeStep_sound i hsound, lifeStep_hasAdmin hsound hi hadmin⟩

theorem lifeStep_builtin (i : LifeInput S) (hready : life.state.roster.Ready)
    (hbuiltin : life.state.roster.Builtin) :
    (lifeStep L ldapInfo life i).2.state.roster.Builtin := by
  rcases lifeStep_cases L ldapInfo life i with
    ⟨start, -, -, heq⟩ | ⟨request, setup, -, -, heq⟩ | ⟨-, hworld, -⟩
  · rw [heq, (startStep_cases L life start).1]
    exact KeepsReady.builtin (runServer_keepsReady start life.state) hready hbuiltin
  · rw [heq]
    exact (answerRequest_rosterSteps ldapInfo life.state.world request).builtin hbuiltin
  · rwa [State.roster, hworld]

/-- Once a server has come up, a later start leaves the world as it is, whether it comes up or fails, if
the user of its configuration exists and it resets no password. -/
theorem restart_changes_nothing {init served : Life S} {before after} (hready : init.state.roster.Ready)
    (hdown : init.up = none)
    (run : Lib.Run (lifeStep L ldapInfo) (fun _ _ _ => True) init before served)
    (hup : served.up.isSome = true)
    (later : Lib.Run (lifeStep L ldapInfo) (fun _ _ _ => True) served after life) {i : StartInput S}
    (hreset : i.config.forceLdapUserPassReset.isPositive = false)
    (huser : (life.state.world.db.users.find? i.config.ldapUserDn).isSome = true) :
    (lifeStep L ldapInfo life (.start i)).2.state.world = life.state.world := by
  have hsound := sound_of_run (.of_down hready hdown) run
  obtain ⟨-, hbuiltin⟩ := later.invariant
    (P := fun _ (life : Life S) => life.Sound ∧ life.state.roster.Builtin)
    ⟨hsound, hsound.builtin hup⟩
    fun _ _ i h _ => ⟨lifeStep_sound i h.1, lifeStep_builtin i h.1.ready h.2⟩
  rcases lifeStep_cases L ldapInfo life (.start i) with
    ⟨start, hstart, -, heq⟩ | ⟨request, setup, hrequest, -⟩ | ⟨-, hworld, -⟩
  · cases hstart
    rw [heq, (startStep_cases L life i).1]
    exact runServer_keepsSettled hreset life.state ⟨hbuiltin, huser⟩
  · cases hrequest
  · exact hworld

end Runs

/-! ## A life -/

section Samples

open Plain

/-- An installation on which nothing was ever started: of the tables only the schema has rows. -/
def fresh : Life openSuite :=
  ⟨⟨fun _ => none, none, Plain.world { Store.empty with
    userAttributeSchema := .single ⟨.new "ou", .string, false, true, false, true, true, "[]"⟩
    groupAttributeSchema := .single ⟨.new "ou", .string, false, true, false, true, true, "[]"⟩ }⟩,
    none⟩

/-- A start with no seed, by an operator who has set the password of the administrator. -/
def firstStart : StartInput openSuite :=
  ⟨⟨"lldap_config.toml", "LLDAP_", ⟨none, none, none⟩, ⟨none, none, none⟩, some "jwt",
    UserId.new "admin", "admin@example.com", some "password", .false, false⟩, outside, (),
    [7], none, none, none, none⟩

def otherSeed : StartInput openSuite :=
  { firstStart with config := { firstStart.config with keySeed := ⟨none, some "seed", none⟩ } }

abbrev livesOn (life : Life openSuite) (i : LifeInput openSuite) : Life openSuite :=
  (lifeStep openKeys Plain.ldapInfo life i).2

-- to rewrite with: the kernel runs unfolded steps again
theorem livesOn_eq (life : Life openSuite) (i : LifeInput openSuite) :
    livesOn life i = (lifeStep openKeys Plain.ldapInfo life i).2 := rfl

theorem lifeStep_post (life : Life openSuite) (i : LifeInput openSuite) :
    (Lib.eventAt (lifeStep openKeys Plain.ldapInfo) life i).post =
      (lifeStep openKeys Plain.ldapInfo life i).2 := rfl

theorem firstStart_serves :
    (lifeStep openKeys Plain.ldapInfo fresh (.start firstStart)).2.up.isSome = true := by
  decide +kernel

/-- The server comes up, stops, and does not come up under another seed: the key of the first start
is the recorded one at the end. -/
theorem first_key_recorded : ∃ setup, (livesOn fresh (.start firstStart)).up = some setup ∧
    ∃ info, (livesOn (livesOn (livesOn fresh (.start firstStart)) .stop)
      (.start otherSeed)).state.privateKeyInfo = some info ∧
        info.privateKeyHash = keyHash openKeys setup := by
  simp only [livesOn_eq]
  obtain ⟨setup, hup⟩ := Option.isSome_iff_exists.mp firstStart_serves
  refine ⟨setup, hup, ?_⟩
  have run : Lib.Run (lifeStep openKeys Plain.ldapInfo) (fun _ _ i => i.Unforced) fresh _ _ :=
    .snoc (LifeInput.start otherSeed)
      (.snoc LifeInput.stop (.snoc (LifeInput.start firstStart) .nil rfl) trivial) rfl
  rw [← lifeStep_post] at hup
  exact (served_keys_agree rfl run).2 _ (by simp) setup hup

/-- An operator puts a key into the key file, and the server comes up with the other one. -/
theorem key_file_ignored : ∃ setup, (livesOn (livesOn fresh (.editKeyFile "server_key" (some [9])))
    (.start firstStart)).up = some setup ∧ setup = openKeys.fromSeed (List.replicate 32 0) := by
  simp only [livesOn_eq]
  obtain ⟨setup, hup⟩ := Option.isSome_iff_exists.mp (by decide +kernel :
    (lifeStep openKeys Plain.ldapInfo (lifeStep openKeys Plain.ldapInfo fresh
      (.editKeyFile "server_key" (some [9]))).2 (.start firstStart)).2.up.isSome = true)
  refine ⟨setup, hup, ?_⟩
  have run : Lib.Run (lifeStep openKeys Plain.ldapInfo) (fun _ _ i => i.Unseeded) fresh _ _ :=
    .snoc (LifeInput.start firstStart)
      (.snoc (LifeInput.editKeyFile "server_key" (some [9])) .nil trivial) rfl
  rw [← lifeStep_post] at hup
  exact unseeded_keys_fixed rfl run _ (by simp) setup hup

theorem fresh_ready : fresh.state.roster.Ready where
  exact g hg := by cases hg
  lower g hg := by cases hg
  unique g hg := by cases hg
  apart u hboth := by
    obtain ⟨⟨g, hg, -⟩, -⟩ := hboth
    cases hg
  referenced m hm := by cases hm

theorem first_start_builtin : (livesOn fresh (.start firstStart)).state.roster.Builtin := by
  rw [livesOn_eq]
  exact served_builtin fresh_ready rfl (.snoc (LifeInput.start firstStart) .nil trivial) firstStart_serves

theorem first_start_admin : (livesOn fresh (.start firstStart)).state.roster.HasAdmin := by
  rw [livesOn_eq]
  exact served_admin fresh_ready rfl (.snoc (LifeInput.start firstStart) .nil trivial) firstStart_serves

theorem second_start_changes_nothing :
    (livesOn (livesOn (livesOn fresh (.start firstStart)) .stop) (.start firstStart)).state.world =
      (livesOn (livesOn fresh (.start firstStart)) .stop).state.world := by
  simp only [livesOn_eq]
  exact restart_changes_nothing (i := firstStart) fresh_ready rfl (.snoc (.start firstStart) .nil trivial)
    firstStart_serves (.snoc .stop .nil trivial) rfl (by decide +kernel)

end Samples

end Server
end Klldap
