import Klldap.Http.Service
import Klldap.Lib.Interleave
import Klldap.Plain

/-!
# Klldap.Http.Reset: password resets at the same time

The second step of a password reset looks the token up, deletes it and issues a JWT; the result of
the deletion is ignored. Each of the three is a query of its own, and requests interleave between
them. `ResetCall.step` is one of the three, and `rest_run` puts them together to the request again.
-/

namespace Klldap
namespace Http

open Lib (Eff Pool)
open Opaque (Suite)

/-! ## Requests in pieces -/

/-- What a request has still to do. -/
inductive ResetCall where
  | lookUp (token : String)
  | delete (token : String) (userId : UserId)
  | createJwt (token : String) (userId : UserId)

def ResetCall.token : ResetCall → String
  | .lookUp token | .delete token _ | .createJwt token _ => token

/-- The time, what is drawn, and whether the deletion is made to fail. -/
structure ResetInput where
  now : DateTime
  draws : Draws
  deletion : Option DomainError

section

variable (S : Suite) (lib : TokenLib)

/-- The next query of a request, and what is to do afterwards or its answer. -/
def ResetCall.step (i : ResetInput) : ResetCall → App (ResetCall ⊕ Response S)
  | .lookUp token => do
    let userId ← (onWorld (onDb (Eff.query (getUserIdForPasswordResetToken i.now token)))).mapErr
      fun _ => .notFoundError "Wrong or expired reset token"
    pure (.inl (.delete token userId))
  | .delete token userId => do
    let _ ← Eff.attempt (Eff.orFails i.deletion (onWorld (onDb (deletePasswordResetToken token))))
    pure (.inl (.createJwt token userId))
  | .createJwt _ userId => do
    let jwt ← Http.createJwt lib i.now i.draws userId []
    pure (.inr (.passwordReset userId.asStr jwt))

/-- All that a request has still to do, when nothing interrupts it and the deletion is tried. -/
def ResetCall.rest (now : DateTime) (draws : Draws) : ResetCall → App (Response S)
  | .lookUp token => getPasswordResetStep2 lib now draws token
  | .delete token userId => do
    let _ ← Eff.attempt (onWorld (onDb (deletePasswordResetToken token)))
    let jwt ← Http.createJwt lib now draws userId []
    pure (.passwordReset userId.asStr jwt)
  | .createJwt _ userId => do
    let jwt ← Http.createJwt lib now draws userId []
    pure (.passwordReset userId.asStr jwt)

theorem ResetCall.rest_run (now : DateTime) (draws : Draws) (c : ResetCall) :
    c.rest S lib now draws = (do
      match ← c.step S lib ⟨now, draws, none⟩ with
      | .inl c' => c'.rest S lib now draws
      | .inr response => pure response) := by
  cases c with
  | lookUp token =>
    unfold rest step getPasswordResetStep2
    simp only [bind_assoc, pure_bind]
  | delete token userId =>
    unfold rest step
    simp only [bind_assoc, pure_bind]
    rfl
  | createJwt token userId =>
    unfold rest step
    simp only [bind_assoc, pure_bind]

/-- What the requests share, with the reset tokens of those that have answered with a JWT. -/
structure ResetShared where
  app : AppState
  used : List String

abbrev ResetShared.tokens (s : ResetShared) := s.app.world.db.passwordResetTokens

def ResetCall.advance (i : ResetInput) (c : ResetCall) :
    Eff ResetShared TcpError (Option ResetCall) := fun s =>
  match c.step S lib i s.app with
  | (.ok (.inl c'), a) => (.ok (some c'), ⟨a, s.used⟩)
  | (.ok (.inr _), a) => (.ok none, ⟨a, s.used ++ [c.token]⟩)
  | (.error e, a) => (.error e, ⟨a, s.used⟩)

/-- A deletion is not made to fail, and the token is still there. -/
def DeletesToken (i : ResetInput) (c : ResetCall) (s : ResetShared) : Prop :=
  ∀ token userId, c = .delete token userId →
    i.deletion = none ∧ (s.tokens.find? token).isSome = true

/-- What a piece does when deletions succeed: to the tokens, to the note, and to the request. -/
inductive ResetStep (s : ResetShared) : ResetCall → ResetShared → Option ResetCall → Prop
  | notFound (token : String) : ResetStep s (.lookUp token) s none
  | found (token : String) (userId : UserId) :
      ResetStep s (.lookUp token) s (some (.delete token userId))
  | deleted {token : String} {userId : UserId} {s' : ResetShared} (hused : s'.used = s.used)
      (hfound : (s.tokens.find? token).isSome = true)
      (htokens : s'.tokens = s.tokens.delete fun r => r.token = token) :
      ResetStep s (.delete token userId) s' (some (.createJwt token userId))
  | issued {token : String} {userId : UserId} {s' : ResetShared} (hused : s'.used = s.used ++ [token])
      (htokens : s'.tokens = s.tokens) : ResetStep s (.createJwt token userId) s' none
  | panicked (token : String) (userId : UserId) : ResetStep s (.createJwt token userId) s none

theorem ResetCall.advance_outcome (i : ResetInput) (c : ResetCall) (s : ResetShared)
    (hok : DeletesToken i c s) :
    ResetStep s c (c.advance S lib i s).2 (Pool.left (c.advance S lib i s).1) := by
  cases c with
  | lookUp token =>
    unfold advance step
    dsimp only
    rw [Eff.bind_run, Eff.mapErr, onWorld, Eff.zoom, onDb, Eff.zoom, Eff.query_run]
    dsimp only
    cases getUserIdForPasswordResetToken i.now token s.app.world.db with
    | error e => exact .notFound token
    | ok userId => exact .found token userId
  | delete token userId =>
    obtain ⟨hdeletion, hfound⟩ := hok token userId rfl
    obtain ⟨row, hrow⟩ := Option.isSome_iff_exists.mp hfound
    have hdelete : (deletePasswordResetToken token s.app.world.db).2 =
        { s.app.world.db with passwordResetTokens := s.tokens.delete fun r => r.token = token } := by
      unfold deletePasswordResetToken
      rw [Eff.bind_run, Eff.reads_run, hrow]
      rfl
    refine .deleted rfl hfound ?_
    unfold advance step
    rw [hdeletion]
    exact congrArg Store.passwordResetTokens hdelete
  | createJwt token userId =>
    have hissues := createJwt_outcome lib i.now i.draws userId [] s.app
    unfold advance step
    dsimp only
    rw [Eff.bind_run]
    cases hrun : Http.createJwt lib i.now i.draws userId [] s.app with
    | mk r a =>
      rw [hrun] at hissues
      cases hissues with
      | issued huser htable => exact .issued rfl rfl
      | panicked msg => exact .panicked token userId

/-! ## Interleavings -/

/-- Each token that has been used has been used once and is gone. -/
structure UsedOnce (s : ResetShared) : Prop where
  nodup : s.used.Nodup
  gone : ∀ token ∈ s.used, s.tokens.find? token = none

def ResetCall.ready : ResetCall → Option String
  | .createJwt token _ => some token
  | _ => none

/-- The token of a request that has only the JWT to issue is gone and has not been used. -/
def ResetCall.Asserts (s : ResetShared) (c : ResetCall) : Prop :=
  ∀ token, c.ready = some token → s.tokens.find? token = none ∧ token ∉ s.used

/-- Two requests are not about to issue a JWT for one token. -/
def ResetCall.Apart (c c' : ResetCall) : Prop := ∀ token, c.ready = some token → c'.ready ≠ some token

theorem resetCalls_sound :
    Pool.Sound (ResetCall.advance S lib) DeletesToken UsedOnce ResetCall.Asserts ResetCall.Apart where
  symm c c' h := fun token hc' hc => h token hc hc'
  invariant i c s hok hI hJ := by
    have hstep := c.advance_outcome S lib i s hok
    generalize Pool.left (c.advance S lib i s).1 = next at hstep
    generalize (c.advance S lib i s).2 = s' at hstep ⊢
    cases hstep with
    | notFound | found | panicked => exact hI
    | deleted hused hfound htokens =>
      refine ⟨hused ▸ hI.nodup, fun token ht => ?_⟩
      rw [htokens, Lib.Table.find?_delete, hI.gone token (hused ▸ ht), Option.filter_none]
    | issued hused htokens =>
      obtain ⟨hgone, hnew⟩ := hJ _ rfl
      refine ⟨?_, fun token ht => ?_⟩
      · rw [hused, List.nodup_append]
        exact ⟨hI.nodup, List.nodup_singleton _, fun a ha b hb heq =>
          hnew (List.mem_singleton.mp hb ▸ heq ▸ ha)⟩
      · rw [htokens]
        rw [hused, List.mem_append, List.mem_singleton] at ht
        rcases ht with ht | rfl
        · exact hI.gone token ht
        · exact hgone
  own i c s c' hok hI hJ hleft := by
    have hstep := c.advance_outcome S lib i s hok
    rw [hleft] at hstep
    generalize (c.advance S lib i s).2 = s' at hstep ⊢
    cases hstep with
    | found => exact fun _ h => nomatch h
    | deleted hused hfound htokens =>
      rintro token ⟨⟩
      refine ⟨?_, fun ht => ?_⟩
      · rw [htokens, Lib.Table.find?_delete, Option.filter_eq_none_iff]
        intro row hrow
        simp [Lib.Table.key_of_find? hrow]
      · rw [hI.gone _ (hused ▸ ht)] at hfound
        cases hfound
  others i c s c' hok hI hJ hC hJ' := by
    have hstep := c.advance_outcome S lib i s hok
    generalize Pool.left (c.advance S lib i s).1 = next at hstep
    generalize (c.advance S lib i s).2 = s' at hstep ⊢
    cases hstep with
    | notFound | found | panicked => exact hJ'
    | deleted hused hfound htokens =>
      intro token ht
      obtain ⟨hgone, hnew⟩ := hJ' token ht
      refine ⟨?_, hused ▸ hnew⟩
      rw [htokens, Lib.Table.find?_delete, hgone, Option.filter_none]
    | issued hused htokens =>
      intro token ht
      obtain ⟨hgone, hnew⟩ := hJ' token ht
      refine ⟨htokens ▸ hgone, fun hmem => ?_⟩
      rw [hused, List.mem_append, List.mem_singleton] at hmem
      rcases hmem with hmem | rfl
      · exact hnew hmem
      · exact hC _ rfl ht
  related i c s c' u hok hI hJ hJu hleft hC := by
    have hstep := c.advance_outcome S lib i s hok
    rw [hleft] at hstep
    generalize (c.advance S lib i s).2 = s' at hstep
    cases hstep with
    | found => exact fun _ h => nomatch h
    | deleted hused hfound htokens =>
      rintro token ⟨⟩ hu
      rw [(hJu _ hu).1] at hfound
      cases hfound

abbrev ResetMove := Pool.Move ResetInput ResetCall

/-- Requests begin by looking the token up. -/
def ResetMove.Begins (m : ResetMove) : Prop := ∀ c, m = .start c → ∃ token, c = .lookUp token

/-- Each deletion that is made deletes the token. -/
def DeletionsSucceed (p : Pool ResetShared ResetCall) (m : ResetMove) : Prop :=
  ∀ k i, m = .advance k i → ∀ c, p.threads[k]? = some c → DeletesToken i c p.shared

/-- The interleavings of any requests from `init`, with a condition on the moves. -/
abbrev ResetInterleaving (ok : Pool ResetShared ResetCall → ResetMove → Prop) (init : AppState) :
    List (Lib.Event (Pool ResetShared ResetCall) ResetMove Unit) → Pool ResetShared ResetCall → Prop :=
  Lib.Run (Pool.move (ResetCall.advance S lib)) (fun _ p m => m.Begins ∧ ok p m) ⟨⟨init, []⟩, []⟩

/-- In every interleaving in which each deletion that is made deletes the token, no token leads to
more than one JWT. -/
theorem resetTokens_used_once {init : AppState} {history} {p : Pool ResetShared ResetCall}
    (run : ResetInterleaving S lib DeletionsSucceed init history p) : p.shared.used.Nodup := by
  have hinit : Pool.Holds UsedOnce ResetCall.Asserts ResetCall.Apart
      (⟨⟨init, []⟩, []⟩ : Pool ResetShared ResetCall) :=
    ⟨⟨.nil, nofun⟩, nofun, .nil⟩
  refine (Pool.invariant (resetCalls_sound S lib) hinit ?_ ?_ run).shared.nodup
  · rintro _ p c - ⟨hbegins, -⟩
    obtain ⟨token, rfl⟩ := hbegins c rfl
    exact ⟨nofun, fun _ _ => nofun⟩
  · rintro _ p k i ⟨-, hok⟩ c hc
    exact hok k i rfl c hc

end

/-! ## One token, two JWTs -/

section Samples

open Plain

def bobResets : AppState :=
  ⟨world { Store.empty with
    users := .single (userRow "bob")
    passwordResetTokens := ⟨[⟨"secret", UserId.new "bob", 600⟩], by decide⟩ }, []⟩

def useSecret : ResetMove := .start (.lookUp "secret")

/-- The next piece of the request at `k`, which draws `jti` if it issues a JWT. -/
def resetAt (k : Nat) (jti : String) (deletion : Option DomainError) : ResetMove :=
  .advance k ⟨1, ⟨jti, "", none⟩, deletion⟩

def afterResets (moves : List ResetMove) : Pool ResetShared ResetCall :=
  moves.foldl (fun p m => (Pool.move (ResetCall.advance Opaque.plainSuite plainTokens) p m).2)
    ⟨⟨bobResets, []⟩, []⟩

def resetChecked (p : Pool ResetShared ResetCall) : ResetMove → Bool
  | .start (.lookUp _) => true
  | .start _ => false
  | .advance k i =>
    match p.threads[k]? with
    | some (.delete token _) => i.deletion = none && (p.shared.tokens.find? token).isSome
    | _ => true

theorem begins_of_checked {p : Pool ResetShared ResetCall} {m : ResetMove}
    (h : resetChecked p m = true) : m.Begins := by
  rintro c rfl
  cases c with
  | lookUp token => exact ⟨token, rfl⟩
  | delete => cases h
  | createJwt => cases h

theorem deletionsSucceed_of_checked {p : Pool ResetShared ResetCall} {m : ResetMove}
    (h : resetChecked p m = true) : DeletionsSucceed p m := by
  rintro k i rfl c hc token userId rfl
  simpa [resetChecked, hc] using h

/-- One request uses the token, and the next one does not find it. -/
theorem resetTokens_used_once_secret :
    let p := afterResets [useSecret, resetAt 0 "a" none, resetAt 0 "a" none, resetAt 0 "a" none,
      useSecret, resetAt 0 "bb" none]
    p.shared.used = ["secret"] ∧ p.shared.used.Nodup := by
  refine ⟨by decide +kernel, ?_⟩
  have hnone : ResetInterleaving Opaque.plainSuite plainTokens DeletionsSucceed bobResets [] _ := .nil
  obtain ⟨history, hrun⟩ := hnone.extend_checked (fun _ _ _ h =>
    ⟨begins_of_checked h, deletionsSucceed_of_checked h⟩) (l := [useSecret, resetAt 0 "a" none,
      resetAt 0 "a" none, resetAt 0 "a" none, useSecret, resetAt 0 "bb" none]) (by decide +kernel)
  exact resetTokens_used_once Opaque.plainSuite plainTokens hrun

def overlappingResets : List ResetMove :=
  [useSecret, useSecret, resetAt 0 "" none, resetAt 1 "" none, resetAt 0 "" none, resetAt 1 "" none,
    resetAt 0 "a" none, resetAt 0 "bb" none]

def failingResets : List ResetMove :=
  [useSecret, resetAt 0 "" none, resetAt 0 "" (some (.databaseError "database is locked")),
    resetAt 0 "a" none, useSecret, resetAt 0 "" none, resetAt 0 "" none, resetAt 0 "bb" none]

theorem afterResets_run {moves : List ResetMove}
    (hbegins : ∀ m ∈ moves, m = useSecret ∨ ∃ k i, m = .advance k i) :
    ∃ history, ResetInterleaving Opaque.plainSuite plainTokens (fun _ _ => True) bobResets history
      (afterResets moves) := by
  refine Lib.Run.nil.extend _ fun m hm _ _ => ⟨?_, trivial⟩
  rcases hbegins m hm with rfl | ⟨k, i, rfl⟩
  · rintro _ ⟨⟩
    exact ⟨_, rfl⟩
  · exact nofun

/-- Either way the token leads to two JWTs. -/
theorem secret_used_twice :
    ((∃ history, ResetInterleaving Opaque.plainSuite plainTokens (fun _ _ => True) bobResets history
      (afterResets overlappingResets)) ∧
      ¬ (afterResets overlappingResets).shared.used.Nodup) ∧
    (∃ history, ResetInterleaving Opaque.plainSuite plainTokens (fun _ _ => True) bobResets history
      (afterResets failingResets)) ∧
      ¬ (afterResets failingResets).shared.used.Nodup := by
  refine ⟨⟨afterResets_run ?_, by decide +kernel⟩, afterResets_run ?_, by decide +kernel⟩
  · simp [overlappingResets, resetAt]
  · simp [failingResets, resetAt]

end Samples

end Http
end Klldap
