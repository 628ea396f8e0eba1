import Klldap.Backend

/-!
# Klldap.Sql.Calm: calls of the backend that never panic

The only panics of the backend are in the translation of filters. The calls that read one user, log
in or set a password answer or fail with an error.
-/

namespace Klldap

open Lib (Eff except_bind_error except_mapM_error)
open Lib.Eff (ErrorsIn)
open Opaque (Suite)

/-- The error is not a panic. -/
def DomainError.Calm (e : DomainError) : Prop := ∀ msg, e ≠ .panicked msg

/-- No run ends in a panic. -/
abbrev Calm {σ α : Type} (m : Eff σ DomainError α) : Prop := ErrorsIn DomainError.Calm m

namespace Sql

variable [External] {db : Store} {e : DomainError}

theorem getSchema_error (h : getSchema db = .error e) :
    e = .internalError "Failed to parse posix_settings JSON" := by
  rcases except_bind_error.mp h with h | ⟨settings, -, h⟩
  · unfold getPosixSettings at h
    split at h
    · cases h
    · split at h
      · cases h
      · cases h
        rfl
  · cases h

theorem readUser_calm {schema : Schema} {r : UserRow} {attrs : List UserAttributeRow}
    (h : readUser schema r attrs = .error e) : e.Calm := by
  rcases except_bind_error.mp h with h | ⟨attributes, -, h⟩
  · obtain ⟨a, -, h⟩ := except_mapM_error h
    rcases except_bind_error.mp h with h | ⟨attr, -, h⟩
    · unfold deserializeAttribute at h
      split at h
      · cases h
      · cases h
        exact fun _ => nofun
    · cases h
  · cases h

theorem getUserDetails_calm {u : UserId} (h : getUserDetails u db = .error e) : e.Calm := by
  unfold getUserDetails at h
  split at h
  · cases h
    exact fun _ => nofun
  · rcases except_bind_error.mp h with h | ⟨schema, -, h⟩
    · cases getSchema_error h
      exact fun _ => nofun
    · exact readUser_calm h

omit [External] in
theorem getUserGroups_calm {u : UserId} (h : getUserGroups u db = .error e) : e.Calm := by
  unfold getUserGroups at h
  split at h
  · cases h
    exact fun _ => nofun
  · cases h

omit [External] in
theorem setKrbPrincipalName_calm (now : DateTime) (u : UserId) (principal : Option String) :
    Calm (setKrbPrincipalName now u principal) := by
  refine ErrorsIn.bind (ErrorsIn.reads _) fun row => ?_
  split
  · exact ErrorsIn.fail fun _ => nofun
  · exact ErrorsIn.writes _

end Sql

namespace Opaque

variable {S : Suite} {setup : S.ServerSetup} {e : DomainError}

theorem bind_calm (rng : S.Coins) (u : UserId) (password : String) :
    Calm (bind S setup rng u password) := by
  refine ErrorsIn.query fun db e h => ?_
  split at h
  · cases h
    exact fun _ => nofun
  · split at h
    · split at h
      · cases h
      · cases h
        exact fun _ => nofun
    · cases h
      exact fun _ => nofun

theorem protocol_calm {α : Type} {r : Except String α} (h : protocol r = .error e) : e.Calm := by
  cases r with
  | ok a => cases h
  | error msg =>
    cases h
    exact fun _ => nofun

theorem getOrionSecretKey_calm (h : getOrionSecretKey S setup = .error e) : e.Calm := by
  unfold getOrionSecretKey at h
  split at h
  · cases h
  · cases h
    exact fun _ => nofun

theorem registrationStart_calm (rng : S.Coins) (request : ClientRegistrationStartRequest S) :
    Calm (registrationStart S setup rng request) := by
  refine ErrorsIn.lift fun e h => ?_
  rcases except_bind_error.mp h with h | ⟨message, -, h⟩
  · exact protocol_calm h
  · rcases except_bind_error.mp h with h | ⟨serverData, -, h⟩
    · rcases except_bind_error.mp h with h | ⟨key, -, h⟩
      · exact getOrionSecretKey_calm h
      · split at h
        · cases h
        · cases h
          exact fun _ => nofun
    · cases h

theorem registrationTarget_calm {serverData : String}
    (h : registrationTarget S setup serverData = .error e) : e.Calm := by
  rcases except_bind_error.mp h with h | ⟨state, -, h⟩
  · rcases except_bind_error.mp h with h | ⟨key, -, h⟩
    · exact getOrionSecretKey_calm h
    · split at h
      · cases h
        exact fun _ => nofun
      · split at h
        · cases h
          exact fun _ => nofun
        · cases h
  · split at h
    · cases h
      exact fun _ => nofun
    · cases h

theorem registrationFinish_calm (now : DateTime) (request : ClientRegistrationFinishRequest S) :
    Calm (registrationFinish S setup now request) := by
  refine ErrorsIn.bind (ErrorsIn.lift fun e h => registrationTarget_calm h) fun u => ?_
  refine ErrorsIn.bind (ErrorsIn.reads _) fun row => ?_
  split
  · exact ErrorsIn.fail fun _ => nofun
  · exact ErrorsIn.writes _

end Opaque

end Klldap
