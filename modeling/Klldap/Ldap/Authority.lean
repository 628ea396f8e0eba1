import Klldap.GraphQL.Mutation
import Klldap.Http.AuthService
import Klldap.Ldap.Bind

/-!
# Klldap.Ldap.Authority: who may change a password

There are four ways to change the password of a user: a `Modify` of `userPassword` and the password
modification of LDAP, `setUserPassword` of GraphQL, and the start of an OPAQUE registration over
HTTP. The first and the third ask for a writeable view, the other two for `canChangePassword`.
-/

namespace Klldap

open Lib (Eff)
open Lib.Eff (ErrorsIn)
open Lib.Bincode (utf8)
open Lib.Text
open Opaque (Suite)

/-! ## Decisions -/

section Denies

variable {σ ε α β : Type}

/-- The answer is an error that denies the request. -/
def Denies (denial : ε → Bool) (m : Eff σ ε α) (s : σ) : Prop :=
  ∃ e, (m s).1 = .error e ∧ denial e = true

variable {denial : ε → Bool} {s s' : σ}

theorem denies_fail {e : ε} (h : denial e = true) : Denies denial (Eff.fail e : Eff σ ε α) s :=
  ⟨e, rfl, h⟩

theorem not_denies {m : Eff σ ε α} (h : ErrorsIn (fun e => denial e = false) m) :
    ¬Denies denial m s := by
  rintro ⟨e, heq, hd⟩
  rw [h s e heq] at hd
  cases hd

theorem denies_bind {m : Eff σ ε α} {f : α → Eff σ ε β} {a : α} (hm : m s = (.ok a, s')) :
    Denies denial (m >>= f) s ↔ Denies denial (f a) s' := by
  unfold Denies
  rw [Eff.bind_run, hm]

theorem Denies.bind {m : Eff σ ε α} (h : Denies denial m s) (f : α → Eff σ ε β) :
    Denies denial (m >>= f) s := by
  obtain ⟨e, heq, hd⟩ := h
  refine ⟨e, ?_, hd⟩
  rcases hm : m s with ⟨r, s'⟩
  rw [hm] at heq
  subst heq
  rw [Eff.bind_run, hm]

end Denies

namespace Ldap

/-- An answer of the LDAP layer that denies a request for lack of rights. No answer at all counts as
one: the request was not carried out. -/
def Failure.isDenial : Failure → Bool
  | .ldap e => e.code = .insufficentAccessRights
  | .panicked _ => true

section Paths

variable [External] {S : Suite} {setup : S.ServerSetup} {rng : S.Coins} {out : Outside}
  {ldapInfo : LdapInfo} {v : ValidationResults} {u : UserId} {w : World} {row : UserRow}

theorem changePassword_not_denial [Library] (password : Lib.Bytes) :
    ErrorsIn (fun f => f.isDenial = false)
      ((changePassword (sqlServices S setup rng out) u password).mapErr PasswordError.toFailure) := by
  have hcalm : ErrorsIn (fun e => ∀ msg, e ≠ .backend (.panicked msg))
      (changePassword (sqlServices S setup rng out) u password) := by
    refine ErrorsIn.bind (ErrorsIn.lift fun e h => ?_) fun start => ErrorsIn.bind ?_ fun response =>
      ErrorsIn.bind (ErrorsIn.lift fun e h => ?_) fun upload => ?_
    · obtain ⟨msg, rfl⟩ := client_error h
      exact fun _ => nofun
    · exact ErrorsIn.mapErr ((ErrorsIn.zoom (Opaque.registrationStart_calm _ _)).mono
        fun e he msg h => he msg (PasswordError.backend.inj h))
    · obtain ⟨msg, rfl⟩ := client_error h
      exact fun _ => nofun
    · exact ErrorsIn.mapErr ((ErrorsIn.zoom (Opaque.registrationFinish_calm _ _)).mono
        fun e he msg h => he msg (PasswordError.backend.inj h))
  refine ErrorsIn.mapErr (hcalm.mono fun e he => ?_)
  cases e with
  | client msg => rfl
  | backend e =>
    cases e with
    | panicked msg => exact absurd rfl (he msg)
    | _ => rfl
where
  client_error {α : Type} {r : Except String α} {e : PasswordError}
      (h : r.mapError PasswordError.client = .error e) : ∃ msg, e = .client msg := by
    cases r with
    | ok a => cases h
    | error msg =>
      cases h
      exact ⟨msg, rfl⟩

theorem getUserGroups_of_row (hrow : w.db.users.find? u = some row) :
    (sqlServices S setup rng out).getUserGroups u w =
      (.ok ((w.db.groupsOf u).map GroupRow.toGroupDetails), w) := by
  show (Sql.getUserGroups u w.db, w) = _
  rw [Sql.getUserGroups, hrow]

def storedAdmin (db : Store) (u : UserId) : Bool :=
  isUserAdmin ((db.groupsOf u).map GroupRow.toGroupDetails)

theorem readGroups_of_row [Library] (hrow : w.db.users.find? u = some row) :
    orLdap .operationsError groupsError ((sqlServices S setup rng out).getUserGroups u) w =
      (.ok ((w.db.groupsOf u).map GroupRow.toGroupDetails), w) :=
  Eff.mapErr_ok.mpr (getUserGroups_of_row hrow)

/-! ## The password modification -/

theorem syncAfterModification_not_denial (hread : v.canRead u = true) (password : String) :
    ErrorsIn (fun f => f.isDenial = false)
      (syncAfterModification (sqlServices S setup rng out) v u password) := by
  unfold syncAfterModification
  rw [getReadableHandler, if_pos hread, expectView]
  show ErrorsIn _ (orLdap _ _ ((sqlServices S setup rng out).getUserDetails u) >>= _)
  refine ErrorsIn.bind (orLdap_errorsIn (getUserDetails_calm u) fun _ => rfl) fun user => ?_
  split
  · exact ErrorsIn.bind (ErrorsIn.attempt _) fun _ =>
      recover_errorsIn (ErrorsIn.zoom (Sql.setKrbPrincipalName_calm _ _ _)) ()
  · exact ErrorsIn.pure _

variable [Library]

/-- A password modification for `u`, when the session may read `u`. -/
def modificationOf (h : Services S World) (v : ValidationResults) (u : UserId) (password : String) :
    Eff World Failure (List LdapOp) := do
  let groups ← orLdap .operationsError groupsError (h.getUserGroups u)
  if !v.canChangePassword u (isUserAdmin groups) then
    failWith .insufficentAccessRights (cannotModifyPassword v u)
  else do
    (changePassword h u (utf8 password)).mapErr PasswordError.toFailure
    syncAfterModification h v u password
    pure [makeExtendedResponse .success ""]

variable {identity password : String}

theorem doPasswordModification_eq
    (hid : getUserIdFromDistinguishedName (asciiLower identity) ldapInfo.baseDn
      ldapInfo.baseDnStr = .ok u) :
    doPasswordModification ldapInfo (sqlServices S setup rng out) v
        ⟨some identity, some password⟩ =
      if v.canRead u then modificationOf (sqlServices S setup rng out) v u password
      else Eff.fail (.panicked "Unexpected permission error") := by
  unfold doPasswordModification
  simp only [hid, getReadableHandler]
  split
  · rfl
  · rfl

theorem modificationOf_calm (hread : v.canRead u = true) :
    ErrorsIn (fun f => ∀ msg, f ≠ .panicked msg)
      (modificationOf (sqlServices S setup rng out) v u password) := by
  have hcalm {f : Failure} (h : f.isDenial = false) (msg : String) : f ≠ .panicked msg := by
    rintro rfl
    cases h
  refine ErrorsIn.bind (orLdap_errorsIn (getUserGroups_calm u) fun _ _ => nofun) fun groups => ?_
  split
  · exact ErrorsIn.fail fun _ => nofun
  · exact ErrorsIn.bind ((changePassword_not_denial _).mono fun _ => hcalm) fun _ =>
      ErrorsIn.bind ((syncAfterModification_not_denial hread _).mono fun _ => hcalm) fun _ =>
        ErrorsIn.pure _

/-- The password modification is answered, by a result or by an error. -/
def PanicFree (ldapInfo : LdapInfo) (h : Services S World) (v : ValidationResults)
    (request : LdapPasswordModifyRequest) (w : World) : Prop :=
  ∀ msg, (doPasswordModification ldapInfo h v request w).1 ≠ .error (.panicked msg)

/-- The password modification never panics exactly when the session may read every user that the
request addresses: it is not a regular one, or the target is its own user. -/
theorem panicFree_iff {request : LdapPasswordModifyRequest} :
    PanicFree ldapInfo (sqlServices S setup rng out) v request w ↔
      ∀ identity password u, request.userIdentity = some identity →
        request.newPassword = some password →
        getUserIdFromDistinguishedName (asciiLower identity) ldapInfo.baseDn
          ldapInfo.baseDnStr = .ok u →
        v.permission ≠ .regular ∨ v.user = u := by
  unfold PanicFree
  obtain ⟨userIdentity, newPassword⟩ := request
  rcases userIdentity with _ | identity
  · exact iff_of_true (fun _ => nofun) (fun _ _ _ => nofun)
  rcases newPassword with _ | password
  · exact iff_of_true (fun _ => nofun) (fun _ _ _ _ => nofun)
  cases hid : getUserIdFromDistinguishedName (asciiLower identity) ldapInfo.baseDn
      ldapInfo.baseDnStr with
  | error e =>
    refine iff_of_true (fun msg h => ?_) fun _ _ _ hi _ hu => ?_
    · simp [doPasswordModification, hid, failWith] at h
    · cases hi
      rw [hid] at hu
      cases hu
  | ok u =>
    rw [doPasswordModification_eq hid]
    constructor
    · rintro hfree _ _ u' ⟨⟩ ⟨⟩ hu
      cases hid.symm.trans hu
      rw [← ValidationResults.canRead_iff]
      by_contra hread
      exact hfree "Unexpected permission error" (by rw [if_neg hread]; rfl)
    · intro h msg
      have hread := ValidationResults.canRead_iff.mpr (h identity password u rfl rfl hid)
      rw [if_pos hread]
      exact fun heq => modificationOf_calm hread w _ heq msg rfl

omit [External] [Library] in
theorem canRead_of_canChangePassword {userIsAdmin : Bool}
    (h : v.canChangePassword u userIsAdmin = true) : v.canRead u = true := by
  rw [ValidationResults.canRead_iff]
  rcases ValidationResults.canChangePassword_iff.mp h with hp | ⟨hp, -⟩ | hu
  · exact .inl (by simp [hp])
  · exact .inl (by simp [hp])
  · exact .inr hu

theorem modification_denies (hrow : w.db.users.find? u = some row)
    (hid : getUserIdFromDistinguishedName (asciiLower identity) ldapInfo.baseDn
      ldapInfo.baseDnStr = .ok u) :
    Denies Failure.isDenial (doPasswordModification ldapInfo (sqlServices S setup rng out) v
        ⟨some identity, some password⟩) w ↔
      v.canChangePassword u (storedAdmin w.db u) = false := by
  rw [doPasswordModification_eq hid]
  split
  · rename_i hread
    unfold modificationOf
    rw [denies_bind (readGroups_of_row hrow), ← storedAdmin]
    cases hc : v.canChangePassword u (storedAdmin w.db u) with
    | false => exact iff_of_true (denies_fail rfl) rfl
    | true =>
      refine iff_of_false (not_denies ?_) nofun
      exact ErrorsIn.bind (changePassword_not_denial _) fun _ =>
        ErrorsIn.bind (syncAfterModification_not_denial hread _) fun _ => ErrorsIn.pure _
  · rename_i hread
    refine iff_of_true (denies_fail rfl) ?_
    by_contra hc
    exact hread (canRead_of_canChangePassword (by simpa using hc))

omit [Library] in
theorem syncAfterReplace_not_denial (value : Lib.Bytes) :
    ErrorsIn (fun f => f.isDenial = false) (syncAfterReplace (sqlServices S setup rng out)
      (sqlServices S setup rng out) u value) := by
  unfold syncAfterReplace
  split
  · exact ErrorsIn.pure _
  · refine (getUserDetails_calm u).attempt_bind (fun _ => ?_) fun e he => ?_
    · exact ErrorsIn.bind (ErrorsIn.attempt _) fun _ => ErrorsIn.pure _
    · cases e with
      | panicked msg => exact absurd rfl (he msg)
      | _ => exact ErrorsIn.pure _

omit [External] [Library] in
theorem canChangePassword_of_canWrite {userIsAdmin : Bool} (h : v.canWrite u = true) :
    v.canChangePassword u userIsAdmin = true := by
  rw [ValidationResults.canChangePassword_iff]
  rcases ValidationResults.canWrite_iff.mp h with hp | hu
  · exact .inl hp
  · exact .inr (.inr hu)

omit [External] [Library] in
theorem canRead_of_canWrite (h : v.canWrite u = true) : v.canRead u = true := by
  have hchange : v.canChangePassword u false = true := canChangePassword_of_canWrite h
  exact canRead_of_canChangePassword hchange

theorem modifyStep_denies (hw : v.canWrite u = false) (change : LdapModify) :
    Denies Failure.isDenial (modifyStep (sqlServices S setup rng out) u v change) w := by
  unfold modifyStep
  simp only [getReadableHandler, getWriteableHandler, hw]
  split
  · exact denies_fail rfl
  · exact denies_fail rfl

theorem modifyStep_not_denial (hw : v.canWrite u = true) (value : Lib.Bytes) :
    ErrorsIn (fun f => f.isDenial = false) (modifyStep (sqlServices S setup rng out) u v
      ⟨.replace, ⟨"userPassword", [value]⟩⟩) := by
  have hpassword : isPasswordChange ⟨.replace, ⟨"userPassword", [value]⟩⟩ = true := by
    have hlower : asciiLower "userPassword" = "userpassword" := by decide
    simp [isPasswordChange, hlower]
  unfold modifyStep
  simp only [getReadableHandler, getWriteableHandler, hw, canRead_of_canWrite hw]
  show ErrorsIn _ (orLdap _ _ ((sqlServices S setup rng out).getUserGroups u) >>= _)
  refine ErrorsIn.bind (orLdap_errorsIn (getUserGroups_calm u) fun _ => rfl) fun groups => ?_
  rw [handleModifyChange, if_pos hpassword]
  unfold modifyPassword
  rw [if_neg (by simp), canChangePassword_of_canWrite hw]
  exact ErrorsIn.bind (changePassword_not_denial _) fun _ => syncAfterReplace_not_denial _

variable {dn : String}

theorem modify_denies
    (hdn : getUserIdFromDistinguishedName dn ldapInfo.baseDn ldapInfo.baseDnStr = .ok u) :
    Denies Failure.isDenial (handleModifyRequest (sqlServices S setup rng out) ldapInfo v
        ⟨dn, [⟨.replace, ⟨"userPassword", [utf8 password]⟩⟩]⟩) w ↔ v.canWrite u = false := by
  unfold handleModifyRequest
  simp only [hdn]
  cases hw : v.canWrite u with
  | false => exact iff_of_true (((modifyStep_denies hw _).bind _).bind _) rfl
  | true =>
    refine iff_of_false (not_denies ?_) nofun
    exact ErrorsIn.bind (ErrorsIn.bind (modifyStep_not_denial hw _) fun _ => ErrorsIn.pure _)
      fun _ => ErrorsIn.pure _

/-- The answer of `setUserPassword` that denies the request. -/
def isUnauthorizedSet (e : GraphQL.FieldError) : Bool := e = .error "Unauthorized password set" none

omit [External] [Library] in
theorem context_not_unauthorized {σ α ε : Type} {message : String} (m : Eff σ ε α)
    (hmessage : message ≠ "Unauthorized password set") :
    ErrorsIn (fun e => isUnauthorizedSet e = false) (GraphQL.context message m) := by
  intro s e h
  unfold GraphQL.context Eff.mapErr at h
  cases hr : (m s).1 with
  | ok a => simp [hr, Except.mapError] at h
  | error e' =>
    simp only [hr, Except.mapError, Except.error.injEq] at h
    simp [← h, isUnauthorizedSet, hmessage]

omit [Library] in
theorem setUserPassword_denies :
    Denies isUnauthorizedSet
        (GraphQL.setUserPassword ⟨sqlServices S setup rng out, v⟩ u.asStr password) w ↔
      v.canWrite u = false := by
  unfold GraphQL.setUserPassword
  simp only [UserId.new_asStr, getWriteableHandler]
  cases hw : v.canWrite u with
  | false => exact iff_of_true (denies_fail (by decide)) rfl
  | true =>
    refine iff_of_false (not_denies ?_) fun h => by cases h
    show ErrorsIn _ (GraphQL.registerPassword (sqlServices S setup rng out) u password >>= _)
    refine ErrorsIn.bind ?_ fun _ => ErrorsIn.bind (context_not_unauthorized _ (by decide))
      fun user => ErrorsIn.bind ?_ fun schema => ErrorsIn.bind (ErrorsIn.attempt _) fun _ =>
        ErrorsIn.bind (ErrorsIn.attempt _) fun _ => ErrorsIn.pure _
    · exact ErrorsIn.bind (context_not_unauthorized _ (by decide)) fun _ =>
        ErrorsIn.bind (context_not_unauthorized _ (by decide)) fun _ =>
          ErrorsIn.bind (context_not_unauthorized _ (by decide)) fun _ =>
            context_not_unauthorized _ (by decide)
    · refine ErrorsIn.mapErr (ErrorsIn.zoom (ErrorsIn.query fun db e he => ?_))
      cases Sql.getSchema_error he
      decide

variable {lib : Http.TokenLib} {now : DateTime} {token : String} {a : Http.AppState}

omit [Library] in
theorem registerStart_denies (hrow : a.world.db.users.find? u = some row)
    (htoken : Http.checkIfTokenIsValid lib now token a = .ok v) (message : S.RegistrationRequest) :
    Denies (fun e => e = Http.notAuthorized) (Http.opaqueRegisterStart lib
        (sqlServices S setup rng out) now (some token) ⟨u, message⟩) a ↔
      v.canChangePassword u (storedAdmin a.world.db u) = false := by
  have hgroups : Http.call ((sqlServices S setup rng out).getUserGroups u) a =
      (.ok ((a.world.db.groupsOf u).map GroupRow.toGroupDetails), a) := by
    refine Eff.mapErr_ok.mpr (Eff.zoom_ok.mpr ⟨a.world, getUserGroups_of_row hrow, rfl⟩)
  unfold Http.opaqueRegisterStart
  refine Iff.trans (denies_bind (?valid : _ = (Except.ok v, a))) ?_
  case valid => simp [htoken]
  rw [denies_bind hgroups]
  have hadmin : (((a.world.db.groupsOf u).map GroupRow.toGroupDetails).any fun g =>
      g.displayName == ⟨"lldap_admin"⟩) = storedAdmin a.world.db u := rfl
  dsimp only
  rw [hadmin]
  cases hc : v.canChangePassword u (storedAdmin a.world.db u) with
  | false => exact iff_of_true (denies_fail (by simp)) rfl
  | true =>
    refine iff_of_false (not_denies ?_) nofun
    refine ErrorsIn.bind (ErrorsIn.mapErr ?_) fun _ => ErrorsIn.pure _
    exact fun _ _ _ => by simp [Http.notAuthorized]

/-- The requests that ask to set the password of one user, in the four ways. -/
structure PasswordRequests (S : Suite) where
  dn : String
  identity : String
  target : UserId
  password : String
  token : String
  message : S.RegistrationRequest

/-- The two DNs of LDAP name the target. -/
structure PasswordRequests.Addressed (r : PasswordRequests S) (ldapInfo : LdapInfo) : Prop where
  dn : getUserIdFromDistinguishedName r.dn ldapInfo.baseDn ldapInfo.baseDnStr = .ok r.target
  identity : getUserIdFromDistinguishedName (asciiLower r.identity) ldapInfo.baseDn
    ldapInfo.baseDnStr = .ok r.target

/-- Either all four deny the request or none does. -/
def PathsAgree (h : Services S World) (ldapInfo : LdapInfo) (lib : Http.TokenLib) (now : DateTime)
    (v : ValidationResults) (r : PasswordRequests S) (a : Http.AppState) : Prop :=
  let modify := Denies Failure.isDenial (handleModifyRequest h ldapInfo v
    ⟨r.dn, [⟨.replace, ⟨"userPassword", [utf8 r.password]⟩⟩]⟩) a.world
  let modification := Denies Failure.isDenial
    (doPasswordModification ldapInfo h v ⟨some r.identity, some r.password⟩) a.world
  let setPassword := Denies isUnauthorizedSet
    (GraphQL.setUserPassword ⟨h, v⟩ r.target.asStr r.password) a.world
  let registerStart := Denies (fun e => e = Http.notAuthorized)
    (Http.opaqueRegisterStart lib h now (some r.token) ⟨r.target, r.message⟩) a
  (modify ↔ modification) ∧ (modification ↔ setPassword) ∧ (setPassword ↔ registerStart)

/-- For a stored target and the session that the token stands for: the four ways decide alike, unless
a password manager sets the password of another user that is not an administrator. -/
theorem pathsAgree_iff {r : PasswordRequests S} (hr : r.Addressed ldapInfo)
    (hrow : a.world.db.users.find? r.target = some row)
    (htoken : Http.checkIfTokenIsValid lib now r.token a = .ok v) :
    PathsAgree (sqlServices S setup rng out) ldapInfo lib now v r a ↔
      ¬(v.permission = .passwordManager ∧ v.user ≠ r.target ∧
        storedAdmin a.world.db r.target = false) := by
  unfold PathsAgree
  rw [modify_denies hr.dn, modification_denies hrow hr.identity, setUserPassword_denies,
    registerStart_denies hrow htoken]
  have hdiffer : (v.canWrite r.target = false ↔
      v.canChangePassword r.target (storedAdmin a.world.db r.target) = false) ↔
      ¬(v.permission = .passwordManager ∧ v.user ≠ r.target ∧
        storedAdmin a.world.db r.target = false) := by
    rw [← Bool.not_eq_true, ← Bool.not_eq_true, ValidationResults.canWrite_iff,
      ValidationResults.canChangePassword_iff]
    cases v.permission <;> simp
  rw [← hdiffer]
  tauto

end Paths

section Samples

open Plain

/-- Every token is the one of `carol`, who is in the given group. -/
def carolsTokens (group : String) : Http.TokenLib where
  defaultHash text := text.length
  sign claims := claims.jti
  verify _ := some (⟨10, 0, "", "carol", [group]⟩, .hs512)

def setPasswordOfBob : PasswordRequests Opaque.plainSuite where
  dn := (bindAs "bob").dn
  identity := (bindAs "bob").dn
  target := UserId.new "bob"
  password := "secret"
  token := ""
  message := ()

theorem setPasswordOfBob_addressed : setPasswordOfBob.Addressed Plain.ldapInfo where
  dn := by decide +kernel
  identity := by decide +kernel

theorem bob_stored : twoUsers.db.users.find? setPasswordOfBob.target = some (userRow "bob") := by
  decide

/-- For an administrator the four ways agree. -/
theorem admin_paths_agree :
    PathsAgree (sqlServices Opaque.plainSuite () () outside) Plain.ldapInfo
      (carolsTokens "lldap_admin") 0 ⟨UserId.new "carol", .admin⟩ setPasswordOfBob ⟨twoUsers, []⟩ :=
  (pathsAgree_iff setPasswordOfBob_addressed bob_stored (by decide)).mpr (by simp)

/-- A password manager is denied a `Modify` of the password of `bob`, and allowed the password
modification. -/
theorem password_manager_paths_differ :
    ¬PathsAgree (sqlServices Opaque.plainSuite () () outside) Plain.ldapInfo
      (carolsTokens "lldap_password_manager") 0 ⟨UserId.new "carol", .passwordManager⟩
      setPasswordOfBob ⟨twoUsers, []⟩ := by
  rintro ⟨hsame, -⟩
  have hdenied := (modification_denies bob_stored setPasswordOfBob_addressed.identity).mp
    (hsame.mp ((modify_denies setPasswordOfBob_addressed.dn).mpr (by decide)))
  exact absurd hdenied (by decide)

/-- The password modification of `bob` by a regular user is a panic. -/
theorem regular_modification_panics :
    ¬PanicFree Plain.ldapInfo (sqlServices Opaque.plainSuite () () outside)
      ⟨UserId.new "carol", .regular⟩ ⟨some (bindAs "bob").dn, some "secret"⟩ twoUsers := by
  intro hfree
  have hfail : doPasswordModification Plain.ldapInfo (sqlServices Opaque.plainSuite () () outside)
      ⟨UserId.new "carol", .regular⟩ ⟨some (bindAs "bob").dn, some "secret"⟩ =
        Eff.fail (.panicked "Unexpected permission error") :=
    (doPasswordModification_eq setPasswordOfBob_addressed.identity).trans (if_neg (by decide))
  exact hfree "Unexpected permission error" (by rw [hfail, Eff.fail_run])

end Samples

end Ldap
end Klldap
