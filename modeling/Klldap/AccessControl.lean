import Klldap.Backend

/-!
# Klldap.AccessControl: permissions and restricted views of the backend

`crates/auth/src/access_control.rs` and `crates/access-control`. A session is a user with a
permission, computed once from the groups of the user. The permission decides which view of the
backend a request handler is given; a view that is not granted is `none`.
-/

namespace Klldap

open Lib (Eff)
open Opaque (Suite)

inductive Permission where
  | admin | passwordManager | readonly | regular
deriving DecidableEq

structure ValidationResults where
  user : UserId
  permission : Permission
deriving DecidableEq

namespace ValidationResults

def isAdmin (v : ValidationResults) : Bool := v.permission = .admin

def canReadAll (v : ValidationResults) : Bool :=
  v.permission = .admin || v.permission = .readonly || v.permission = .passwordManager

def canRead (v : ValidationResults) (user : UserId) : Bool :=
  v.permission = .admin || v.permission = .passwordManager || v.permission = .readonly ||
    v.user = user

def canChangePassword (v : ValidationResults) (user : UserId) (userIsAdmin : Bool) : Bool :=
  v.permission = .admin || (v.permission = .passwordManager && !userIsAdmin) || v.user = user

def canWrite (v : ValidationResults) (user : UserId) : Bool :=
  v.permission = .admin || v.user = user

theorem canWrite_iff {v : ValidationResults} {user : UserId} :
    v.canWrite user = true ↔ v.permission = .admin ∨ v.user = user := by
  simp [canWrite]

theorem canRead_iff {v : ValidationResults} {user : UserId} :
    v.canRead user = true ↔ v.permission ≠ .regular ∨ v.user = user := by
  cases hp : v.permission <;> simp [canRead, hp]

theorem canChangePassword_iff {v : ValidationResults} {user : UserId} {userIsAdmin : Bool} :
    v.canChangePassword user userIsAdmin = true ↔
      v.permission = .admin ∨ v.permission = .passwordManager ∧ userIsAdmin = false ∨
        v.user = user := by
  simp [canChangePassword, or_assoc]

end ValidationResults

section Views

variable {S : Suite} {σ : Type}

def getAdminHandler (h : Services S σ) (v : ValidationResults) : Option (Services S σ) :=
  if v.isAdmin then some h else none

def getReadonlyHandler (h : Services S σ) (v : ValidationResults) : Option (Services S σ) :=
  if v.canReadAll then some h else none

def getWriteableHandler (h : Services S σ) (v : ValidationResults) (user : UserId) :
    Option (Services S σ) :=
  if v.canWrite user then some h else none

def getReadableHandler (h : Services S σ) (v : ValidationResults) (user : UserId) :
    Option (Services S σ) :=
  if v.canRead user then some h else none

theorem getAdminHandler_eq_none {h : Services S σ} {v : ValidationResults}
    (hv : v.permission ≠ .admin) : getAdminHandler h v = none := by
  simp [getAdminHandler, ValidationResults.isAdmin, hv]

theorem getWriteableHandler_eq_some {h h' : Services S σ} {v : ValidationResults} {user : UserId}
    (hv : v.permission ≠ .admin) (hw : getWriteableHandler h v user = some h') :
    v.user = user ∧ h' = h := by
  unfold getWriteableHandler at hw
  split at hw
  · rename_i hc
    cases hw
    simpa [ValidationResults.canWrite, hv] using hc
  · cases hw

variable [External]

def getPermissionsFromGroups (user : UserId) (groups : List GroupName) : ValidationResults where
  user := user
  permission :=
    if groups.any (· == ⟨"lldap_admin"⟩) then .admin
    else if groups.any (· == ⟨"lldap_password_manager"⟩) then .passwordManager
    else if groups.any (· == ⟨"lldap_strict_readonly"⟩) then .readonly
    else .regular

def getPermissionsForUser (h : Services S σ) (user : UserId) :
    Eff σ DomainError ValidationResults := do
  let userGroups ← h.getUserGroups user
  pure (getPermissionsFromGroups user (userGroups.map GroupDetails.displayName))

end Views

/-! ## The restricted lister -/

/-- `UserRestrictedListerBackendHandler`: a view that lists, for an unprivileged session, its own
user and its own groups. -/
structure UserRestrictedLister (S : Suite) (σ : Type) where
  handler : Services S σ
  userFilter : Option UserId

def getUserRestrictedListerHandler {S : Suite} {σ : Type} (h : Services S σ)
    (v : ValidationResults) : UserRestrictedLister S σ where
  handler := h
  userFilter := if v.canReadAll then none else some v.user

namespace UserRestrictedLister

variable {S : Suite} {σ : Type} (l : UserRestrictedLister S σ)

def getSchema : Eff σ DomainError Schema := do
  let schema ← l.handler.getSchema
  if l.userFilter.isSome then
    pure { schema with
      userAttributes := schema.userAttributes.filter AttributeSchema.isVisible
      groupAttributes := schema.groupAttributes.filter AttributeSchema.isVisible }
  else pure schema

def userFilters (filters : Option UserRequestFilter) : Option UserRequestFilter :=
  match filters, l.userFilter with
  | none, none => none
  | none, some u => some (.userId u)
  | some f, none => some f
  | some f, some u => some (.and [f, .userId u])

def groupFilters (filters : Option GroupRequestFilter) : Option GroupRequestFilter :=
  match filters, l.userFilter with
  | none, none => none
  | none, some u => some (.member u)
  | some f, none => some f
  | some f, some u => some (.and [f, .member u])

def listUsers (filters : Option UserRequestFilter) (getGroups : Bool) :
    Eff σ DomainError (List UserAndGroups) :=
  l.handler.listUsers (l.userFilters filters) getGroups

def listGroups (filters : Option GroupRequestFilter) : Eff σ DomainError (List Group) :=
  l.handler.listGroups (l.groupFilters filters)

end UserRestrictedLister

end Klldap
