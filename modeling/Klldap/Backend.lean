import Klldap.Opaque.Handler
import Klldap.Sql.User
import Klldap.World

/-!
# Klldap.Backend: the backend behind the protocol layers

The traits of `crates/domain-handlers` and `crates/opaque-handler` as records of computations on a
state. The GraphQL and LDAP layers are written against the record, for any state; `sqlServices` is
the instance of the server, which acts on the `World`.

The calls to the Kerberos and Keycloak libraries, which the layers make directly, are in the record
too, since they act on the same state.
-/

namespace Klldap

open Lib (Eff)
open Opaque (Suite)

/-- `BackendHandler` with all its supertraits. -/
structure BackendHandler (σ : Type) where
  getSchema : Eff σ DomainError Schema
  listUsers : Option UserRequestFilter → Bool → Eff σ DomainError (List UserAndGroups)
  listGroups : Option GroupRequestFilter → Eff σ DomainError (List Group)
  getGroupDetails : GroupId → Eff σ DomainError GroupDetails
  updateGroup : UpdateGroupRequest → Eff σ DomainError Unit
  createGroup : CreateGroupRequest → Eff σ DomainError GroupId
  deleteGroup : GroupId → Eff σ DomainError Unit
  getUserDetails : UserId → Eff σ DomainError User
  createUser : CreateUserRequest → Eff σ DomainError Unit
  updateUser : UpdateUserRequest → Eff σ DomainError Unit
  deleteUser : UserId → Eff σ DomainError Unit
  addUserToGroup : UserId → GroupId → Eff σ DomainError Unit
  removeUserFromGroup : UserId → GroupId → Eff σ DomainError Unit
  getUserGroups : UserId → Eff σ DomainError (List GroupDetails)
  addUserAttribute : CreateAttributeRequest → Eff σ DomainError Unit
  addGroupAttribute : CreateAttributeRequest → Eff σ DomainError Unit
  deleteUserAttribute : AttributeName → Eff σ DomainError Unit
  deleteGroupAttribute : AttributeName → Eff σ DomainError Unit
  addUserObjectClass : LdapObjectClass → Eff σ DomainError Unit
  addGroupObjectClass : LdapObjectClass → Eff σ DomainError Unit
  deleteUserObjectClass : LdapObjectClass → Eff σ DomainError Unit
  deleteGroupObjectClass : LdapObjectClass → Eff σ DomainError Unit
  getAllowedOus : Eff σ DomainError (List String)
  setSystemConfig : String → String → Eff σ DomainError Unit
  ensureKerberosPrincipalConsistency : UserId → Bool → Eff σ DomainError Unit
  getPosixSettings : Eff σ DomainError PosixSettings
  setPosixSettings : PosixSettings → Eff σ DomainError Unit
  reassignGidNumbers : Eff σ DomainError Unit
  reassignUserUidNumbers : Eff σ DomainError Unit
  reassignUserGidNumbers : Eff σ DomainError Unit
  reassignUserHomedirectories : Eff σ DomainError Unit
  reassignUserLoginshells : Eff σ DomainError Unit

/-- The backend with `LoginHandler`, `OpaqueHandler` and the two client libraries. -/
structure Services (S : Suite) (σ : Type) extends BackendHandler σ where
  bind : UserId → String → Eff σ DomainError Unit
  loginStart : Opaque.ClientLoginStartRequest S →
    Eff σ DomainError (Opaque.ServerLoginStartResponse S)
  loginFinish : Opaque.ClientLoginFinishRequest S → Eff σ DomainError UserId
  registrationStart : Opaque.ClientRegistrationStartRequest S →
    Eff σ DomainError (Opaque.ServerRegistrationStartResponse S)
  registrationFinish : Opaque.ClientRegistrationFinishRequest S → Eff σ DomainError Unit
  rng : S.Coins
  decryptPassword : String → Except String String
  syncKerberosPrincipal : String → String → Eff σ String Unit
  deleteKerberosPrincipal : String → Eff σ String Unit
  exportKeytabForKeycloak : String → Eff σ String String
  saveKeycloakConfig : KeycloakConfig → Eff σ String Unit
  testConnection : KeycloakConfig → Eff σ String String
  setupRealm : KeycloakRealm → Eff σ String String

def Services.syncKerberosIfEnabled {S : Suite} {σ : Type} (h : Services S σ) (syncEnabled : Bool)
    (userId plainPassword : String) : Eff σ String Unit :=
  if syncEnabled then h.syncKerberosPrincipal userId plainPassword else pure ()

/-! ## The server's backend -/

namespace Sql

variable [External] (out : Outside)

/-- `update_user`: the transaction, in which the principal is deleted from the KDC when
synchronisation is switched off. A failure to delete it is only logged. -/
def updateUser (request : UpdateUserRequest) : Backend Unit := do
  let kerbSyncEnabled ← onDb (Eff.transaction (updateUserWithTransaction out.now request))
  if kerbSyncEnabled = some false then
    let _ ← Eff.attempt (Kerberos.deleteKerberosPrincipal out request.userId.asStr)
  pure ()

def deleteUserAndPrincipal (userId : UserId) : Backend Unit := do
  let _ ← Eff.attempt (Kerberos.deleteKerberosPrincipal out userId.asStr)
  onDb (deleteUser userId)

def ensureKerberosPrincipalConsistency (userId : UserId) (enabled : Bool) : Backend Unit :=
  onDb (setKrbPrincipalName out.now userId
    (if enabled then some (Kerberos.getKerberosPrincipalName out userId.asStr) else none))

theorem updateUser_db (request : UpdateUserRequest) (w : World) :
    (updateUser out request w).2.db =
      ((updateUserWithTransaction out.now request).transaction w.db).2 := by
  unfold updateUser
  rw [Eff.bind_run, onDb, Eff.zoom]
  cases (updateUserWithTransaction out.now request).transaction w.db with
  | mk r db' =>
    cases r with
    | error e => rfl
    | ok kerb =>
      dsimp only
      split
      · exact Kerberos.deleteKerberosPrincipal_db out request.userId.asStr { w with db := db' }
      · rfl

end Sql

variable [External]

def sqlBackend (out : Outside) : BackendHandler World where
  getSchema := onDb (Eff.query Sql.getSchema)
  listUsers filters getGroups := onDb (Eff.query (Sql.listUsers filters getGroups))
  listGroups filters := onDb (Eff.query (Sql.listGroups filters))
  getGroupDetails g := onDb (Eff.query (Sql.getGroupDetails g))
  updateGroup request := onDb (Sql.updateGroup out.now request)
  createGroup request := onDb (Sql.createGroup out.now request)
  deleteGroup g := onDb (Sql.deleteGroup g)
  getUserDetails u := onDb (Eff.query (Sql.getUserDetails u))
  createUser request := onDb (Sql.createUser out.now request)
  updateUser := Sql.updateUser out
  deleteUser := Sql.deleteUserAndPrincipal out
  addUserToGroup u g := onDb (Sql.addUserToGroup out.now u g)
  removeUserFromGroup u g := onDb (Sql.removeUserFromGroup out.now u g)
  getUserGroups u := onDb (Eff.query (Sql.getUserGroups u))
  addUserAttribute request := onDb (Sql.addUserAttribute request)
  addGroupAttribute request := onDb (Sql.addGroupAttribute request)
  deleteUserAttribute name := onDb (Sql.deleteUserAttribute name)
  deleteGroupAttribute name := onDb (Sql.deleteGroupAttribute name)
  addUserObjectClass name := onDb (Sql.addUserObjectClass name)
  addGroupObjectClass name := onDb (Sql.addGroupObjectClass name)
  deleteUserObjectClass name := onDb (Sql.deleteUserObjectClass name)
  deleteGroupObjectClass name := onDb (Sql.deleteGroupObjectClass name)
  getAllowedOus := onDb (Eff.reads Sql.getAllowedOus)
  setSystemConfig key value := onDb (Sql.setSystemConfig key value)
  ensureKerberosPrincipalConsistency := Sql.ensureKerberosPrincipalConsistency out
  getPosixSettings := onDb (Eff.query Sql.getPosixSettings)
  setPosixSettings settings := onDb (Sql.setPosixSettings settings)
  reassignGidNumbers := onDb (Sql.reassignGidNumbers out.now)
  reassignUserUidNumbers := onDb (Sql.reassignUserUidNumbers out.now)
  reassignUserGidNumbers := onDb (Sql.reassignUserGidNumbers out.now)
  reassignUserHomedirectories := onDb (Sql.reassignUserHomedirectories out.now)
  reassignUserLoginshells := onDb (Sql.reassignUserLoginshells out.now)

def sqlServices (S : Suite) (setup : S.ServerSetup) (rng : S.Coins) (out : Outside) :
    Services S World where
  toBackendHandler := sqlBackend out
  bind name password := onDb (Opaque.bind S setup rng name password)
  loginStart request := onDb (Opaque.loginStart S setup rng request)
  loginFinish request := onDb (Opaque.loginFinish S setup request)
  registrationStart request := onDb (Opaque.registrationStart S setup rng request)
  registrationFinish request := onDb (Opaque.registrationFinish S setup out.now request)
  rng := rng
  decryptPassword := out.decryptPassword
  syncKerberosPrincipal := Kerberos.syncKerberosPrincipal out
  deleteKerberosPrincipal := Kerberos.deleteKerberosPrincipal out
  exportKeytabForKeycloak := Kerberos.exportKeytabForKeycloak out
  saveKeycloakConfig := Kerberos.saveKeycloakConfig out
  testConnection := Kerberos.testConnection out
  setupRealm := Kerberos.setupRealm out

end Klldap
