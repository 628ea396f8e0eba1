import Klldap.Ldap.Search

/-!
# Klldap.Ldap.Password: binding and changing passwords

`crates/ldap/src/password.rs`. A bind resolves the DN to a user id and checks the password. The
extended operation that changes a password asks access control for a readable view of the target
before it looks at the caller's rights, and takes it for granted that there is one.
-/

namespace Klldap
namespace Ldap

open Lib (Bytes Eff)
open Lib.Bincode (utf8)
open Lib.Text
open Opaque (Suite)

/-! ## Responses -/

def makeAddResponse (code : LdapResultCode) (message : String) : LdapOp :=
  .addResponse ⟨code, "", message⟩

def makeExtendedResponse (code : LdapResultCode) (message : String) : LdapOp :=
  .extendedResponse ⟨code, "", message⟩

def makeModifyResponse (code : LdapResultCode) (message : String) : LdapOp :=
  .modifyResponse ⟨code, "", message⟩

def makeDelResponse (code : LdapResultCode) (message : String) : LdapOp :=
  .delResponse ⟨code, "", message⟩

section

variable {σ α : Type}

def failWith (code : LdapResultCode) (message : String) : Eff σ Failure α :=
  Eff.fail (.ldap ⟨code, message⟩)

def orLdap (code : LdapResultCode) (message : DomainError → String) (m : Eff σ DomainError α) :
    Eff σ Failure α :=
  m.mapErr (Failure.ofDomain fun e => ⟨code, message e⟩)

def expectView (view : Option α) : Eff σ Failure α :=
  match view with
  | some h => pure h
  | none => Eff.fail (.panicked "Unexpected permission error")

end

section

variable {S : Suite} {σ : Type} (ldapInfo : LdapInfo) (h : Services S σ)

def bindUser (request : LdapBindRequest) : Eff σ Failure UserId :=
  if request.dn = "" then failWith .inappropriateAuthentication "Anonymous bind not allowed"
  else
    match getUserIdFromDistinguishedName (asciiLower request.dn) ldapInfo.baseDn
        ldapInfo.baseDnStr with
    | .error e => failWith .namingViolation e.message
    | .ok userId =>
      match request.cred with
      | .sasl => failWith .unwillingToPerform "SASL not supported"
      | .simple password => do
        orLdap .invalidCredentials (fun _ => "") (h.bind userId password)
        pure userId

/-- Why a password could not be changed: an error of the client library or of the backend. -/
inductive PasswordError where
  | client (e : String)
  | backend (e : DomainError)
deriving DecidableEq

def PasswordError.toFailure [Library] : PasswordError → Failure
  | .client e => .ldap ⟨.other, "Error while changing the password: " ++ Library.debugString e⟩
  | .backend e => Failure.ofDomain
    (fun e => ⟨.other, "Error while changing the password: " ++ Library.debugError e⟩) e

/-- The four messages of the OPAQUE registration, with the server playing the client too. -/
def changePassword (user : UserId) (password : Bytes) : Eff σ PasswordError Unit := do
  let (state, message) ← Eff.lift ((S.clientStartRegistration password h.rng).mapError .client)
  let start ← (h.registrationStart ⟨user, message⟩).mapErr .backend
  let upload ← Eff.lift ((S.clientFinishRegistration state password start.registrationResponse
    h.rng).mapError .client)
  (h.registrationFinish ⟨start.serverData, upload⟩).mapErr .backend

def syncEnabled (user : User) : Bool :=
  user.attributes.any fun a => a.name.asStr = "kerberossync" && a.value = .integer (.singleton 1)

variable [External] [Library]

def isUserAdmin (groups : List GroupDetails) : Bool :=
  groups.any fun g => g.displayName == ⟨"lldap_admin"⟩

def groupsError (e : DomainError) : String :=
  "Internal error while requesting user's groups: " ++ Library.debugError e

def cannotModifyPassword (credentials : ValidationResults) (uid : UserId) : String :=
  "User `" ++ credentials.user.asStr ++ "` cannot modify the password of user `" ++ uid.asStr ++ "`"

/-- Set the key of the principal of a user whose password was just changed. -/
def syncAfterModification (credentials : ValidationResults) (uid : UserId) (password : String) :
    Eff σ Failure Unit := do
  let readable ← expectView (getReadableHandler h credentials uid)
  let user ← orLdap .operationsError
    (fun e => "Failed to fetch user for Kerberos sync: " ++ e.display) (readable.getUserDetails uid)
  if syncEnabled user then do
    let _ ← Eff.attempt (h.syncKerberosPrincipal uid.asStr password)
    -- whatever this answers is dropped, a panic apart
    recover (h.ensureKerberosPrincipalConsistency uid true) ()
  else pure ()

def doPasswordModification (credentials : ValidationResults) (request : LdapPasswordModifyRequest) :
    Eff σ Failure (List LdapOp) :=
  match request.userIdentity, request.newPassword with
  | some user, some password =>
    match getUserIdFromDistinguishedName (asciiLower user) ldapInfo.baseDn ldapInfo.baseDnStr with
    | .error e => failWith .invalidDNSyntax ("Invalid username: " ++ e.message)
    | .ok uid => do
      let readable ← expectView (getReadableHandler h credentials uid)
      let groups ← orLdap .operationsError groupsError (readable.getUserGroups uid)
      if !credentials.canChangePassword uid (isUserAdmin groups) then
        failWith .insufficentAccessRights (cannotModifyPassword credentials uid)
      else do
        (changePassword h uid (utf8 password)).mapErr PasswordError.toFailure
        syncAfterModification h credentials uid password
        pure [makeExtendedResponse .success ""]
  | _, _ => failWith .constraintViolation "Missing either user_id or password"

end

end Ldap
end Klldap
