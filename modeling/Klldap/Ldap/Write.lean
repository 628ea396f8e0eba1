import Klldap.Ldap.Password

/-!
# Klldap.Ldap.Write: adding, modifying and deleting entries

`crates/ldap/src/create.rs`, `modify.rs` and `delete.rs`. The attributes of a new user are put in a
map under their names in lower case. A modification is applied change by change, each through its
own call of the backend.
-/

namespace Klldap
namespace Ldap

open Lib (Bytes Eff)
open Lib.Bincode (utf8 ofUtf8?)
open Lib.Text
open Opaque (Suite)

/-! ## Typed values -/

section

variable [External] [Library]

/-- An attribute of a request; `what` names it in the error. -/
def typedAttribute (name what : String) (typ : AttributeType) (isList : Bool)
    (value : List String) : LdapResult Attribute :=
  match deserializeAttributeValue value typ isList with
  | .ok v => .ok ⟨.new name, v⟩
  | .error e => .error ⟨.constraintViolation, "Invalid " ++ what ++ " value: " ++ e⟩

theorem typedAttribute_name {name what : String} {typ : AttributeType} {isList : Bool}
    {vals : List String} {a : Attribute}
    (h : typedAttribute name what typ isList vals = .ok a) : a.name = .new name := by
  unfold typedAttribute at h
  split at h
  · rw [← Except.ok.inj h]
  · cases h

end

/-! ## Adding -/

section

def parseAttribute (attr : LdapPartialAttribute) : LdapResult (String × Bytes) :=
  match attr.vals with
  | [] => .error ⟨.constraintViolation, "Missing value for attribute " ++ asciiLower attr.atype⟩
  | [val] => .ok (asciiLower attr.atype, val)
  | _ => .error ⟨.constraintViolation, "Expected a single value for attribute " ++ attr.atype⟩

/-- The value under a key of a map that is built by inserting in this order. -/
def lookup (attributes : List (String × Bytes)) (name : String) : Option Bytes :=
  (attributes.reverse.find? fun a => a.1 = name).map Prod.snd

variable [External] [Library]

def getAttribute (attributes : List (String × Bytes)) (name : String) :
    LdapResult (Option String) :=
  match lookup attributes name with
  | none => .ok none
  | some bytes =>
    match ofUtf8? bytes with
    | some text => .ok (some text)
    | none => .error ⟨.constraintViolation,
      "Attribute value is invalid UTF-8: " ++ Library.debugUtf8Error bytes⟩

def getEither (attributes : List (String × Bytes)) (name other : String) :
    LdapResult (Option String) :=
  if (lookup attributes name).isSome then getAttribute attributes name
  else getAttribute attributes other

def optionalAttribute (name what : String) (typ : AttributeType) (text : Option String) :
    LdapResult (List Attribute) :=
  match text with
  | none => .ok []
  | some text => (typedAttribute name what typ false [text]).map fun a => [a]

/-- Whether the Kerberos principal of a new user is kept, from the text of the attribute. -/
def kerberossyncAttribute : Option String → LdapResult Attribute
  | some text => typedAttribute "kerberossync" "kerberossync" .integer false [text]
  | none => typedAttribute "kerberossync" "default kerberossync" .integer false ["0"]

def createUserRequest (userId : UserId) (attributes : List (String × Bytes)) (internalOu : String) :
    LdapResult CreateUserRequest := do
  let firstName ← getAttribute attributes "givenname"
  let first ← optionalAttribute "first_name" "first_name" .string firstName
  let lastName ← getAttribute attributes "sn"
  let last ← optionalAttribute "last_name" "last_name" .string lastName
  let avatarText ← getEither attributes "avatar" "jpegphoto"
  let avatar ← optionalAttribute "avatar" "avatar" .avatar avatarText
  let ou ← typedAttribute "ou" "ou" .string false [internalOu]
  let ksync ← getAttribute attributes "kerberossync"
  let kerberossync ← kerberossyncAttribute ksync
  let email ← getEither attributes "mail" "email"
  let displayName ← getAttribute attributes "cn"
  .ok {
    userId := userId
    email := ⟨email.getD ""⟩
    displayName := displayName
    attributes := first ++ last ++ avatar ++ [ou, kerberossync] }

/-- The attributes of an `Add`, as the map that the source builds of them. -/
def addedAttributes (attributes : List LdapPartialAttribute) (internalOu : String) :
    LdapResult (List (String × Bytes)) := do
  let given ← (attributes.filter fun a => !eqIgnoreAsciiCase a.atype "objectclass").mapM
    parseAttribute
  let withSync :=
    if given.any fun a => a.1 = "kerberossync" then given
    else given ++ [("kerberossync", utf8 "0")]
  .ok (withSync ++ [("ou", utf8 internalOu)])

variable {S : Suite} {σ : Type} (h : Services S σ)

/-- The password of a new user whose Kerberos synchronisation is on, if it is given as a text. -/
def newPrincipalPassword (attributes : List (String × Bytes)) : Option String :=
  if (lookup attributes "kerberossync").bind ofUtf8? = some "1" then
    -- the second name is never found, since the keys are in lower case
    ((lookup attributes "userpassword").or (lookup attributes "userPassword")).bind ofUtf8?
  else none

def createUser (userId : UserId) (attributes : List LdapPartialAttribute) (internalOu : String) :
    Eff σ Failure (List LdapOp) := do
  let attributes ← liftLdap (addedAttributes attributes internalOu)
  let request ← liftLdap (createUserRequest userId attributes internalOu)
  orLdap .operationsError (fun e => "Could not create user: " ++ Library.debugError e)
    (h.createUser request)
  match newPrincipalPassword attributes with
  | none => pure ()
  | some plain => do
    let _ ← Eff.attempt (h.syncKerberosPrincipal userId.asStr plain)
    pure ()
  pure [makeAddResponse .success ""]

def createGroup (groupName : GroupName) (internalOu : String) : Eff σ Failure (List LdapOp) := do
  let ou ← liftLdap (typedAttribute "ou" "ou" .string false [internalOu])
  let _ ← orLdap .operationsError (fun e => "Could not create group: " ++ Library.debugError e)
    (h.createGroup ⟨groupName, [ou]⟩)
  pure [makeAddResponse .success ""]

def expectedUserOrGroup (ldapInfo : LdapInfo) : String :=
  quoted ("uid=id,ou=people," ++ ldapInfo.baseDnStr) ++ " or " ++
    quoted ("cn=id,ou=groups," ++ ldapInfo.baseDnStr)

def createUserOrGroup (ldapInfo : LdapInfo) (request : LdapAddRequest) :
    Eff σ Failure (List LdapOp) := do
  let dnParts ← liftLdap (parseDistinguishedName request.dn)
  let internalOu := getInternalOuFromDnParts dnParts
  match getUserOrGroupIdFromDistinguishedName request.dn ldapInfo.baseDn with
  | .user userId => createUser h userId request.attributes internalOu
  | .group groupName => createGroup h groupName internalOu
  | err => liftLdap (.error (err.intoLdapError request.dn (expectedUserOrGroup ldapInfo)))

end

/-! ## Modifying -/

section

def textsOf (vals : List Bytes) : List String := vals.filterMap ofUtf8?

def noUpdate (userId : UserId) : UpdateUserRequest := ⟨userId, none, none, [], []⟩

variable [External] [Library]

/-- What setting an attribute amounts to, for the attributes that `Add` and `Replace` treat alike. -/
def setAttribute (userId : UserId) (atypeLower : String) (vals : List String) :
    Option (LdapResult UpdateUserRequest) :=
  if ["givenname", "given_name"].contains atypeLower then
    some ((typedAttribute "first_name" "first_name" .string false vals).map fun a =>
      { noUpdate userId with insertAttributes := [a] })
  else if ["sn", "surname"].contains atypeLower then
    some ((typedAttribute "last_name" "last_name" .string false vals).map fun a =>
      { noUpdate userId with insertAttributes := [a] })
  else if ["cn", "commonname", "displayname"].contains atypeLower then
    some (.ok { noUpdate userId with displayName := vals.head? })
  else if ["mail", "email"].contains atypeLower then
    some (.ok { noUpdate userId with email := vals.head?.map Email.mk })
  else if ["avatar", "jpegphoto", "jpeg_photo"].contains atypeLower then
    some ((typedAttribute "avatar" "avatar" .avatar false vals).map fun a =>
      { noUpdate userId with insertAttributes := [a] })
  else none

def isSshPublicKey (atypeLower : String) : Bool :=
  ["sshpublickey", "ssh_public_key"].contains atypeLower

def setKeys (userId : UserId) (keys : List String) : LdapResult UpdateUserRequest :=
  (typedAttribute "sshpublickey" "sshPublicKey" .string true keys).map fun a =>
    { noUpdate userId with insertAttributes := [a] }

def noValues (atype : String) : LdapError :=
  ⟨.invalidAttributeSyntax, "No values provided for " ++ atype⟩

def replaceUpdate (userId : UserId) (atype : String) (vals : List String) :
    LdapResult UpdateUserRequest :=
  let atypeLower := asciiLower atype
  if vals.isEmpty then .error (noValues atype)
  else
    match setAttribute userId atypeLower vals with
    | some update => update
    | none =>
      if isSshPublicKey atypeLower then setKeys userId vals
      else if atypeLower = "ou" then
        .error ⟨.unwillingToPerform,
          "Direct modification of 'ou' via LDAP Modify is not supported."⟩
      else
        .error ⟨.unwillingToPerform, "Unsupported attribute for LDAP Modify: " ++ atype ++
          " (supported: givenName, sn, cn, mail, avatar, sshPublicKey, userPassword)"⟩

def keysOf (user : User) : List String :=
  match user.attributes.find? fun a => a.name.asStr = "sshpublickey" with
  | some ⟨_, .string (.unbounded keys)⟩ => keys
  | some ⟨_, .string (.singleton key)⟩ => [key]
  | _ => []

def addMissing (existing values : List String) : List String :=
  values.foldl (fun keys v => if keys.contains v then keys else keys ++ [v]) existing

variable {S : Suite} {σ : Type} (h readable writeable : Services S σ)

def currentUser (userId : UserId) : Eff σ Failure User :=
  orLdap .operationsError (fun e => "Failed to read current user: " ++ e.display)
    (readable.getUserDetails userId)

def addUpdate (userId : UserId) (atype : String) (vals : List String) :
    Eff σ Failure UpdateUserRequest :=
  let atypeLower := asciiLower atype
  if vals.isEmpty then liftLdap (.error (noValues atype))
  else if isSshPublicKey atypeLower then do
    let user ← currentUser readable userId
    liftLdap (setKeys userId (addMissing (keysOf user) vals))
  else
    match setAttribute userId atypeLower vals with
    | some update => liftLdap update
    | none => failWith .unwillingToPerform ("Add not supported for " ++ atype)

def deleteKeys (userId : UserId) : UpdateUserRequest :=
  { noUpdate userId with deleteAttributes := [.new "sshpublickey"] }

def deleteUpdate (userId : UserId) (atype : String) (vals : List String) :
    Eff σ Failure UpdateUserRequest :=
  let atypeLower := asciiLower atype
  if isSshPublicKey atypeLower then
    if vals.isEmpty then pure (deleteKeys userId)
    else do
      let user ← currentUser readable userId
      let remaining := (keysOf user).filter fun key => !vals.contains key
      if remaining.isEmpty then pure (deleteKeys userId) else liftLdap (setKeys userId remaining)
  else if ["givenname", "given_name"].contains atypeLower then
    pure { noUpdate userId with deleteAttributes := [.new "first_name"] }
  else if ["sn", "surname"].contains atypeLower then
    pure { noUpdate userId with deleteAttributes := [.new "last_name"] }
  else if ["avatar", "jpegphoto", "jpeg_photo"].contains atypeLower then
    pure { noUpdate userId with deleteAttributes := [.new "avatar"] }
  else failWith .unwillingToPerform ("Deletion not supported for " ++ atype)

def isProtectedName (atypeLower : String) : Bool :=
  ["mail", "email", "cn", "displayname", "commonname"].contains atypeLower

/-- The update of the user that a change of another attribute than the password amounts to. -/
def profileUpdate (userId : UserId) (change : LdapModify) : Eff σ Failure UpdateUserRequest :=
  let atype := change.modification.atype
  let vals := textsOf change.modification.vals
  if change.operation = .delete && isProtectedName (asciiLower atype) then
    failWith .insufficentAccessRights ("Deletion of `" ++ atype ++
      "` is not allowed via LDAP Modify (use GraphQL or protected path)")
  else
    match change.operation with
    | .replace => liftLdap (replaceUpdate userId atype vals)
    | .add => addUpdate readable userId atype vals
    | .delete => deleteUpdate readable userId atype vals

/-- Set the key of the principal of a user whose password was just replaced. -/
def syncAfterReplace (userId : UserId) (value : Bytes) : Eff σ Failure Unit :=
  match ofUtf8? value with
  | none => pure ()
  | some plainPass => do
    match ← Eff.attempt (readable.getUserDetails userId) with
    | .error (.panicked msg) => Eff.fail (.panicked msg)
    | .error _ => pure ()
    | .ok user => do
      let _ ← Eff.attempt (h.syncKerberosIfEnabled (syncEnabled user) userId.asStr plainPass)
      pure ()

def modifyPassword (userId : UserId) (credentials : ValidationResults) (userIsAdmin : Bool)
    (change : LdapModify) : Eff σ Failure Unit :=
  if change.operation ≠ .replace then
    failWith .unwillingToPerform ("Unsupported operation: `" ++ change.operation.debug ++
      "` for `" ++ change.modification.atype ++ "`")
  else if !credentials.canChangePassword userId userIsAdmin then
    failWith .insufficentAccessRights (cannotModifyPassword credentials userId)
  else
    match change.modification.vals with
    | [value] => do
      (changePassword h userId value).mapErr PasswordError.toFailure
      syncAfterReplace h readable userId value
    | vals => failWith .invalidAttributeSyntax
      ("Wrong number of values for password attribute: " ++ toString vals.length)

def modifyProfile (userId : UserId) (credentials : ValidationResults) (userIsAdmin : Bool)
    (change : LdapModify) : Eff σ Failure Unit :=
  if !credentials.canChangePassword userId userIsAdmin then
    failWith .insufficentAccessRights ("User `" ++ credentials.user.asStr ++
      "` cannot modify attributes of user `" ++ userId.asStr ++ "`")
  else do
    let update ← profileUpdate readable userId change
    orLdap .operationsError
      (fun e => "Error while updating user via LDAP Modify: " ++ Library.debugError e)
      (writeable.updateUser update)

def isPasswordChange (change : LdapModify) : Bool :=
  asciiLower change.modification.atype = "userpassword"

def handleModifyChange (userId : UserId) (credentials : ValidationResults) (userIsAdmin : Bool)
    (change : LdapModify) : Eff σ Failure Unit :=
  if isPasswordChange change then modifyPassword h readable userId credentials userIsAdmin change
  else modifyProfile readable writeable userId credentials userIsAdmin change

def orRefused {α : Type} (message : String) (view : Option α) : Eff σ Failure α :=
  match view with
  | some h => pure h
  | none => failWith .insufficentAccessRights message

def modifyStep (uid : UserId) (credentials : ValidationResults) (change : LdapModify) :
    Eff σ Failure Unit := do
  let cannot := "User `" ++ credentials.user.asStr ++ "` cannot modify user `" ++ uid.asStr ++ "`"
  let readable ← orRefused cannot (getReadableHandler h credentials uid)
  let writeable ← orRefused (cannot ++ " (no write permission)")
    (getWriteableHandler h credentials uid)
  let groups ← orLdap .operationsError groupsError (readable.getUserGroups uid)
  handleModifyChange h readable writeable uid credentials (isUserAdmin groups) change

def handleModifyRequest (ldapInfo : LdapInfo) (credentials : ValidationResults)
    (request : LdapModifyRequest) : Eff σ Failure (List LdapOp) :=
  match getUserIdFromDistinguishedName request.dn ldapInfo.baseDn ldapInfo.baseDnStr with
  | .error e => failWith .invalidDNSyntax ("Invalid username: " ++ e.message)
  | .ok uid => do
    Eff.each (modifyStep h uid credentials) request.changes
    pure [makeModifyResponse .success ""]

end

section

variable [External] [Library] {S : Suite} {σ : Type} (h : Services S σ)

def findingUser : DomainError → LdapError
  | .entityNotFound _ => ⟨.noSuchObject, "Could not find user"⟩
  | e => ⟨.operationsError, "Error while finding user: " ++ Library.debugError e⟩

def deleteUser (userId : UserId) : Eff σ Failure (List LdapOp) := do
  let _ ← (h.getUserDetails userId).mapErr (Failure.ofDomain findingUser)
  orLdap .operationsError (fun e => "Error while deleting user: " ++ Library.debugError e)
    (h.deleteUser userId)
  let _ ← Eff.attempt (h.deleteKerberosPrincipal userId.asStr)
  pure [makeDelResponse .success ""]

def deleteGroup (groupName : GroupName) : Eff σ Failure (List LdapOp) := do
  let groups ← orLdap .operationsError
    (fun e => "Error while finding group: " ++ Library.debugError e)
    (h.listGroups (some (.displayName groupName)))
  match groups.find? fun g => g.displayName == groupName with
  | none => failWith .noSuchObject "Could not find group"
  | some g => do
    orLdap .operationsError (fun e => "Error while deleting group: " ++ Library.debugError e)
      (h.deleteGroup g.id)
    pure [makeDelResponse .success ""]

def deleteUserOrGroup (ldapInfo : LdapInfo) (request : String) : Eff σ Failure (List LdapOp) :=
  match getUserOrGroupIdFromDistinguishedName request ldapInfo.baseDn with
  | .user userId => deleteUser h userId
  | .group groupName => deleteGroup h groupName
  | err => liftLdap (.error (err.intoLdapError request (expectedUserOrGroup ldapInfo)))

end

end Ldap
end Klldap
