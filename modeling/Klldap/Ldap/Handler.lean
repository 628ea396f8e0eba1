import Klldap.Ldap.Write

/-!
# Klldap.Ldap.Handler: the session of a connection

`crates/ldap/src/compare.rs` and `handler.rs`. A connection keeps who is bound to it. Every message
is answered from that and from the backend; only a bind and an unbind change it. A panic ends the
task of the connection and no answer is sent.
-/

namespace Klldap
namespace Ldap

open Lib (Bytes Eff)
open Lib.Text
open Opaque (Suite)

/-! ## Comparing -/

def compare (request : LdapCompareRequest) (searchResults : List LdapOp) (baseDn : String) :
    List LdapOp :=
  let entries := searchResults.filterMap fun op =>
    match op with
    | .searchResultEntry e => some e
    | _ => none
  match entries.find? fun e => eqIgnoreAsciiCase e.dn request.dn with
  | some entry =>
    let attributeExists := entry.attributes.any fun a =>
      AttributeName.new a.atype = AttributeName.new request.atype && a.vals.contains request.val
    [.compareResult ⟨if attributeExists then .compareTrue else .compareFalse, request.dn, ""⟩]
  | none => [.compareResult ⟨.noSuchObject, baseDn, ""⟩]

def makeSearchRequest (base : String) (filter : LdapFilter) (attrs : List String) :
    LdapSearchRequest :=
  ⟨base, .subtree, filter, attrs⟩

/-! ## Requests of a session -/

section

variable [External] [Library] {S : Suite} {σ : Type} (h : Services S σ) (ldapInfo : LdapInfo)
  (userInfo : Option ValidationResults)

/-- `unwrap_or_else` on the answer of a request: an error becomes a response. -/
def respond (response : LdapResultCode → String → LdapOp) (m : Eff σ Failure (List LdapOp)) :
    Eff σ String (List LdapOp) := do
  match ← Eff.attempt m with
  | .ok ops => pure ops
  | .error (.ldap e) => pure [response e.code e.message]
  | .error (.panicked msg) => Eff.fail msg

def noUserBound : LdapOp := makeExtendedResponse .insufficentAccessRights "No user currently bound"

/-- The stored organizational unit of a user is the one that the DN of the request spells. -/
def ouVerified (dn : String) (user : User) : Bool :=
  let providedOu :=
    match parseDistinguishedName (asciiLower dn) with
    | .ok parts => getInternalOuFromDnParts parts
    | .error _ => ""
  eqIgnoreAsciiCase providedOu (getUserOu user)

/-- Who a successful bind leaves bound. A failure to read the permissions leaves nobody bound and is
still a success. -/
def authenticate (request : LdapBindRequest) : Eff σ Failure (Option ValidationResults) := do
  let userId ← bindUser ldapInfo h request
  let user ← orLdap .invalidCredentials (fun _ => "") (h.getUserDetails userId)
  if ouVerified request.dn user then
    recover (some <$> getPermissionsForUser h userId) none
  else failWith .invalidCredentials ""

/-- The answer to a bind and who is bound afterwards: after an error, whoever was before. -/
def doBind (request : LdapBindRequest) : Eff σ String (LdapOp × Option ValidationResults) := do
  match ← Eff.attempt (authenticate h ldapInfo request) with
  | .ok bound => pure (.bindResponse ⟨.success, "", ""⟩, bound)
  | .error (.ldap e) => pure (.bindResponse ⟨e.code, "", e.message⟩, userInfo)
  | .error (.panicked msg) => Eff.fail msg

def whoami (v : ValidationResults) : Eff σ Failure (List LdapOp) := do
  let users ← do
    match ← Eff.attempt (getUserList ldapInfo PublicSchema.get h.listUsers
        (.equality "uid" v.user.asStr) false ldapInfo.baseDnStr) with
    | .ok users => pure users
    | .error (.panicked msg) => Eff.fail (.panicked msg)
    | .error (.ldap _) => pure []
  let userOu := (users.head?.map fun u => getUserOu u.user).getD defaultPrimaryUserOu
  pure [makeExtendedResponse .success ("dn:" ++ buildUserDn v.user userOu ldapInfo.baseDnStr)]

def doExtendedRequest (request : LdapExtendedRequest) : Eff σ String (List LdapOp) :=
  if request.name = oidPasswordModify then
    match Library.parsePasswordModify request with
    | .error e => pure [makeExtendedResponse .protocolError
      ("Error while parsing password modify request: " ++ e)]
    | .ok passwordRequest =>
      match userInfo with
      | none => pure [noUserBound]
      | some v =>
        respond makeExtendedResponse (doPasswordModification ldapInfo h v passwordRequest)
  else if request.name = oidWhoami then
    match userInfo with
    | none => pure [noUserBound]
    | some v => respond makeExtendedResponse (whoami h ldapInfo v)
  else pure [makeExtendedResponse .unwillingToPerform
    ("Unsupported extended operation: " ++ request.name)]

def doModifyRequest (request : LdapModifyRequest) : Eff σ String (List LdapOp) :=
  match userInfo with
  | none => pure [noUserBound]
  | some v => respond makeModifyResponse (handleModifyRequest h ldapInfo v request)

/-- The administrator's view of the backend, for the writes that only an administrator may do. -/
def adminView : Eff σ Failure (Services S σ) :=
  orRefused "Unauthorized write" (userInfo.bind (getAdminHandler h))

def doAdd (request : LdapAddRequest) : Eff σ Failure (List LdapOp) := do
  let handler ← adminView h userInfo
  createUserOrGroup handler ldapInfo request

def doDelete (request : String) : Eff σ Failure (List LdapOp) := do
  let handler ← adminView h userInfo
  deleteUserOrGroup handler ldapInfo request

def doCompare (request : LdapCompareRequest) : Eff σ Failure (List LdapOp) := do
  let results ← doBoundSearch h ldapInfo userInfo
    (makeSearchRequest ldapInfo.baseDnStr (.equality "dn" request.dn) [request.atype])
  pure (compare request results ldapInfo.baseDnStr)

/-- The answer to a message, none if the connection is to be closed, and who is bound afterwards. -/
def handleLdapMessage (op : LdapOp) :
    Eff σ String (Option (List LdapOp) × Option ValidationResults) :=
  match op with
  | .bindRequest request => do
    let (response, bound) ← doBind h ldapInfo userInfo request
    pure (some [response], bound)
  | .searchRequest request =>
    answer (respond makeSearchError (doSearchOrDse h ldapInfo userInfo request))
  | .unbindRequest => pure (none, none)
  | .modifyRequest request => answer (doModifyRequest h ldapInfo userInfo request)
  | .extendedRequest request => answer (doExtendedRequest h ldapInfo userInfo request)
  | .addRequest request => answer (respond makeAddResponse (doAdd h ldapInfo userInfo request))
  | .delRequest request => answer (respond makeDelResponse (doDelete h ldapInfo userInfo request))
  | .compareRequest request =>
    answer (respond makeSearchError (doCompare h ldapInfo userInfo request))
  | op => answer (pure [makeExtendedResponse .unwillingToPerform
    ("Unsupported operation: " ++ Library.debugOp op)])
where
  answer (m : Eff σ String (List LdapOp)) :
      Eff σ String (Option (List LdapOp) × Option ValidationResults) := do
    let ops ← m
    pure (some ops, userInfo)

end

end Ldap
end Klldap
