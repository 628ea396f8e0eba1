import Klldap.Filter

/-!
# Klldap.Ldap.Proto: messages of the LDAP protocol

The types of `ldap3_proto` that the server reads and writes, and the functions of other crates that
only the LDAP layer calls (`Library`). Fields that the server never looks at, such as the size limit
of a search, are left out; the lists of referrals are always empty and are left out too.
-/

namespace Klldap
namespace Ldap

open Lib (Bytes)

inductive LdapResultCode where
  | success | operationsError | protocolError | compareFalse | compareTrue | noSuchObject
  | invalidDNSyntax | inappropriateAuthentication | invalidCredentials | insufficentAccessRights
  | unwillingToPerform | namingViolation | constraintViolation | invalidAttributeSyntax | other
deriving DecidableEq

structure LdapError where
  code : LdapResultCode
  message : String
deriving DecidableEq

abbrev LdapResult (α : Type) := Except LdapError α

/-- How serving a message can fail. A panic ends the task of the connection. -/
inductive Failure where
  | ldap (e : LdapError)
  | panicked (msg : String)
deriving DecidableEq

/-! ## Requests -/

inductive LdapFilter where
  | and (fs : List LdapFilter)
  | or (fs : List LdapFilter)
  | not (f : LdapFilter)
  | equality (field value : String)
  | substring (field : String) (f : SubStringFilter)
  | greaterOrEqual (field value : String)
  | lessOrEqual (field value : String)
  | present (field : String)
  | approx (field value : String)
  | extensible (matchingRule field : Option String) (value : String) (dnAttributes : Bool)

inductive LdapSearchScope where
  | base | oneLevel | subtree | children
deriving DecidableEq

structure LdapSearchRequest where
  base : String
  scope : LdapSearchScope
  filter : LdapFilter
  attrs : List String

inductive LdapBindCred where
  | simple (password : String)
  | sasl

structure LdapBindRequest where
  dn : String
  cred : LdapBindCred

structure LdapPartialAttribute where
  atype : String
  vals : List Bytes
deriving DecidableEq

inductive LdapModifyType where
  | add | delete | replace
deriving DecidableEq

def LdapModifyType.debug : LdapModifyType → String
  | add => "Add"
  | delete => "Delete"
  | replace => "Replace"

structure LdapModify where
  operation : LdapModifyType
  modification : LdapPartialAttribute

structure LdapModifyRequest where
  dn : String
  changes : List LdapModify

structure LdapExtendedRequest where
  name : String
  value : Option Bytes

structure LdapPasswordModifyRequest where
  userIdentity : Option String
  newPassword : Option String

structure LdapAddRequest where
  dn : String
  attributes : List LdapPartialAttribute

structure LdapCompareRequest where
  dn : String
  atype : String
  val : Bytes

structure LdapSearchResultEntry where
  dn : String
  attributes : List LdapPartialAttribute
deriving DecidableEq

structure LdapResultOp where
  code : LdapResultCode
  matcheddn : String
  message : String
deriving DecidableEq

inductive LdapOp where
  | bindRequest (r : LdapBindRequest)
  | searchRequest (r : LdapSearchRequest)
  | unbindRequest
  | modifyRequest (r : LdapModifyRequest)
  | extendedRequest (r : LdapExtendedRequest)
  | addRequest (r : LdapAddRequest)
  | delRequest (dn : String)
  | compareRequest (r : LdapCompareRequest)
  | bindResponse (r : LdapResultOp)
  | searchResultEntry (e : LdapSearchResultEntry)
  | searchResultDone (r : LdapResultOp)
  | modifyResponse (r : LdapResultOp)
  | addResponse (r : LdapResultOp)
  | delResponse (r : LdapResultOp)
  | compareResult (r : LdapResultOp)
  | extendedResponse (r : LdapResultOp)
  /-- The operations that the server does not know, by their text. -/
  | otherOp (text : String)

def oidPasswordModify : String := "1.3.6.1.4.1.4203.1.11.1"

def oidWhoami : String := "1.3.6.1.4.1.4203.1.11.3"

/-- Library functions of the LDAP layer that the model does not compute: dates, UUIDs, the decoding
of the password modification and the debug texts, plain or pretty. The attributes of the subschema
entry are made of the built-in schema and the clock only. -/
class Library where
  toGeneralizedTime : DateTime → Bytes
  parseRfc3339 : String → Option DateTime
  parseUuid : String → Except String Uuid
  uuidV5 : String → String
  parsePasswordModify : LdapExtendedRequest → Except String LdapPasswordModifyRequest
  subschemaAttributes : String → List LdapPartialAttribute
  realmName : String → String
  packageVersion : String
  debugString : String → String
  /-- The error of reading these bytes as UTF-8. -/
  debugUtf8Error : Bytes → String
  debugError : DomainError → String
  debugFilter : LdapFilter → String
  debugOp : LdapOp → String

end Ldap

namespace Plain

open Ldap

/-- Library functions that do next to nothing: no date, UUID or password modification is read. -/
scoped instance library : Library where
  toGeneralizedTime _ := []
  parseRfc3339 _ := none
  parseUuid _ := .error "invalid"
  uuidV5 dn := dn
  parsePasswordModify _ := .error "invalid"
  subschemaAttributes _ := []
  realmName base := base
  packageVersion := "0"
  debugString s := s
  debugUtf8Error _ := ""
  debugError _ := ""
  debugFilter _ := ""
  debugOp _ := ""

end Plain

end Klldap
