import Klldap.Types

/-!
# Klldap.Filter: the filters that the backend understands

The filter trees of `crates/domain-handlers`, to which the LDAP and GraphQL layers translate their
own, and the substring pattern.
-/

namespace Klldap

open Lib.Text

structure SubStringFilter where
  initial : Option String
  any : List String
  final : Option String
deriving DecidableEq

def SubStringFilter.toSqlFilter (f : SubStringFilter) : String :=
  (f.initial.elim "" asciiLower ++ "%") ++
    (f.any.foldl (fun pattern part => pattern ++ (asciiLower part ++ "%")) "" ++
      f.final.elim "" asciiLower)

inductive UserColumn where
  | userId | email | lowercaseEmail | displayName | creationDate | passwordHash | totpSecret
  | mfaType | uuid | modifiedDate | passwordModifiedDate | krbPrincipalName
deriving DecidableEq

inductive UserRequestFilter where
  | true
  | false
  | and (fs : List UserRequestFilter)
  | or (fs : List UserRequestFilter)
  | not (f : UserRequestFilter)
  | userId (u : UserId)
  | userIdSubString (f : SubStringFilter)
  | equality (column : UserColumn) (value : String)
  | attributeEquality (name : AttributeName) (value : AttributeValue)
  | subString (column : UserColumn) (f : SubStringFilter)
  | memberOf (group : GroupName)
  | memberOfId (group : GroupId)
  | customAttributePresent (name : AttributeName)
  | greaterOrEqual (column : UserColumn) (value : String)
  | lessOrEqual (column : UserColumn) (value : String)
  | attributeGreaterOrEqual (name : AttributeName) (value : String)
  | attributeLessOrEqual (name : AttributeName) (value : String)
  | attributeSubString (name : AttributeName) (f : SubStringFilter)

inductive GroupRequestFilter where
  | true
  | false
  | and (fs : List GroupRequestFilter)
  | or (fs : List GroupRequestFilter)
  | not (f : GroupRequestFilter)
  | displayName (name : GroupName)
  | displayNameSubString (f : SubStringFilter)
  | uuid (uuid : Uuid)
  | groupId (id : GroupId)
  | member (user : UserId)
  | attributeEquality (name : AttributeName) (value : AttributeValue)
  | customAttributePresent (name : AttributeName)
  | greaterOrEqual (column value : String)
  | lessOrEqual (column value : String)
  | attributeGreaterOrEqual (name : AttributeName) (value : String)
  | attributeLessOrEqual (name : AttributeName) (value : String)
  | attributeSubString (name : AttributeName) (f : SubStringFilter)

def GroupRequestFilter.ofBool (b : Bool) : GroupRequestFilter := if b then .true else .false

end Klldap
