import Klldap.Lib.Table
import Klldap.Types

/-!
# Klldap.Store: the database

One row type per entity of `crates/domain-model` and the database as a record of keyed tables,
each under the primary key its entity declares. Reading a row goes through `Table.find?`;
`DELETE` of a user or a group cascades to the rows that refer to it, as the foreign keys say.
-/

namespace Klldap

open Lib (Bytes Table)

/-! ## Rows -/

structure UserRow where
  userId : UserId
  email : Email
  lowercaseEmail : String
  displayName : Option String
  creationDate : DateTime
  passwordHash : Option Bytes
  uuid : Uuid
  modifiedDate : DateTime
  passwordModifiedDate : DateTime
  krbPrincipalName : Option String
deriving DecidableEq

structure GroupRow where
  groupId : GroupId
  displayName : GroupName
  lowercaseDisplayName : String
  creationDate : DateTime
  uuid : Uuid
  modifiedDate : DateTime
deriving DecidableEq

structure UserAttributeRow where
  userId : UserId
  attributeName : AttributeName
  value : Bytes
deriving DecidableEq

structure GroupAttributeRow where
  groupId : GroupId
  attributeName : AttributeName
  value : Bytes
deriving DecidableEq

structure MembershipRow where
  userId : UserId
  groupId : GroupId
deriving DecidableEq

/-- A row of `user_attribute_schema` or `group_attribute_schema`; `aliases` is a JSON text. -/
structure AttributeSchemaRow where
  attributeName : AttributeName
  attributeType : AttributeType
  isList : Bool
  isVisible : Bool
  isEditable : Bool
  isHardcoded : Bool
  isReadonly : Bool
  aliases : String
deriving DecidableEq

structure ObjectClassRow where
  lowerObjectClass : String
  objectClass : LdapObjectClass
deriving DecidableEq

structure SystemConfigRow where
  key : String
  value : String
deriving DecidableEq

structure JwtStorageRow where
  jwtHash : Int
  userId : UserId
  expiryDate : DateTime
  blacklisted : Bool
deriving DecidableEq

structure JwtRefreshStorageRow where
  refreshTokenHash : Int
  userId : UserId
  expiryDate : DateTime
deriving DecidableEq

structure PasswordResetTokenRow where
  token : String
  userId : UserId
  expiryDate : DateTime
deriving DecidableEq

/-- The tables of the database, under their primary keys, and the counter of the group ids. -/
structure Store where
  users : Table UserRow UserId UserRow.userId
  groups : Table GroupRow GroupId GroupRow.groupId
  groupSequence : Int
  userAttributes :
    Table UserAttributeRow (UserId × AttributeName) fun r => (r.userId, r.attributeName)
  groupAttributes :
    Table GroupAttributeRow (GroupId × AttributeName) fun r => (r.groupId, r.attributeName)
  memberships : Table MembershipRow (UserId × GroupId) fun r => (r.userId, r.groupId)
  userAttributeSchema : Table AttributeSchemaRow AttributeName AttributeSchemaRow.attributeName
  groupAttributeSchema : Table AttributeSchemaRow AttributeName AttributeSchemaRow.attributeName
  userObjectClasses : Table ObjectClassRow String ObjectClassRow.lowerObjectClass
  groupObjectClasses : Table ObjectClassRow String ObjectClassRow.lowerObjectClass
  systemConfig : Table SystemConfigRow String SystemConfigRow.key
  jwtStorage : Table JwtStorageRow Int JwtStorageRow.jwtHash
  jwtRefreshStorage : Table JwtRefreshStorageRow Int JwtRefreshStorageRow.refreshTokenHash
  passwordResetTokens : Table PasswordResetTokenRow String PasswordResetTokenRow.token
deriving DecidableEq

namespace Store

def empty : Store :=
  ⟨.empty, .empty, 0, .empty, .empty, .empty, .empty, .empty, .empty, .empty, .empty, .empty,
    .empty, .empty⟩

def isMember (db : Store) (u : UserId) (g : GroupId) : Bool :=
  (db.memberships.find? (u, g)).isSome

def groupsOf (db : Store) (u : UserId) : List GroupRow :=
  db.groups.rows.filter fun g => db.isMember u g.groupId

/-- `DELETE` of a user row. The rows that refer to the user go with it. -/
def deleteUser (u : UserId) (db : Store) : Store :=
  { db with
    users := db.users.delete fun r => r.userId = u
    userAttributes := db.userAttributes.delete fun r => r.userId = u
    memberships := db.memberships.delete fun r => r.userId = u
    jwtStorage := db.jwtStorage.delete fun r => r.userId = u
    jwtRefreshStorage := db.jwtRefreshStorage.delete fun r => r.userId = u
    passwordResetTokens := db.passwordResetTokens.delete fun r => r.userId = u }

def deleteGroup (g : GroupId) (db : Store) : Store :=
  { db with
    groups := db.groups.delete fun r => r.groupId = g
    groupAttributes := db.groupAttributes.delete fun r => r.groupId = g
    memberships := db.memberships.delete fun r => r.groupId = g }

end Store

end Klldap
