import Klldap.Sql.Group

/-!
# Klldap.Sql.User: users in the database

The user part of `sql_user_backend_handler.rs`. An update computes the attribute rows to write and
the names to remove, checks the numbers among them, and writes the user row, the removals and the
insertions in one transaction. What it does to the Kerberos KDC is left to the caller, who is told
whether synchronisation was switched.
-/

namespace Klldap

open Lib (Bytes Eff)
open Lib.Bincode (ofUtf8?)
open Lib.Text

structure CreateUserRequest where
  userId : UserId
  email : Email
  displayName : Option String
  attributes : List Attribute

structure UpdateUserRequest where
  userId : UserId
  email : Option Email
  displayName : Option String
  deleteAttributes : List AttributeName
  insertAttributes : List Attribute

def UserRow.toUser (r : UserRow) : User where
  userId := r.userId
  email := r.email
  displayName := r.displayName
  creationDate := r.creationDate
  uuid := r.uuid
  attributes := []
  modifiedDate := r.modifiedDate
  passwordModifiedDate := r.passwordModifiedDate
  krbPrincipalName := r.krbPrincipalName

def User.materializeProtectedFields (u : User) : User :=
  match u.krbPrincipalName with
  | some principal =>
    if principal = "" then u
    else
      { u with
        attributes := u.attributes ++ [⟨.new "krbprincipalname", .string (.unbounded [principal])⟩] }
  | none => u

namespace Sql

variable [External]

/-! ## Reading -/

def readUserAttribute (schema : Schema) (r : UserAttributeRow) : Except DomainError Attribute := do
  let attr ← deserializeAttribute r.attributeName r.value schema.userAttributes
  .ok { attr with name := canonicalUserAttributeName attr.name.asStr }

def readUser (schema : Schema) (r : UserRow) (attrs : List UserAttributeRow) :
    Except DomainError User := do
  let attributes ← attrs.mapM (readUserAttribute schema)
  .ok { r.toUser with attributes := attributes }.materializeProtectedFields

def userCondition (filters : Option UserRequestFilter) : Except DomainError UserCond :=
  match filters with
  | none => .ok fun _ _ => .yes
  | some f => getUserFilterExpr f

-- the groups come with every user, whatever `get_groups` says
def listUsers (filters : Option UserRequestFilter) (_getGroups : Bool) (db : Store) :
    Except DomainError (List UserAndGroups) := do
  let cond ← userCondition filters
  let rows := orderBy (fun r => r.userId.asStr)
    (db.users.rows.filter fun r => (cond db r).holds)
  let attributes := orderBy (fun r => toLex (r.userId.asStr, r.attributeName.asStr))
    (db.userAttributes.rows.filter fun a => rows.any fun r => r.userId = a.userId)
  let schema ← getSchema db
  (takeRows (fun r a => a.userId = r.userId) rows attributes).mapM fun (r, attrs) => do
    let user ← readUser schema r attrs
    let groups := orderBy (fun g => g.displayName.raw) (db.groupsOf r.userId)
    .ok ⟨user, some (groups.map GroupRow.toGroupDetails)⟩

def getUserDetails (userId : UserId) (db : Store) : Except DomainError User :=
  match db.users.find? userId with
  | none => .error (.entityNotFound userId.asStr)
  | some r => do
    let schema ← getSchema db
    readUser schema r (orderBy (fun a => a.attributeName.asStr)
      (db.userAttributes.rows.filter fun a => a.userId = userId))

def getUserGroups (userId : UserId) (db : Store) : Except DomainError (List GroupDetails) :=
  match db.users.find? userId with
  | none => .error (.entityNotFound userId.asStr)
  | some _ => .ok ((db.groupsOf userId).map GroupRow.toGroupDetails)

/-! ## Updating -/

/-- Whether an inserted `kerberossync` switches synchronisation on. -/
def kerbSyncOf : AttributeValue → Bool
  | .string (.singleton s) => ["1", "true", "TRUE"].contains (trim s)
  | .integer (.singleton v) => v = 1
  | _ => false

/-- What an update does to the attribute rows of a user. -/
structure AttributeChanges where
  updates : List UserAttributeRow
  removes : List AttributeName
  kerbSyncEnabled : Option Bool

def attributeRow (schema : Schema) (userId : UserId) (a : Attribute) : UserAttributeRow :=
  ⟨userId, storedName schema.userAttributes a.name, attributeValueToDbBytes a.value⟩

def computeUserAttributeChanges (userId : UserId) (insertAttributes : List Attribute)
    (deleteAttributes : List AttributeName) (schema : Schema) :
    Except DomainError AttributeChanges := do
  let updates ← insertAttributes.mapM fun a =>
    if isWritable schema.userAttributes a.name then .ok (attributeRow schema userId a)
    else .error (.internalError
      ("User attribute name " ++ a.name.asStr ++ " doesn't exist in the schema"))
  let removes := deleteAttributes.map fun name => canonicalUserAttributeName name.asStr
  .ok {
    updates := updates
    -- an attribute that is both removed and inserted is inserted
    removes := removes.filter fun name => !updates.any fun r => r.attributeName = name
    -- the last `kerberossync` counts
    kerbSyncEnabled := ((insertAttributes.filter fun a => a.name.asStr = "kerberossync").map
      fun a => kerbSyncOf a.value).getLast? }

/-- The check of the numbers that an update writes, on the bytes to be stored. -/
def checkUserNumber (db : Store) (r : UserAttributeRow) : Except DomainError Unit :=
  match ofUtf8? r.value with
  | none => .ok ()
  | some text =>
    let value := (parseI64 (trim text)).getD 0
    if isPosixNumber r.attributeName then
      if !(3000 ≤ value && value ≤ 60000) then
        .error (.internalError (r.attributeName.asStr ++ " must be between 3000 and 60000"))
      else if r.attributeName.asStr = "uidnumber" && isUidnumberTaken db value then
        .error (numberTaken value)
      else .ok ()
    else .ok ()

/-- What `to_value` writes over the display name: nothing, or the name, an empty one as `NULL`. -/
def toValue (name : Option String) (old : Option String) : Option String :=
  match name with
  | none => old
  | some name => if name = "" then none else some name

def emailTaken (db : Store) (self : UserId) (email : Email) : Bool :=
  db.users.rows.any fun r => r.userId ≠ self && r.lowercaseEmail = toLowercase email.raw

def UpdateUserRequest.applyTo (request : UpdateUserRequest) (now : DateTime) (r : UserRow) :
    UserRow :=
  { r with
    email := request.email.getD r.email
    lowercaseEmail := (request.email.map fun e => toLowercase e.raw).getD r.lowercaseEmail
    displayName := toValue request.displayName r.displayName
    modifiedDate := now }

def removeUserAttributes (userId : UserId) (names : List AttributeName) : Db Unit :=
  Eff.writes fun db =>
    { db with
      userAttributes := db.userAttributes.delete fun r =>
        r.userId = userId && names.contains r.attributeName }

def setKrbPrincipalName (now : DateTime) (userId : UserId) (principal : Option String) : Db Unit :=
  updateUserRow userId
    (fun r => { r with krbPrincipalName := principal, modifiedDate := now }) fun _ => rfl

def writeUserChanges (now : DateTime) (request : UpdateUserRequest) (changes : AttributeChanges) :
    Db Unit := do
  updateUserRow request.userId (UpdateUserRequest.applyTo request now) fun _ => rfl
  if ← Eff.reads fun db => request.email.any fun e => emailTaken db request.userId e then
    Eff.fail constraintFailed
  else do
    removeUserAttributes request.userId changes.removes
    Eff.each upsertUserAttribute changes.updates
    if changes.kerbSyncEnabled = some false then setKrbPrincipalName now request.userId none
    else pure ()

/-- The database part of `update_user_with_transaction`; answers whether Kerberos synchronisation
was switched on or off. -/
def updateUserWithTransaction (now : DateTime) (request : UpdateUserRequest) :
    Db (Option Bool) := do
  let schema ← Eff.query getSchema
  let changes ← Eff.lift (computeUserAttributeChanges request.userId request.insertAttributes
    request.deleteAttributes schema)
  Eff.query fun db => changes.updates.forM (checkUserNumber db)
  writeUserChanges now request changes
  pure changes.kerbSyncEnabled

/-! ## Creating -/

def checkNewUserNumber (db : Store) (a : Attribute) : Except DomainError Unit :=
  match integerOf a.value with
  | none => .ok ()
  | some value =>
    if isPosixNumber a.name then
      if value ≠ 0 && !(3000 ≤ value && value ≤ 60000) then
        .error (.internalError (a.name.asStr ++ " must be between 3000 and 60000"))
      else if a.name.asStr = "uidnumber" && isUidnumberTaken db value then
        .error (numberTaken value)
      else .ok ()
    else .ok ()

def insertUser (row : UserRow) : Db Unit := do
  let db ← Eff.reads id
  if emailTaken db row.userId row.email || db.users.rows.any fun r => r.uuid = row.uuid then
    Eff.fail constraintFailed
  else
    match db.users.insert? row with
    | none => Eff.fail constraintFailed
    | some users => Eff.writes fun db => { db with users := users }

def insertUserAttribute (row : UserAttributeRow) : Db Unit := do
  if ← Eff.reads fun db => (db.userAttributes.find? (row.userId, row.attributeName)).isSome then
    Eff.fail constraintFailed
  upsertUserAttribute row

def withPosixDefaults (db : Store) (settings : PosixSettings) (userId : UserId)
    (attributes : List Attribute) : Except DomainError (List Attribute) := do
  let attributes ←
    if settings.userUidnumberAssign && !attributes.any (fun a => a.name.asStr = "uidnumber") then do
      let nextUid ←
        nextAvailableUidNumber db settings.userUidnumberStart settings.userUidnumberMax
      .ok (attributes ++ [⟨.new "uidnumber", .integer (.singleton nextUid)⟩])
    else .ok attributes
  let attributes :=
    if settings.userGidnumberAssign then
      withDefault "gidnumber" (.integer (.singleton settings.userGidnumberStart)) attributes
    else attributes
  let attributes :=
    if settings.userLoginshellAssign then
      withDefault "loginshell" (.string (.singleton settings.userLoginshellDefault)) attributes
    else attributes
  .ok (if settings.userHomedirectoryAssign then
      withDefault "homedirectory"
        (.string (.singleton (settings.userHomedirectoryPrefix ++ "/" ++ userId.asStr))) attributes
    else attributes)

def createUser (now : DateTime) (request : CreateUserRequest) : Db Unit := do
  let allowedOus ← Eff.reads getAllowedOus
  let defaultOu := allowedOus.head?.getD "people"
  let attributes := withDefault "ou" (.string (.singleton defaultOu)) request.attributes
  Eff.transaction do
    let schema ← Eff.query getSchema
    let settings ← Eff.query getPosixSettings
    Eff.query fun db => attributes.forM (checkNewUserNumber db)
    let finalAttributes ← Eff.query fun db =>
      withPosixDefaults db settings request.userId attributes
    insertUser {
      userId := request.userId
      email := request.email
      lowercaseEmail := toLowercase request.email.raw
      displayName := toValue request.displayName none
      creationDate := now
      passwordHash := none
      uuid := External.uuidFromNameAndDate request.userId.asStr now
      modifiedDate := now
      passwordModifiedDate := now
      krbPrincipalName := none }
    -- an attribute that the schema does not have is dropped
    Eff.each insertUserAttribute ((finalAttributes.filter fun a =>
      (getAttributeType schema.userAttributes a.name.asStr).isSome).map
        (attributeRow schema request.userId))

def deleteUser (userId : UserId) : Db Unit := do
  match ← Eff.reads fun db => db.users.find? userId with
  | none => Eff.fail (.entityNotFound ("No such user: '" ++ userId.asStr ++ "'"))
  | some _ => Eff.writes (Store.deleteUser userId)

def insertMembership (userId : UserId) (groupId : GroupId) : Db Unit := do
  let db ← Eff.reads id
  match db.users.find? userId, db.memberships.insert? ⟨userId, groupId⟩ with
  | some _, some memberships => Eff.writes fun db => { db with memberships := memberships }
  | _, _ => Eff.fail constraintFailed

def addUserToGroup (now : DateTime) (userId : UserId) (groupId : GroupId) : Db Unit := do
  let userGroups ← Eff.query (getUserGroups userId)
  let target ← Eff.query (getGroupDetails groupId)
  let hasAdmin := userGroups.any fun g => g.displayName == ⟨"lldap_admin"⟩
  let hasDisabled := userGroups.any fun g => g.displayName == ⟨"lldap_disabled"⟩
  if (target.displayName.raw = "lldap_admin" && hasDisabled) ||
      (target.displayName.raw = "lldap_disabled" && hasAdmin) then
    Eff.fail (.internalError "A user cannot be in both lldap_admin and lldap_disabled groups")
  else Eff.transaction do
    insertMembership userId groupId
    touchGroup now groupId

def removeUserFromGroup (now : DateTime) (userId : UserId) (groupId : GroupId) : Db Unit :=
  Eff.transaction do
    let db ← Eff.reads id
    let members := db.memberships.rows.filter fun m => m.groupId = groupId
    if ((db.groups.find? groupId).any fun g => g.displayName.raw = "lldap_admin") &&
        members.length ≤ 1 then
      Eff.fail (.entityNotFound "Cannot remove the last member of lldap_admin")
    else if !db.isMember userId groupId then
      Eff.fail (.entityNotFound
        ("No such membership: '" ++ userId.asStr ++ "' -> " ++ toString groupId.val))
    else do
      Eff.writes fun db =>
        { db with
          memberships := db.memberships.delete fun m => m.userId = userId && m.groupId = groupId }
      touchGroup now groupId

end Sql
end Klldap
