import Klldap.Sql.Filter
import Klldap.Sql.Posix

/-!
# Klldap.Sql.Group: groups in the database

`sql_group_backend_handler.rs`. Reading goes through the filter conditions; creating, renaming and
deleting a group are single transactions.
-/

namespace Klldap

open Lib (Bytes Eff Table Trool)
open Lib.Bincode (utf8 ofUtf8?)

structure CreateGroupRequest where
  displayName : GroupName
  attributes : List Attribute

structure UpdateGroupRequest where
  groupId : GroupId
  displayName : Option GroupName
  deleteAttributes : List AttributeName
  insertAttributes : List Attribute

namespace GroupRow

def toGroup (r : GroupRow) : Group where
  id := r.groupId
  displayName := r.displayName
  creationDate := r.creationDate
  uuid := r.uuid
  users := []
  attributes := []
  modifiedDate := r.modifiedDate

def toGroupDetails (r : GroupRow) : GroupDetails where
  groupId := r.groupId
  displayName := r.displayName
  creationDate := r.creationDate
  uuid := r.uuid
  attributes := []
  modifiedDate := r.modifiedDate

end GroupRow

namespace Sql

variable [External]

/-! ## Reading -/

/-- The loop that hands attribute rows to their owners: both lists are in the same order, and each
owner takes the rows at the front that are its own. -/
def takeRows {α β : Type} (own : α → β → Bool) : List α → List β → List (α × List β)
  | [], _ => []
  | a :: as, rows => (a, rows.takeWhile (own a)) :: takeRows own as (rows.dropWhile (own a))

omit [External] in
theorem takeRows_singleton {α β : Type} {own : α → β → Bool} {a : α} {rows : List β}
    (h : ∀ b ∈ rows, own a b = true) : takeRows own [a] rows = [(a, rows)] := by
  simp only [takeRows, List.takeWhile_eq_self_iff.mpr h]

omit [External] in
theorem takeRows_fst {α β : Type} {own : α → β → Bool} {as : List α} {rows : List β}
    {p : α × List β} (hp : p ∈ takeRows own as rows) : p.1 ∈ as := by
  induction as generalizing rows with
  | nil => cases hp
  | cons a as ih =>
    rcases List.mem_cons.mp hp with rfl | hp
    · exact List.mem_cons_self
    · exact List.mem_cons_of_mem a (ih hp)

def readGroupAttribute (schema : Schema) (r : GroupAttributeRow) : Except DomainError Attribute := do
  let attr ← deserializeAttribute r.attributeName r.value schema.groupAttributes
  .ok { attr with name := canonicalGroupAttributeName attr.name.asStr }

def memberOu (db : Store) (u : UserId) : String :=
  ((db.userAttributes.find? (u, .new "ou")).bind fun r => ofUtf8? r.value).getD "people"

def groupMembers (db : Store) (g : GroupId) : List GroupMember :=
  (db.memberships.rows.filter fun m => m.groupId = g).map fun m => ⟨m.userId, memberOu db m.userId⟩

def groupSelected (filters : Option GroupRequestFilter) (db : Store) (g : GroupRow) : Bool :=
  filters.all fun f => (getGroupFilterExpr f db g).holds

def readGroup (schema : Schema) (db : Store) (row : GroupRow × List GroupAttributeRow) :
    Except DomainError Group := do
  let attributes ← row.2.mapM (readGroupAttribute schema)
  .ok { row.1.toGroup with users := groupMembers db row.1.groupId, attributes := attributes }

def sortGroups (groups : List Group) : List Group :=
  groups.insertionSort fun g₁ g₂ =>
    compareStrCaseInsensitive g₁.displayName.raw g₂.displayName.raw ≠ .gt

def listGroups (filters : Option GroupRequestFilter) (db : Store) :
    Except DomainError (List Group) := do
  let rows := orderBy (fun g => g.groupId.val) (db.groups.rows.filter (groupSelected filters db))
  let schema ← getSchema db
  let attributes := orderBy (fun r => toLex (r.groupId.val, r.attributeName.asStr))
    (db.groupAttributes.rows.filter fun r => rows.any fun g => g.groupId = r.groupId)
  let groups ← (takeRows (fun g r => r.groupId = g.groupId) rows attributes).mapM
    (readGroup schema db)
  .ok (sortGroups groups)

def getGroupDetails (groupId : GroupId) (db : Store) : Except DomainError GroupDetails :=
  match db.groups.find? groupId with
  | none => .error (.entityNotFound (toString groupId.val))
  | some group => do
    let schema ← getSchema db
    let rows := orderBy (fun r => r.attributeName.asStr)
      (db.groupAttributes.rows.filter fun r => r.groupId = groupId)
    let attributes ← rows.mapM (readGroupAttribute schema)
    .ok { group.toGroupDetails with attributes := attributes }

/-! ## Writing -/

def integerOf : AttributeValue → Option Int
  | .integer (.singleton v) => some v
  | _ => none

def storedName (schema : AttributeList) (name : AttributeName) : AttributeName :=
  match getByNameOrAlias schema name.asStr with
  | some a => .new a.name
  | none => name

def isWritable (schema : AttributeList) (name : AttributeName) : Bool :=
  (getAttributeType schema name.asStr).isSome || isBackendWritableReadonlyAttribute name.asStr

def isPosixNumber (name : AttributeName) : Bool :=
  name.asStr = "uidnumber" || name.asStr = "gidnumber"

def numberTaken (value : Int) : DomainError :=
  .internalError ("Number " ++ toString value ++ " is already assigned to another user/group")

/-- The check of a number given to a group: in the range, unless zero, and not in use. -/
def checkGroupNumber (db : Store) (max : Int) (suffix : String) (a : Attribute) :
    Except DomainError Unit :=
  match integerOf a.value with
  | none => .ok ()
  | some value =>
    if isPosixNumber a.name then
      if value ≠ 0 && !(3000 ≤ value && value ≤ max) then
        .error (.internalError
          (a.name.asStr ++ " must be between 3000 and " ++ toString max ++ suffix))
      else if (if a.name.asStr = "uidnumber" then isUidnumberTaken db value
          else isGidnumberTaken db value) then .error (numberTaken value)
      else .ok ()
    else .ok ()

def groupNameTaken (db : Store) (self : Option GroupId) (name : GroupName) : Bool :=
  db.groups.rows.any fun g => some g.groupId ≠ self &&
    (g.displayName = name || g.lowercaseDisplayName = toLowercase name.raw)

def updateGroupWithTransaction (now : DateTime) (request : UpdateGroupRequest) : Db Unit := do
  updateGroupRow request.groupId
    (fun r =>
      { r with
        displayName := request.displayName.getD r.displayName
        lowercaseDisplayName :=
          (request.displayName.map fun n => toLowercase n.raw).getD r.lowercaseDisplayName
        modifiedDate := now })
    fun _ => rfl
  if ← Eff.reads fun db =>
      request.displayName.any fun n => groupNameTaken db (some request.groupId) n then
    Eff.fail constraintFailed
  let schema ← Eff.query getSchema
  Eff.query fun db => request.insertAttributes.forM
    (checkGroupNumber db 20000 " (or 0 for no limit)")
  let updates := request.insertAttributes.map fun a =>
    (⟨request.groupId, storedName schema.groupAttributes a.name,
      attributeValueToDbBytes a.value⟩ : GroupAttributeRow)
  let removes ← Eff.lift (request.deleteAttributes.mapM fun name =>
    if isWritable schema.groupAttributes name then
      .ok (storedName schema.groupAttributes name)
    else .error (.internalError ("Group attribute name " ++ name.asStr ++
      " doesn't exist in the schema, yet was attempted to be removed from the database")))
  Eff.writes fun db =>
    { db with
      groupAttributes := db.groupAttributes.delete fun r =>
        r.groupId = request.groupId && removes.contains r.attributeName }
  Eff.each upsertGroupAttribute updates

def updateGroup (now : DateTime) (request : UpdateGroupRequest) : Db Unit := do
  if request.displayName.isSome then
    let current ← Eff.query (getGroupDetails request.groupId)
    if isBuiltinGroup current.displayName.raw then
      Eff.fail (.internalError ("Cannot rename built-in group '" ++ current.displayName.raw ++ "'"))
  Eff.transaction (updateGroupWithTransaction now request)

/-- The attributes of a request, with `name` added unless it is there. -/
def withDefault (name : String) (value : AttributeValue) (attributes : List Attribute) :
    List Attribute :=
  if attributes.any fun a => a.name.asStr = name then attributes
  else attributes ++ [⟨.new name, value⟩]

def insertGroup (now : DateTime) (name : GroupName) : Db GroupId := do
  let db ← Eff.reads id
  let uuid := External.uuidFromNameAndDate name.raw now
  let id : GroupId := ⟨(db.groups.rows.map fun g => g.groupId.val).foldl max db.groupSequence + 1⟩
  if groupNameTaken db none name || db.groups.rows.any fun g => g.uuid = uuid then
    Eff.fail constraintFailed
  else
    match db.groups.insert? ⟨id, name, toLowercase name.raw, now, uuid, now⟩ with
    | none => Eff.fail constraintFailed
    | some groups => do
      Eff.writes fun db => { db with groups := groups, groupSequence := id.val }
      pure id

/-- `INSERT` of an attribute row, under a key that is not in use. -/
def insertGroupAttribute (row : GroupAttributeRow) : Db Unit := do
  if ← Eff.reads fun db => (db.groupAttributes.find? (row.groupId, row.attributeName)).isSome then
    Eff.fail constraintFailed
  upsertGroupAttribute row

def createGroup (now : DateTime) (request : CreateGroupRequest) : Db GroupId := do
  let allowedOus ← Eff.reads getAllowedOus
  let defaultOu := allowedOus.head?.getD "groups"
  Eff.transaction do
    let schema ← Eff.query getSchema
    let settings ← Eff.query getPosixSettings
    Eff.query fun db => request.attributes.forM (checkGroupNumber db 60000 "")
    let attributes := withDefault "ou" (.string (.singleton defaultOu)) request.attributes
    let finalAttributes ←
      if settings.groupGidnumberAssign && !attributes.any (fun a => a.name.asStr = "gidnumber") then
        do
          let nextGid ← Eff.query fun db =>
            nextAvailableGidNumber db settings.groupGidnumberStart settings.groupGidnumberMax
          pure (attributes ++ [⟨.new "gidnumber", .integer (.singleton nextGid)⟩])
      else pure attributes
    let groupId ← insertGroup now request.displayName
    let rows ← Eff.lift (finalAttributes.mapM fun a =>
      if isWritable schema.groupAttributes a.name then
        .ok (⟨groupId, storedName schema.groupAttributes a.name,
          attributeValueToDbBytes a.value⟩ : GroupAttributeRow)
      else .error (.internalError
        ("Group attribute name " ++ a.name.asStr ++ " doesn't exist in the schema")))
    Eff.each insertGroupAttribute rows
    pure groupId

def deleteGroup (groupId : GroupId) : Db Unit := do
  let groupDetails ← Eff.query (getGroupDetails groupId)
  if isBuiltinGroup groupDetails.displayName.raw then
    Eff.fail (.internalError
      ("Cannot delete built-in group '" ++ groupDetails.displayName.raw ++ "'"))
  Eff.writes (Store.deleteGroup groupId)

end Sql
end Klldap
