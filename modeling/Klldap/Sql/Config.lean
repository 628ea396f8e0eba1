import Klldap.Lib.Effect
import Klldap.Sql.Value
import Klldap.Store

/-!
# Klldap.Sql.Config: schema and system configuration in the database

`sql_schema_backend_handler.rs` and the system configuration of `sql_user_backend_handler.rs`. The
schema of a database is the built-in one followed by the rows of the schema tables that are not
built in and whose name is not in use yet.
-/

namespace Klldap

open Lib (Bytes Eff Table except_bind_ok)
open Lib.Text

/-- A backend computation: reads and writes the database, may fail. -/
abbrev Db := Eff Store DomainError

structure CreateAttributeRequest where
  name : AttributeName
  attributeType : AttributeType
  isList : Bool
  isVisible : Bool
  isEditable : Bool

namespace Sql

variable [External]

def orderBy {α β : Type} [LE β] [DecidableLE β] (f : α → β) (l : List α) : List α :=
  l.insertionSort fun a b => f a ≤ f b

omit [External] in
@[simp] theorem mem_orderBy {α β : Type} [LE β] [DecidableLE β] {f : α → β} {l : List α} {a : α} :
    a ∈ orderBy f l ↔ a ∈ l := by
  simp [orderBy]

omit [External] in
theorem orderBy_congr {α β γ : Type} [LE β] [DecidableLE β] [LE γ] [DecidableLE γ] {f : α → β}
    {g : α → γ} {l : List α} (h : ∀ a ∈ l, ∀ b ∈ l, f a ≤ f b ↔ g a ≤ g b) :
    orderBy f l = orderBy g l := by
  simpa [orderBy] using List.map_insertionSort (fun a b => f a ≤ f b) (fun a b => g a ≤ g b) id l h

def constraintFailed : DomainError := .databaseError "constraint failed"

def recordNotUpdated : DomainError := .databaseError "None of the records are updated"

/-! ## System configuration -/

def getAllowedOus (db : Store) : List String :=
  let jsonStr := ((db.systemConfig.find? "allowedous").map SystemConfigRow.value).getD "[]"
  (External.jsonToStrings jsonStr).getD ["people", "groups"]

def setSystemConfig (key value : String) : Db Unit :=
  Eff.writes fun db => { db with systemConfig := db.systemConfig.upsert ⟨key, value⟩ }

def getPosixSettings (db : Store) : Except DomainError PosixSettings :=
  match db.systemConfig.find? "posix_settings" with
  | none => .ok {}
  | some config =>
    match External.jsonToPosixSettings config.value with
    | some settings => .ok settings
    | none => .error (.internalError "Failed to parse posix_settings JSON")

def setPosixSettings (settings : PosixSettings) : Db Unit :=
  setSystemConfig "posix_settings" (External.posixSettingsToJson settings)

def toAttributeSchema (r : AttributeSchemaRow) : AttributeSchema where
  name := r.attributeName.asStr
  aliases := (External.jsonToStrings r.aliases).getD []
  attributeType := r.attributeType
  isList := r.isList
  isVisible := r.isVisible
  isEditable := r.isEditable
  isHardcoded := r.isHardcoded
  isReadonly := r.isReadonly

def dynamicAttributes (t : Table AttributeSchemaRow AttributeName AttributeSchemaRow.attributeName) :
    AttributeList :=
  ((orderBy (fun r => r.attributeName.asStr) t.rows).map toAttributeSchema).filter
    fun a => !a.isHardcoded

def mergeAttributes (full dynamic : AttributeList) : AttributeList :=
  dynamic.foldl
    (fun acc attr => if acc.any (fun existing => existing.name = attr.name) then acc
      else acc ++ [attr])
    full

def objectClasses (t : Table ObjectClassRow String ObjectClassRow.lowerObjectClass) : List String :=
  (orderBy (fun r => r.objectClass.raw) t.rows).map fun r => r.objectClass.raw

def getSchema (db : Store) : Except DomainError Schema := do
  let full := PublicSchema.get
  let posixSettings ← getPosixSettings db
  .ok {
    userAttributes := mergeAttributes full.userAttributes (dynamicAttributes db.userAttributeSchema)
    groupAttributes :=
      mergeAttributes full.groupAttributes (dynamicAttributes db.groupAttributeSchema)
    posixSettings := posixSettings
    extraUserObjectClasses := objectClasses db.userObjectClasses
    extraGroupObjectClasses := objectClasses db.groupObjectClasses }

def canonicalUserAttributeName (name : String) : AttributeName :=
  match getByNameOrAlias PublicSchema.get.userAttributes name with
  | some a => AttributeName.new a.name
  | none => AttributeName.new name

def canonicalGroupAttributeName (name : String) : AttributeName :=
  match getByNameOrAlias PublicSchema.get.groupAttributes name with
  | some a => AttributeName.new a.name
  | none => AttributeName.new name

def newAttributeRow (request : CreateAttributeRequest) : AttributeSchemaRow where
  attributeName := request.name
  attributeType := request.attributeType
  isList := request.isList
  isVisible := request.isVisible
  isEditable := request.isEditable
  isHardcoded := false
  isReadonly := false
  aliases := "[]"

def addUserAttribute (request : CreateAttributeRequest) : Db Unit := do
  match ← Eff.reads fun db => db.userAttributeSchema.insert? (newAttributeRow request) with
  | none => Eff.fail constraintFailed
  | some t => Eff.writes fun db => { db with userAttributeSchema := t }

def addGroupAttribute (request : CreateAttributeRequest) : Db Unit := do
  match ← Eff.reads fun db => db.groupAttributeSchema.insert? (newAttributeRow request) with
  | none => Eff.fail constraintFailed
  | some t => Eff.writes fun db => { db with groupAttributeSchema := t }

-- the values of a deleted attribute go with it
def deleteUserAttribute (name : AttributeName) : Db Unit :=
  Eff.writes fun db =>
    { db with
      userAttributeSchema := db.userAttributeSchema.delete fun r => r.attributeName = name
      userAttributes := db.userAttributes.delete fun r => r.attributeName = name }

def deleteGroupAttribute (name : AttributeName) : Db Unit :=
  Eff.writes fun db =>
    { db with
      groupAttributeSchema := db.groupAttributeSchema.delete fun r => r.attributeName = name
      groupAttributes := db.groupAttributes.delete fun r => r.attributeName = name }

def addUserObjectClass (name : LdapObjectClass) : Db Unit := do
  match ← Eff.reads fun db => db.userObjectClasses.insert? ⟨asciiLower name.raw, name⟩ with
  | none => Eff.fail constraintFailed
  | some t => Eff.writes fun db => { db with userObjectClasses := t }

def addGroupObjectClass (name : LdapObjectClass) : Db Unit := do
  match ← Eff.reads fun db => db.groupObjectClasses.insert? ⟨asciiLower name.raw, name⟩ with
  | none => Eff.fail constraintFailed
  | some t => Eff.writes fun db => { db with groupObjectClasses := t }

def deleteUserObjectClass (name : LdapObjectClass) : Db Unit :=
  Eff.writes fun db =>
    { db with
      userObjectClasses :=
        db.userObjectClasses.delete fun r => r.lowerObjectClass = asciiLower name.raw }

def deleteGroupObjectClass (name : LdapObjectClass) : Db Unit :=
  Eff.writes fun db =>
    { db with
      groupObjectClasses :=
        db.groupObjectClasses.delete fun r => r.lowerObjectClass = asciiLower name.raw }

/-! ## What a loaded schema looks like -/

omit [External] in
theorem mergeAttributes_prefix (full dynamic : AttributeList) :
    ∃ rest, mergeAttributes full dynamic = full ++ rest := by
  unfold mergeAttributes
  induction dynamic generalizing full with
  | nil => exact ⟨[], by simp⟩
  | cons a dynamic ih =>
    simp only [List.foldl_cons]
    split
    · exact ih full
    · obtain ⟨rest, h⟩ := ih (full ++ [a])
      exact ⟨a :: rest, by rw [h]; simp⟩

omit [External] in
theorem mergeAttributes_wellNamed {full dynamic : AttributeList} (hf : WellNamed full)
    (hd : ∀ a ∈ dynamic, asciiLower a.name = a.name) : WellNamed (mergeAttributes full dynamic) := by
  unfold mergeAttributes
  induction dynamic generalizing full with
  | nil => exact hf
  | cons a dynamic ih =>
    have htail : ∀ b ∈ dynamic, asciiLower b.name = b.name := fun b hb => hd b (by simp [hb])
    simp only [List.foldl_cons]
    split
    · exact ih hf htail
    · rename_i hfresh
      refine ih ⟨?_, ?_⟩ htail
      · rw [List.map_append, List.nodup_append]
        refine ⟨hf.nodup, by simp, ?_⟩
        intro n hn m hm hnm
        obtain ⟨b, hb, rfl⟩ := List.mem_map.mp hn
        simp only [List.map_cons, List.map_nil, List.mem_singleton] at hm
        exact hfresh (List.any_eq_true.mpr ⟨b, hb, by simp [hnm, hm]⟩)
      · intro b hb
        rcases List.mem_append.mp hb with hb | hb
        · exact hf.lower b hb
        · rw [List.mem_singleton.mp hb]
          exact hd a (by simp)

theorem dynamicAttributes_lower
    (t : Table AttributeSchemaRow AttributeName AttributeSchemaRow.attributeName) :
    ∀ a ∈ dynamicAttributes t, asciiLower a.name = a.name := by
  intro a ha
  obtain ⟨r, -, rfl⟩ := List.mem_map.mp (List.mem_of_mem_filter ha)
  exact r.attributeName.name.lower

theorem getSchema_userAttributes {db : Store} {schema : Schema} (h : getSchema db = .ok schema) :
    ∃ rest, schema.userAttributes = PublicSchema.userAttributes ++ rest := by
  obtain ⟨posixSettings, -, h⟩ := except_bind_ok.mp h
  cases h
  exact mergeAttributes_prefix _ _

theorem getSchema_wellNamed {db : Store} {schema : Schema} (h : getSchema db = .ok schema) :
    WellNamed schema.userAttributes := by
  obtain ⟨posixSettings, -, h⟩ := except_bind_ok.mp h
  cases h
  exact mergeAttributes_wellNamed userAttributes_wellNamed (dynamicAttributes_lower _)

theorem getSchema_groupAttributes {db : Store} {schema : Schema} (h : getSchema db = .ok schema) :
    ∃ rest, schema.groupAttributes = PublicSchema.groupAttributes ++ rest := by
  obtain ⟨posixSettings, -, h⟩ := except_bind_ok.mp h
  cases h
  exact mergeAttributes_prefix _ _

theorem getSchema_group_wellNamed {db : Store} {schema : Schema} (h : getSchema db = .ok schema) :
    WellNamed schema.groupAttributes := by
  obtain ⟨posixSettings, -, h⟩ := except_bind_ok.mp h
  cases h
  exact mergeAttributes_wellNamed groupAttributes_wellNamed (dynamicAttributes_lower _)

end Sql
end Klldap
