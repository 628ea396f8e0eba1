import Klldap.GraphQL.Helpers
import Mathlib.Data.String.Basic

/-!
# Klldap.GraphQL.Consolidate: the attributes of a request, one for each name

`consolidate_attributes` keys the attributes of a request by their canonical names, later ones over
earlier ones, and adds the deprecated fields that are given where there is no attribute of the name.
-/

namespace Klldap
namespace GraphQL

open Lib.Text

/-! ## The map -/

namespace Entries

def get (key : String) (entries : Entries) : Option AttributeInput :=
  (entries.find? fun e => e.1 = key).map Prod.snd

/-- The keys increase. -/
def Sorted (entries : Entries) : Prop := entries.Pairwise fun e e' => e.1 < e'.1

theorem get_cons (key k : String) (i : AttributeInput) (entries : Entries) :
    get key ((k, i) :: entries) = if k = key then some i else get key entries := by
  unfold get
  by_cases hk : k = key
  · simp [hk]
  · simp [hk]

theorem get_insert (key key' : String) (i : AttributeInput) (entries : Entries) :
    get key' (entries.insert key i) = if key = key' then some i else get key' entries := by
  induction entries with
  | nil => exact get_cons key' key i []
  | cons e entries ih =>
    obtain ⟨k, j⟩ := e
    rw [Entries.insert, get_cons]
    split
    · rw [get_cons, get_cons]
    · split
      · rename_i hk
        subst hk
        rw [get_cons]
        split
        · rfl
        · rfl
      · rename_i hk
        rw [get_cons, ih]
        split
        · rename_i hk'
          rw [if_neg fun hkey => hk (hkey.trans hk'.symm)]
        · rfl

theorem get_orInsert (key key' : String) (i : AttributeInput) (entries : Entries) :
    get key' (entries.orInsert key i) =
      (get key' entries).or (if key = key' then some i else none) := by
  have hany : (entries.any fun e => e.1 = key) = (get key entries).isSome := by
    rw [get, Option.isSome_map, List.isSome_find?]
  rw [orInsert, hany]
  cases hget : get key entries with
  | some j =>
    simp only [Option.isSome_some, if_true]
    by_cases hkey : key = key'
    · rw [← hkey, hget]
      rfl
    · rw [if_neg hkey, Option.or_none]
  | none =>
    rw [if_neg (by simp), get_insert]
    by_cases hkey : key = key'
    · rw [← hkey, hget, if_pos rfl]
      rfl
    · rw [if_neg hkey, if_neg hkey, Option.or_none]

theorem mem_insert {key : String} {i : AttributeInput} {entries : Entries}
    {e : String × AttributeInput} (h : e ∈ entries.insert key i) : e = (key, i) ∨ e ∈ entries := by
  induction entries with
  | nil => exact .inl (List.mem_singleton.mp h)
  | cons e' entries ih =>
    rw [Entries.insert] at h
    split at h
    · exact List.mem_cons.mp h
    · split at h
      · exact (List.mem_cons.mp h).imp id (List.mem_cons_of_mem _)
      · rcases List.mem_cons.mp h with rfl | h
        · exact .inr List.mem_cons_self
        · exact (ih h).imp id (List.mem_cons_of_mem _)

theorem Sorted.insert {entries : Entries} (h : entries.Sorted) (key : String) (i : AttributeInput) :
    Sorted (entries.insert key i) := by
  induction entries with
  | nil => exact List.pairwise_singleton _ _
  | cons e entries ih =>
    obtain ⟨hfirst, hrest⟩ := List.pairwise_cons.mp h
    rw [Entries.insert]
    split
    · rename_i hlt
      refine List.pairwise_cons.mpr ⟨fun e' he' => ?_, h⟩
      rcases List.mem_cons.mp he' with rfl | he'
      · exact hlt
      · exact hlt.trans (hfirst e' he')
    · rename_i hlt
      split
      · rename_i hkey
        exact List.pairwise_cons.mpr ⟨fun e' he' => hkey ▸ hfirst e' he', hrest⟩
      · rename_i hkey
        refine List.pairwise_cons.mpr ⟨fun e' he' => ?_, ih hrest⟩
        rcases mem_insert he' with rfl | he'
        · exact lt_of_le_of_ne (not_lt.mp hlt) (Ne.symm hkey)
        · exact hfirst e' he'

theorem Sorted.get_of_mem {entries : Entries} (h : entries.Sorted) {e : String × AttributeInput}
    (he : e ∈ entries) : get e.1 entries = some e.2 := by
  induction entries with
  | nil => cases he
  | cons e' entries ih =>
    obtain ⟨hfirst, hrest⟩ := List.pairwise_cons.mp h
    rw [get_cons]
    rcases List.mem_cons.mp he with rfl | he
    · rw [if_pos rfl]
    · rw [if_neg (hfirst e he).ne, ih hrest he]

theorem mem_of_get {entries : Entries} {key : String} {i : AttributeInput}
    (h : get key entries = some i) : (key, i) ∈ entries := by
  obtain ⟨e, he, rfl⟩ := Option.map_eq_some_iff.mp h
  have hkey : e.1 = key := by simpa using List.find?_some he
  exact hkey ▸ List.mem_of_find?_eq_some he

/-- Every entry is under the key of its name. -/
def Keyed (schema : Schema) (entries : Entries) : Prop :=
  ∀ e ∈ entries, entryKey schema e.2.name = e.1

theorem Keyed.insert {schema : Schema} {entries : Entries} (h : entries.Keyed schema) {key : String}
    {i : AttributeInput} (hi : entryKey schema i.name = key) :
    Keyed schema (entries.insert key i) := by
  intro e he
  rcases mem_insert he with rfl | he
  · exact hi
  · exact h e he

/-- A map whose entries are in order and under the keys of their names. -/
structure Valid (schema : Schema) (entries : Entries) : Prop where
  sorted : entries.Sorted
  keyed : entries.Keyed schema

theorem Valid.insert {schema : Schema} {entries : Entries} (h : entries.Valid schema) {key : String}
    {i : AttributeInput} (hi : entryKey schema i.name = key) :
    Valid schema (entries.insert key i) :=
  ⟨h.sorted.insert key i, h.keyed.insert hi⟩

end Entries

/-! ## Filling it -/

theorem entryKey_asciiLower (schema : Schema) (n : String) :
    entryKey schema (asciiLower n) = entryKey schema n := by
  unfold entryKey canonicalName resolveCanonicalName
  rw [getByNameOrAlias_asciiLower]
  cases getByNameOrAlias schema.userAttributes n with
  | some a => rfl
  | none => exact asciiLower_idem n

def providedEntries (schema : Schema) (entries : Entries) (attributes : List AttributeInput) :
    Entries :=
  attributes.foldl (fun entries a =>
    Entries.insert (entryKey schema a.name) ⟨asciiLower a.name, a.value⟩ entries) entries

theorem providedEntries_valid {schema : Schema} {entries : Entries} (h : entries.Valid schema)
    (attributes : List AttributeInput) : (providedEntries schema entries attributes).Valid schema := by
  induction attributes generalizing entries with
  | nil => exact h
  | cons a attributes ih => exact ih (h.insert (entryKey_asciiLower schema a.name))

theorem get_providedEntries (schema : Schema) (entries : Entries) (attributes : List AttributeInput)
    (key : String) :
    ((providedEntries schema entries attributes).get key).map AttributeInput.value =
      ((attributes.reverse.find? fun a => entryKey schema a.name = key).map
        AttributeInput.value).or ((entries.get key).map AttributeInput.value) := by
  induction attributes generalizing entries with
  | nil => rfl
  | cons a attributes ih =>
    have hstep : providedEntries schema entries (a :: attributes) = providedEntries schema
      (entries.insert (entryKey schema a.name) ⟨asciiLower a.name, a.value⟩) attributes := rfl
    rw [hstep, ih, Entries.get_insert, List.reverse_cons, List.find?_append]
    cases attributes.reverse.find? fun a => entryKey schema a.name = key with
    | some b => rfl
    | none =>
      by_cases hkey : entryKey schema a.name = key
      · simp [hkey]
      · simp [hkey]

/-- The deprecated fields that are given. An empty avatar counts as not given. -/
def suppliedFields (firstName lastName avatar : Option String) : List (String × String) :=
  [("first_name", firstName), ("last_name", lastName), ("avatar", avatar)].filterMap fun f =>
    f.2.bind fun val => if f.1 = "avatar" && trim val = "" then none else some (f.1, val)

theorem addField_eq (schema : Schema) (entries : Entries) (field : String × Option String) :
    addField schema entries field =
      ((field.2.bind fun val => if field.1 = "avatar" && trim val = "" then none
        else some (field.1, val)).map fun f =>
          entries.orInsert (entryKey schema f.1) ⟨f.1, [f.2]⟩).getD entries := by
  obtain ⟨name, value⟩ := field
  cases value with
  | none => rfl
  | some val =>
    unfold addField
    dsimp only [Option.bind_some]
    split
    · rfl
    · rfl

def addFields (schema : Schema) (entries : Entries) (fields : List (String × String)) : Entries :=
  fields.foldl (fun entries f => entries.orInsert (entryKey schema f.1) ⟨f.1, [f.2]⟩) entries

theorem foldl_addField (schema : Schema) (entries : Entries)
    (fields : List (String × Option String)) :
    fields.foldl (addField schema) entries = addFields schema entries (fields.filterMap fun f =>
      f.2.bind fun val => if f.1 = "avatar" && trim val = "" then none else some (f.1, val)) := by
  induction fields generalizing entries with
  | nil => rfl
  | cons field fields ih =>
    rw [List.foldl_cons, ih, addField_eq, List.filterMap_cons]
    cases field.2.bind fun val => if field.1 = "avatar" && trim val = "" then none
        else some (field.1, val) with
    | none => rfl
    | some f => rfl

theorem addFields_valid {schema : Schema} {entries : Entries} (h : entries.Valid schema)
    (fields : List (String × String)) : (addFields schema entries fields).Valid schema := by
  induction fields generalizing entries with
  | nil => exact h
  | cons f fields ih =>
    have hstep : (entries.orInsert (entryKey schema f.1) ⟨f.1, [f.2]⟩).Valid schema := by
      unfold Entries.orInsert
      split
      · exact h
      · exact h.insert rfl
    exact ih hstep

theorem get_addFields (schema : Schema) (entries : Entries) (fields : List (String × String))
    (key : String) :
    ((addFields schema entries fields).get key).map AttributeInput.value =
      ((entries.get key).map AttributeInput.value).or
        ((fields.find? fun f => entryKey schema f.1 = key).map fun f => [f.2]) := by
  induction fields generalizing entries with
  | nil => exact (Option.or_none).symm
  | cons f fields ih =>
    have hstep : addFields schema entries (f :: fields) =
      addFields schema (entries.orInsert (entryKey schema f.1) ⟨f.1, [f.2]⟩) fields := rfl
    rw [hstep, ih, Entries.get_orInsert, List.find?_cons]
    cases entries.get key with
    | some i => rfl
    | none =>
      by_cases hkey : entryKey schema f.1 = key
      · simp [hkey]
      · simp [hkey]

/-! ## The result -/

/-- The value that a name is to have: the last one of the list, or else that of the field. -/
def consolidatedValue (schema : Schema) (attributes : List AttributeInput)
    (fields : List (String × String)) (key : String) : Option (List String) :=
  ((attributes.reverse.find? fun a => entryKey schema a.name = key).map AttributeInput.value).or
    ((fields.find? fun f => entryKey schema f.1 = key).map fun f => [f.2])

/-- The entries that `consolidateAttributes` returns, with their keys. -/
def consolidated (schema : Schema) (attributes : List AttributeInput)
    (fields : List (String × String)) : Entries :=
  addFields schema (providedEntries schema [] attributes) fields

theorem consolidateAttributes_eq (attributes : List AttributeInput)
    (firstName lastName avatar : Option String) (schema : Schema) :
    consolidateAttributes attributes firstName lastName avatar schema =
      (consolidated schema attributes (suppliedFields firstName lastName avatar)).map Prod.snd :=
  congrArg (List.map Prod.snd) (foldl_addField schema (providedEntries schema [] attributes) _)

theorem consolidated_valid (schema : Schema) (attributes : List AttributeInput)
    (fields : List (String × String)) : (consolidated schema attributes fields).Valid schema :=
  addFields_valid (providedEntries_valid ⟨.nil, fun _ he => nomatch he⟩ attributes) fields

theorem get_consolidated (schema : Schema) (attributes : List AttributeInput)
    (fields : List (String × String)) (key : String) :
    ((consolidated schema attributes fields).get key).map AttributeInput.value =
      consolidatedValue schema attributes fields key := by
  rw [consolidated, get_addFields, get_providedEntries]
  exact congrArg (Option.or · _) Option.or_none

theorem consolidatedValue_isSome (schema : Schema) (attributes : List AttributeInput)
    (fields : List (String × String)) (key : String) :
    (consolidatedValue schema attributes fields key).isSome = true ↔
      (∃ a ∈ attributes, entryKey schema a.name = key) ∨
        ∃ f ∈ fields, entryKey schema f.1 = key := by
  simp [consolidatedValue]

/-- There is one entry for each canonical name, whatever its letter case, of an attribute of the list
or of a field that is given, and it has the value of the last such attribute or else of the field. -/
theorem consolidateAttributes_spec (attributes : List AttributeInput)
    (firstName lastName avatar : Option String) (schema : Schema) :
    ((consolidateAttributes attributes firstName lastName avatar schema).map fun e =>
        entryKey schema e.name).Nodup ∧
      (∀ key, (∃ e ∈ consolidateAttributes attributes firstName lastName avatar schema,
          entryKey schema e.name = key) ↔
        (∃ a ∈ attributes, entryKey schema a.name = key) ∨
          ∃ f ∈ suppliedFields firstName lastName avatar, entryKey schema f.1 = key) ∧
      ∀ e ∈ consolidateAttributes attributes firstName lastName avatar schema,
        consolidatedValue schema attributes (suppliedFields firstName lastName avatar)
          (entryKey schema e.name) = some e.value := by
  rw [consolidateAttributes_eq]
  generalize suppliedFields firstName lastName avatar = fields
  have hvalid := consolidated_valid schema attributes fields
  have hkeys : ((consolidated schema attributes fields).map Prod.snd).map
      (fun e => entryKey schema e.name) = (consolidated schema attributes fields).map Prod.fst := by
    rw [List.map_map]
    exact List.map_congr_left fun e he => hvalid.keyed e he
  refine ⟨?_, fun key => ?_, fun e he => ?_⟩
  · rw [hkeys, List.Nodup, List.pairwise_map]
    exact hvalid.sorted.imp fun h => h.ne
  · rw [← consolidatedValue_isSome, ← get_consolidated, Option.isSome_map, Option.isSome_iff_exists]
    constructor
    · rintro ⟨e, he, rfl⟩
      obtain ⟨p, hp, rfl⟩ := List.mem_map.mp he
      rw [hvalid.keyed p hp]
      exact ⟨p.2, hvalid.sorted.get_of_mem hp⟩
    · rintro ⟨i, hi⟩
      have hmem := Entries.mem_of_get hi
      exact ⟨i, List.mem_map.mpr ⟨(key, i), hmem, rfl⟩, hvalid.keyed (key, i) hmem⟩
  · obtain ⟨p, hp, rfl⟩ := List.mem_map.mp he
    rw [hvalid.keyed p hp, ← get_consolidated, hvalid.sorted.get_of_mem hp]
    rfl

end GraphQL
end Klldap
