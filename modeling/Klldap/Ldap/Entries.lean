import Klldap.GraphQL.Mutation
import Klldap.Ldap.Attributes
import Klldap.Plain
import Mathlib.Data.String.Basic

/-!
# Klldap.Ldap.Entries: building the entry of a user or a group

Requested names, the names behind `*` and `+`, and the stored custom names are merged in one map
under lower-case keys; the values of each are looked up, and operational attributes are added.
-/

namespace Klldap
namespace Ldap

open Lib (Bytes except_bind_ok except_mapM_error except_mapM_map)
open Lib.Bincode (utf8)
open Lib.Text
open SchemaManager (insertKey mem_insertKey mem_foldl_insertKey)

/-! ## The keys -/

/-- The keys of a map, in order. -/
def Ordered (keys : List (AttributeName × String)) : Prop :=
  keys.Pairwise fun k k' => k.1.asStr < k'.1.asStr

theorem Ordered.insertKey {keys : List (AttributeName × String)} (h : Ordered keys) (name : String) :
    Ordered (insertKey keys name) := by
  induction keys with
  | nil => exact List.pairwise_singleton _ _
  | cons p keys ih =>
    obtain ⟨hhead, htail⟩ := List.pairwise_cons.mp h
    simp only [SchemaManager.insertKey]
    split
    · rename_i hlt
      refine List.pairwise_cons.mpr ⟨fun k hk => ?_, h⟩
      rcases List.mem_cons.mp hk with rfl | hk
      · exact hlt
      · exact hlt.trans (hhead k hk)
    · split
      · rename_i heq
        exact List.pairwise_cons.mpr ⟨fun k hk => heq.trans_lt (hhead k hk), htail⟩
      · rename_i hlt hne
        refine List.pairwise_cons.mpr ⟨fun k hk => ?_, ih htail⟩
        rcases mem_insertKey hk with rfl | hk
        · exact lt_of_le_of_ne (not_lt.mp hlt) (Ne.symm hne)
        · exact hhead k hk

theorem Ordered.foldl {keys : List (AttributeName × String)} (h : Ordered keys) (names : List String) :
    Ordered (names.foldl SchemaManager.insertKey keys) := by
  induction names generalizing keys with
  | nil => exact h
  | cons n names ih => exact ih (h.insertKey n)

section

variable {attrs : List String} {schema : Schema} {l : AttributeList} {attributes : List Attribute}

theorem ordered_withCustomAttributes (m : SchemaManager) :
    Ordered (withCustomAttributes (m.expandAttributeWildcards attrs schema) l attributes) := by
  have hkeys : Ordered (m.expandAttributeWildcards attrs schema).attributeKeys :=
    Ordered.foldl List.Pairwise.nil _
  unfold withCustomAttributes
  split
  · exact hkeys.foldl _
  · exact hkeys

end

section

open SchemaManager

theorem resolveAttribute_asciiLower (m : SchemaManager) (name : String) :
    m.resolveAttribute (asciiLower name) = m.resolveAttribute name := by
  simp [resolveAttribute]

theorem exists_key_insertKey {keys : List (AttributeName × String)} {n : String}
    {name : AttributeName} (h : (∃ k ∈ keys, k.1 = name) ∨ .new n = name) :
    ∃ k ∈ insertKey keys n, k.1 = name := by
  induction keys with
  | nil =>
    rcases h with ⟨k, hk, -⟩ | rfl
    · cases hk
    · exact ⟨_, List.mem_singleton_self _, rfl⟩
  | cons p keys ih =>
    simp only [insertKey]
    split
    · rcases h with ⟨k, hk, rfl⟩ | rfl
      · exact ⟨k, List.mem_cons_of_mem _ hk, rfl⟩
      · exact ⟨_, List.mem_cons_self, rfl⟩
    split
    · rename_i hlower
      have hp : AttributeName.new n = p.1 := by
        rw [← AttributeName.new_asStr p.1, ← hlower]
        simp [AttributeName.new, CaseInsensitiveString.new]
      rcases h with ⟨k, hk, rfl⟩ | rfl
      · rcases List.mem_cons.mp hk with rfl | hk
        · exact ⟨_, List.mem_cons_self, hp⟩
        · exact ⟨k, List.mem_cons_of_mem _ hk, rfl⟩
      · exact ⟨_, List.mem_cons_self, rfl⟩
    · rcases h with ⟨k, hk, rfl⟩ | h
      · rcases List.mem_cons.mp hk with rfl | hk
        · exact ⟨_, List.mem_cons_self, rfl⟩
        · obtain ⟨k', hk', hname⟩ := ih (.inl ⟨k, hk, rfl⟩)
          exact ⟨k', List.mem_cons_of_mem _ hk', hname⟩
      · obtain ⟨k', hk', hname⟩ := ih (.inr h)
        exact ⟨k', List.mem_cons_of_mem _ hk', hname⟩

theorem exists_key_foldl {names : List String} {keys : List (AttributeName × String)}
    {name : AttributeName} (h : (∃ k ∈ keys, k.1 = name) ∨ ∃ n ∈ names, .new n = name) :
    ∃ k ∈ names.foldl insertKey keys, k.1 = name := by
  induction names generalizing keys with
  | nil =>
    rcases h with h | ⟨n, hn, -⟩
    · exact h
    · cases hn
  | cons n names ih =>
    refine ih ?_
    rcases h with h | ⟨n', hn', hname⟩
    · exact .inl (exists_key_insertKey (.inl h))
    rcases List.mem_cons.mp hn' with rfl | hn'
    · exact .inl (exists_key_insertKey (.inr hname))
    · exact .inr ⟨n', hn', hname⟩

theorem key_withCustomAttributes {m : SchemaManager} {attrs : List String} {schema : Schema}
    {l : AttributeList} {attributes : List Attribute} {k : AttributeName × String}
    (h : k ∈ withCustomAttributes (m.expandAttributeWildcards attrs schema) l attributes) :
    k.1 = .new k.2 := by
  unfold withCustomAttributes at h
  split at h
  · rcases mem_foldl_insertKey h with h | ⟨n, -, rfl⟩
    · obtain ⟨n, rfl, -⟩ := mem_attributeKeys m h
      rfl
    · rfl
  · obtain ⟨n, rfl, -⟩ := mem_attributeKeys m h
    rfl

theorem exists_key_withCustomAttributes {expanded : ExpandedAttributes} {l : AttributeList}
    {attributes : List Attribute} {name : AttributeName}
    (h : ∃ k ∈ expanded.attributeKeys, k.1 = name) :
    ∃ k ∈ withCustomAttributes expanded l attributes, k.1 = name := by
  unfold withCustomAttributes
  split
  · exact exists_key_foldl (.inl h)
  · exact h

end

/-! ## The attributes of an entry -/

section

variable {values : AttributeName → Except String (Option (List Bytes))}

def shownAttribute (values : AttributeName → Except String (Option (List Bytes)))
    (k : AttributeName × String) : Option LdapPartialAttribute :=
  (values k.1).toOption.join.map fun vals => ⟨k.2, vals⟩

theorem entryAttributes_eq {keys : List (AttributeName × String)}
    (h : ∀ k ∈ keys, ∃ v, values k.1 = .ok v) (includeOperational : Bool)
    (structuralClass baseDnStr : String) :
    entryAttributes values keys includeOperational structuralClass baseDnStr =
      let attrs := (keys.filter fun k =>
        !getSchemaManager.isOperational k.1.asStr || includeOperational).filterMap
          (shownAttribute values)
      .ok (firstOfEachType (if includeOperational then
        injectOperationalAttributes attrs structuralClass baseDnStr else attrs)) := by
  unfold entryAttributes
  generalize hshown : (keys.filter fun k =>
    !getSchemaManager.isOperational k.1.asStr || includeOperational) = shown
  have hsub : ∀ k ∈ shown, k ∈ keys := fun k hk => List.mem_of_mem_filter (hshown ▸ hk)
  cases hmap : shown.mapM fun k => do
      let vals ← values k.1
      Except.ok (ε := String) (vals.map fun vals => (⟨k.2, vals⟩ : LdapPartialAttribute)) with
  | error e =>
    obtain ⟨k, hk, herror⟩ := except_mapM_error hmap
    obtain ⟨v, hv⟩ := h k (hsub k hk)
    rw [hv] at herror
    cases herror
  | ok found =>
    have hfound : found = shown.map (shownAttribute values) := by
      refine except_mapM_map hmap fun k v hv => ?_
      obtain ⟨vals, hvals, hv⟩ := Lib.except_bind_ok.mp hv
      simp [shownAttribute, hvals, ← Except.ok.inj hv, Except.toOption]
    have hids : found.filterMap id = shown.filterMap (shownAttribute values) := by
      rw [hfound, List.filterMap_map, Function.id_comp]
    dsimp only
    rw [hmap, ← hids]
    rfl

/-- No two attributes have the same name, in whatever letter case. -/
def DistinctTypes (attrs : List LdapPartialAttribute) : Prop :=
  attrs.Pairwise fun a b => asciiLower a.atype ≠ asciiLower b.atype

theorem Ordered.distinctTypes {keys : List (AttributeName × String)} (h : Ordered keys)
    (hkeys : ∀ k ∈ keys, k.1 = .new k.2) : DistinctTypes (keys.filterMap (shownAttribute values)) := by
  have hne : keys.Pairwise fun k k' => asciiLower k.2 ≠ asciiLower k'.2 := by
    refine List.Pairwise.imp_of_mem (fun {k k'} hk hk' hlt => ?_) h
    rw [hkeys k hk, hkeys k' hk'] at hlt
    exact hlt.ne
  refine List.Pairwise.filterMap _ (fun k k' hne a ha b hb => ?_) hne
  obtain ⟨_, -, rfl⟩ := Option.map_eq_some_iff.mp ha
  obtain ⟨_, -, rfl⟩ := Option.map_eq_some_iff.mp hb
  exact hne

theorem DistinctTypes.inject {attrs : List LdapPartialAttribute} (h : DistinctTypes attrs)
    (structuralClass baseDnStr : String) :
    DistinctTypes (injectOperationalAttributes attrs structuralClass baseDnStr) := by
  refine List.pairwise_append.mpr ⟨h, List.Pairwise.filter _ ?_, fun a ha b hb => ?_⟩
  · simp only [List.pairwise_cons, List.mem_cons, List.not_mem_nil, or_false, forall_eq_or_imp,
      forall_eq, false_implies, implies_true, List.Pairwise.nil, and_true]
    decide
  · obtain ⟨-, hnew⟩ := List.mem_filter.mp hb
    simp only [Bool.not_eq_true', List.any_eq_false, decide_eq_true_eq] at hnew
    exact hnew a ha

theorem firstOfEachType_sublist (attrs : List LdapPartialAttribute) :
    List.Sublist (firstOfEachType attrs) attrs := by
  have hfold : ∀ kept, List.Sublist (attrs.foldl (fun kept a =>
      if kept.any fun k => k.atype = a.atype then kept else kept ++ [a]) kept) (kept ++ attrs) := by
    induction attrs with
    | nil => simp
    | cons a attrs ih =>
      intro kept
      refine (ih _).trans ?_
      dsimp only
      split
      · exact List.Sublist.append_left (List.sublist_cons_self a attrs) kept
      · simp
  exact hfold []

theorem entryAttributes_distinct {keys : List (AttributeName × String)} (horder : Ordered keys)
    (hkeys : ∀ k ∈ keys, k.1 = .new k.2) (h : ∀ k ∈ keys, ∃ v, values k.1 = .ok v)
    (includeOperational : Bool) (structuralClass baseDnStr : String) :
    ∃ attrs, entryAttributes values keys includeOperational structuralClass baseDnStr = .ok attrs ∧
      DistinctTypes attrs := by
  refine ⟨_, entryAttributes_eq h _ _ _, List.Pairwise.sublist (firstOfEachType_sublist _) ?_⟩
  have hshown : DistinctTypes ((keys.filter fun k =>
      !getSchemaManager.isOperational k.1.asStr || includeOperational).filterMap
        (shownAttribute values)) :=
    Ordered.distinctTypes (List.Pairwise.filter _ horder) fun k hk =>
      hkeys k (List.mem_of_mem_filter hk)
  split
  · exact hshown.inject _ _
  · exact hshown

end

/-! ## The values of an entry -/

def valuesOf (e : LdapSearchResultEntry) (name : AttributeName) : List Bytes :=
  ((e.attributes.find? fun a => AttributeName.new a.atype = name).map
    LdapPartialAttribute.vals).getD []

theorem valuesOf_eq {e : LdapSearchResultEntry} {name : AttributeName} {vals : List Bytes}
    (hsome : ∃ a ∈ e.attributes, AttributeName.new a.atype = name)
    (hall : ∀ a ∈ e.attributes, AttributeName.new a.atype = name → a.vals = vals) :
    valuesOf e name = vals := by
  unfold valuesOf
  cases hfind : e.attributes.find? fun a => AttributeName.new a.atype = name with
  | none =>
    obtain ⟨a, ha, hname⟩ := hsome
    exact absurd hname (by simpa using List.find?_eq_none.mp hfind a ha)
  | some a =>
    have hname : AttributeName.new a.atype = name := by simpa using List.find?_some hfind
    exact hall a (List.mem_of_find?_eq_some hfind) hname

theorem exists_firstOfEachType {attrs : List LdapPartialAttribute} {a : LdapPartialAttribute}
    (h : a ∈ attrs) : ∃ b ∈ firstOfEachType attrs, b.atype = a.atype := by
  have hfold : ∀ kept, (∃ b ∈ kept, b.atype = a.atype) ∨ a ∈ attrs →
      ∃ b ∈ attrs.foldl (fun kept a =>
        if kept.any fun k => k.atype = a.atype then kept else kept ++ [a]) kept,
        b.atype = a.atype := by
    clear h
    induction attrs with
    | nil => exact fun kept h => h.resolve_right List.not_mem_nil
    | cons c attrs ih =>
      intro kept h
      refine ih _ ?_
      dsimp only
      rcases h with ⟨b, hb, htype⟩ | h
      · refine .inl ⟨b, ?_, htype⟩
        split
        · exact hb
        · exact List.mem_append_left _ hb
      rcases List.mem_cons.mp h with rfl | h
      · left
        split
        · rename_i hany
          simpa using hany
        · exact ⟨a, by simp, rfl⟩
      · exact .inr h
  exact hfold [] (.inr h)

def injectedNames : List AttributeName :=
  ["hasSubordinates", "structuralObjectClass", "subschemaSubentry", "creatorsName",
    "modifiersName"].map .new

def injectedAttributes (structuralClass baseDnStr : String) : List LdapPartialAttribute := [
  ⟨"hasSubordinates", [utf8 "FALSE"]⟩,
  ⟨"structuralObjectClass", [utf8 structuralClass]⟩,
  ⟨"subschemaSubentry", [utf8 ("cn=Subschema," ++ baseDnStr)]⟩,
  ⟨"creatorsName", [utf8 ("cn=admin,ou=people," ++ baseDnStr)]⟩,
  ⟨"modifiersName", [utf8 ("cn=admin,ou=people," ++ baseDnStr)]⟩]

theorem injectOperationalAttributes_eq (attrs : List LdapPartialAttribute)
    (structuralClass baseDnStr : String) :
    injectOperationalAttributes attrs structuralClass baseDnStr =
      attrs ++ (injectedAttributes structuralClass baseDnStr).filter fun new =>
        !attrs.any fun a => asciiLower a.atype = asciiLower new.atype := rfl

theorem injectedAttributes_names (structuralClass baseDnStr : String) :
    (injectedAttributes structuralClass baseDnStr).map (fun a => AttributeName.new a.atype) =
      injectedNames := rfl

theorem mem_injectOperationalAttributes {attrs : List LdapPartialAttribute}
    {structuralClass baseDnStr : String} {a : LdapPartialAttribute}
    (h : a ∈ injectOperationalAttributes attrs structuralClass baseDnStr) :
    a ∈ attrs ∨ AttributeName.new a.atype ∈ injectedNames := by
  rw [injectOperationalAttributes_eq] at h
  refine (List.mem_append.mp h).imp_right fun h => ?_
  rw [← injectedAttributes_names structuralClass baseDnStr]
  exact List.mem_map_of_mem (List.mem_of_mem_filter h)

theorem exists_injectOperationalAttributes (attrs : List LdapPartialAttribute)
    (structuralClass baseDnStr : String) {name : AttributeName} (h : name ∈ injectedNames) :
    ∃ a ∈ injectOperationalAttributes attrs structuralClass baseDnStr,
      AttributeName.new a.atype = name := by
  rw [← injectedAttributes_names structuralClass baseDnStr] at h
  obtain ⟨new, hnew, rfl⟩ := List.mem_map.mp h
  rw [injectOperationalAttributes_eq]
  by_cases hany : ∃ a ∈ attrs, asciiLower a.atype = asciiLower new.atype
  · obtain ⟨a, ha, hlower⟩ := hany
    refine ⟨a, List.mem_append_left _ ha, ?_⟩
    simp only [AttributeName.new, CaseInsensitiveString.new, hlower]
  · refine ⟨new, List.mem_append_right _ (List.mem_filter.mpr ⟨hnew, ?_⟩), rfl⟩
    simpa using hany

theorem mem_entryAttributes {values : AttributeName → Except String (Option (List Bytes))}
    {keys : List (AttributeName × String)} {includeOperational : Bool}
    {structuralClass baseDnStr : String} {attrs : List LdapPartialAttribute}
    (h : entryAttributes values keys includeOperational structuralClass baseDnStr = .ok attrs) :
    (∀ a ∈ attrs, (∃ k ∈ keys, a.atype = k.2 ∧ values k.1 = .ok (some a.vals)) ∨
      includeOperational = true ∧ AttributeName.new a.atype ∈ injectedNames) ∧
    (includeOperational = true → ∀ name ∈ injectedNames,
      ∃ a ∈ attrs, AttributeName.new a.atype = name) ∧
    ∀ k ∈ keys, getSchemaManager.isOperational k.1.asStr = false ∨ includeOperational = true →
      ∀ vals, values k.1 = .ok (some vals) → ∃ a ∈ attrs, a.atype = k.2 := by
  obtain ⟨shown, hshown, h⟩ := except_bind_ok.mp h
  cases h
  refine ⟨?_, ?_, ?_⟩
  · intro a ha
    have hmem : a ∈ shown.filterMap id ∨
        includeOperational = true ∧ AttributeName.new a.atype ∈ injectedNames := by
      have ha := (firstOfEachType_sublist _).subset ha
      split at ha
      · rename_i hop
        exact (mem_injectOperationalAttributes ha).imp_right fun hname => ⟨hop, hname⟩
      · exact .inl ha
    refine hmem.imp_left fun hmem => ?_
    obtain ⟨o, ho, rfl⟩ := List.mem_filterMap.mp hmem
    obtain ⟨k, hk, hvals⟩ := Lib.except_mapM_ok hshown _ ho
    obtain ⟨vals, hkey, hsome⟩ := except_bind_ok.mp hvals
    cases vals with
    | none => cases hsome
    | some vals =>
      cases hsome
      exact ⟨k, List.mem_of_mem_filter hk, rfl, hkey⟩
  · intro hop name hname
    obtain ⟨a, ha, rfl⟩ := exists_injectOperationalAttributes (shown.filterMap id) structuralClass
      baseDnStr hname
    rw [if_pos hop]
    obtain ⟨b, hb, htype⟩ := exists_firstOfEachType ha
    exact ⟨b, hb, by rw [htype]⟩
  · intro k hk hop vals hvals
    have hmem : k ∈ keys.filter fun k =>
        !getSchemaManager.isOperational k.1.asStr || includeOperational :=
      List.mem_filter.mpr ⟨hk, by simpa using hop⟩
    obtain ⟨o, ho, hval⟩ := Lib.except_mapM_mem hshown k hmem
    rw [hvals] at hval
    cases hval
    have ha : (⟨k.2, vals⟩ : LdapPartialAttribute) ∈ shown.filterMap id :=
      List.mem_filterMap.mpr ⟨_, ho, rfl⟩
    refine exists_firstOfEachType (a := ⟨k.2, vals⟩) ?_
    split
    · exact List.mem_append_left _ ha
    · exact ha

theorem valuesOf_entry {values : AttributeName → Except String (Option (List Bytes))}
    {keys : List (AttributeName × String)} {includeOperational : Bool}
    {structuralClass baseDnStr dn : String} {attrs : List LdapPartialAttribute}
    {name : AttributeName} {vals : List Bytes}
    (h : entryAttributes values keys includeOperational structuralClass baseDnStr = .ok attrs)
    (hkeys : ∀ k ∈ keys, k.1 = .new k.2) (hkey : ∃ k ∈ keys, k.1 = name)
    (hop : getSchemaManager.isOperational name.asStr = false) (hname : name ∉ injectedNames)
    (hvals : values name = .ok (some vals)) : valuesOf ⟨dn, attrs⟩ name = vals := by
  obtain ⟨hfrom, -, hto⟩ := mem_entryAttributes h
  apply valuesOf_eq
  · obtain ⟨k, hk, rfl⟩ := hkey
    obtain ⟨a, ha, htype⟩ := hto k hk (.inl hop) vals hvals
    exact ⟨a, ha, by rw [htype, ← hkeys k hk]⟩
  · intro a ha hatype
    obtain ⟨k, hk, htype, hval⟩ := (hfrom a ha).resolve_right fun h => hname (hatype ▸ h.2)
    rw [hkeys k hk, ← htype, hatype, hvals] at hval
    exact (Option.some.inj (Except.ok.inj hval)).symm

/-! ## Panics -/

theorem mapUserField_column {attr : AttributeName} {schema : Schema} {column : UserColumn}
    (h : getSchemaManager.mapUserField attr schema = .primaryField column) :
    column ∉ [UserColumn.lowercaseEmail, .passwordHash, .totpSecret, .mfaType] := by
  intro hcolumn
  unfold SchemaManager.mapUserField at h
  cases hr : getSchemaManager.resolveAttribute attr.asStr with
  | none =>
    rw [hr] at h
    dsimp only at h
    split at h <;> cases h
  | some e =>
    obtain ⟨p, hp, rfl⟩ := Option.map_eq_some_iff.mp hr
    have hnot := (getSchemaManager_registered.1 p (List.mem_of_find?_eq_some hp)).2.2 column hcolumn
    rw [hr] at h
    obtain ⟨name, logical, canonical⟩ := p
    cases logical with
    | primary c =>
      cases h
      exact hnot rfl
    | operational =>
      dsimp only at h
      split at h <;> cases h
    | _ => cases h

section

variable [Library] (user : User) (group : Group) {groups : Option (List GroupDetails)}
  {userFilter : Option UserId} {baseDnStr : String} {ignored : List AttributeName} {schema : Schema}
  {attr : AttributeName}

theorem userColumnValues_ok {column : UserColumn}
    (h : column ∉ [UserColumn.lowercaseEmail, .passwordHash, .totpSecret, .mfaType]) :
    ∃ v, userColumnValues user column = .ok v := by
  cases column
  case lowercaseEmail | passwordHash | totpSecret | mfaType => simp at h
  all_goals exact ⟨_, rfl⟩

theorem unmatchedUserAttribute_ok (h : attr.asStr ≠ "*") :
    ∃ v, unmatchedUserAttribute user attr groups ignored = .ok v := by
  unfold unmatchedUserAttribute
  rw [if_neg h]
  repeat' split
  all_goals exact ⟨_, rfl⟩

theorem unmatchedGroupAttribute_ok (h : attr.asStr ≠ "*") :
    ∃ v, unmatchedGroupAttribute group attr ignored = .ok v := by
  unfold unmatchedGroupAttribute
  rw [if_neg h]
  repeat' split
  all_goals exact ⟨_, rfl⟩

theorem getUserAttribute_ok (h : attr.asStr ≠ "*") :
    ∃ v, getUserAttribute user attr baseDnStr groups ignored schema = .ok v := by
  unfold getUserAttribute
  split
  case h_6 column hfield =>
    obtain ⟨v, hv⟩ := userColumnValues_ok user (mapUserField_column hfield)
    rw [hv]
    exact ⟨_, rfl⟩
  case h_8 =>
    obtain ⟨v, hv⟩ := unmatchedUserAttribute_ok user h
    rw [hv]
    exact ⟨_, rfl⟩
  all_goals exact ⟨_, rfl⟩

theorem getGroupAttribute_ok (h : attr.asStr ≠ "*") :
    ∃ v, getGroupAttribute group baseDnStr attr userFilter ignored schema = .ok v := by
  unfold getGroupAttribute
  split
  case h_14 =>
    obtain ⟨v, hv⟩ := unmatchedGroupAttribute_ok group h
    rw [hv]
    exact ⟨_, rfl⟩
  all_goals exact ⟨_, rfl⟩

end

/-! ## Accepted names -/

theorem asciiLower_eq_star {n : String} (h : asciiLower n = "*") : n = "*" := by
  have hlist : n.toList.map Char.toLower = ['*'] := by
    rw [← toList_asciiLower, h]
    rfl
  obtain ⟨c, hc, hlower⟩ := List.map_eq_singleton_iff.mp hlist
  rw [(toLower_eq_iff (by decide) c).mp hlower] at hc
  exact String.toList_inj.mp hc

section

variable [External]

/-- A name that an attribute can have: a built-in one, or one that passes the check on the names of
new attributes. -/
def AcceptedName (n : String) : Prop :=
  (∃ a ∈ PublicSchema.userAttributes ++ PublicSchema.groupAttributes, n ∈ a.name :: a.aliases) ∨
    GraphQL.validateAttributeName n = .ok ()

theorem AcceptedName.not_star {n : String} (h : AcceptedName n) : asciiLower n ≠ "*" := by
  intro hstar
  rw [asciiLower_eq_star hstar] at h
  rcases h with ⟨a, ha, hn⟩ | h
  · have hbuiltin : ∀ a ∈ PublicSchema.userAttributes ++ PublicSchema.groupAttributes,
        "*" ∉ a.name :: a.aliases := by decide
    exact hbuiltin a ha hn
  · simp [GraphQL.validateAttributeName, isAscii] at h

/-- The names of the attributes are accepted. -/
def AcceptedSchema (schema : Schema) : Prop :=
  ∀ a ∈ schema.userAttributes ++ schema.groupAttributes, ∀ n ∈ a.name :: a.aliases, AcceptedName n

end

section

open SchemaManager (pushNew alwaysOperational)

theorem mem_pushNew {keys : List String} {name n : String} (h : n ∈ pushNew keys name) :
    n ∈ keys ∨ n = name := by
  unfold pushNew at h
  split at h
  · exact .inl h
  · simpa using h

theorem foldl_origin {α β γ : Type} {step : γ → α → γ} {M : γ → β → Prop} {F : α → β → Prop}
    (hstep : ∀ acc a b, M (step acc a) b → M acc b ∨ F a b) {l : List α} {acc : γ} {b : β}
    (h : M (l.foldl step acc) b) : M acc b ∨ ∃ a ∈ l, F a b := by
  induction l generalizing acc with
  | nil => exact .inl h
  | cons a l ih =>
    rcases ih h with h | ⟨a', ha', hb⟩
    · rcases hstep acc a b h with h | hb
      · exact .inl h
      · exact .inr ⟨a, List.mem_cons_self, hb⟩
    · exact .inr ⟨a', List.mem_cons_of_mem a ha', hb⟩

theorem getPreferredLdapName_mem (a : AttributeSchema) :
    getPreferredLdapName a ∈ a.name :: a.aliases := by
  unfold getPreferredLdapName
  cases h : a.aliases.find? fun a => standardLdapNames.contains (asciiLower a) with
  | none => exact List.mem_cons_self
  | some n => exact List.mem_cons_of_mem _ (List.mem_of_find?_eq_some h)

theorem mem_wildcardKeys {m : SchemaManager} {schema : Schema} {n : String}
    (h : n ∈ (m.wildcardKeys schema).1 ∨ n ∈ (m.wildcardKeys schema).2) :
    (∃ a ∈ schema.userAttributes ++ schema.groupAttributes, n = getPreferredLdapName a) ∨
      n ∈ alwaysOperational ∨ n = "objectClass" := by
  unfold SchemaManager.wildcardKeys at h
  generalize hacc : List.foldl _ ([], []) (schema.userAttributes ++ schema.groupAttributes) = acc at h
  have hfold : n ∈ acc.1 ∨ n ∈ acc.2 →
      ∃ a ∈ schema.userAttributes ++ schema.groupAttributes, n = getPreferredLdapName a := by
    intro h
    rw [← hacc] at h
    refine (foldl_origin (M := fun (acc : List String × List String) n => n ∈ acc.1 ∨ n ∈ acc.2)
      (F := fun a n => n = getPreferredLdapName a) ?_ h).resolve_left (by simp)
    rintro ⟨standard, operational⟩ a n h
    dsimp only at h
    split at h
    · rcases h with h | h
      · exact .inl (.inl h)
      · exact (mem_pushNew h).imp_left .inr
    · rcases h with h | h
      · exact (mem_pushNew h).imp_left .inl
      · exact .inl (.inr h)
  dsimp only at h
  rcases h with h | h
  · rcases mem_pushNew h with h | h
    · exact .inl (hfold (.inl (List.mem_of_mem_filter h)))
    · exact .inr (.inr h)
  · have hmem := foldl_origin (M := fun acc n => n ∈ acc) (F := fun a n => n = a)
      (fun acc a n => mem_pushNew) (List.mem_of_mem_filter h)
    rcases hmem with h | ⟨_, h, rfl⟩
    · exact .inl (hfold (.inr h))
    · exact .inr (.inl h)

end

/-! ## Entries -/

section

variable [External] {m : SchemaManager} {attrs : List String} {schema : Schema}
  {l : AttributeList} {attributes : List Attribute} {k : AttributeName × String}

omit [External] in
theorem getCanonicalName_not_star {n : String} (h : asciiLower n ≠ "*") :
    asciiLower (getSchemaManager.getCanonicalName n) ≠ "*" := by
  unfold SchemaManager.getCanonicalName
  cases he : getSchemaManager.resolveAttribute n with
  | none => exact h
  | some e =>
    obtain ⟨p, hp, rfl⟩ := Option.map_eq_some_iff.mp he
    exact (getSchemaManager_registered.1 p (List.mem_of_find?_eq_some hp)).2.1

theorem key_not_star (hschema : AcceptedSchema schema) (hattributes : ∀ a ∈ attributes,
      ∃ n, AcceptedName n ∧ a.name = .new n)
    (h : k ∈ withCustomAttributes (getSchemaManager.expandAttributeWildcards attrs schema) l
      attributes) : k.1 = .new k.2 ∧ k.1.asStr ≠ "*" := by
  have hkeys : ∀ k ∈ (getSchemaManager.expandAttributeWildcards attrs schema).attributeKeys,
      k.1 = .new k.2 ∧ k.1.asStr ≠ "*" := by
    intro k hk
    obtain ⟨n, rfl, ⟨a, -, hspecial, rfl⟩ | hn⟩ := getSchemaManager.mem_attributeKeys hk
    · refine ⟨rfl, getCanonicalName_not_star fun hstar => ?_⟩
      rw [SchemaManager.isWildcard, hstar] at hspecial
      cases hspecial
    · refine ⟨rfl, ?_⟩
      rcases mem_wildcardKeys hn with ⟨a, ha, rfl⟩ | hn | rfl
      · exact (hschema a ha _ (getPreferredLdapName_mem a)).not_star
      · have hnone : ∀ n ∈ SchemaManager.alwaysOperational, asciiLower n ≠ "*" := by decide
        exact hnone n hn
      · decide
  unfold withCustomAttributes at h
  split at h
  · rcases mem_foldl_insertKey h with h | ⟨n, hn, rfl⟩
    · exact hkeys k h
    · obtain ⟨a, ha, rfl⟩ := List.mem_map.mp hn
      obtain ⟨n, hn, hname⟩ := hattributes a (List.mem_of_mem_filter ha)
      rw [hname]
      exact ⟨rfl, by simpa using hn.not_star⟩
  · exact hkeys k h

theorem entryAttributes_built {values : AttributeName → Except String (Option (List Bytes))}
    (hschema : AcceptedSchema schema)
    (hattributes : ∀ a ∈ attributes, ∃ n, AcceptedName n ∧ a.name = .new n)
    (hvalues : ∀ attr : AttributeName, attr.asStr ≠ "*" → ∃ v, values attr = .ok v)
    (attrs : List String) (l : AttributeList) (includeOperational : Bool)
    (structuralClass baseDnStr : String) :
    ∃ as, entryAttributes values
        (withCustomAttributes (getSchemaManager.expandAttributeWildcards attrs schema) l attributes)
        includeOperational structuralClass baseDnStr = .ok as ∧ DistinctTypes as := by
  have hkeys {k : AttributeName × String} (hk : k ∈ withCustomAttributes
      (getSchemaManager.expandAttributeWildcards attrs schema) l attributes) :=
    key_not_star hschema hattributes hk
  exact entryAttributes_distinct (ordered_withCustomAttributes _) (fun k hk => (hkeys hk).1)
    (fun k hk => hvalues k.1 (hkeys hk).2) _ _ _

variable [Library]

/-- For every request, an entry is built for every user and every group with accepted attribute names,
whatever the base, and no two of its attributes have the same name. -/
theorem searchEntries_built (hschema : AcceptedSchema schema) (attrs : List String)
    (baseDnStr : String) :
    (∀ (user : User) groups ignored, (∀ a ∈ user.attributes, ∃ n, AcceptedName n ∧ a.name = .new n) →
      ∃ e, makeLdapSearchUserResultEntry user baseDnStr
          (getSchemaManager.expandAttributeWildcards attrs schema) groups ignored schema = .ok e ∧
        DistinctTypes e.attributes) ∧
    ∀ (group : Group) userFilter ignored,
      (∀ a ∈ group.attributes, ∃ n, AcceptedName n ∧ a.name = .new n) →
      ∃ e, makeLdapSearchGroupResultEntry group baseDnStr
          (getSchemaManager.expandAttributeWildcards attrs schema) userFilter ignored schema = .ok e ∧
        DistinctTypes e.attributes := by
  refine ⟨fun user groups ignored hattributes => ?_, fun group userFilter ignored hattributes => ?_⟩
  · have hvalues (attr : AttributeName) (h : attr.asStr ≠ "*") :
        ∃ v, getUserAttribute user attr baseDnStr groups ignored schema = .ok v :=
      getUserAttribute_ok user h
    unfold makeLdapSearchUserResultEntry
    obtain ⟨as, has, hdistinct⟩ := entryAttributes_built hschema hattributes hvalues attrs
      schema.userAttributes
      (getSchemaManager.expandAttributeWildcards attrs schema).includeOperationalAttributes
      "inetOrgPerson" baseDnStr
    dsimp only
    rw [has]
    exact ⟨_, rfl, hdistinct⟩
  · have hvalues (attr : AttributeName) (h : attr.asStr ≠ "*") :
        ∃ v, getGroupAttribute group baseDnStr attr userFilter ignored schema = .ok v :=
      getGroupAttribute_ok group h
    unfold makeLdapSearchGroupResultEntry
    obtain ⟨as, has, hdistinct⟩ := entryAttributes_built hschema hattributes hvalues attrs
      schema.groupAttributes
      (getSchemaManager.expandAttributeWildcards attrs schema).includeOperationalAttributes
      "groupOfUniqueNames" baseDnStr
    dsimp only
    rw [has]
    exact ⟨_, rfl, hdistinct⟩

omit [Library] in
theorem acceptedSchema_get : AcceptedSchema PublicSchema.get :=
  fun a ha _ hn => .inl ⟨a, ha, hn⟩

end

section

open Plain

def aliceWithHobby : User :=
  { (userRow "alice").toUser with attributes := [⟨.new "hobby", .string (.singleton "chess")⟩] }

/-- Everything, and an attribute that is part of it once more. -/
theorem searchEntries_built_alice :
    ∃ e, makeLdapSearchUserResultEntry aliceWithHobby "dc=example,dc=com"
        (getSchemaManager.expandAttributeWildcards ["*", "+", "HOBBY"] PublicSchema.get) none []
        PublicSchema.get = .ok e ∧ DistinctTypes e.attributes := by
  refine (searchEntries_built acceptedSchema_get _ _).1 aliceWithHobby none [] fun a ha => ?_
  rw [List.mem_singleton.mp ha]
  exact ⟨"hobby", .inr (by decide), rfl⟩

end

end Ldap
end Klldap
