import Klldap.Ldap.Entries

/-!
# Klldap.Ldap.Aliases: the names of one attribute

The manager registers an attribute under the name that LDAP clients know and under its aliases, over
whatever was registered before, and not under its own name unless that is the preferred one. A name
that is not registered is looked up in the schema.
-/

namespace Klldap
namespace Ldap

open Lib.Text
open SchemaManager (isUuidName groupFieldOfColumn)

/-! ## Registrations -/

def registers (a : AttributeSchema) (n : String) : Bool :=
  (getPreferredLdapName a :: a.aliases).any fun s => eqIgnoreAsciiCase s n

def logicalAttr (a : AttributeSchema) : LogicalAttr :=
  determineLogicalAttr a (getPreferredLdapName a)

/-- What the name was last registered as: for a group attribute, a user attribute or a core one. -/
def lastRegistration (schema : Schema) (n : String) : Option LogicalAttr :=
  (((schema.userAttributes ++ schema.groupAttributes).reverse.find? fun a => registers a n).map
    logicalAttr).or
  ((coreAttrs.reverse.find? fun c => (c.2.1 :: c.2.2).any fun s => eqIgnoreAsciiCase s n).map
    Prod.fst)

theorem resolveAttribute_cons (m : SchemaManager) (k n : String) (v : LogicalAttr × String) :
    SchemaManager.resolveAttribute ((asciiLower k, v) :: m) n =
      if eqIgnoreAsciiCase k n then some v else m.resolveAttribute n := by
  unfold SchemaManager.resolveAttribute
  rw [List.find?_cons, eqIgnoreAsciiCase]
  by_cases h : asciiLower k = asciiLower n
  · simp [h]
  · simp [h]

theorem resolveAttribute_register (m : SchemaManager) (logical : LogicalAttr) (canonical : String)
    (aliases : List String) (n : String) :
    SchemaManager.resolveAttribute (register m logical canonical aliases) n =
      if (canonical :: aliases).any fun s => eqIgnoreAsciiCase s n then some (logical, canonical)
      else m.resolveAttribute n := by
  have hfold : ∀ m₀ : SchemaManager, (asciiLower canonical = asciiLower n →
        m₀.resolveAttribute n = some (logical, canonical)) →
      SchemaManager.resolveAttribute (aliases.foldl (fun m a =>
        if asciiLower a ≠ asciiLower canonical then (asciiLower a, (logical, canonical)) :: m
        else m) m₀) n =
      if aliases.any fun s => eqIgnoreAsciiCase s n then some (logical, canonical)
      else m₀.resolveAttribute n := by
    induction aliases with
    | nil => exact fun m₀ _ => rfl
    | cons a aliases ih =>
      intro m₀ hm₀
      have hstep : SchemaManager.resolveAttribute (if asciiLower a ≠ asciiLower canonical then
            (asciiLower a, (logical, canonical)) :: m₀ else m₀) n =
          if eqIgnoreAsciiCase a n then some (logical, canonical) else m₀.resolveAttribute n := by
        by_cases hcanonical : asciiLower a = asciiLower canonical
        · rw [if_neg (not_not.mpr hcanonical)]
          split
          · rename_i hn
            exact hm₀ (hcanonical.symm.trans (eqIgnoreAsciiCase_iff.mp hn))
          · rfl
        · rw [if_pos hcanonical, resolveAttribute_cons]
      rw [List.foldl_cons, ih, hstep, List.any_cons]
      · cases eqIgnoreAsciiCase a n <;> cases aliases.any fun s => eqIgnoreAsciiCase s n <;> rfl
      · intro hn
        rw [hstep, hm₀ hn, ite_self]
  have hself : SchemaManager.resolveAttribute ((asciiLower canonical, (logical, canonical)) :: m) n =
      if eqIgnoreAsciiCase canonical n then some (logical, canonical) else m.resolveAttribute n :=
    resolveAttribute_cons m canonical n _
  unfold register
  rw [hfold, hself, List.any_cons]
  · cases eqIgnoreAsciiCase canonical n <;> cases aliases.any fun s => eqIgnoreAsciiCase s n <;> rfl
  · intro hn
    rw [hself, if_pos (eqIgnoreAsciiCase_iff.mpr hn)]

theorem resolveAttribute_foldl {α : Type} (logical : α → LogicalAttr) (canonical : α → String)
    (aliases : α → List String) (l : List α) (m : SchemaManager) (n : String) :
    SchemaManager.resolveAttribute
        (l.foldl (fun m a => register m (logical a) (canonical a) (aliases a)) m) n =
      ((l.reverse.find? fun a => (canonical a :: aliases a).any fun s => eqIgnoreAsciiCase s n).map
        fun a => (logical a, canonical a)).or (m.resolveAttribute n) := by
  induction l generalizing m with
  | nil => rfl
  | cons a l ih =>
    rw [List.foldl_cons, ih, resolveAttribute_register, List.reverse_cons, List.find?_append]
    cases l.reverse.find? fun a => (canonical a :: aliases a).any fun s => eqIgnoreAsciiCase s n with
    | some b => rfl
    | none =>
      cases h : (canonical a :: aliases a).any fun s => eqIgnoreAsciiCase s n with
      | true =>
        rw [List.find?_cons, h]
        rfl
      | false =>
        rw [List.find?_cons, h]
        rfl

theorem resolveAttribute_new (schema : Schema) (n : String) :
    ((SchemaManager.new schema).resolveAttribute n).map Prod.fst = lastRegistration schema n := by
  have hcore := resolveAttribute_foldl (fun c => c.1) (fun c => c.2.1) (fun c => c.2.2) coreAttrs [] n
  have hschema := resolveAttribute_foldl logicalAttr getPreferredLdapName AttributeSchema.aliases
    (schema.userAttributes ++ schema.groupAttributes)
    (coreAttrs.foldl (fun m a => register m a.1 a.2.1 a.2.2) []) n
  rw [hcore] at hschema
  have hnew : (SchemaManager.new schema).resolveAttribute n = _ := hschema
  rw [hnew, lastRegistration]
  unfold registers
  cases (schema.userAttributes ++ schema.groupAttributes).reverse.find? fun a =>
      (getPreferredLdapName a :: a.aliases).any fun s => eqIgnoreAsciiCase s n with
  | some a => rfl
  | none =>
    cases coreAttrs.reverse.find? fun c => (c.2.1 :: c.2.2).any fun s => eqIgnoreAsciiCase s n with
    | some c => rfl
    | none => rfl

example : lastRegistration PublicSchema.get "CN" = some (.primary .displayName) := by
  decide +kernel

/-! ## Fields -/

def userField (field : AttributeName) : LogicalAttr → UserFieldType
  | .objectClass => .objectClass
  | .memberOf => .memberOf
  | .dn => .dn
  | .entryDn => .entryDn
  | .operational => if isUuidName field then .entryUuid else .noMatch
  | .primary column => .primaryField column
  | .custom internal t isList => .attr (.new internal) t isList

def groupField (field : AttributeName) : LogicalAttr → GroupFieldType
  | .objectClass => .objectClass
  | .memberOf => .memberOf
  | .dn => .dn
  | .entryDn => .entryDn
  | .operational => if isUuidName field then .entryUuid else .noMatch
  | .primary column => groupFieldOfColumn column
  | .custom internal t isList => .attr (.new internal) t isList

def registeredUserField (schema : Schema) (n : String) : Option UserFieldType :=
  (lastRegistration schema n).map (userField (.new n))

def registeredGroupField (schema : Schema) (n : String) : Option GroupFieldType :=
  (lastRegistration schema n).map (groupField (.new n))

/-- The user field of an attribute that is found by its own name in the schema only. -/
def ownUserField (a : AttributeSchema) : UserFieldType :=
  .attr (.new a.name) a.attributeType a.isList

def ownGroupField (a : AttributeSchema) : GroupFieldType :=
  if eqIgnoreAsciiCase a.name "member" then .member
  else if eqIgnoreAsciiCase a.name "uniquemember" then .uniqueMember
  else .attr (.new a.name) a.attributeType a.isList

/-- No two attributes have a name or an alias in common, in whatever letter case. -/
def Unambiguous (l : AttributeList) : Prop :=
  ∀ a ∈ l, ∀ b ∈ l, ∀ n, a.answersTo n = true → b.answersTo n = true → a = b

theorem lastRegistration_asciiLower (schema : Schema) (n : String) :
    lastRegistration schema (asciiLower n) = lastRegistration schema n := by
  simp [lastRegistration, registers, eqIgnoreAsciiCase]

theorem answersTo_iff {a : AttributeSchema} {n : String} :
    a.answersTo n = true ↔ ∃ s ∈ a.name :: a.aliases, asciiLower s = asciiLower n := by
  simp [AttributeSchema.answersTo, eqIgnoreAsciiCase]

theorem answersTo_of_mem {a : AttributeSchema} {n : String} (h : n ∈ a.name :: a.aliases) :
    a.answersTo n = true := answersTo_iff.mpr ⟨n, h, rfl⟩

theorem answersTo_name (a : AttributeSchema) : a.answersTo a.name = true :=
  answersTo_of_mem List.mem_cons_self

theorem Unambiguous.getAttributeType {l : AttributeList} (h : Unambiguous l) {a : AttributeSchema}
    (ha : a ∈ l) : getAttributeType l (AttributeName.new a.name).asStr =
      some (a.attributeType, a.isList) := by
  have hfind : getByNameOrAlias l (AttributeName.new a.name).asStr = some a := by
    rw [AttributeName.asStr_new, getByNameOrAlias_asciiLower, getByNameOrAlias]
    cases hf : l.find? fun b => b.answersTo a.name with
    | none => exact absurd (answersTo_name a) (List.find?_eq_none.mp hf a ha)
    | some b =>
      have hanswers : b.answersTo a.name = true := by simpa using List.find?_some hf
      rw [h b (List.mem_of_find?_eq_some hf) a ha a.name hanswers (answersTo_name a)]
  rw [Klldap.getAttributeType, hfind]
  rfl

section

variable {schema : Schema} {a : AttributeSchema}

theorem mapUserField_registered {n : String} {field : UserFieldType}
    (h : registeredUserField schema n = some field) :
    (SchemaManager.new schema).mapUserField (.new n) schema = field := by
  obtain ⟨l, hl, rfl⟩ := Option.map_eq_some_iff.mp h
  rw [← lastRegistration_asciiLower, ← resolveAttribute_new] at hl
  obtain ⟨⟨l', canonical⟩, hresolve, rfl⟩ := Option.map_eq_some_iff.mp hl
  unfold SchemaManager.mapUserField
  rw [AttributeName.asStr_new, hresolve]
  cases l' <;> rfl

theorem mapUserField_name (h : Unambiguous schema.userAttributes) (ha : a ∈ schema.userAttributes) :
    (SchemaManager.new schema).mapUserField (.new a.name) schema =
      (registeredUserField schema a.name).getD (ownUserField a) := by
  cases hr : registeredUserField schema a.name with
  | some field => exact mapUserField_registered hr
  | none =>
    have hl := Option.map_eq_none_iff.mp hr
    rw [← lastRegistration_asciiLower, ← resolveAttribute_new, Option.map_eq_none_iff] at hl
    unfold SchemaManager.mapUserField
    rw [← AttributeName.asStr_new] at hl
    rw [hl]
    dsimp only
    rw [h.getAttributeType ha]
    rfl

theorem mapGroupField_registered {n : String} {field : GroupFieldType}
    (h : registeredGroupField schema n = some field) :
    (SchemaManager.new schema).mapGroupField (.new n) schema = field := by
  obtain ⟨l, hl, rfl⟩ := Option.map_eq_some_iff.mp h
  rw [← lastRegistration_asciiLower, ← resolveAttribute_new] at hl
  obtain ⟨⟨l', canonical⟩, hresolve, rfl⟩ := Option.map_eq_some_iff.mp hl
  unfold SchemaManager.mapGroupField
  rw [AttributeName.asStr_new, hresolve]
  cases l' <;> rfl

theorem mapGroupField_name (h : Unambiguous schema.groupAttributes)
    (ha : a ∈ schema.groupAttributes) :
    (SchemaManager.new schema).mapGroupField (.new a.name) schema =
      (registeredGroupField schema a.name).getD (ownGroupField a) := by
  cases hr : registeredGroupField schema a.name with
  | some field => exact mapGroupField_registered hr
  | none =>
    have hl := Option.map_eq_none_iff.mp hr
    rw [← lastRegistration_asciiLower, ← resolveAttribute_new, Option.map_eq_none_iff,
      ← AttributeName.asStr_new] at hl
    unfold SchemaManager.mapGroupField
    rw [hl]
    dsimp only
    rw [h.getAttributeType ha]
    simp only [Option.getD_none, ownGroupField, AttributeName.asStr_new, eqIgnoreAsciiCase,
      asciiLower_idem]
    rfl

/-- All the names of the attribute, in every letter case, are mapped alike. -/
def SameField {F : Type} (map : AttributeName → F) (a : AttributeSchema) : Prop :=
  ∀ n n', a.answersTo n = true → a.answersTo n' = true → map (.new n) = map (.new n')

/-- The aliases are registered as the same field as the preferred name, and so is the name of the
attribute; if that is not registered, the field is the one that the schema has for it. -/
def Coherent {F : Type} (registered : String → Option F) (own : F) (a : AttributeSchema) : Prop :=
  (∀ n ∈ a.aliases, registered n = registered (getPreferredLdapName a)) ∧
    registered (getPreferredLdapName a) = some ((registered a.name).getD own)

theorem sameField_iff {F : Type} {map : AttributeName → F} {registered : String → Option F} {own : F}
    (hmap : ∀ n field, registered n = some field → map (.new n) = field)
    (hname : map (.new a.name) = (registered a.name).getD own)
    (hsome : ∀ n ∈ getPreferredLdapName a :: a.aliases, (registered n).isSome = true) :
    SameField map a ↔ Coherent registered own a := by
  obtain ⟨field, hfield⟩ := Option.isSome_iff_exists.mp (hsome _ List.mem_cons_self)
  have hpreferred : a.answersTo (getPreferredLdapName a) = true :=
    answersTo_of_mem (getPreferredLdapName_mem a)
  constructor
  · intro h
    refine ⟨fun n hn => ?_, ?_⟩
    · obtain ⟨field', hfield'⟩ := Option.isSome_iff_exists.mp (hsome n (List.mem_cons_of_mem _ hn))
      have hanswers : a.answersTo n = true := answersTo_of_mem (List.mem_cons_of_mem _ hn)
      rw [hfield', hfield, ← hmap n _ hfield', ← hmap _ _ hfield, h n _ hanswers hpreferred]
    · rw [hfield, ← hname, ← hmap _ _ hfield, h _ _ hpreferred (answersTo_name a)]
  · rintro ⟨haliases, hown⟩ n n' hn hn'
    have hall (n : String) (hn : a.answersTo n = true) : map (.new n) = field := by
      obtain ⟨s, hs, hlower⟩ := answersTo_iff.mp hn
      have hnew : AttributeName.new n = .new s := by
        simp only [AttributeName.new, CaseInsensitiveString.new, hlower]
      rw [hnew]
      rcases List.mem_cons.mp hs with rfl | hs
      · rw [hname]
        exact Option.some.inj (hown.symm.trans hfield)
      · exact hmap s field ((haliases s hs).trans hfield)
    rw [hall n hn, hall n' hn']

theorem lastRegistration_isSome (ha : a ∈ schema.userAttributes ++ schema.groupAttributes)
    {n : String} (hn : n ∈ getPreferredLdapName a :: a.aliases) :
    (lastRegistration schema n).isSome = true := by
  have hfind : ((schema.userAttributes ++ schema.groupAttributes).reverse.find? fun a =>
      registers a n).isSome = true := by
    rw [List.find?_isSome]
    exact ⟨a, List.mem_reverse.mpr ha, List.any_eq_true.mpr ⟨n, hn, by simp [eqIgnoreAsciiCase]⟩⟩
  rw [lastRegistration, Option.isSome_or, Option.isSome_map, hfind, Bool.true_or]

/-- In a schema whose names are unambiguous, the names of a user attribute and those of a group
attribute are mapped alike exactly if they are registered alike. -/
theorem names_coherent_iff (hu : Unambiguous schema.userAttributes)
    (hg : Unambiguous schema.groupAttributes) :
    (∀ a ∈ schema.userAttributes,
      SameField (fun field => (SchemaManager.new schema).mapUserField field schema) a ↔
        Coherent (registeredUserField schema) (ownUserField a) a) ∧
    ∀ a ∈ schema.groupAttributes,
      SameField (fun field => (SchemaManager.new schema).mapGroupField field schema) a ↔
        Coherent (registeredGroupField schema) (ownGroupField a) a := by
  refine ⟨fun a ha => ?_, fun a ha => ?_⟩
  · refine sameField_iff (fun n field => mapUserField_registered) (mapUserField_name hu ha) ?_
    intro n hn
    rw [registeredUserField, Option.isSome_map]
    exact lastRegistration_isSome (List.mem_append_left _ ha) hn
  · refine sameField_iff (fun n field => mapGroupField_registered) (mapGroupField_name hg ha) ?_
    intro n hn
    rw [registeredGroupField, Option.isSome_map]
    exact lastRegistration_isSome (List.mem_append_right _ ha) hn

end

theorem unambiguous_of_pairwise {l : AttributeList} (h : l.Pairwise fun a b =>
    ∀ s ∈ a.name :: a.aliases, ∀ t ∈ b.name :: b.aliases, asciiLower s ≠ asciiLower t) :
    Unambiguous l := by
  intro a ha b hb n hn hn'
  obtain ⟨s, hs, hlower⟩ := answersTo_iff.mp hn
  obtain ⟨t, ht, hlower'⟩ := answersTo_iff.mp hn'
  have : Std.Symm fun a b : AttributeSchema =>
      ∀ s ∈ a.name :: a.aliases, ∀ t ∈ b.name :: b.aliases, asciiLower s ≠ asciiLower t :=
    ⟨fun _ _ h s hs t ht => (h t ht s hs).symm⟩
  by_contra hne
  exact h.forall ha hb hne s hs t ht (hlower.trans hlower'.symm)

theorem publicUserAttributes_unambiguous : Unambiguous PublicSchema.get.userAttributes :=
  unambiguous_of_pairwise (by decide +kernel)

theorem publicGroupAttributes_unambiguous : Unambiguous PublicSchema.get.groupAttributes :=
  unambiguous_of_pairwise (by decide +kernel)

/-- `first_name` and `givenName` are the stored first name. -/
theorem firstName_coherent : ∃ a ∈ PublicSchema.get.userAttributes, a.name = "firstname" ∧
    SameField (fun field => getSchemaManager.mapUserField field PublicSchema.get) a := by
  simp only [getSchemaManager_eq]
  obtain ⟨a, ha, hname, hcoherent⟩ : ∃ a ∈ PublicSchema.get.userAttributes, a.name = "firstname" ∧
      (∀ n ∈ a.aliases, registeredUserField PublicSchema.get n =
        registeredUserField PublicSchema.get (getPreferredLdapName a)) ∧
      registeredUserField PublicSchema.get (getPreferredLdapName a) =
        some ((registeredUserField PublicSchema.get a.name).getD (ownUserField a)) := by
    decide +kernel
  exact ⟨a, ha, hname, ((names_coherent_iff publicUserAttributes_unambiguous
    publicGroupAttributes_unambiguous).1 a ha).mpr hcoherent⟩

/-- `cn` is the display name of a user, and `displayname` an attribute that is stored elsewhere. -/
theorem displayName_mapped_apart : Unambiguous PublicSchema.get.userAttributes ∧
    Unambiguous PublicSchema.get.groupAttributes ∧ ∃ a ∈ PublicSchema.get.userAttributes,
      a.answersTo "cn" = true ∧ a.answersTo "displayname" = true ∧
      (SchemaManager.new PublicSchema.get).mapUserField (.new "cn") PublicSchema.get =
        .primaryField .displayName ∧
      (SchemaManager.new PublicSchema.get).mapUserField (.new "displayname") PublicSchema.get =
        .attr (.new "displayname") .string false :=
  ⟨publicUserAttributes_unambiguous, publicGroupAttributes_unambiguous, by decide +kernel⟩

end Ldap
end Klldap
