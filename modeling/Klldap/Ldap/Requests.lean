import Klldap.Ldap.Entries
import Klldap.Ldap.Restricted

/-!
# Klldap.Ldap.Requests: the attributes that a client asked for

A request lists attributes by any of their names. The entries of users and groups show these and, if
one of them is operational, five operational attributes besides. The entries of organizational units
are made up without a look at the list.
-/

namespace Klldap
namespace Ldap

open Lib (Bytes except_bind_ok)
open Lib.Text
open Opaque (Suite)
open SchemaManager (isWildcard alwaysOperational insertKey)

/-! ## Names -/

/-- One of the names in the list is a name of the attribute `t`. -/
def Names (attrs : List String) (t : String) : Prop :=
  ∃ a ∈ attrs, asciiLower (getSchemaManager.getCanonicalName a) =
    asciiLower (getSchemaManager.getCanonicalName t)

/-- One of the names in the list is that of an operational attribute, as far as the server looks. -/
def asksOperational (attrs : List String) : Bool :=
  attrs.any fun a => !isWildcard a && (getSchemaManager.isOperational (getSchemaManager.getCanonicalName a) ||
    alwaysOperational.contains (asciiLower (getSchemaManager.getCanonicalName a)))

theorem getCanonicalName_asciiLower_congr {m : SchemaManager} {n n' : String}
    (h : asciiLower n = asciiLower n') :
    asciiLower (m.getCanonicalName n) = asciiLower (m.getCanonicalName n') := by
  unfold SchemaManager.getCanonicalName
  rw [← resolveAttribute_asciiLower m n, h, resolveAttribute_asciiLower]
  cases m.resolveAttribute n' with
  | none => exact h
  | some e => rfl

theorem getCanonicalName_idem (n : String) :
    asciiLower (getSchemaManager.getCanonicalName (getSchemaManager.getCanonicalName n)) =
      asciiLower (getSchemaManager.getCanonicalName n) := by
  cases he : getSchemaManager.resolveAttribute n with
  | none =>
    have hself : getSchemaManager.getCanonicalName n = n := by
      rw [SchemaManager.getCanonicalName, he]
      rfl
    rw [hself]
    exact congrArg asciiLower hself
  | some e =>
    have hname : getSchemaManager.getCanonicalName n = e.2 := by
      rw [SchemaManager.getCanonicalName, he]
      rfl
    obtain ⟨p, hp, rfl⟩ := Option.map_eq_some_iff.mp he
    rw [hname]
    exact getSchemaManager_canonical p (List.mem_of_find?_eq_some hp)

theorem names_canonical {attrs : List String} {a : String} (ha : a ∈ attrs) :
    Names attrs (getSchemaManager.getCanonicalName a) :=
  ⟨a, ha, (getCanonicalName_idem a).symm⟩

theorem Names.congr {attrs : List String} {t t' : String} (h : Names attrs t)
    (ht : asciiLower t = asciiLower t') : Names attrs t' := by
  obtain ⟨a, ha, hname⟩ := h
  exact ⟨a, ha, hname.trans (getCanonicalName_asciiLower_congr ht)⟩

section

variable {m : SchemaManager} {attrs : List String} {schema : Schema}

theorem expandAttributeWildcards_named (hne : attrs ≠ []) (hstar : "*" ∉ attrs) (hplus : "+" ∉ attrs) :
    m.expandAttributeWildcards attrs schema =
      let keys := ((attrs.filter fun s => !isWildcard s).map m.getCanonicalName).foldl insertKey []
      ⟨keys, false, keys.any fun k => m.isOperational k.1.asStr ||
        alwaysOperational.contains (asciiLower k.1.asStr)⟩ := by
  have hempty : attrs.isEmpty = false := by simpa using hne
  have hstar : attrs.contains "*" = false := by simpa using hstar
  have hplus : attrs.contains "+" = false := by simpa using hplus
  unfold SchemaManager.expandAttributeWildcards
  dsimp only
  simp only [hempty, hstar, hplus, Bool.or_false, Bool.false_eq_true, if_false, List.append_nil,
    Bool.false_or]

theorem mem_keys_named (hne : attrs ≠ []) (hstar : "*" ∉ attrs) (hplus : "+" ∉ attrs)
    {k : AttributeName × String}
    (hk : k ∈ (m.expandAttributeWildcards attrs schema).attributeKeys) :
    ∃ a ∈ attrs, isWildcard a = false ∧ k = (.new (m.getCanonicalName a), m.getCanonicalName a) := by
  rw [expandAttributeWildcards_named hne hstar hplus] at hk
  obtain hk | ⟨n, hn, rfl⟩ := SchemaManager.mem_foldl_insertKey hk
  · cases hk
  · obtain ⟨a, ha, rfl⟩ := List.mem_map.mp hn
    obtain ⟨ha, hwild⟩ := List.mem_filter.mp ha
    exact ⟨a, ha, by simpa using hwild, rfl⟩

theorem includeOperational_named (hne : attrs ≠ []) (hstar : "*" ∉ attrs) (hplus : "+" ∉ attrs) :
    (getSchemaManager.expandAttributeWildcards attrs schema).includeOperationalAttributes =
      asksOperational attrs := by
  have hlower (n : String) :
      getSchemaManager.isOperational (asciiLower n) = getSchemaManager.isOperational n := by
    rw [SchemaManager.isOperational, resolveAttribute_asciiLower]
    rfl
  have hkeys := @mem_keys_named getSchemaManager attrs schema hne hstar hplus
  rw [expandAttributeWildcards_named hne hstar hplus] at hkeys ⊢
  dsimp only at hkeys ⊢
  rw [Bool.eq_iff_iff, List.any_eq_true, asksOperational, List.any_eq_true]
  constructor
  · rintro ⟨k, hk, hop⟩
    obtain ⟨a, ha, hwild, rfl⟩ := hkeys hk
    refine ⟨a, ha, ?_⟩
    simpa [hwild, hlower] using hop
  · rintro ⟨a, ha, hop⟩
    rw [Bool.and_eq_true] at hop
    have hmem : getSchemaManager.getCanonicalName a ∈
        (attrs.filter fun s => !isWildcard s).map getSchemaManager.getCanonicalName :=
      List.mem_map_of_mem (List.mem_filter.mpr ⟨ha, hop.1⟩)
    obtain ⟨k, hk, hname⟩ : ∃ k ∈ ((attrs.filter fun s => !isWildcard s).map
        getSchemaManager.getCanonicalName).foldl insertKey [],
        k.1 = .new (getSchemaManager.getCanonicalName a) := exists_key_foldl (.inr ⟨_, hmem, rfl⟩)
    refine ⟨k, hk, ?_⟩
    rw [hname]
    simpa [hlower] using hop.2

end

/-! ## Entries -/

/-- The request names the operational attributes that come along with any of them. -/
def RowRequested (attrs : List String) : Prop :=
  asksOperational attrs = true →
    ∀ n ∈ ["hasSubordinates", "structuralObjectClass", "subschemaSubentry", "creatorsName",
      "modifiersName"], Names attrs n

/-- The request names the attributes that every organizational unit is shown with. -/
def OuRequested (attrs : List String) : Prop :=
  (∀ n ∈ ["objectClass", "ou"], Names attrs n) ∧
    (includeOp attrs = true →
      ∀ n ∈ ["hasSubordinates", "structuralObjectClass", "subschemaSubentry", "entryUUID"],
        Names attrs n)

section

variable {attrs : List String}

theorem rowAttributes_requested (hne : attrs ≠ []) (hstar : "*" ∉ attrs) (hplus : "+" ∉ attrs)
    {values : AttributeName → Except String (Option (List Bytes))} {l : AttributeList}
    {attributes : List Attribute} {schema : Schema} {structuralClass baseDnStr : String}
    {shown : List LdapPartialAttribute}
    (h : entryAttributes values
      (withCustomAttributes (getSchemaManager.expandAttributeWildcards attrs schema) l attributes)
      (getSchemaManager.expandAttributeWildcards attrs schema).includeOperationalAttributes
      structuralClass baseDnStr = .ok shown) :
    (∀ a ∈ shown, Names attrs a.atype) ↔ RowRequested attrs := by
  have hcustom : withCustomAttributes (getSchemaManager.expandAttributeWildcards attrs schema) l
      attributes = (getSchemaManager.expandAttributeWildcards attrs schema).attributeKeys := by
    rw [expandAttributeWildcards_named hne hstar hplus]
    rfl
  have hlower {n n' : String} (hn : AttributeName.new n = .new n') : asciiLower n = asciiLower n' :=
    congrArg AttributeName.asStr hn
  rw [hcustom, includeOperational_named hne hstar hplus] at h
  obtain ⟨hfrom, hinjected, -⟩ := mem_entryAttributes h
  constructor
  · intro hall hop n hn
    obtain ⟨a, ha, hname⟩ := hinjected hop (.new n) (List.mem_map_of_mem hn)
    exact (hall a ha).congr (hlower hname)
  · intro hrequested a ha
    rcases hfrom a ha with ⟨k, hk, htype, -⟩ | ⟨hop, hname⟩
    · obtain ⟨b, hb, -, rfl⟩ := mem_keys_named hne hstar hplus hk
      rw [htype]
      exact names_canonical hb
    · obtain ⟨n, hn, hname⟩ := List.mem_map.mp hname
      exact (hrequested hop n hn).congr (hlower hname)

variable [Library]

theorem makeOuEntry_types (ou baseDnStr : String) (includeOperational : Bool) :
    (makeOuEntry ou baseDnStr includeOperational).attributes.map LdapPartialAttribute.atype =
      ["objectClass", "ou"] ++ if includeOperational then
        ["hasSubordinates", "structuralObjectClass", "subschemaSubentry", "entryUUID"] else [] := by
  unfold makeOuEntry
  cases includeOperational with
  | false => rfl
  | true => rfl

theorem ouAttributes_requested (ou baseDnStr : String) :
    (∀ a ∈ (makeOuEntry ou baseDnStr (includeOp attrs)).attributes, Names attrs a.atype) ↔
      OuRequested attrs := by
  rw [← List.forall_mem_map (f := LdapPartialAttribute.atype), makeOuEntry_types,
    List.forall_mem_append, OuRequested]
  refine and_congr_right fun _ => ?_
  split
  · rename_i hop
    simp [hop]
  · rename_i hop
    simp [hop]

end

section

variable [External] [Library] {S : Suite} {setup : S.ServerSetup} {rng : S.Coins} {out : Outside}
  {ldapInfo : LdapInfo} {userInfo : Option ValidationResults} {request : LdapSearchRequest}
  {w : World}

/-- The entry of a user, as a search shows it. -/
def RendersUser (ldapInfo : LdapInfo) (request : LdapSearchRequest) (e : LdapSearchResultEntry) :
    Prop :=
  ∃ u : UserAndGroups, makeLdapSearchUserResultEntry u.user ldapInfo.baseDnStr
    (getSchemaManager.expandAttributeWildcards request.attrs PublicSchema.get) u.groups
    ldapInfo.ignoredUserAttributes PublicSchema.get = .ok e

/-- The entry of a group, as a search shows it. -/
def RendersGroup (ldapInfo : LdapInfo) (request : LdapSearchRequest) (e : LdapSearchResultEntry) :
    Prop :=
  ∃ g : Group, makeLdapSearchGroupResultEntry g ldapInfo.baseDnStr
    (getSchemaManager.expandAttributeWildcards request.attrs PublicSchema.get) none
    ldapInfo.ignoredGroupAttributes PublicSchema.get = .ok e

theorem search_kinds {ops : List LdapOp}
    (h : (doSearchOrDse (sqlServices S setup rng out) ldapInfo userInfo request w).1 = .ok ops)
    {e : LdapSearchResultEntry} (he : e ∈ entriesOf ops) :
    e ∈ [rootDseResponse ldapInfo.baseDnStr, makeLdapSubschemaEntry ldapInfo.baseDnStr,
      rootEntry ldapInfo] ∨
    (∃ ou, e = makeOuEntry ou ldapInfo.baseDnStr (includeOp request.attrs)) ∨
    RendersUser ldapInfo request e ∨ RendersGroup ldapInfo request e := by
  unfold doSearchOrDse at h
  split_ifs at h
  · rw [← Except.ok.inj h, entriesOf_found, List.mem_singleton] at he
    simp [he]
  · rw [← Except.ok.inj h, entriesOf_found, List.mem_singleton] at he
    simp [he]
  · cases userInfo with
    | none => cases h
    | some v =>
      rw [doBoundSearch_fst] at h
      obtain ⟨es, rfl, hes⟩ := doSearch_entries listerOf_readsOnly h
      rw [entriesOf_found] at he
      rcases hes e he with (rfl | hou) | ⟨users, husers, he⟩ | ⟨groups, hgroups, he⟩
      · simp
      · exact .inr (.inl hou)
      · rw [foundUsers_fst listerOf_readsOnly] at husers
        obtain ⟨listed, -, husers⟩ := except_bind_ok.mp husers
        obtain ⟨u, -, hu⟩ := Lib.except_mapM_ok (Lib.except_mapError_ok.mp husers) e he
        exact .inr (.inr (.inl ⟨u, hu⟩))
      · rw [foundGroups_fst listerOf_readsOnly] at hgroups
        obtain ⟨listed, -, hgroups⟩ := except_bind_ok.mp hgroups
        obtain ⟨g, -, hg⟩ := Lib.except_mapM_ok (Lib.except_mapError_ok.mp hgroups) e he
        exact .inr (.inr (.inr ⟨g, hg⟩))

/-- For a request without a wildcard, the entries of users and groups show only what was asked for
exactly if it names the operational attributes that come along with any of them; those of
organizational units exactly if it names all that they have. -/
theorem search_requested (hne : request.attrs ≠ []) (hstar : "*" ∉ request.attrs)
    (hplus : "+" ∉ request.attrs) {ops : List LdapOp}
    (h : (doSearchOrDse (sqlServices S setup rng out) ldapInfo userInfo request w).1 = .ok ops)
    {e : LdapSearchResultEntry} (he : e ∈ entriesOf ops) :
    e ∈ [rootDseResponse ldapInfo.baseDnStr, makeLdapSubschemaEntry ldapInfo.baseDnStr,
      rootEntry ldapInfo] ∨
    (∃ ou, e = makeOuEntry ou ldapInfo.baseDnStr (includeOp request.attrs)) ∧
      ((∀ a ∈ e.attributes, Names request.attrs a.atype) ↔ OuRequested request.attrs) ∨
    (RendersUser ldapInfo request e ∨ RendersGroup ldapInfo request e) ∧
      ((∀ a ∈ e.attributes, Names request.attrs a.atype) ↔ RowRequested request.attrs) := by
  rcases search_kinds h he with hself | ⟨ou, rfl⟩ | hrow
  · exact .inl hself
  · exact .inr (.inl ⟨⟨ou, rfl⟩, ouAttributes_requested ou ldapInfo.baseDnStr⟩)
  · refine .inr (.inr ⟨hrow, ?_⟩)
    rcases hrow with ⟨u, hu⟩ | ⟨g, hg⟩
    · obtain ⟨shown, hshown, hu⟩ := except_bind_ok.mp hu
      rw [← Except.ok.inj hu]
      exact rowAttributes_requested hne hstar hplus hshown
    · obtain ⟨shown, hshown, hg⟩ := except_bind_ok.mp hg
      rw [← Except.ok.inj hg]
      exact rowAttributes_requested hne hstar hplus hshown

end

section Samples

open Plain

theorem search_requested_alice :
    ∃ ops, searchByAlice everything (teamStore ["bob"]) = .ok ops ∧ aliceEntry ∈ entriesOf ops ∧
      (aliceEntry ∈ [rootDseResponse ldapInfo.baseDnStr, makeLdapSubschemaEntry ldapInfo.baseDnStr,
        rootEntry ldapInfo] ∨
      (∃ ou, aliceEntry = makeOuEntry ou ldapInfo.baseDnStr (includeOp ["cn", "uid"])) ∧
        ((∀ a ∈ aliceEntry.attributes, Names ["cn", "uid"] a.atype) ↔ OuRequested ["cn", "uid"]) ∨
      (RendersUser ldapInfo everything aliceEntry ∨ RendersGroup ldapInfo everything aliceEntry) ∧
        ((∀ a ∈ aliceEntry.attributes, Names ["cn", "uid"] a.atype) ↔ RowRequested ["cn", "uid"])) := by
  obtain ⟨ops, hops, hentries⟩ := Lib.except_map_ok.mp everything_by_alice
  have halice : aliceEntry ∈ entriesOf ops := by
    rw [hentries]
    exact List.mem_cons_self
  exact ⟨ops, hops, halice, search_requested (by decide) (by decide) (by decide) hops halice⟩

def teamUnits : Store :=
  { teamStore [] with systemConfig := ⟨[⟨"allowedous", "default"⟩], by decide⟩ }

def shownAtTop (attrs : List String) : LdapSearchRequest :=
  ⟨"dc=example,dc=com", .oneLevel, .present "objectClass", attrs⟩

/-- Asked for no attributes, the server shows the organizational units with their class and name. -/
theorem units_shown_unasked :
    (searchByAlice (shownAtTop ["1.1"]) teamUnits).map entriesOf =
      .ok (["people", "groups"].map fun ou => makeOuEntry ou "dc=example,dc=com" false) ∧
    ∀ ou, ∃ a ∈ (makeOuEntry ou "dc=example,dc=com" false).attributes, ¬ Names ["1.1"] a.atype := by
  refine ⟨by decide +kernel, fun ou => ⟨_, List.mem_cons_self, ?_⟩⟩
  rintro ⟨a, ha, hname⟩
  rw [List.mem_singleton.mp ha] at hname
  exact absurd hname (by decide +kernel)

end Samples

end Ldap
end Klldap
