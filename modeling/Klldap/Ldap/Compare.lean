import Klldap.Ldap.Handler
import Klldap.Ldap.Requests
import Klldap.Ldap.Resolve

/-!
# Klldap.Ldap.Compare: comparing a value with an entry

A `Compare` is a search of the whole tree for the DN, whose entries are then looked through for the
DN and for the name of the attribute. The search renames the attribute to its canonical name and
drops some names, so that the name of the request may not be found in the entry.
-/

namespace Klldap
namespace Ldap

open Lib (Bytes Eff except_bind_ok except_map_ok except_mapError_ok)
open Lib.Bincode (utf8)
open Lib.Text
open Opaque (Suite)
open SchemaManager (isWildcard alwaysOperational insertKey)

/-! ## One attribute -/

/-- The entry, asked for the name `a` alone, shows the value under this name: as one of its own
values, or as that of an injected attribute. -/
def ShowsValue (structuralClass baseDnStr a : String) (values : Option (List Bytes)) (val : Bytes) :
    Prop :=
  (isWildcard a = false ∧ asciiLower (getSchemaManager.getCanonicalName a) = asciiLower a ∧
    val ∈ values.getD []) ∨
  (asksOperational [a] = true ∧ values = none ∧
    ∃ i ∈ injectedAttributes structuralClass baseDnStr,
      AttributeName.new i.atype = .new a ∧ val ∈ i.vals)

/-- The name is one that the answers can be right for: if the entry has values for it, it is neither
dropped nor renamed, and if it has none, it is not injected. -/
def ComparesByName (a : String) : Option (List Bytes) → Prop
  | none => asksOperational [a] = true → .new a ∉ injectedNames
  | some vals => vals ≠ [] →
    isWildcard a = false ∧ asciiLower (getSchemaManager.getCanonicalName a) = asciiLower a

theorem showsValue_iff (structuralClass baseDnStr a : String) (values : Option (List Bytes)) :
    (∀ val, ShowsValue structuralClass baseDnStr a values val ↔ val ∈ values.getD []) ↔
      ComparesByName a values := by
  cases values with
  | none =>
    unfold ShowsValue ComparesByName
    simp only [Option.getD_none, List.not_mem_nil, and_false, false_or, iff_false, true_and]
    constructor
    · intro h hop hname
      rw [← injectedAttributes_names structuralClass baseDnStr] at hname
      obtain ⟨i, hi, hname⟩ := List.mem_map.mp hname
      have hval : ∀ i ∈ injectedAttributes structuralClass baseDnStr, ∃ val, val ∈ i.vals := by
        simp [injectedAttributes]
      obtain ⟨val, hval⟩ := hval i hi
      exact h val ⟨hop, i, hi, hname, hval⟩
    · rintro h val ⟨hop, i, hi, hname, -⟩
      refine h hop ?_
      rw [← hname, ← injectedAttributes_names structuralClass baseDnStr]
      exact List.mem_map_of_mem hi
  | some vals =>
    unfold ShowsValue ComparesByName
    simp only [Option.getD_some, reduceCtorEq, false_and, and_false, or_false]
    constructor
    · intro h hne
      obtain ⟨val, hval⟩ := List.exists_mem_of_ne_nil vals hne
      obtain ⟨hwild, hname, -⟩ := (h val).mpr hval
      exact ⟨hwild, hname⟩
    · refine fun h val => ⟨fun hshown => hshown.2.2, fun hval => ?_⟩
      obtain ⟨hwild, hname⟩ := h (List.ne_nil_of_mem hval)
      exact ⟨hwild, hname, hval⟩

theorem attributeName_new_inj {a b : String} :
    AttributeName.new a = .new b ↔ asciiLower a = asciiLower b :=
  ⟨fun h => congrArg AttributeName.asStr h, fun h => by
    simp only [AttributeName.new, CaseInsensitiveString.new, h]⟩

def hasValue (attributes : List LdapPartialAttribute) (a : String) (val : Bytes) : Bool :=
  attributes.any fun b => AttributeName.new b.atype = AttributeName.new a && b.vals.contains val

theorem hasValue_iff {attributes : List LdapPartialAttribute} {a : String} {val : Bytes} :
    hasValue attributes a val = true ↔
      ∃ b ∈ attributes, AttributeName.new b.atype = .new a ∧ val ∈ b.vals := by
  simp [hasValue]

example : hasValue [⟨"mail", [utf8 "bob"]⟩] "MAIL" (utf8 "bob") = true := by decide +kernel

theorem mem_firstOfEachType {attributes : List LdapPartialAttribute}
    (h : DistinctTypes attributes) {b : LdapPartialAttribute} :
    b ∈ firstOfEachType attributes ↔ b ∈ attributes := by
  refine ⟨fun hb => (firstOfEachType_sublist _).subset hb, fun hb => ?_⟩
  obtain ⟨b', hb', htype⟩ := exists_firstOfEachType hb
  have hmem := (firstOfEachType_sublist _).subset hb'
  by_cases heq : b' = b
  · exact heq ▸ hb'
  · have : Std.Symm fun a b : LdapPartialAttribute => asciiLower a.atype ≠ asciiLower b.atype :=
      ⟨fun _ _ => Ne.symm⟩
    exact absurd (congrArg asciiLower htype) (List.Pairwise.forall h hmem hb heq)

section

variable {values : AttributeName → Except String (Option (List Bytes))} {a : String}
  {schema : Schema} {l : AttributeList} {attributes : List Attribute}

theorem withCustomAttributes_one (hstar : a ≠ "*") (hplus : a ≠ "+") :
    withCustomAttributes (getSchemaManager.expandAttributeWildcards [a] schema) l attributes =
      if isWildcard a then []
      else [(.new (getSchemaManager.getCanonicalName a), getSchemaManager.getCanonicalName a)] := by
  rw [expandAttributeWildcards_named (by simp) (by simpa using hstar.symm)
    (by simpa using hplus.symm), withCustomAttributes]
  cases hw : isWildcard a with
  | true => simp [hw]
  | false => simp [hw, insertKey]

theorem canonical_of_injected {i : LdapPartialAttribute} {structuralClass baseDnStr : String}
    (hi : i ∈ injectedAttributes structuralClass baseDnStr)
    (hname : AttributeName.new i.atype = .new a) :
    asciiLower (getSchemaManager.getCanonicalName a) = asciiLower a := by
  have hmem : i.atype ∈ ["hasSubordinates", "structuralObjectClass", "subschemaSubentry",
      "creatorsName", "modifiersName"] := by
    have hmap := List.mem_map_of_mem (f := LdapPartialAttribute.atype) hi
    exact hmap
  have hlower := attributeName_new_inj.mp hname
  rw [← getCanonicalName_asciiLower_congr hlower, getSchemaManager_registered.2.1 _ hmem, hlower]

theorem isOperational_asciiLower (m : SchemaManager) (n : String) :
    m.isOperational (asciiLower n) = m.isOperational n := by
  rw [SchemaManager.isOperational, resolveAttribute_asciiLower]
  rfl

theorem mem_shownAttribute {c : String} {b : LdapPartialAttribute} :
    b ∈ [(AttributeName.new c, c)].filterMap (shownAttribute values) ↔
      ∃ vals, (values (.new c)).toOption.join = some vals ∧ b = ⟨c, vals⟩ := by
  simp only [List.mem_filterMap, List.mem_singleton, exists_eq_left, shownAttribute,
    Option.map_eq_some_iff]
  exact exists_congr fun vals => and_congr_right fun _ => eq_comm

theorem distinctTypes_shownAttribute
    (values : AttributeName → Except String (Option (List Bytes))) (c : String) :
    DistinctTypes ([(AttributeName.new c, c)].filterMap (shownAttribute values)) :=
  Ordered.distinctTypes (List.pairwise_singleton _ _) fun k hk => by rw [List.mem_singleton.mp hk]

theorem hasValue_shown {c : String} (val : Bytes) :
    (∃ b ∈ [(AttributeName.new c, c)].filterMap (shownAttribute values),
        AttributeName.new b.atype = .new a ∧ val ∈ b.vals) ↔
      asciiLower c = asciiLower a ∧ val ∈ ((values (.new a)).toOption.join).getD [] := by
  simp only [mem_shownAttribute]
  constructor
  · rintro ⟨b, ⟨vals, hvals, rfl⟩, hname, hval⟩
    rw [hname] at hvals
    exact ⟨attributeName_new_inj.mp hname, by rwa [hvals]⟩
  · rintro ⟨hlower, hval⟩
    have hname : AttributeName.new c = .new a := attributeName_new_inj.mpr hlower
    rw [hname]
    cases hvals : (values (.new a)).toOption.join with
    | none =>
      rw [hvals] at hval
      cases hval
    | some vals =>
      rw [hvals] at hval
      exact ⟨⟨c, vals⟩, ⟨vals, rfl, rfl⟩, hname, hval⟩

theorem hasValue_injected {c : String} (hc : getSchemaManager.getCanonicalName a = c)
    (structuralClass baseDnStr : String) (val : Bytes) :
    (∃ b ∈ (injectedAttributes structuralClass baseDnStr).filter (fun new =>
          !([(AttributeName.new c, c)].filterMap (shownAttribute values)).any fun b =>
            asciiLower b.atype = asciiLower new.atype),
        AttributeName.new b.atype = .new a ∧ val ∈ b.vals) ↔
      (values (.new a)).toOption.join = none ∧
        ∃ i ∈ injectedAttributes structuralClass baseDnStr,
          AttributeName.new i.atype = .new a ∧ val ∈ i.vals := by
  simp only [List.mem_filter, Bool.not_eq_true', List.any_eq_false, decide_eq_true_eq]
  have hfree {i : LdapPartialAttribute} (hi : i ∈ injectedAttributes structuralClass baseDnStr)
      (hname : AttributeName.new i.atype = .new a) :
      (∀ b ∈ [(AttributeName.new c, c)].filterMap (shownAttribute values),
          ¬asciiLower b.atype = asciiLower i.atype) ↔
        (values (.new a)).toOption.join = none := by
    have hlower := canonical_of_injected hi hname
    rw [hc] at hlower
    have hcname : AttributeName.new c = .new a := attributeName_new_inj.mpr hlower
    rw [Option.eq_none_iff_forall_ne_some]
    constructor
    · intro h vals hvals
      refine h ⟨c, vals⟩ (mem_shownAttribute.mpr ⟨vals, by rw [hcname, hvals], rfl⟩) ?_
      exact hlower.trans (attributeName_new_inj.mp hname).symm
    · intro h b hb
      obtain ⟨vals, hvals, rfl⟩ := mem_shownAttribute.mp hb
      rw [hcname] at hvals
      exact absurd hvals (h vals)
  constructor
  · rintro ⟨i, ⟨hi, hnone⟩, hname, hval⟩
    exact ⟨(hfree hi hname).mp hnone, i, hi, hname, hval⟩
  · rintro ⟨hnone, i, hi, hname, hval⟩
    exact ⟨i, ⟨hi, (hfree hi hname).mpr hnone⟩, hname, hval⟩

theorem hasValue_entryAttributes (hstar : a ≠ "*") (hplus : a ≠ "+")
    (hvalues : ∀ attr : AttributeName, attr.asStr ≠ "*" → ∃ v, values attr = .ok v)
    (structuralClass baseDnStr : String) :
    ∃ shown, entryAttributes values
        (withCustomAttributes (getSchemaManager.expandAttributeWildcards [a] schema) l attributes)
        (getSchemaManager.expandAttributeWildcards [a] schema).includeOperationalAttributes
        structuralClass baseDnStr = .ok shown ∧
      ∀ val, hasValue shown a val = true ↔
        ShowsValue structuralClass baseDnStr a (values (.new a)).toOption.join val := by
  rw [withCustomAttributes_one hstar hplus, includeOperational_named (by simp)
    (by simpa using hstar.symm) (by simpa using hplus.symm)]
  cases hwild : isWildcard a with
  | true =>
    have hop : asksOperational [a] = false := by simp [asksOperational, hwild]
    refine ⟨[], by rw [hop]; rfl, fun val => ?_⟩
    simp [hasValue, ShowsValue, hwild, hop]
  | false =>
    obtain ⟨c, hc⟩ : ∃ c, getSchemaManager.getCanonicalName a = c := ⟨_, rfl⟩
    have hlower : asciiLower c ≠ "*" := by
      rw [← hc]
      refine getCanonicalName_not_star fun h => ?_
      rw [isWildcard, h] at hwild
      cases hwild
    have hok : ∀ k ∈ [(AttributeName.new c, c)], ∃ v, values k.1 = .ok v := by
      intro k hk
      rw [List.mem_singleton.mp hk]
      exact hvalues _ hlower
    have hkept : [(AttributeName.new c, c)].filter (fun k =>
        !getSchemaManager.isOperational k.1.asStr || asksOperational [a]) =
          [(AttributeName.new c, c)] := by
      rw [List.filter_eq_self]
      intro k hk
      rw [List.mem_singleton.mp hk, AttributeName.asStr_new, isOperational_asciiLower]
      cases hop : getSchemaManager.isOperational c with
      | false => rfl
      | true => simp [asksOperational, hwild, hc, hop]
    rw [hc, if_neg (by simp)]
    refine ⟨_, entryAttributes_eq hok _ _ _, fun val => ?_⟩
    have hdistinct := distinctTypes_shownAttribute values c
    rw [hkept, hasValue_iff, ShowsValue, hc]
    simp only [hwild, true_and]
    cases hop : asksOperational [a] with
    | false =>
      simp only [Bool.false_eq_true, if_false, false_and, or_false, mem_firstOfEachType hdistinct]
      exact hasValue_shown val
    | true =>
      simp only [if_true, true_and, mem_firstOfEachType (hdistinct.inject _ _)]
      simp only [injectOperationalAttributes_eq, List.mem_append, or_and_right, exists_or]
      exact or_congr (hasValue_shown val) (hasValue_injected hc _ _ val)

theorem not_showsValue_wildcard {a : String} (ha : a = "*" ∨ a = "+")
    (structuralClass baseDnStr : String) (values : Option (List Bytes)) (val : Bytes) :
    ¬ ShowsValue structuralClass baseDnStr a values val := by
  rcases ha with rfl | rfl
  · have hop : asksOperational ["*"] = false := by decide
    have hwild : isWildcard "*" = true := by decide
    simp [ShowsValue, hop, hwild]
  · have hop : asksOperational ["+"] = false := by decide
    have hwild : isWildcard "+" = true := by decide
    simp [ShowsValue, hop, hwild]

theorem not_hasValue_wildcard {a : String} (ha : a = "*" ∨ a = "+")
    (hvalues : ∀ vals, values (.new a) ≠ .ok (some vals)) {attrs : List String}
    {includeOperational : Bool} {structuralClass baseDnStr : String}
    {shown : List LdapPartialAttribute}
    (h : entryAttributes values
      (withCustomAttributes (getSchemaManager.expandAttributeWildcards attrs schema) l attributes)
      includeOperational structuralClass baseDnStr = .ok shown) (val : Bytes) :
    hasValue shown a val = false := by
  rw [Bool.eq_false_iff, ne_eq, hasValue_iff]
  rintro ⟨b, hb, hname, -⟩
  rcases (mem_entryAttributes h).1 b hb with ⟨k, hk, htype, hvals⟩ | ⟨-, hinjected⟩
  · rw [key_withCustomAttributes hk, ← htype, hname] at hvals
    exact hvalues _ hvals
  · rw [hname] at hinjected
    rcases ha with rfl | rfl
    · exact absurd hinjected (by decide)
    · exact absurd hinjected (by decide)

theorem hasValue_iff_showsValue
    (hvalues : ∀ attr : AttributeName, attr.asStr ≠ "*" → ∃ v, values attr = .ok v)
    (hwild : ∀ n, n = "*" ∨ n = "+" → ∀ vals, values (.new n) ≠ .ok (some vals))
    {structuralClass baseDnStr : String} {shown : List LdapPartialAttribute}
    (h : entryAttributes values
      (withCustomAttributes (getSchemaManager.expandAttributeWildcards [a] schema) l attributes)
      (getSchemaManager.expandAttributeWildcards [a] schema).includeOperationalAttributes
      structuralClass baseDnStr = .ok shown) (val : Bytes) :
    hasValue shown a val = true ↔
      ShowsValue structuralClass baseDnStr a (values (.new a)).toOption.join val := by
  by_cases ha : a = "*" ∨ a = "+"
  · refine iff_of_false ?_ (not_showsValue_wildcard ha _ _ _ _)
    rw [not_hasValue_wildcard ha (hwild a ha) h]
    nofun
  · obtain ⟨hstar, hplus⟩ := not_or.mp ha
    obtain ⟨shown', hshown, hvalue⟩ := @hasValue_entryAttributes values a schema l attributes hstar
      hplus hvalues structuralClass baseDnStr
    cases Except.ok.inj (hshown.symm.trans h)
    exact hvalue val

end

/-! ## The entry that is compared -/

theorem find?_eq_none_of_ne {es : List LdapSearchResultEntry} {dn : String}
    (h : ∀ e ∈ es, asciiLower e.dn ≠ asciiLower dn) :
    (es.find? fun e => eqIgnoreAsciiCase e.dn dn) = none := by
  rw [List.find?_eq_none]
  intro e he heq
  exact h e he (eqIgnoreAsciiCase_iff.mp heq)

theorem compare_found {request : LdapCompareRequest} {es : List LdapSearchResultEntry}
    {baseDn : String} :
    compare request (found es) baseDn = [.compareResult ⟨.compareTrue, request.dn, ""⟩] ↔
      ∃ e, (es.find? fun e => eqIgnoreAsciiCase e.dn request.dn) = some e ∧
        hasValue e.attributes request.atype request.val = true := by
  have hentries : (entriesOf (found es)).find? (fun e => eqIgnoreAsciiCase e.dn request.dn) =
      es.find? fun e => eqIgnoreAsciiCase e.dn request.dn := by rw [entriesOf_found]
  unfold compare
  dsimp only
  split
  · rename_i e he
    have hfind := hentries.symm.trans he
    change [LdapOp.compareResult ⟨if hasValue e.attributes request.atype request.val then .compareTrue
      else .compareFalse, request.dn, ""⟩] = _ ↔ _
    simp only [hfind, Option.some.injEq, exists_eq_left', List.cons.injEq, and_true,
      LdapOp.compareResult.injEq, LdapResultOp.mk.injEq]
    cases hasValue e.attributes request.atype request.val <;> simp
  · rename_i hnone
    simp [hentries.symm.trans hnone]

section

variable [Library]

omit [Library] in
theorem length_asciiLower (s : String) : (asciiLower s).toList.length = s.toList.length := by
  rw [toList_asciiLower, List.length_map]

omit [Library] in
theorem renderRdns_ous {ou : String} (h : renderRdns (internalOuToLdapRdnChain ou) ≠ "") :
    ∃ rest, renderRdns (internalOuToLdapRdnChain ou) = "ou=" ++ rest := by
  have hous : ∀ p ∈ internalOuToLdapRdnChain ou, p.1 = "ou" := by
    unfold internalOuToLdapRdnChain
    split
    · simp
    · intro p hp
      obtain ⟨part, -, rfl⟩ := List.mem_map.mp hp
      rfl
  cases hchain : internalOuToLdapRdnChain ou with
  | nil =>
    rw [hchain] at h
    exact absurd rfl h
  | cons p ps =>
    have hp : p.1 = "ou" := hous p (by simp [hchain])
    have heq : p.1 ++ "=" ++ p.2 = "ou=" ++ p.2 := by rw [hp]; rfl
    cases ps with
    | nil => exact ⟨p.2, heq⟩
    | cons q qs =>
      rw [renderRdns_cons, heq, String.append_assoc, String.append_assoc]
      exact ⟨_, rfl⟩

theorem makeOuEntry_dn_eq (ou baseDnStr : String) (includeOperational : Bool) :
    (makeOuEntry ou baseDnStr includeOperational).dn =
      if renderRdns (internalOuToLdapRdnChain ou) = "" then baseDnStr
      else renderRdns (internalOuToLdapRdnChain ou) ++ "," ++ baseDnStr := by
  simp only [makeOuEntry]

theorem makeOuEntry_dn_ne {k : String} (hk : k = "uid=" ∨ k = "cn=") (name ou ou' baseDnStr : String)
    (includeOperational : Bool) :
    asciiLower (makeOuEntry ou' baseDnStr includeOperational).dn ≠
      asciiLower (buildDn (k ++ name) ou baseDnStr) := by
  intro h
  obtain ⟨rest, hrest⟩ := buildDn_eq (k ++ name) ou baseDnStr
  by_cases hou : renderRdns (internalOuToLdapRdnChain ou') = ""
  · rw [makeOuEntry_dn_eq, if_pos hou] at h
    have hlen := congrArg (fun s : String => s.toList.length) h
    unfold buildDn at hlen
    dsimp only at hlen
    rw [length_asciiLower, length_asciiLower] at hlen
    split at hlen
    · simp at hlen
      omega
    · simp at hlen
      omega
  · obtain ⟨tail, htail⟩ := renderRdns_ous hou
    rw [makeOuEntry_dn_eq, if_neg hou, htail, hrest] at h
    have hhead := congrArg (fun s : String => s.toList.head?) h
    rcases hk with rfl | rfl
    · simp at hhead
    · simp at hhead

omit [Library] in
theorem buildUserDn_ne_buildGroupDn (u : UserId) (g : GroupName) (ou ou' baseDnStr : String) :
    asciiLower (buildUserDn u ou baseDnStr) ≠ asciiLower (buildGroupDn g ou' baseDnStr) := by
  intro h
  obtain ⟨rest, hrest⟩ := buildDn_eq ("uid=" ++ u.asStr) ou baseDnStr
  obtain ⟨rest', hrest'⟩ := buildDn_eq ("cn=" ++ g.raw) ou' baseDnStr
  rw [buildUserDn, buildGroupDn, hrest, hrest'] at h
  have hhead := congrArg (fun s : String => s.toList.head?) h
  simp at hhead

end

section

variable [External] [Library] {S : Suite} {setup : S.ServerSetup} {rng : S.Coins} {out : Outside}
  {ldapInfo : LdapInfo} {v : ValidationResults} {w : World}

def dnUserFilter (ldapInfo : LdapInfo) (dn : String) : UserRequestFilter :=
  match getUserIdFromDistinguishedNameOrPlainName (asciiLower dn) ldapInfo.baseDn
    ldapInfo.baseDnStr with
  | .ok user => .userId user
  | .error _ => .false

def dnGroupFilter (ldapInfo : LdapInfo) (dn : String) : GroupRequestFilter :=
  match getGroupIdFromDistinguishedNameOrPlainName (asciiLower dn) ldapInfo.baseDn
    ldapInfo.baseDnStr with
  | .ok group => .displayName group
  | .error _ => .false

omit [External] [Library] in
theorem fields_of_comparison :
    getSchemaManager.mapUserField (.new "dn") PublicSchema.get = .dn ∧
      getSchemaManager.mapGroupField (.new "dn") PublicSchema.get = .dn ∧
      ∀ n ∈ ["*", "+"], getSchemaManager.mapUserField (.new n) PublicSchema.get = .noMatch ∧
        getSchemaManager.mapGroupField (.new n) PublicSchema.get = .noMatch := by
  obtain ⟨-, -, -, hdn, -, -, hnone⟩ := getSchemaManager_registered
  refine ⟨?_, ?_, ?_⟩
  · rw [SchemaManager.mapUserField, show (AttributeName.new "dn").asStr = "dn" by decide, hdn]
  · rw [SchemaManager.mapGroupField, show (AttributeName.new "dn").asStr = "dn" by decide, hdn]
  · intro n hn
    have hn' : (AttributeName.new n).asStr = n := by
      rcases List.mem_pair.mp hn with rfl | rfl <;> decide
    rw [SchemaManager.mapUserField, SchemaManager.mapGroupField, hn', hnone n (by simp_all)]
    rcases List.mem_pair.mp hn with rfl | rfl <;> decide +kernel

theorem convertUserFilter_dn (dn : String) :
    convertUserFilter ldapInfo PublicSchema.get (.equality "dn" dn) =
      .ok (dnUserFilter ldapInfo dn) := by
  unfold convertUserFilter convertUserLeaf userEqualityFilter dnUserFilter
  dsimp only
  rw [if_neg (by decide), if_neg (by decide), if_neg (by decide), fields_of_comparison.1]
  dsimp only
  cases getUserIdFromDistinguishedNameOrPlainName (asciiLower dn) ldapInfo.baseDn
    ldapInfo.baseDnStr with
  | ok u => rfl
  | error e => rfl

theorem convertGroupFilter_dn (dn : String) :
    convertGroupFilter ldapInfo PublicSchema.get (.equality "dn" dn) =
      .ok (dnGroupFilter ldapInfo dn) := by
  unfold convertGroupFilter convertGroupLeaf groupEqualityFilter dnGroupFilter
  dsimp only
  rw [if_neg (by decide), fields_of_comparison.2.1]
  dsimp only
  cases getGroupIdFromDistinguishedNameOrPlainName (asciiLower dn) ldapInfo.baseDn
    ldapInfo.baseDnStr with
  | ok g => rfl
  | error e => rfl

theorem doCompare_true {base : String} {ignoredUser ignoredGroup : List AttributeName}
    (hinfo : LdapInfo.new base ignoredUser ignoredGroup = .ok ldapInfo)
    (hadmin : v.permission = .admin) {request : LdapCompareRequest} :
    (doCompare (sqlServices S setup rng out) ldapInfo (some v) request w).1 =
        .ok [.compareResult ⟨.compareTrue, request.dn, ""⟩] ↔
      ∃ xs es gs fs, Sql.listUsers (some (dnUserFilter ldapInfo request.dn)) true w.db = .ok xs ∧
        convertUsersToLdapOp ldapInfo PublicSchema.get xs [request.atype] = .ok es ∧
        Sql.listGroups (some (dnGroupFilter ldapInfo request.dn)) w.db = .ok gs ∧
        convertGroupsToLdapOp ldapInfo PublicSchema.get gs [request.atype] none = .ok fs ∧
        ∃ e, ((buildOuEntries ((Sql.getAllowedOus w.db).filter fun ou =>
              ouMatchesFilter ou (.equality "dn" request.dn)) ldapInfo.baseDnStr
              (includeOp [request.atype]) ++ es ++ fs).find?
            fun e => eqIgnoreAsciiCase e.dn request.dn) = some e ∧
          hasValue e.attributes request.atype request.val = true := by
  have hall : v.canReadAll = true := by simp [ValidationResults.canReadAll, hadmin]
  have husers (f) : (listerOf setup rng out v).userFilters (some f) = some f := by
    simp [UserRestrictedLister.userFilters, getUserRestrictedListerHandler, hall]
  have hgroups (f) : (listerOf setup rng out v).groupFilters (some f) = some f := by
    simp [UserRestrictedLister.groupFilters, getUserRestrictedListerHandler, hall]
  have hroot : getSearchScope ldapInfo.baseDn ldapInfo.baseDn .subtree (Sql.getAllowedOus w.db) =
      .root := by
    have hself : isSubtree ldapInfo.baseDn ldapInfo.baseDn = true := isSubtree_append [] _
    simp [getSearchScope, hself]
  have hsearch : (doCompare (sqlServices S setup rng out) ldapInfo (some v) request w).1 =
      (doSearch (listerOf setup rng out v) ldapInfo (makeSearchRequest ldapInfo.baseDnStr
        (.equality "dn" request.dn) [request.atype]) (Sql.getAllowedOus w.db) w).1.map
          fun ops => compare request ops ldapInfo.baseDnStr := by
    rw [doCompare, Eff.bind_run, ← doBoundSearch_fst]
    cases hrun : doBoundSearch (sqlServices S setup rng out) ldapInfo (some v) (makeSearchRequest
        ldapInfo.baseDnStr (.equality "dn" request.dn) [request.atype]) w with
    | mk r w' =>
      cases r with
      | ok ops => rfl
      | error e => rfl
  rw [hsearch]
  unfold doSearch makeSearchRequest
  dsimp only
  rw [LdapInfo.parse_baseDnStr hinfo]
  dsimp only
  rw [hroot]
  dsimp only
  rw [searchRoot_fst listerOf_readsOnly]
  dsimp only
  simp only [reduceCtorEq, if_false, if_true]
  rw [foundUsers_fst listerOf_readsOnly, foundGroups_fst listerOf_readsOnly, getUserList_fst,
    getGroupsList_fst]
  dsimp only
  rw [convertUserFilter_dn, convertGroupFilter_dn]
  rw [except_map_ok]
  constructor
  · rintro ⟨ops, hops, hcompare⟩
    obtain ⟨es, hes, hops⟩ := except_bind_ok.mp hops
    obtain ⟨fs, hfs, hops⟩ := except_bind_ok.mp hops
    cases hops
    obtain ⟨xs, hxs, hes⟩ := except_bind_ok.mp hes
    obtain ⟨f, hf, hxs⟩ := except_bind_ok.mp hxs
    cases hf
    rw [husers] at hxs
    obtain ⟨gs, hgs, hfs⟩ := except_bind_ok.mp hfs
    obtain ⟨f, hf, hgs⟩ := except_bind_ok.mp hgs
    cases hf
    rw [hgroups] at hgs
    exact ⟨xs, es, gs, fs, except_mapError_ok.mp hxs, except_mapError_ok.mp hes,
      except_mapError_ok.mp hgs, except_mapError_ok.mp hfs, compare_found.mp hcompare⟩
  · rintro ⟨xs, es, gs, fs, hxs, hes, hgs, hfs, hfound⟩
    refine ⟨_, except_bind_ok.mpr ⟨es, except_bind_ok.mpr ⟨xs, except_bind_ok.mpr ⟨_, rfl, ?_⟩,
      except_mapError_ok.mpr hes⟩, except_bind_ok.mpr ⟨fs, except_bind_ok.mpr ⟨gs,
      except_bind_ok.mpr ⟨_, rfl, ?_⟩, except_mapError_ok.mpr hfs⟩, rfl⟩⟩, compare_found.mpr hfound⟩
    · rw [husers]
      exact except_mapError_ok.mpr hxs
    · rw [hgroups]
      exact except_mapError_ok.mpr hgs

/-! ## Users and groups -/

def userValues (ldapInfo : LdapInfo) (x : UserAndGroups) (a : String) : Option (List Bytes) :=
  (getUserAttribute x.user (.new a) ldapInfo.baseDnStr x.groups ldapInfo.ignoredUserAttributes
    PublicSchema.get).toOption.join

/-- The values that `get_group_attribute` gives for a name. -/
def groupValues (ldapInfo : LdapInfo) (g : Group) (a : String) : Option (List Bytes) :=
  (getGroupAttribute g ldapInfo.baseDnStr (.new a) none ldapInfo.ignoredGroupAttributes
    PublicSchema.get).toOption.join

def userDn (ldapInfo : LdapInfo) (x : UserAndGroups) : String :=
  buildUserDn x.user.userId (getUserOu x.user) ldapInfo.baseDnStr

def groupDn (ldapInfo : LdapInfo) (g : Group) : String :=
  buildGroupDn g.displayName (getGroupOu g) ldapInfo.baseDnStr

def answeringUser (ldapInfo : LdapInfo) (db : Store) (dn : String) : Option UserAndGroups :=
  ((Sql.listUsers (some (dnUserFilter ldapInfo dn)) true db).toOption.getD []).find? fun x =>
    eqIgnoreAsciiCase (userDn ldapInfo x) dn

def answeringGroup (ldapInfo : LdapInfo) (db : Store) (dn : String) : Option Group :=
  ((Sql.listGroups (some (dnGroupFilter ldapInfo dn)) db).toOption.getD []).find? fun g =>
    eqIgnoreAsciiCase (groupDn ldapInfo g) dn

omit [Library] in
theorem listUsers_false (getGroups : Bool) (db : Store) :
    Sql.listUsers (some .false) getGroups db = (Sql.getSchema db).map fun _ => [] := by
  have hrows : (db.users.rows.filter fun _ => Lib.Trool.holds .no) = [] :=
    List.filter_eq_nil_iff.mpr fun _ _ => nofun
  have hcond : Sql.userCondition (some .false) = .ok fun _ _ => .no := rfl
  unfold Sql.listUsers
  rw [hcond]
  dsimp only [Bind.bind, Except.bind]
  rw [hrows]
  cases Sql.getSchema db with
  | error e => rfl
  | ok schema => rfl

omit [Library] in
theorem listGroups_false (db : Store) :
    Sql.listGroups (some .false) db = (Sql.getSchema db).map fun _ => [] := by
  have hrows : db.groups.rows.filter (Sql.groupSelected (some .false) db) = [] :=
    List.filter_eq_nil_iff.mpr fun _ _ => nofun
  unfold Sql.listGroups
  rw [hrows]
  cases Sql.getSchema db with
  | error e => rfl
  | ok schema => rfl

omit [Library] in
theorem getSchema_of_listUsers {f : Option UserRequestFilter} {getGroups : Bool} {db : Store}
    {xs : List UserAndGroups} (h : Sql.listUsers f getGroups db = .ok xs) :
    ∃ schema, Sql.getSchema db = .ok schema := by
  obtain ⟨cond, -, h⟩ := except_bind_ok.mp h
  obtain ⟨schema, hschema, -⟩ := except_bind_ok.mp h
  exact ⟨schema, hschema⟩

omit [Library] in
theorem getSchema_of_listGroups {f : Option GroupRequestFilter} {db : Store} {gs : List Group}
    (h : Sql.listGroups f db = .ok gs) : ∃ schema, Sql.getSchema db = .ok schema := by
  obtain ⟨schema, hschema, -⟩ := except_bind_ok.mp h
  exact ⟨schema, hschema⟩

omit [External] [Library] in
theorem dnFilter_false {dn : String} (h : hasChar '=' dn = true) :
    dnUserFilter ldapInfo dn = .false ∨ dnGroupFilter ldapInfo dn = .false := by
  have hlooks : looksLikeDistinguishedName (asciiLower dn) = true := by
    simp [looksLikeDistinguishedName, hasChar_asciiLower, h]
  unfold dnUserFilter dnGroupFilter getUserIdFromDistinguishedNameOrPlainName
    getGroupIdFromDistinguishedNameOrPlainName getUserIdFromDistinguishedName
    getGroupIdFromDistinguishedName
  rw [hlooks]
  cases getUserOrGroupIdFromDistinguishedName (asciiLower dn) ldapInfo.baseDn <;> simp

omit [External] in
theorem userEntry_value {x : UserAndGroups} {a : String} {e : LdapSearchResultEntry}
    (h : makeLdapSearchUserResultEntry x.user ldapInfo.baseDnStr
      (getSchemaManager.expandAttributeWildcards [a] PublicSchema.get) x.groups
      ldapInfo.ignoredUserAttributes PublicSchema.get = .ok e) (val : Bytes) :
    hasValue e.attributes a val = true ↔
      ShowsValue "inetOrgPerson" ldapInfo.baseDnStr a (userValues ldapInfo x a) val := by
  unfold makeLdapSearchUserResultEntry at h
  obtain ⟨shown, hshown, h⟩ := except_bind_ok.mp h
  rw [← Except.ok.inj h]
  refine hasValue_iff_showsValue (fun attr hattr => getUserAttribute_ok x.user hattr) ?_ hshown val
  intro n hn vals hvals
  have hfield : getSchemaManager.mapUserField (.new n) PublicSchema.get = .noMatch :=
    (fields_of_comparison.2.2 n (by simpa using hn)).1
  rw [getUserAttribute, hfield] at hvals
  rcases hn with rfl | rfl
  · cases hvals
  · cases hvals

omit [External] in
theorem groupEntry_value {g : Group} {a : String} {e : LdapSearchResultEntry}
    (h : makeLdapSearchGroupResultEntry g ldapInfo.baseDnStr
      (getSchemaManager.expandAttributeWildcards [a] PublicSchema.get) none
      ldapInfo.ignoredGroupAttributes PublicSchema.get = .ok e) (val : Bytes) :
    hasValue e.attributes a val = true ↔
      ShowsValue "groupOfUniqueNames" ldapInfo.baseDnStr a (groupValues ldapInfo g a) val := by
  unfold makeLdapSearchGroupResultEntry at h
  obtain ⟨shown, hshown, h⟩ := except_bind_ok.mp h
  rw [← Except.ok.inj h]
  refine hasValue_iff_showsValue (fun attr hattr => getGroupAttribute_ok g hattr) ?_ hshown val
  intro n hn vals hvals
  have hfield : getSchemaManager.mapGroupField (.new n) PublicSchema.get = .noMatch :=
    (fields_of_comparison.2.2 n (by simpa using hn)).2
  rw [getGroupAttribute, hfield] at hvals
  rcases hn with rfl | rfl
  · cases hvals
  · cases hvals

omit [External] in
theorem userEntry_hasDn {x : UserAndGroups} {expanded : ExpandedAttributes}
    {e : LdapSearchResultEntry} (dn : String)
    (h : makeLdapSearchUserResultEntry x.user ldapInfo.baseDnStr expanded x.groups
      ldapInfo.ignoredUserAttributes PublicSchema.get = .ok e) :
    eqIgnoreAsciiCase e.dn dn = eqIgnoreAsciiCase (userDn ldapInfo x) dn := by
  rw [makeLdapSearchUserResultEntry_dn h, userDn]

omit [External] in
theorem groupEntry_hasDn {g : Group} {expanded : ExpandedAttributes} {e : LdapSearchResultEntry}
    (dn : String)
    (h : makeLdapSearchGroupResultEntry g ldapInfo.baseDnStr expanded none
      ldapInfo.ignoredGroupAttributes PublicSchema.get = .ok e) :
    eqIgnoreAsciiCase e.dn dn = eqIgnoreAsciiCase (groupDn ldapInfo g) dn := by
  rw [makeLdapSearchGroupResultEntry_dn h, groupDn]

omit [External] in
theorem convertUsersToLdapOp_ok (ldapInfo : LdapInfo) (xs : List UserAndGroups) {a : String} (hstar : a ≠ "*")
    (hplus : a ≠ "+") : ∃ es, convertUsersToLdapOp ldapInfo PublicSchema.get xs [a] = .ok es := by
  cases hmap : convertUsersToLdapOp ldapInfo PublicSchema.get xs [a] with
  | ok es => exact ⟨es, rfl⟩
  | error e =>
    obtain ⟨x, -, hx⟩ := Lib.except_mapM_error hmap
    unfold makeLdapSearchUserResultEntry at hx
    obtain ⟨shown, hshown, -⟩ := @hasValue_entryAttributes _ a PublicSchema.get
      PublicSchema.get.userAttributes x.user.attributes hstar hplus
      (fun attr hattr => getUserAttribute_ok x.user hattr) "inetOrgPerson" ldapInfo.baseDnStr
    dsimp only at hx
    rw [hshown] at hx
    cases hx

omit [External] in
theorem convertGroupsToLdapOp_ok (ldapInfo : LdapInfo) (gs : List Group) {a : String} (hstar : a ≠ "*")
    (hplus : a ≠ "+") :
    ∃ fs, convertGroupsToLdapOp ldapInfo PublicSchema.get gs [a] none = .ok fs := by
  cases hmap : convertGroupsToLdapOp ldapInfo PublicSchema.get gs [a] none with
  | ok fs => exact ⟨fs, rfl⟩
  | error e =>
    obtain ⟨g, -, hg⟩ := Lib.except_mapM_error hmap
    unfold makeLdapSearchGroupResultEntry at hg
    obtain ⟨shown, hshown, -⟩ := @hasValue_entryAttributes _ a PublicSchema.get
      PublicSchema.get.groupAttributes g.attributes hstar hplus
      (fun attr hattr => getGroupAttribute_ok g hattr) "groupOfUniqueNames" ldapInfo.baseDnStr
    dsimp only at hg
    rw [hshown] at hg
    cases hg

omit [External] in
theorem find?_buildOuEntries {k : String} (hk : k = "uid=" ∨ k = "cn=") (name ou : String)
    (ous : List String) (includeOperational : Bool) :
    ((buildOuEntries ous ldapInfo.baseDnStr includeOperational).find? fun e =>
      eqIgnoreAsciiCase e.dn (buildDn (k ++ name) ou ldapInfo.baseDnStr)) = none := by
  refine find?_eq_none_of_ne fun e he => ?_
  obtain ⟨ou', -, rfl⟩ := List.mem_map.mp he
  exact makeOuEntry_dn_ne hk _ _ _ _ _

omit [External] [Library] in
theorem hasChar_buildDn {k : String} (hk : k = "uid=" ∨ k = "cn=") (name ou baseDnStr : String) :
    hasChar '=' (buildDn (k ++ name) ou baseDnStr) = true := by
  obtain ⟨rest, hrest⟩ := buildDn_eq (k ++ name) ou baseDnStr
  rw [hrest]
  rcases hk with rfl | rfl
  · simp [hasChar]
  · simp [hasChar]

theorem doCompare_user {base : String} {ignoredUser ignoredGroup : List AttributeName}
    (hinfo : LdapInfo.new base ignoredUser ignoredGroup = .ok ldapInfo)
    (hadmin : v.permission = .admin) (u : UserId) (ou a : String) (val : Bytes) :
    let dn := buildUserDn u ou ldapInfo.baseDnStr
    (doCompare (sqlServices S setup rng out) ldapInfo (some v) ⟨dn, a, val⟩ w).1 =
        .ok [.compareResult ⟨.compareTrue, dn, ""⟩] ↔
      ∃ x, answeringUser ldapInfo w.db dn = some x ∧
        ShowsValue "inetOrgPerson" ldapInfo.baseDnStr a (userValues ldapInfo x a) val := by
  intro dn
  have hous (ous : List String) (includeOperational : Bool) :
      ((buildOuEntries ous ldapInfo.baseDnStr includeOperational).find? fun e =>
        eqIgnoreAsciiCase e.dn dn) = none := find?_buildOuEntries (.inl rfl) _ _ _ _
  have hread : dnUserFilter ldapInfo dn = .false ∨ dnGroupFilter ldapInfo dn = .false :=
    dnFilter_false (hasChar_buildDn (.inl rfl) _ _ _)
  rw [doCompare_true hinfo hadmin]
  dsimp only
  constructor
  · rintro ⟨xs, es, gs, fs, hxs, hes, -, hfs, e, hfind, hvalue⟩
    have hgroups : (fs.find? fun e => eqIgnoreAsciiCase e.dn dn) = none := by
      refine find?_eq_none_of_ne fun e he => ?_
      obtain ⟨g, -, hg⟩ := Lib.except_mapM_ok hfs e he
      rw [makeLdapSearchGroupResultEntry_dn hg]
      exact (buildUserDn_ne_buildGroupDn _ _ _ _ _).symm
    rw [List.find?_append, List.find?_append, hous, hgroups, Option.none_or, Option.or_none] at hfind
    obtain ⟨x, hx, hentry⟩ := (Lib.except_find?_of_mapM (fun x e => userEntry_hasDn dn) hes).mp hfind
    refine ⟨x, ?_, (userEntry_value hentry val).mp hvalue⟩
    rw [answeringUser, hxs]
    exact hx
  · rintro ⟨x, hx, hshows⟩
    have hplain : ¬(a = "*" ∨ a = "+") := fun ha => not_showsValue_wildcard ha _ _ _ _ hshows
    obtain ⟨hstar, hplus⟩ := not_or.mp hplain
    cases hxs : Sql.listUsers (some (dnUserFilter ldapInfo dn)) true w.db with
    | error e =>
      rw [answeringUser, hxs] at hx
      cases hx
    | ok xs =>
      rw [answeringUser, hxs] at hx
      obtain ⟨schema, hschema⟩ := getSchema_of_listUsers hxs
      have hfalse : dnGroupFilter ldapInfo dn = .false := by
        refine hread.resolve_left fun hfalse => ?_
        rw [hfalse, listUsers_false, hschema] at hxs
        cases hxs
        cases hx
      obtain ⟨es, hes⟩ := convertUsersToLdapOp_ok ldapInfo xs hstar hplus
      obtain ⟨e, hentry⟩ : ∃ e, makeLdapSearchUserResultEntry x.user ldapInfo.baseDnStr
          (getSchemaManager.expandAttributeWildcards [a] PublicSchema.get) x.groups
          ldapInfo.ignoredUserAttributes PublicSchema.get = .ok e := by
        obtain ⟨e, -, he⟩ := Lib.except_mapM_mem hes x (List.mem_of_find?_eq_some hx)
        exact ⟨e, he⟩
      refine ⟨xs, es, [], [], rfl, hes, ?_, rfl, e, ?_, (userEntry_value hentry val).mpr hshows⟩
      · rw [hfalse, listGroups_false, hschema]
        rfl
      · rw [List.append_nil, List.find?_append, hous, Option.none_or]
        exact (Lib.except_find?_of_mapM (fun x e => userEntry_hasDn dn) hes).mpr ⟨x, hx, hentry⟩

theorem doCompare_group {base : String} {ignoredUser ignoredGroup : List AttributeName}
    (hinfo : LdapInfo.new base ignoredUser ignoredGroup = .ok ldapInfo)
    (hadmin : v.permission = .admin) (name : GroupName) (ou a : String) (val : Bytes) :
    let dn := buildGroupDn name ou ldapInfo.baseDnStr
    (doCompare (sqlServices S setup rng out) ldapInfo (some v) ⟨dn, a, val⟩ w).1 =
        .ok [.compareResult ⟨.compareTrue, dn, ""⟩] ↔
      ∃ g, answeringGroup ldapInfo w.db dn = some g ∧
        ShowsValue "groupOfUniqueNames" ldapInfo.baseDnStr a (groupValues ldapInfo g a) val := by
  intro dn
  have hous (ous : List String) (includeOperational : Bool) :
      ((buildOuEntries ous ldapInfo.baseDnStr includeOperational).find? fun e =>
        eqIgnoreAsciiCase e.dn dn) = none := find?_buildOuEntries (.inr rfl) _ _ _ _
  have hread : dnUserFilter ldapInfo dn = .false ∨ dnGroupFilter ldapInfo dn = .false :=
    dnFilter_false (hasChar_buildDn (.inr rfl) _ _ _)
  rw [doCompare_true hinfo hadmin]
  dsimp only
  constructor
  · rintro ⟨xs, es, gs, fs, -, hes, hgs, hfs, e, hfind, hvalue⟩
    have husers : (es.find? fun e => eqIgnoreAsciiCase e.dn dn) = none := by
      refine find?_eq_none_of_ne fun e he => ?_
      obtain ⟨x, -, hx⟩ := Lib.except_mapM_ok hes e he
      rw [makeLdapSearchUserResultEntry_dn hx]
      exact buildUserDn_ne_buildGroupDn _ _ _ _ _
    rw [List.find?_append, List.find?_append, hous, husers, Option.none_or, Option.none_or] at hfind
    obtain ⟨g, hg, hentry⟩ := (Lib.except_find?_of_mapM (fun g e => groupEntry_hasDn dn) hfs).mp hfind
    refine ⟨g, ?_, (groupEntry_value hentry val).mp hvalue⟩
    rw [answeringGroup, hgs]
    exact hg
  · rintro ⟨g, hg, hshows⟩
    have hplain : ¬(a = "*" ∨ a = "+") := fun ha => not_showsValue_wildcard ha _ _ _ _ hshows
    obtain ⟨hstar, hplus⟩ := not_or.mp hplain
    cases hgs : Sql.listGroups (some (dnGroupFilter ldapInfo dn)) w.db with
    | error e =>
      rw [answeringGroup, hgs] at hg
      cases hg
    | ok gs =>
      rw [answeringGroup, hgs] at hg
      obtain ⟨schema, hschema⟩ := getSchema_of_listGroups hgs
      have hfalse : dnUserFilter ldapInfo dn = .false := by
        refine hread.resolve_right fun hfalse => ?_
        rw [hfalse, listGroups_false, hschema] at hgs
        cases hgs
        cases hg
      obtain ⟨fs, hfs⟩ := convertGroupsToLdapOp_ok ldapInfo gs hstar hplus
      obtain ⟨e, hentry⟩ : ∃ e, makeLdapSearchGroupResultEntry g ldapInfo.baseDnStr
          (getSchemaManager.expandAttributeWildcards [a] PublicSchema.get) none
          ldapInfo.ignoredGroupAttributes PublicSchema.get = .ok e := by
        obtain ⟨e, -, he⟩ := Lib.except_mapM_mem hfs g (List.mem_of_find?_eq_some hg)
        exact ⟨e, he⟩
      refine ⟨[], [], gs, fs, ?_, rfl, rfl, hfs, e, ?_, (groupEntry_value hentry val).mpr hshows⟩
      · rw [hfalse, listUsers_false, hschema]
        rfl
      · rw [List.append_nil, List.find?_append, hous, Option.none_or]
        exact (Lib.except_find?_of_mapM (fun g e => groupEntry_hasDn dn) hfs).mpr ⟨g, hg, hentry⟩

omit [Library] in
theorem answeringUser_self {db : Store} {x : UserAndGroups}
    (hread : dnUserFilter ldapInfo (userDn ldapInfo x) = .userId x.user.userId)
    (hx : Sql.listUsers (some (.userId x.user.userId)) true db = .ok [x]) :
    answeringUser ldapInfo db (userDn ldapInfo x) = some x := by
  rw [answeringUser, hread, hx]
  exact List.find?_cons_of_pos (by simp [eqIgnoreAsciiCase])

/-- The entry is the one that answers for its DN, and the name is one that the answers can be right
for. Where no entry answers, the entry has no value; where another one answers, it shows the values
of this one. -/
def Answered {α : Type} (answering : Option α) (x : α) (structuralClass baseDnStr a : String)
    (values : α → Option (List Bytes)) : Prop :=
  match answering with
  | none => (values x).getD [] = []
  | some y => (y = x → ComparesByName a (values x)) ∧
    (y ≠ x → ∀ val, ShowsValue structuralClass baseDnStr a (values y) val ↔ val ∈ (values x).getD [])

omit [External] [Library] in
theorem answered_iff {α : Type} (answering : Option α) (x : α) (structuralClass baseDnStr a : String)
    (values : α → Option (List Bytes)) :
    (∀ val, (∃ y, answering = some y ∧ ShowsValue structuralClass baseDnStr a (values y) val) ↔
        val ∈ (values x).getD []) ↔
      Answered answering x structuralClass baseDnStr a values := by
  cases answering with
  | none => simp [Answered, List.eq_nil_iff_forall_not_mem]
  | some y =>
    simp only [Answered, Option.some.injEq, exists_eq_left']
    by_cases hy : y = x
    · subst hy
      simp [showsValue_iff]
    · simp [hy]

/-- The answers to an administrator about a name, for every value, are those of `get_user_attribute`
and of `get_group_attribute`, exactly if the entry is answered for. -/
theorem compare_iff {base : String} {ignoredUser ignoredGroup : List AttributeName}
    (hinfo : LdapInfo.new base ignoredUser ignoredGroup = .ok ldapInfo)
    (hadmin : v.permission = .admin) (a : String) :
    (∀ x : UserAndGroups,
      (∀ val, (doCompare (sqlServices S setup rng out) ldapInfo (some v)
          ⟨userDn ldapInfo x, a, val⟩ w).1 =
            .ok [.compareResult ⟨.compareTrue, userDn ldapInfo x, ""⟩] ↔
          val ∈ (userValues ldapInfo x a).getD []) ↔
        Answered (answeringUser ldapInfo w.db (userDn ldapInfo x)) x "inetOrgPerson"
          ldapInfo.baseDnStr a fun y => userValues ldapInfo y a) ∧
    ∀ g : Group,
      (∀ val, (doCompare (sqlServices S setup rng out) ldapInfo (some v)
          ⟨groupDn ldapInfo g, a, val⟩ w).1 =
            .ok [.compareResult ⟨.compareTrue, groupDn ldapInfo g, ""⟩] ↔
          val ∈ (groupValues ldapInfo g a).getD []) ↔
        Answered (answeringGroup ldapInfo w.db (groupDn ldapInfo g)) g "groupOfUniqueNames"
          ldapInfo.baseDnStr a fun y => groupValues ldapInfo y a := by
  refine ⟨fun x => ?_, fun g => ?_⟩
  · rw [← answered_iff]
    exact forall_congr' fun val => iff_congr (doCompare_user hinfo hadmin _ _ a val) Iff.rfl
  · rw [← answered_iff]
    exact forall_congr' fun val => iff_congr (doCompare_group hinfo hadmin _ _ a val) Iff.rfl

end

section Samples

open Plain

def loneAlice : UserAndGroups := ⟨(userRow "alice").toUser.materializeProtectedFields, some []⟩

def aliceStore : Store := { Store.empty with users := Lib.Table.empty.upsert (userRow "alice") }

/-- An administrator's comparison of a value with the entry of `alice`. -/
def compareAlice (a : String) (val : Bytes) : Except Failure (List LdapOp) :=
  (doCompare (sqlServices Opaque.plainSuite () () outside) ldapInfo
    (some ⟨.new "admin", .admin⟩) ⟨userDn ldapInfo loneAlice, a, val⟩ (world aliceStore)).1

theorem answering_alice :
    answeringUser ldapInfo aliceStore (userDn ldapInfo loneAlice) = some loneAlice := by
  have hread : getUserIdFromDistinguishedNameOrPlainName (asciiLower (userDn ldapInfo loneAlice))
      ldapInfo.baseDn ldapInfo.baseDnStr = .ok loneAlice.user.userId := by decide +kernel
  refine answeringUser_self ?_ (by decide +kernel)
  rw [dnUserFilter, hread]

/-- The address is found under the canonical name of the attribute, in any letter case. -/
theorem compareAlice_mail :
    LdapInfo.new "dc=example,dc=com" [] [] = .ok ldapInfo ∧
      compareAlice "MAIL" (utf8 "alice") =
        .ok [.compareResult ⟨.compareTrue, userDn ldapInfo loneAlice, ""⟩] := by
  obtain ⟨hinfo, hvalues⟩ : LdapInfo.new "dc=example,dc=com" [] [] = .ok ldapInfo ∧
      userValues ldapInfo loneAlice "MAIL" = some [utf8 "alice"] := by decide +kernel
  have hname : ComparesByName "MAIL" (some [utf8 "alice"]) := fun _ => by decide +kernel
  have h := (@compare_iff _ _ Opaque.plainSuite () () outside ldapInfo ⟨.new "admin", .admin⟩
    (world aliceStore) _ _ _ hinfo rfl "MAIL").1 loneAlice
  rw [show (world aliceStore).db = aliceStore from rfl, answering_alice] at h
  refine ⟨hinfo, (h.mpr ⟨fun _ => ?_, fun hne => absurd rfl hne⟩ _).mpr ?_⟩
  · dsimp only
    rwa [hvalues]
  · rw [hvalues]
    exact List.mem_singleton_self _

/-- Under another name of the attribute it is not, although the entry has it. -/
theorem email_compared_false :
    answeringUser ldapInfo aliceStore (userDn ldapInfo loneAlice) = some loneAlice ∧
      userValues ldapInfo loneAlice "email" = some [utf8 "alice"] ∧
      compareAlice "email" (utf8 "alice") ≠
        .ok [.compareResult ⟨.compareTrue, userDn ldapInfo loneAlice, ""⟩] := by
  have hinfo : LdapInfo.new "dc=example,dc=com" [] [] = .ok ldapInfo := by decide +kernel
  have hrenamed : asciiLower (getSchemaManager.getCanonicalName "email") ≠ asciiLower "email" := by
    rw [SchemaManager.getCanonicalName, getSchemaManager_registered.2.2.2.2.2.1]
    decide +kernel
  have hop : asksOperational ["email"] = false := by decide +kernel
  refine ⟨answering_alice, by decide +kernel, fun htrue => ?_⟩
  obtain ⟨x, -, hshows⟩ := (doCompare_user hinfo rfl _ _ _ _).mp htrue
  rcases hshows with ⟨-, hname, -⟩ | ⟨hasks, -⟩
  · exact hrenamed hname
  · rw [hop] at hasks
    cases hasks

end Samples

end Ldap
end Klldap
