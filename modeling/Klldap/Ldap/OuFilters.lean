import Klldap.Ldap.Search
import Klldap.Lib.Trool

/-!
# Klldap.Ldap.OuFilters: filters on organizational units

`ou_matches_filter` decides whether the entry of an organizational unit is returned. It looks at the
internal path of the unit and at the names in the filter, not at the entry that `make_ou_entry` builds.

An equality test on an attribute other than `ou` and `objectClass` is meant to be accepted, whatever
the entry has. The matcher slips on two kinds of tests: it compares the whole path with the value of
`ou` where the entry has the last level, and it does not know two of the operational attributes.
-/

namespace Klldap
namespace Ldap

open Lib (Bytes Trool)
open Lib.Bincode (utf8 ofUtf8?)
open Lib.Text

/-! ## Filters on an entry -/

def isValue (v : String) (bytes : Bytes) : Bool :=
  (ofUtf8? bytes).any fun s => eqIgnoreAsciiCase s v

mutual

def holdsOf (attributes : List LdapPartialAttribute) : LdapFilter → Bool
  | .equality field value =>
    attributes.any fun a => eqIgnoreAsciiCase a.atype field && a.vals.any (isValue value)
  | .present field => attributes.any fun a => eqIgnoreAsciiCase a.atype field
  | .and fs => allHold attributes fs
  | .or fs => anyHolds attributes fs
  | .not f => !holdsOf attributes f
  | _ => false

def allHold (attributes : List LdapPartialAttribute) : List LdapFilter → Bool
  | [] => true
  | f :: fs => holdsOf attributes f && allHold attributes fs

def anyHolds (attributes : List LdapPartialAttribute) : List LdapFilter → Bool
  | [] => false
  | f :: fs => holdsOf attributes f || anyHolds attributes fs

end

/-- The filters made of equality tests, presence tests, conjunction, disjunction and negation. -/
inductive Simple : LdapFilter → Prop
  | equality (field value : String) : Simple (.equality field value)
  | present (field : String) : Simple (.present field)
  | and {fs : List LdapFilter} (h : ∀ f ∈ fs, Simple f) : Simple (.and fs)
  | or {fs : List LdapFilter} (h : ∀ f ∈ fs, Simple f) : Simple (.or fs)
  | not {f : LdapFilter} (h : Simple f) : Simple (.not f)

section

variable [Library] (ou baseDnStr : String)

/-- The value of `ou` in the entry: the last level of the path. -/
def leafOu : String := ((internalOuToLdapRdnChain ou).head?.map Prod.snd).getD defaultPrimaryUserOu

def ouValues : List (String × String) := [
  ("ou", leafOu ou),
  ("hasSubordinates", "TRUE"),
  ("structuralObjectClass", "organizationalUnit"),
  ("subschemaSubentry", "cn=Subschema," ++ baseDnStr),
  ("entryUUID", Library.uuidV5 (makeOuEntry ou baseDnStr true).dn)]

theorem makeOuEntry_attributes :
    (makeOuEntry ou baseDnStr true).attributes =
      ⟨"objectClass", [utf8 "top", utf8 "organizationalUnit"]⟩ ::
        (ouValues ou baseDnStr).map fun p => ⟨p.1, [utf8 p.2]⟩ := by
  simp only [makeOuEntry, ouValues, leafOu, if_true, List.map_cons, List.map_nil, List.cons_append,
    List.nil_append]

omit [Library] in
theorem isValue_utf8 (v s : String) : isValue v (utf8 s) = eqIgnoreAsciiCase s v := by
  simp [isValue]

theorem holdsOf_equality (field value : String) :
    holdsOf (makeOuEntry ou baseDnStr true).attributes (.equality field value) = true ↔
      (asciiLower field = "objectclass" ∧ asciiLower value ∈ ["top", "organizationalunit"]) ∨
      ∃ p ∈ ouValues ou baseDnStr, asciiLower p.1 = asciiLower field ∧
        asciiLower p.2 = asciiLower value := by
  have hclass : asciiLower "objectClass" = "objectclass" := by decide
  have htop : asciiLower "top" = "top" := by decide
  have hunit : asciiLower "organizationalUnit" = "organizationalunit" := by decide
  rw [makeOuEntry_attributes, holdsOf, List.any_cons, List.any_map, Bool.or_eq_true, List.any_eq_true]
  simp only [Function.comp_apply, List.any_cons, List.any_nil, isValue_utf8, eqIgnoreAsciiCase,
    hclass, htop, hunit, Bool.or_false, Bool.and_eq_true, Bool.or_eq_true, decide_eq_true_eq,
    List.mem_cons, List.not_mem_nil, or_false]
  refine or_congr (and_congr eq_comm (or_congr eq_comm eq_comm)) Iff.rfl

theorem holdsOf_present (field : String) :
    holdsOf (makeOuEntry ou baseDnStr true).attributes (.present field) = true ↔
      asciiLower field ∈ ["objectclass", "ou", "hassubordinates", "structuralobjectclass",
        "subschemasubentry", "entryuuid"] := by
  have hlower : ["objectClass", "ou", "hasSubordinates", "structuralObjectClass",
      "subschemaSubentry", "entryUUID"].map asciiLower = ["objectclass", "ou", "hassubordinates",
        "structuralobjectclass", "subschemasubentry", "entryuuid"] := by decide
  have hnames : (makeOuEntry ou baseDnStr true).attributes.map LdapPartialAttribute.atype =
      ["objectClass", "ou", "hasSubordinates", "structuralObjectClass", "subschemaSubentry",
        "entryUUID"] := by
    rw [makeOuEntry_attributes]
    simp [ouValues]
  rw [← hlower, ← hnames, List.map_map, holdsOf, List.any_eq_true, List.mem_map]
  simp only [eqIgnoreAsciiCase, Function.comp_apply, decide_eq_true_eq]

theorem ou_equality_agrees_iff {field : String} (hou : asciiLower field = "ou") (value : String) :
    ouMatchesFilter ou (.equality field value) =
        holdsOf (makeOuEntry ou baseDnStr true).attributes (.equality field value) ↔
      (asciiLower ou = asciiLower value ↔ asciiLower (leafOu ou) = asciiLower value) := by
  have hnames : ∀ p ∈ (ouValues ou baseDnStr).tail, asciiLower p.1 ≠ "ou" := by
    simp only [ouValues, List.tail_cons, List.forall_mem_cons]
    exact ⟨by decide, by decide, by decide, by decide, fun _ h => (List.not_mem_nil h).elim⟩
  have hother : ¬ ∃ p ∈ (ouValues ou baseDnStr).tail, asciiLower p.1 = "ou" ∧
      asciiLower p.2 = asciiLower value := by
    rintro ⟨p, hp, hname, -⟩
    exact hnames p hp hname
  have hcons : ouValues ou baseDnStr = ("ou", leafOu ou) :: (ouValues ou baseDnStr).tail := rfl
  rw [Bool.eq_iff_iff, holdsOf_equality, ouMatchesFilter, if_pos hou, hou, hcons,
    List.exists_mem_cons_iff]
  simp only [show ("ou" : String) ≠ "objectclass" by decide, show asciiLower "ou" = "ou" by decide,
    hother, false_and, true_and, false_or, or_false, decide_eq_true_eq]

theorem objectClass_equality_agrees {field : String} (hclass : asciiLower field = "objectclass")
    (value : String) :
    ouMatchesFilter ou (.equality field value) =
      holdsOf (makeOuEntry ou baseDnStr true).attributes (.equality field value) := by
  have hnone : ∀ p ∈ ouValues ou baseDnStr, asciiLower p.1 ≠ "objectclass" := by
    simp only [ouValues, List.forall_mem_cons]
    exact ⟨by decide, by decide, by decide, by decide, by decide,
      fun _ h => (List.not_mem_nil h).elim⟩
  have hother : ¬ ∃ p ∈ ouValues ou baseDnStr, asciiLower p.1 = "objectclass" ∧
      asciiLower p.2 = asciiLower value := by
    rintro ⟨p, hp, hname, -⟩
    exact hnone p hp hname
  rw [Bool.eq_iff_iff, holdsOf_equality, ouMatchesFilter, hclass, if_neg (by decide), if_pos rfl]
  simp [hother, or_comm]

theorem present_agrees_iff (field : String) :
    ouMatchesFilter ou (.present field) =
        holdsOf (makeOuEntry ou baseDnStr true).attributes (.present field) ↔
      asciiLower field ∉ ["subschemasubentry", "entryuuid"] := by
  rw [Bool.eq_iff_iff, holdsOf_present, ouMatchesFilter, List.contains_iff_mem]
  generalize asciiLower field = name
  simp only [List.mem_cons, List.not_mem_nil, or_false]
  constructor
  · rintro h (rfl | rfl)
    · exact absurd (h.mpr (by simp)) (by decide)
    · exact absurd (h.mpr (by simp)) (by decide)
  · intro h
    tauto

mutual

/-- The truth of a filter on the entry of a unit, where an equality test on an attribute other than
`ou` and `objectClass` counts as true. A test that the matcher slips on is left unknown. -/
def ouTruth : LdapFilter → Trool
  | .equality field value =>
    if asciiLower field = "ou" then
      if asciiLower ou = asciiLower value ↔ asciiLower (leafOu ou) = asciiLower value then
        .ofBool (holdsOf (makeOuEntry ou baseDnStr true).attributes (.equality field value))
      else .unknown
    else if asciiLower field = "objectclass" then
      .ofBool (holdsOf (makeOuEntry ou baseDnStr true).attributes (.equality field value))
    else .yes
  | .present field =>
    if asciiLower field ∈ ["subschemasubentry", "entryuuid"] then .unknown
    else .ofBool (holdsOf (makeOuEntry ou baseDnStr true).attributes (.present field))
  | .and fs => .all (ouTruths fs)
  | .or fs => .any (ouTruths fs)
  | .not f => (ouTruth f).not
  | _ => .unknown

def ouTruths : List LdapFilter → List Trool
  | [] => []
  | f :: fs => ouTruth f :: ouTruths fs

end

/-- The answer is the truth, where that is known. -/
def Decides (t : Trool) (answer : Bool) : Prop := t ≠ .unknown → answer = t.holds

omit [Library] in
theorem decides_ofBool (b : Bool) : Decides (.ofBool b) b := fun _ => (Trool.holds_ofBool b).symm

section

omit [Library]

variable {s t : Trool} {a b : Bool}

theorem Decides.and (hs : Decides s a) (ht : Decides t b) : Decides (s.and t) (a && b) := by
  cases s <;> cases t <;> simp_all [Decides, Trool.and, Trool.holds]

theorem Decides.or (hs : Decides s a) (ht : Decides t b) : Decides (s.or t) (a || b) := by
  cases s <;> cases t <;> simp_all [Decides, Trool.or, Trool.holds]

theorem Decides.not (ht : Decides t a) : Decides t.not (!a) := by
  cases t <;> simp_all [Decides, Trool.not, Trool.holds]

end

section

variable {ou baseDnStr} {fs : List LdapFilter}

theorem ouMatchesAll_decides (h : ∀ f ∈ fs, Decides (ouTruth ou baseDnStr f) (ouMatchesFilter ou f)) :
    Decides (.all (ouTruths ou baseDnStr fs)) (ouMatchesAll ou fs) := by
  induction fs with
  | nil => exact fun _ => rfl
  | cons f fs ih =>
    rw [ouTruths, Trool.all, ouMatchesAll]
    exact (h f List.mem_cons_self).and (ih fun g hg => h g (List.mem_cons_of_mem f hg))

theorem ouMatchesAny_decides (h : ∀ f ∈ fs, Decides (ouTruth ou baseDnStr f) (ouMatchesFilter ou f)) :
    Decides (.any (ouTruths ou baseDnStr fs)) (ouMatchesAny ou fs) := by
  induction fs with
  | nil => exact fun _ => rfl
  | cons f fs ih =>
    rw [ouTruths, Trool.any, ouMatchesAny]
    exact (h f List.mem_cons_self).or (ih fun g hg => h g (List.mem_cons_of_mem f hg))

theorem equality_decides (field value : String) :
    Decides (ouTruth ou baseDnStr (.equality field value))
      (ouMatchesFilter ou (.equality field value)) := by
  rw [ouTruth]
  split_ifs with hou hagrees hclass
  · rw [(ou_equality_agrees_iff ou baseDnStr hou value).mpr hagrees]
    exact decides_ofBool _
  · exact fun h => absurd rfl h
  · rw [objectClass_equality_agrees ou baseDnStr hclass]
    exact decides_ofBool _
  · rw [ouMatchesFilter, if_neg hou, if_neg hclass]
    exact fun _ => rfl

theorem present_decides (field : String) :
    Decides (ouTruth ou baseDnStr (.present field)) (ouMatchesFilter ou (.present field)) := by
  rw [ouTruth]
  split_ifs with hslip
  · exact fun h => absurd rfl h
  · rw [(present_agrees_iff ou baseDnStr field).mpr hslip]
    exact decides_ofBool _

end

/-- A filter is answered by its truth on the entry of the unit, with equality tests on other
attributes than `ou` and `objectClass` taken to be true, unless that rests on a test of `ou` with a
value that only the path or only its last level equals, or on the presence of `subschemaSubentry` or
`entryUUID`. -/
theorem ouMatchesFilter_of_truth {f : LdapFilter} (hf : Simple f)
    (hknown : ouTruth ou baseDnStr f ≠ .unknown) :
    ouMatchesFilter ou f = true ↔ ouTruth ou baseDnStr f = .yes := by
  have hdecides : Decides (ouTruth ou baseDnStr f) (ouMatchesFilter ou f) := by
    clear hknown
    induction hf with
    | equality field value => exact equality_decides field value
    | present field => exact present_decides field
    | and _ ih =>
      rw [ouTruth, ouMatchesFilter]
      exact ouMatchesAll_decides ih
    | or _ ih =>
      rw [ouTruth, ouMatchesFilter]
      exact ouMatchesAny_decides ih
    | not _ ih =>
      rw [ouTruth, ouMatchesFilter]
      exact ih.not
  rw [hdecides hknown, Trool.holds_iff]

end

section Samples

open Plain

/-- A unit is returned for a name that its entry does not have, and not for the one that it has. -/
theorem ou_not_matched_by_its_entry :
    ouMatchesFilter "people" (.equality "cn" "alice") = true ∧
      holdsOf (makeOuEntry "people" "dc=example,dc=com" true).attributes (.equality "cn" "alice") = false ∧
      ouMatchesFilter "people\\staff" (.equality "ou" "staff") = false ∧
      holdsOf (makeOuEntry "people\\staff" "dc=example,dc=com" true).attributes
        (.equality "ou" "staff") = true := by
  decide +kernel

theorem staff_matched_by_its_entry :
    let f : LdapFilter := .and [.or [.equality "objectClass" "person", .present "hasSubordinates"],
      .not (.equality "ou" "people"), .or [.equality "cn" "alice", .equality "ou" "staff"]]
    ouTruth "people\\staff" "dc=example,dc=com" f = .yes ∧ ouMatchesFilter "people\\staff" f = true := by
  intro f
  have hyes : ouTruth "people\\staff" "dc=example,dc=com" f = .yes := by decide +kernel
  refine ⟨hyes, (ouMatchesFilter_of_truth "people\\staff" "dc=example,dc=com" ?_ (by rw [hyes]; decide)).mpr
    hyes⟩
  refine .and ?_
  simp only [List.forall_mem_cons, List.not_mem_nil, false_imp_iff, implies_true, and_true]
  refine ⟨.or ?_, .not (.equality _ _), .or ?_⟩
  · simp only [List.forall_mem_cons, List.not_mem_nil, false_imp_iff, implies_true, and_true]
    exact ⟨.equality _ _, .present _⟩
  · simp only [List.forall_mem_cons, List.not_mem_nil, false_imp_iff, implies_true, and_true]
    exact ⟨.equality _ _, .equality _ _⟩

end Samples

end Ldap
end Klldap
