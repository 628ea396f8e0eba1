import Klldap.Ldap.Filters
import Klldap.Sql.RoundTrip
import Klldap.Sql.Stored

/-!
# Klldap.Ldap.ListEquality: equality filters on attributes with several values

The filter `(a=v)` on a list is made of the list of the one value `v`, and the database compares the
bytes of this list with the bytes of the stored list as a whole.
-/

namespace Klldap
namespace Ldap

open Lib (Bytes)
open Lib.Bincode (utf8 ofUtf8?)
open Lib.Text

section

variable [External] {db : Store}

/-- The value of a one-element list is among the values of a list of the same type. -/
def IsElement : AttributeValue → AttributeValue → Prop
  | .string (.unbounded [s]), .string (.unbounded l) => s ∈ l
  | .integer (.unbounded [i]), .integer (.unbounded l) => i ∈ l
  | _, _ => False

def storedValues (db : Store) (u : UserId) (name : AttributeName) (typ : AttributeType) :
    Option AttributeValue :=
  (db.userAttributes.find? (u, name)).map fun row => Klldap.deserializeAttributeValue row.value typ true

/-- The filter selects the row. -/
def Selects (db : Store) (f : UserRequestFilter) (r : UserRow) : Prop :=
  ∃ c, Sql.getUserFilterExpr f = .ok c ∧ (c db r).holds = true

/-- Stored bytes that say about a single value what their list does. A list of integers is compared
as no bytes at all, which are read as a zero. -/
def Comparable (bytes : Bytes) : AttributeValue → Prop
  | .string (.unbounded [s]) =>
    s ∈ ((ofUtf8? bytes).bind External.jsonToStrings).getD [textOr "" bytes] →
      bytes = utf8 (External.stringsToJson [s])
  | .integer (.unbounded [i]) =>
    if bytes = [] then i = 0 else (parseI64 (textOr "0" bytes)).getD 0 ≠ i
  | _ => True

theorem selects_attributeEquality {name : AttributeName} {value : AttributeValue} {r : UserRow} :
    Selects db (.attributeEquality name value) r ↔
      ∃ row, db.userAttributes.find? (r.userId, name) = some row ∧
        row.value = Sql.attributeValueToDbBytes value := by
  have hselects : Selects db (.attributeEquality name value) r ↔
      (Sql.attributeCondition name (some value) db r).holds = true := by
    constructor
    · rintro ⟨c, hc, hholds⟩
      cases hc
      exact hholds
    · exact fun hholds => ⟨_, rfl, hholds⟩
  rw [hselects, Sql.attributeCondition, Sql.hasUserAttribute, Lib.Trool.holds_ofBool, List.any_eq_true]
  constructor
  · rintro ⟨row, hrow, hmatch⟩
    simp only [Option.all_some, Bool.and_eq_true, decide_eq_true_eq] at hmatch
    obtain ⟨⟨hu, hname⟩, hvalue⟩ := hmatch
    refine ⟨row, ?_, hvalue⟩
    rw [← hu, ← hname]
    exact Lib.Table.find?_of_mem hrow
  · rintro ⟨row, hrow, hvalue⟩
    have hkey := Lib.Table.key_of_find? hrow
    refine ⟨row, Lib.Table.mem_of_find? hrow, ?_⟩
    simp only [Prod.mk.injEq] at hkey
    simp [hkey.1, hkey.2, hvalue]

theorem listEquality_row {name : AttributeName} {value : AttributeValue} {typ : AttributeType}
    {r : UserRow} :
    (Selects db (.attributeEquality name value) r ↔
      ∃ stored, storedValues db r.userId name typ = some stored ∧ IsElement value stored) ↔
    ∀ row, db.userAttributes.find? (r.userId, name) = some row →
      (row.value = Sql.attributeValueToDbBytes value ↔
        IsElement value (Klldap.deserializeAttributeValue row.value typ true)) := by
  rw [selects_attributeEquality, storedValues]
  cases db.userAttributes.find? (r.userId, name) with
  | none => simp
  | some row => simp

theorem stringEquality_iff (hjson : ∀ l, External.jsonToStrings (External.stringsToJson l) = some l)
    (bytes : Bytes) (s : String) :
    (bytes = Sql.attributeValueToDbBytes (.string (.unbounded [s])) ↔
      IsElement (.string (.unbounded [s])) (Klldap.deserializeAttributeValue bytes .string true)) ↔
    Comparable bytes (.string (.unbounded [s])) := by
  have hread : IsElement (.string (.unbounded [s])) (Klldap.deserializeAttributeValue bytes .string true)
      ↔ s ∈ ((ofUtf8? bytes).bind External.jsonToStrings).getD [textOr "" bytes] := by
    rw [Klldap.deserializeAttributeValue]
    cases (ofUtf8? bytes).bind External.jsonToStrings with
    | none => exact Iff.rfl
    | some l => exact Iff.rfl
  rw [hread]
  constructor
  · exact fun h => h.mpr
  · refine fun h => ⟨fun heq => ?_, h⟩
    rw [heq, Sql.attributeValueToDbBytes]
    simp [hjson]

theorem integerEquality_iff (bytes : Bytes) (i : Int) :
    (bytes = Sql.attributeValueToDbBytes (.integer (.unbounded [i])) ↔
      IsElement (.integer (.unbounded [i])) (Klldap.deserializeAttributeValue bytes .integer true)) ↔
    Comparable bytes (.integer (.unbounded [i])) := by
  have hread : IsElement (.integer (.unbounded [i]))
      (Klldap.deserializeAttributeValue bytes .integer true) ↔
        (parseI64 (textOr "0" bytes)).getD 0 = i := by
    rw [Klldap.deserializeAttributeValue, IsElement, List.mem_singleton, eq_comm]
  rw [hread, Comparable]
  split_ifs with hbytes
  · subst hbytes
    have hzero : (parseI64 (textOr "0" [])).getD 0 = 0 := by decide
    rw [hzero, Sql.attributeValueToDbBytes]
    simp [eq_comm]
  · rw [Sql.attributeValueToDbBytes]
    simp [hbytes]

variable [Library]

/-- The filter made of one value finds exactly the users with that value among their values, unless
the stored bytes are not comparable with it. -/
theorem listEquality_iff (hjson : ∀ l, External.jsonToStrings (External.stringsToJson l) = some l)
    (db : Store) (r : UserRow) (name : AttributeName) {typ : AttributeType}
    (htyp : typ = .string ∨ typ = .integer) {v : String} {value : AttributeValue}
    (hvalue : deserializeAttributeValue [v] typ true = .ok value) :
    (Selects db (.attributeEquality name value) r ↔
      ∃ stored, storedValues db r.userId name typ = some stored ∧ IsElement value stored) ↔
    ∀ row, db.userAttributes.find? (r.userId, name) = some row → Comparable row.value value := by
  rw [listEquality_row]
  rcases htyp with rfl | rfl
  · obtain rfl : .string (.unbounded [v]) = value := Except.ok.inj hvalue
    exact forall₂_congr fun row _ => stringEquality_iff hjson row.value v
  · obtain ⟨i, rfl⟩ : ∃ i, value = .integer (.unbounded [i]) := by
      obtain ⟨l, hl, rfl⟩ := Lib.except_map_ok.mp hvalue
      obtain ⟨is, his, rfl⟩ := Lib.except_map_ok.mp hl
      obtain ⟨i, rfl⟩ := List.length_eq_one_iff.mp (Lib.except_mapM_length his).symm
      exact ⟨i, rfl⟩
    exact forall₂_congr fun row _ => integerEquality_iff row.value i

end

section Samples

open Plain

open Codecs

def keysOfBob (keys : List String) : Store :=
  { Store.empty with
    users := Lib.Table.empty.upsert (userRow "bob")
    userAttributes := Lib.Table.empty.upsert ⟨.new "bob", .new "sshpublickey",
      Sql.attributeValueToDbBytes (.string (.unbounded keys))⟩ }

/-- The only key is found. -/
theorem listEquality_bob :
    Selects (keysOfBob ["a"])
        (.attributeEquality (.new "sshpublickey") (.string (.unbounded ["a"]))) (userRow "bob") ↔
      ∃ stored, storedValues (keysOfBob ["a"]) (.new "bob") (.new "sshpublickey") .string = some stored ∧
        IsElement (.string (.unbounded ["a"])) stored := by
  refine (listEquality_iff Codecs.lawful.strings (keysOfBob ["a"]) (userRow "bob")
    (.new "sshpublickey") (.inl rfl) (v := "a") rfl).mpr ?_
  intro row hrow
  obtain rfl : row = ⟨.new "bob", .new "sshpublickey", _⟩ := (Option.some.inj hrow).symm
  exact fun _ => rfl

/-- One of two keys is not. -/
theorem one_of_two_keys_not_found :
    ¬ Selects (keysOfBob ["a", "b"])
        (.attributeEquality (.new "sshpublickey") (.string (.unbounded ["a"]))) (userRow "bob") ∧
      ∃ stored, storedValues (keysOfBob ["a", "b"]) (.new "bob") (.new "sshpublickey") .string =
        some stored ∧ IsElement (.string (.unbounded ["a"])) stored := by
  constructor
  · rw [selects_attributeEquality]
    rintro ⟨row, hrow, hvalue⟩
    obtain rfl : row = ⟨.new "bob", .new "sshpublickey", _⟩ := (Option.some.inj hrow).symm
    exact absurd hvalue (by decide +kernel)
  · exact ⟨.string (.unbounded ["a", "b"]), by decide +kernel, List.mem_cons_self⟩

end Samples

end Ldap
end Klldap
