import Klldap.Lib.Decimal
import Klldap.Plain

/-!
# Klldap.Sql.RoundTrip: attribute values in the database and back

What `attributeValueToDbBytes` writes is read by `deserializeAttributeValue`. Texts, lists of texts,
numbers and images are read back. A date is written as a decimal number of seconds but read in the
encoding of the library, and a list of anything but texts is written as no bytes at all.
-/

namespace Klldap

open Lib (Bytes)
open Lib.Bincode (utf8 decodeNat decodeString decodeString_decimal)
open Lib.Text

/-! ## Values -/

namespace AttributeValue

def getAttributeType : AttributeValue → AttributeType
  | .string _ => .string
  | .integer _ => .integer
  | .avatar _ => .avatar
  | .dateTime _ => .dateTime

def isList : AttributeValue → Bool
  | .string (.unbounded _) | .integer (.unbounded _) | .avatar (.unbounded _)
  | .dateTime (.unbounded _) => true
  | _ => false

def upToSeconds : AttributeValue → AttributeValue
  | .dateTime (.singleton dt) => .dateTime (.singleton (timestamp dt))
  | .dateTime (.unbounded dts) => .dateTime (.unbounded (dts.map timestamp))
  | v => v

end AttributeValue

/-- An integer of the type `i64`. -/
def InI64 (i : Int) : Prop := -2 ^ 63 ≤ i ∧ i < 2 ^ 63

section

variable [External]

/-- The image is as `Avatar::new` leaves it. -/
def Avatar.IsNormal (p : Avatar) : Prop := Avatar.new p.bytes = p

/-- A value that the source's types can hold, with images that have been processed. -/
def AttributeValue.Valid : AttributeValue → Prop
  | .string _ => True
  | .integer (.singleton i) => InI64 i
  | .integer (.unbounded is) => ∀ i ∈ is, InI64 i
  | .avatar (.singleton p) => p.IsNormal
  | .avatar (.unbounded ps) => ∀ p ∈ ps, p.IsNormal
  | .dateTime (.singleton dt) => InI64 (timestamp dt)
  | .dateTime (.unbounded dts) => ∀ dt ∈ dts, InI64 (timestamp dt)

/-- What is assumed of JSON and of `bincode`: a list of strings is read back from its JSON text, a
date is encoded as a string, and a list begins with its length. -/
structure LawfulCodecs : Prop where
  strings : ∀ l, External.jsonToStrings (External.stringsToJson l) = some l
  dateTime : ∀ bytes, decodeString bytes = none → External.bytesToDateTime bytes = none
  dateTimes : ∀ bytes, decodeNat 8 bytes = none → External.bytesToDateTimes bytes = none

def readBack (v : AttributeValue) : AttributeValue :=
  deserializeAttributeValue (Sql.attributeValueToDbBytes v) v.getAttributeType v.isList

/-- The values that come back: texts, lists of texts, numbers and images, and of the others those
that are what the reader makes of bytes it does not understand. -/
def ReadsBack : AttributeValue → Prop
  | .string _ | .integer (.singleton _) | .avatar (.singleton _) => True
  | .dateTime (.singleton dt) => timestamp dt = 0
  | .integer (.unbounded is) => is = [0]
  | .avatar (.unbounded ps) => ps = [Avatar.new []]
  | .dateTime (.unbounded dts) => dts = []

/-! ## Reading back -/

omit [External] in
theorem textOr_utf8 (fallback s : String) : textOr fallback (utf8 s) = s := by
  simp [textOr]

theorem read_string (s : String) : readBack (.string (.singleton s)) = .string (.singleton s) := by
  have hread : readBack (.string (.singleton s)) = .string (.singleton (textOr "" (utf8 s))) := rfl
  rw [hread, textOr_utf8]

theorem read_strings (h : LawfulCodecs) (l : List String) :
    readBack (.string (.unbounded l)) = .string (.unbounded l) := by
  rw [readBack]
  change deserializeAttributeValue (utf8 (External.stringsToJson l)) .string true = _
  simp [deserializeAttributeValue, h.strings]

theorem read_integer {i : Int} (h : InI64 i) :
    readBack (.integer (.singleton i)) = .integer (.singleton i) := by
  have hread : readBack (.integer (.singleton i)) =
      .integer (.singleton ((parseI64 (textOr "0" (utf8 (toString i)))).getD 0)) := rfl
  rw [hread, textOr_utf8, parseI64, parseSigned_toString h.1 h.2, Option.getD_some]

theorem read_avatar {p : Avatar} (h : p.IsNormal) :
    readBack (.avatar (.singleton p)) = .avatar (.singleton p) := by
  have hread : readBack (.avatar (.singleton p)) = .avatar (.singleton (Avatar.new p.bytes)) := rfl
  rw [hread, show Avatar.new p.bytes = p from h]

theorem read_dateTime (h : LawfulCodecs) {dt : DateTime} (hdt : InI64 (timestamp dt)) :
    readBack (.dateTime (.singleton dt)) = .dateTime (.singleton 0) := by
  have hnone : External.bytesToDateTime (utf8 (toString (timestamp dt))) = none := by
    refine h.dateTime _ (decodeString_decimal ?_ ?_)
    · have := hdt.1
      omega
    · have := hdt.2
      omega
  have hread : readBack (.dateTime (.singleton dt)) = .dateTime (.singleton
      ((External.bytesToDateTime (utf8 (toString (timestamp dt)))).getD 0)) := rfl
  rw [hread, hnone, Option.getD_none]

theorem read_integers (is : List Int) :
    readBack (.integer (.unbounded is)) = .integer (.unbounded [0]) := by
  have hzero : (parseI64 (textOr "0" [])).getD 0 = 0 := by decide
  have hread : readBack (.integer (.unbounded is)) =
      .integer (.unbounded [(parseI64 (textOr "0" [])).getD 0]) := rfl
  rw [hread, hzero]

theorem read_avatars (ps : List Avatar) :
    readBack (.avatar (.unbounded ps)) = .avatar (.unbounded [Avatar.new []]) := rfl

theorem read_dateTimes (h : LawfulCodecs) (dts : List DateTime) :
    readBack (.dateTime (.unbounded dts)) = .dateTime (.unbounded []) := by
  have hnone : External.bytesToDateTimes [] = none := h.dateTimes [] rfl
  have hread : readBack (.dateTime (.unbounded dts)) =
      .dateTime (.unbounded ((External.bytesToDateTimes []).getD [])) := rfl
  rw [hread, hnone, Option.getD_none]

/-- A value comes back from the database, up to whole seconds, exactly when it is one of those
above. -/
theorem readsBack_iff (h : LawfulCodecs) {v : AttributeValue} (hv : v.Valid) :
    (readBack v).upToSeconds = v.upToSeconds ↔ ReadsBack v := by
  cases v with
  | string v =>
    cases v with
    | singleton s => exact iff_of_true (by rw [read_string]) trivial
    | unbounded l => exact iff_of_true (by rw [read_strings h]) trivial
  | integer v =>
    cases v with
    | singleton i => exact iff_of_true (by rw [read_integer hv]) trivial
    | unbounded is =>
      rw [read_integers]
      simp [AttributeValue.upToSeconds, ReadsBack, eq_comm]
  | avatar v =>
    cases v with
    | singleton p => exact iff_of_true (by rw [read_avatar hv]) trivial
    | unbounded ps =>
      rw [read_avatars]
      simp [AttributeValue.upToSeconds, ReadsBack, eq_comm]
  | dateTime v =>
    cases v with
    | singleton dt =>
      rw [read_dateTime h hv]
      simp [AttributeValue.upToSeconds, ReadsBack, timestamp, eq_comm]
    | unbounded dts =>
      rw [read_dateTimes h]
      simp [AttributeValue.upToSeconds, ReadsBack, eq_comm]

end

/-! ## Codecs that meet the laws -/

namespace Codecs

/-- Strings one after another, each character after a point and each string before a comma. -/
def encodeStrings (l : List String) : String :=
  String.ofList (l.flatMap fun s => s.toList.flatMap (fun c => ['.', c]) ++ [','])

def decodeChars : List Char → Option (List (List Char))
  | [] => some []
  | ',' :: cs => (decodeChars cs).map ([] :: ·)
  | '.' :: c :: cs =>
    match decodeChars cs with
    | some (s :: ss) => some ((c :: s) :: ss)
    | _ => none
  | _ => none

theorem decodeChars_append (s rest : List Char) (ss : List (List Char))
    (h : decodeChars rest = some ss) :
    decodeChars (s.flatMap (fun c => ['.', c]) ++ ',' :: rest) = some (s :: ss) := by
  induction s with
  | nil => simp [decodeChars, h]
  | cons c s ih =>
    simp only [List.flatMap_cons, List.cons_append, List.nil_append, decodeChars, ih]

theorem decodeChars_encodeStrings (l : List String) :
    decodeChars (encodeStrings l).toList = some (l.map String.toList) := by
  rw [encodeStrings, String.toList_ofList]
  induction l with
  | nil => rfl
  | cons s l ih =>
    rw [List.flatMap_cons, List.append_assoc, List.singleton_append]
    exact decodeChars_append _ _ _ ih

/-- The plain library functions with lists of strings that are read back. -/
scoped instance external : External :=
  { Plain.external with
    stringsToJson := encodeStrings
    jsonToStrings := fun s => (decodeChars s.toList).map (List.map String.ofList) }

theorem lawful : LawfulCodecs where
  strings l := by
    change (decodeChars (encodeStrings l).toList).map (List.map String.ofList) = some l
    rw [decodeChars_encodeStrings, Option.map_some, List.map_map]
    simp
  dateTime _ _ := rfl
  dateTimes _ _ := rfl

end Codecs

section

open Codecs

/-- The keys of a user are read back. -/
theorem keys_read_back : (AttributeValue.string (.unbounded ["a", "b"])).Valid ∧
    (readBack (.string (.unbounded ["a", "b"]))).upToSeconds = .string (.unbounded ["a", "b"]) :=
  have hvalid : (AttributeValue.string (.unbounded ["a", "b"])).Valid := trivial
  ⟨hvalid, (readsBack_iff lawful hvalid).mpr trivial⟩

/-- A list of numbers comes back as the list of a zero, and every date as the epoch. -/
theorem numbers_do_not_read_back :
    (readBack (.integer (.unbounded [3, 4]))).upToSeconds ≠
        (AttributeValue.integer (.unbounded [3, 4])).upToSeconds ∧
      (readBack (.dateTime (.singleton 1000000000))).upToSeconds ≠
        (AttributeValue.dateTime (.singleton 1000000000)).upToSeconds := by
  decide

end

end Klldap
