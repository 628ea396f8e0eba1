import Klldap.Lib.Bincode
import Klldap.Lib.Text
import Mathlib.Data.Nat.Digits.Defs

/-!
# Decimal: numbers as decimal texts and as the bytes of these

- `parseSigned_toString`: a number in range is read back from its decimal text.
- `utf8_of_ascii`: the bytes of an ASCII text are its characters.
- `decodeString_decimal`: the bytes of a decimal text are not those of a length-prefixed string,
  since the digits read as a length are larger than any text that a number has.
-/

namespace Lib

open Bincode Text

/-! ## Texts -/

namespace Text

theorem parseDigits_toDigits (n : Nat) : parseDigits (Nat.toDigits 10 n) = some n := by
  have hne : Nat.toDigits 10 n ≠ [] := Nat.toDigits_ne_nil
  have hdigits : (Nat.toDigits 10 n).any (fun c => !c.isDigit) = false := by
    rw [List.any_eq_false]
    intro c hc
    simp [Nat.isDigit_of_mem_toDigits (by decide) (by decide) hc]
  rw [parseDigits, hdigits]
  simp only [hne, decide_false, Bool.or_false, Bool.false_eq_true, if_false]
  exact congrArg some (Nat.ofDigitChars_toDigits (by decide) (by decide))

theorem parseSigned_toString {bits : Nat} {i : Int} (hlo : -2 ^ bits ≤ i) (hhi : i < 2 ^ bits) :
    parseSigned bits (toString i) = some i := by
  rw [Int.toString_eq_repr]
  cases i with
  | ofNat n =>
    have hn : n < 2 ^ bits := by
      rw [Int.ofNat_eq_natCast] at hhi
      exact_mod_cast hhi
    have hdigit : ∀ c ∈ Nat.toDigits 10 n, c.isDigit = true :=
      fun c => Nat.isDigit_of_mem_toDigits (by decide) (by decide)
    simp only [Int.repr, parseSigned, Nat.toList_repr]
    split
    · rename_i cs hcs
      exact absurd (hdigit '-' (by simp [hcs])) (by decide)
    · rename_i cs hcs
      exact absurd (hdigit '+' (by simp [hcs])) (by decide)
    · rw [parseDigits_toDigits]
      simp [hn]
  | negSucc n =>
    have hn : n + 1 ≤ 2 ^ bits := by
      have hcast : ((n + 1 : Nat) : Int) ≤ ((2 ^ bits : Nat) : Int) := by
        rw [Int.negSucc_eq] at hlo
        push_cast
        omega
      exact_mod_cast hcast
    have hminus : "-".toList = ['-'] := by decide
    simp only [Int.repr, parseSigned, String.toList_append, Nat.toList_repr, hminus,
      List.cons_append, List.nil_append, parseDigits_toDigits, Option.bind_some]
    rw [if_pos hn, Int.negSucc_eq]
    rfl

theorem mem_toString_int {i : Int} {c : Char} (h : c ∈ (toString i).toList) :
    c = '-' ∨ c.isDigit = true := by
  rw [Int.toString_eq_repr] at h
  cases i with
  | ofNat n =>
    simp only [Int.repr, Nat.toList_repr] at h
    exact .inr (Nat.isDigit_of_mem_toDigits (by decide) (by decide) h)
  | negSucc n =>
    simp only [Int.repr, String.toList_append, Nat.toList_repr, List.mem_append] at h
    rcases h with h | h
    · exact .inl (by simpa using h)
    · exact .inr (Nat.isDigit_of_mem_toDigits (by decide) (by decide) h)

theorem length_toString_int {i : Int} {e : Nat} (he : 0 < e) (hlo : -10 ^ e < i)
    (hhi : i < 10 ^ e) : (toString i).toList.length ≤ e + 1 := by
  rw [Int.toString_eq_repr]
  cases i with
  | ofNat n =>
    have hn : n < 10 ^ e := by
      rw [Int.ofNat_eq_natCast] at hhi
      exact_mod_cast hhi
    have hlen := Nat.repr_length n e he hn
    rw [String.length_toList, Int.repr]
    omega
  | negSucc n =>
    have hn : n + 1 < 10 ^ e := by
      have hcast : ((n + 1 : Nat) : Int) < ((10 ^ e : Nat) : Int) := by
        rw [Int.negSucc_eq] at hlo
        push_cast
        omega
      exact_mod_cast hcast
    have hlen := Nat.repr_length (n + 1) e he hn
    simp only [Int.repr, String.toList_append, List.length_append]
    rw [String.length_toList, String.length_toList, show "-".length = 1 by decide]
    have : (n.succ).repr.length ≤ e := hlen
    omega

end Text

/-! ## Bytes -/

namespace Bincode

theorem utf8_of_ascii {s : String} (h : ∀ c ∈ s.toList, c.toNat < 128) :
    utf8 s = s.toList.map fun c => UInt8.ofNat c.toNat := by
  have hbytes : utf8 s = s.toList.flatMap String.utf8EncodeChar := by
    have hs : s.toByteArray = s.toList.utf8Encode := by
      rw [← String.toByteArray_ofList, String.ofList_toList]
    rw [utf8, String.toUTF8, hs, List.utf8Encode, List.data_toByteArray]
  have hsingle : ∀ c ∈ s.toList, String.utf8EncodeChar c = [UInt8.ofNat c.toNat] := by
    intro c hc
    have hsmall : c.val.toNat ≤ 127 := Nat.le_of_lt_succ (h c hc)
    simp only [String.utf8EncodeChar, hsmall, if_true]
    rfl
  rw [hbytes, List.flatMap_congr hsingle, ← List.map_eq_flatMap]

theorem le_of_decodeNat {w n : Nat} {bs rest : Bytes} (h : decodeNat (w + 1) bs = some (n, rest))
    (hbs : ∀ b ∈ bs, b ≠ 0) : 256 ^ w ≤ n ∧ rest.length ≤ bs.length := by
  induction w generalizing n bs with
  | zero =>
    cases bs with
    | nil => cases h
    | cons b bs =>
      have hb : b.toNat ≠ 0 := by
        have hne := hbs b List.mem_cons_self
        simpa [← UInt8.toNat_inj] using hne
      simp only [decodeNat, Option.map_some, Option.some.injEq, Prod.mk.injEq] at h
      obtain ⟨rfl, rfl⟩ := h
      simp only [pow_zero, List.length_cons]
      omega
  | succ w ih =>
    cases bs with
    | nil => cases h
    | cons b bs =>
      rw [decodeNat, Option.map_eq_some_iff] at h
      obtain ⟨⟨m, rest'⟩, hm, heq⟩ := h
      simp only [Prod.mk.injEq] at heq
      obtain ⟨rfl, rfl⟩ := heq
      obtain ⟨hle, hlen⟩ := ih hm fun b' hb' => hbs b' (List.mem_cons_of_mem b hb')
      simp only [List.length_cons]
      refine ⟨?_, by omega⟩
      rw [Nat.pow_succ]
      omega

theorem decodeString_decimal {i : Int} (hlo : -10 ^ 19 < i) (hhi : i < 10 ^ 19) :
    decodeString (utf8 (toString i)) = none := by
  have hchar : ∀ c ∈ (toString i).toList, 45 ≤ c.toNat ∧ c.toNat < 128 := by
    intro c hc
    rcases mem_toString_int hc with rfl | hdigit
    · decide
    · simp only [Char.isDigit, Bool.and_eq_true, decide_eq_true_eq, ge_iff_le,
        UInt32.le_iff_toNat_le] at hdigit
      have h48 : '0'.val.toNat = 48 := rfl
      have h57 : '9'.val.toNat = 57 := rfl
      rw [Char.toNat]
      omega
  have hbytes := utf8_of_ascii fun c hc => (hchar c hc).2
  have hlen : (utf8 (toString i)).length ≤ 20 := by
    rw [hbytes, List.length_map]
    exact length_toString_int (by decide) hlo hhi
  have hzero : ∀ b ∈ utf8 (toString i), b ≠ 0 := by
    intro b hb
    rw [hbytes] at hb
    obtain ⟨c, hc, rfl⟩ := List.mem_map.mp hb
    have := hchar c hc
    rw [ne_eq, ← UInt8.toNat_inj, UInt8.toNat_ofNat', UInt8.toNat_zero]
    omega
  unfold decodeString
  cases hn : decodeNat 8 (utf8 (toString i)) with
  | none => rfl
  | some p =>
    obtain ⟨n, rest⟩ := p
    obtain ⟨hle, hrest⟩ := le_of_decodeNat hn hzero
    have hshort : rest.length < n := by omega
    simp [hshort]

end Bincode

end Lib
