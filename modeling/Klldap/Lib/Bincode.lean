import Mathlib

/-!
# Bincode: fixed-width little-endian encodings

The encoding writes a record as the concatenation of its fields, an integer in a fixed number of
little-endian bytes and a string as its byte count in eight bytes followed by its UTF-8 bytes.
Decoding reads a field off the front and hands back the rest; what a record's decoder leaves
over is not an error.
-/

namespace Lib

abbrev Bytes := List UInt8

namespace Bincode

def encodeNat : Nat → Nat → Bytes
  | 0, _ => []
  | w + 1, n => UInt8.ofNat n :: encodeNat w (n / 256)

/-- The number in the first `w` bytes, and the bytes after them. -/
def decodeNat : Nat → Bytes → Option (Nat × Bytes)
  | 0, bs => some (0, bs)
  | _ + 1, [] => none
  | w + 1, b :: bs => (decodeNat w bs).map fun p => (b.toNat + 256 * p.1, p.2)

theorem decodeNat_encodeNat (w n : Nat) (rest : Bytes) (hn : n < 256 ^ w) :
    decodeNat w (encodeNat w n ++ rest) = some (n, rest) := by
  induction w generalizing n with
  | zero =>
    have h0 : n = 0 := by simpa using hn
    simp [decodeNat, encodeNat, h0]
  | succ w ih =>
    have hq : n / 256 < 256 ^ w := by
      rw [Nat.div_lt_iff_lt_mul (by decide)]
      rwa [Nat.pow_succ] at hn
    simp only [encodeNat, List.cons_append, decodeNat, ih _ hq, Option.map_some, UInt8.toNat_ofNat']
    have hsplit : n % 256 + 256 * (n / 256) = n := by omega
    rw [show (2 : Nat) ^ 8 = 256 from rfl, hsplit]

def utf8 (s : String) : Bytes := s.toUTF8.data.toList

def ofUtf8? (bs : Bytes) : Option String := String.fromUTF8? ⟨bs.toArray⟩

@[simp] theorem ofUtf8?_utf8 (s : String) : ofUtf8? (utf8 s) = some s := by
  have hv : (ByteArray.mk (utf8 s).toArray).IsValidUTF8 := by
    simpa [utf8] using s.isValidUTF8
  simp only [ofUtf8?, String.fromUTF8?, dif_pos hv]
  simp [utf8]
  rfl

theorem utf8_injective : Function.Injective utf8 := by
  intro s t h
  have hread := congrArg ofUtf8? h
  simpa using hread

theorem utf8_of_ofUtf8? {bs : Bytes} {s : String} (h : ofUtf8? bs = some s) : utf8 s = bs := by
  unfold ofUtf8? String.fromUTF8? at h
  split at h
  · cases h
    rfl
  · cases h

def encodeString (s : String) : Bytes := encodeNat 8 (utf8 s).length ++ utf8 s

def decodeString (bs : Bytes) : Option (String × Bytes) := do
  let (n, rest) ← decodeNat 8 bs
  if rest.length < n then none
  else
    let s ← ofUtf8? (rest.take n)
    some (s, rest.drop n)

/-- The length of `s` in bytes fits the length field. -/
def Fits (s : String) : Prop := (utf8 s).length < 256 ^ 8

instance (s : String) : Decidable (Fits s) := inferInstanceAs (Decidable (_ < _))

theorem decodeString_encodeString {s : String} (hs : Fits s) (rest : Bytes) :
    decodeString (encodeString s ++ rest) = some (s, rest) := by
  simp [decodeString, encodeString, List.append_assoc, decodeNat_encodeNat _ _ _ hs]

end Bincode

end Lib
