import Klldap.Opaque.Handler
import Klldap.World

/-!
# Klldap.Plain: an instance of the libraries and of the outside

A suite in which nothing is secret, library functions that do next to nothing and an outside that
answers every call, to run the model on. The suite meets the laws that the results assume of the
libraries (`plainSuite_lawful`), so these are not contradictory.
-/

namespace Klldap

open Lib (Bytes)

namespace Plain

/-- No character outside ASCII has a capital, no image is accepted, and the only JSON text that is
read is the empty list. -/
scoped instance external : External where
  charLower c := [c]
  charIsAlphanumeric _ := false
  strLower s := s
  jsonToStrings s := if s = "[]" then some [] else none
  stringsToJson _ := "[]"
  jsonToPosixSettings _ := none
  posixSettingsToJson _ := ""
  base64Decode _ := .error "invalid"
  processAvatarInput _ := .error "invalid"
  bytesToDateTime _ := none
  bytesToDateTimes _ := none
  dateColumnText _ := ""
  uuidFromNameAndDate name _ := ⟨name⟩

/-- A name without its backslashes, and the letters that they stand before. -/
def unquoted : List Char → List Char
  | '\\' :: c :: cs => c :: unquoted cs
  | c :: cs => c :: unquoted cs
  | [] => []

def outside : Outside where
  now := 1
  seed := 0
  realm := "EXAMPLE.COM"
  domain := "example.com"
  krb5ParseName text := some (String.ofList (unquoted text.toList))
  kadm _ := none
  decryptPassword p := .ok p
  writeConfig := none
  testConnection _ := .ok ""
  setupRealm _ := .ok ""

def userRow (name : String) : UserRow :=
  ⟨UserId.new name, ⟨name⟩, name, none, 0, none, ⟨name⟩, 0, 0, none⟩

def groupRow (id : Int) (name : String) : GroupRow := ⟨⟨id⟩, ⟨name⟩, name, 0, ⟨name⟩, 0⟩

def world (db : Store) : World := ⟨db, .empty, none, none, []⟩

end Plain

namespace Opaque

/-- The byte a character below 256 stands for, and the character that stands for a byte. -/
def byteOf (c : Char) : Option UInt8 := if c.toNat < 256 then some (UInt8.ofNat c.toNat) else none

def charOf (b : UInt8) : Char := Char.ofNat b.toNat

theorem byteOf_charOf (b : UInt8) : byteOf (charOf b) = some b := by
  have hb : b.toNat < 256 := b.toNat_lt
  have hc : (charOf b).toNat = b.toNat := by
    rw [charOf, Char.toNat_ofNat, if_pos (Or.inl (by omega))]
  rw [byteOf, hc, if_pos hb, UInt8.ofNat_toNat]

theorem charOf_of_byteOf {c : Char} {b : UInt8} (h : byteOf c = some b) : charOf b = c := by
  unfold byteOf at h
  split at h
  · rename_i hc
    cases h
    rw [charOf, UInt8.toNat_ofNat', Nat.mod_eq_of_lt hc, Char.ofNat_toNat]
  · cases h

/-- A suite without secrets: sealing keeps the bytes, the text encoding writes a character a byte,
and every message is a unit. -/
def plainSuite : Suite where
  ServerSetup := Unit
  SecretKey := Unit
  Coins := Unit
  RegistrationRequest := Unit
  RegistrationResponse := Unit
  RegistrationUpload := Unit
  CredentialRequest := Unit
  CredentialResponse := Unit
  CredentialFinalization := Unit
  ServerRegistration := Unit
  ServerLogin := Unit
  ClientLogin := Unit
  ClientRegistration := Unit
  secretKey _ := some ()
  aeadSeal _ _ state := some state
  aeadOpen _ sealed := some sealed
  base64Encode bytes := String.ofList (bytes.map charOf)
  base64Decode text := text.toList.mapM byteOf
  startRegistration _ _ _ := .ok ()
  getPasswordFile _ := ()
  serializeRegistration _ := [1]
  deserializeRegistration _ := some ()
  startLogin _ _ _ _ _ := .ok ((), ())
  finishLogin _ _ := .ok ()
  serializeLogin _ := [0]
  deserializeLogin bytes := some ((), bytes.drop 1)
  clientStartRegistration _ _ := .ok ((), ())
  clientFinishRegistration _ _ _ _ := .ok ()
  clientStartLogin _ _ := .ok ((), ())
  clientFinishLogin _ _ _ _ := .ok ()

theorem mapM_byteOf {cs : List Char} {bytes : Bytes} (h : cs.mapM byteOf = some bytes) :
    bytes.map charOf = cs := by
  induction cs generalizing bytes with
  | nil =>
    cases h
    rfl
  | cons c cs ih =>
    simp only [List.mapM_cons, Option.bind_eq_bind, Option.bind_eq_some_iff] at h
    obtain ⟨b, hb, bs, hbs, h⟩ := h
    cases h
    simp [charOf_of_byteOf hb, ih hbs]

theorem plainSuite_lawful : plainSuite.Lawful where
  open_seal h := by simpa [plainSuite] using h.symm
  decode_encode bytes := by
    simp only [plainSuite, String.toList_ofList]
    induction bytes with
    | nil => rfl
    | cons b bytes ih => simp [byteOf_charOf, ih]
  encode_decode {text bytes} h := by
    rw [← String.toList_inj]
    simpa [plainSuite] using mapM_byteOf h

end Opaque
end Klldap
