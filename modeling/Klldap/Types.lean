import Klldap.Lib.Bincode
import Klldap.Lib.Text

/-!
# Klldap.Types: names, values and records of the directory

The types of `crates/auth` and `crates/domain` that every layer shares. User ids and attribute
names are folded to ASCII lower case when they are built (`CaseInsensitiveString`), and the type
carries that fact. Group names, emails and object classes keep their spelling and are compared
through `char::to_lowercase`; the tables of Unicode are a parameter of the model (`External`)
outside the ASCII range and fixed inside it.
-/

namespace Klldap

open Lib (Bytes)
open Lib.Text

/-! ## Lower-cased names -/

/-- A string that has been folded to ASCII lower case. -/
structure CaseInsensitiveString where
  val : String
  lower : asciiLower val = val
deriving DecidableEq

def CaseInsensitiveString.new (s : String) : CaseInsensitiveString :=
  ⟨asciiLower s, asciiLower_idem s⟩

structure UserId where
  name : CaseInsensitiveString
deriving DecidableEq

namespace UserId

def new (s : String) : UserId := ⟨.new s⟩

def asStr (u : UserId) : String := u.name.val

@[simp] theorem asStr_new (s : String) : (new s).asStr = asciiLower s := rfl

@[simp] theorem new_asStr (u : UserId) : new u.asStr = u := by
  obtain ⟨⟨s, hs⟩⟩ := u
  simp only [new, asStr, CaseInsensitiveString.new, hs]

end UserId

structure AttributeName where
  name : CaseInsensitiveString
deriving DecidableEq

namespace AttributeName

def new (s : String) : AttributeName := ⟨.new s⟩

def asStr (a : AttributeName) : String := a.name.val

@[simp] theorem asStr_new (s : String) : (new s).asStr = asciiLower s := rfl

@[simp] theorem new_asStr (a : AttributeName) : new a.asStr = a := by
  obtain ⟨⟨s, hs⟩⟩ := a
  simp only [new, asStr, CaseInsensitiveString.new, hs]

end AttributeName

structure GroupId where
  val : Int
deriving DecidableEq

structure Uuid where
  val : String
deriving DecidableEq

/-- An instant (`chrono::NaiveDateTime`), in nanoseconds since the epoch. -/
abbrev DateTime := Int

/-- `and_utc().timestamp()`: whole seconds since the epoch. -/
def timestamp (dt : DateTime) : Int := dt / 1000000000

/-- The settings of the automatic numbering; `default` is the source's `Default`. -/
structure PosixSettings where
  userUidnumberAssign : Bool := false
  userUidnumberStart : Int := 0
  userUidnumberMax : Int := 0
  userGidnumberAssign : Bool := false
  userGidnumberStart : Int := 0
  userLoginshellAssign : Bool := false
  userLoginshellDefault : String := ""
  userHomedirectoryAssign : Bool := false
  userHomedirectoryPrefix : String := ""
  groupGidnumberAssign : Bool := false
  groupGidnumberStart : Int := 0
  groupGidnumberMax : Int := 0
deriving DecidableEq

/-- Library functions that the model does not compute: the Unicode tables outside ASCII, JSON,
images, dates and UUIDs. -/
class External where
  charLower : Char → List Char
  charIsAlphanumeric : Char → Bool
  strLower : String → String
  jsonToStrings : String → Option (List String)
  stringsToJson : List String → String
  jsonToPosixSettings : String → Option PosixSettings
  posixSettingsToJson : PosixSettings → String
  base64Decode : String → Except String Bytes
  processAvatarInput : Bytes → Except String Bytes
  bytesToDateTime : Bytes → Option DateTime
  bytesToDateTimes : Bytes → Option (List DateTime)
  dateColumnText : DateTime → String
  uuidFromNameAndDate : String → DateTime → Uuid

def isAscii (c : Char) : Bool := c.toNat < 128

section

variable [External]

def charToLowercase (c : Char) : List Char :=
  if isAscii c then [c.toLower] else External.charLower c

def toLowercase (s : String) : String :=
  if s.toList.all isAscii then asciiLower s else External.strLower s

/-- The loop of `compare_str_case_insensitive` over the two lower-cased character streams. -/
def compareChars : List Char → List Char → Ordering
  | c₁ :: cs₁, c₂ :: cs₂ =>
    if c₁.toNat < c₂.toNat then .lt
    else if c₂.toNat < c₁.toNat then .gt
    else compareChars cs₁ cs₂
  | [], _ :: _ => .lt
  | _ :: _, [] => .gt
  | [], [] => .eq

def compareStrCaseInsensitive (s₁ s₂ : String) : Ordering :=
  compareChars (s₁.toList.flatMap charToLowercase) (s₂.toList.flatMap charToLowercase)

end

/-- A group name, with the spelling it was given. `=` compares spellings, `==` is the source's
`PartialEq`. -/
structure GroupName where
  raw : String
deriving DecidableEq

instance [External] : BEq GroupName where
  beq a b := compareStrCaseInsensitive a.raw b.raw = .eq

structure Email where
  raw : String
deriving DecidableEq

structure LdapObjectClass where
  raw : String
deriving DecidableEq

def builtinGroups : List String :=
  ["lldap_admin", "lldap_password_manager", "lldap_strict_readonly", "lldap_disabled",
    "lldap_sudohost"]

def isBuiltinGroup (name : String) : Bool := builtinGroups.contains name

inductive AttributeType where
  | string | integer | avatar | dateTime
deriving DecidableEq

inductive Cardinality (α : Type) where
  | singleton (v : α)
  | unbounded (vs : List α)
deriving DecidableEq

/-- An avatar holds the bytes of a JPEG image. -/
structure Avatar where
  bytes : Bytes
deriving DecidableEq

inductive AttributeValue where
  | string (v : Cardinality String)
  | integer (v : Cardinality Int)
  | avatar (v : Cardinality Avatar)
  | dateTime (v : Cardinality DateTime)
deriving DecidableEq

structure Attribute where
  name : AttributeName
  value : AttributeValue
deriving DecidableEq

/-! ## Records handed out by the backend -/

structure User where
  userId : UserId
  email : Email
  displayName : Option String
  creationDate : DateTime
  uuid : Uuid
  attributes : List Attribute
  modifiedDate : DateTime
  passwordModifiedDate : DateTime
  krbPrincipalName : Option String
deriving DecidableEq

structure GroupMember where
  userId : UserId
  ou : String
deriving DecidableEq

structure Group where
  id : GroupId
  displayName : GroupName
  creationDate : DateTime
  uuid : Uuid
  users : List GroupMember
  attributes : List Attribute
  modifiedDate : DateTime
deriving DecidableEq

structure GroupDetails where
  groupId : GroupId
  displayName : GroupName
  creationDate : DateTime
  uuid : Uuid
  attributes : List Attribute
  modifiedDate : DateTime
deriving DecidableEq

structure UserAndGroups where
  user : User
  groups : Option (List GroupDetails)
deriving DecidableEq

/-- The error type of `crates/domain-model`; the payload is the text of the wrapped error. A panic
of the task that serves the request is carried along as one more outcome. -/
inductive DomainError where
  | authenticationError (msg : String)
  | databaseError (msg : String)
  | authenticationProtocolError (msg : String)
  | unknownCryptoError
  | binarySerializationError
  | base64DecodeError
  | entityNotFound (msg : String)
  | internalError (msg : String)
  | panicked (msg : String)
deriving DecidableEq

def DomainError.display : DomainError → String
  | .authenticationError msg => "Authentication error " ++ msg
  | .databaseError msg => "Database error: " ++ quote msg
  | .authenticationProtocolError msg => "Authentication protocol error for " ++ quote msg
  | .unknownCryptoError => "Unknown crypto error: " ++ quote "crypto error"
  | .binarySerializationError => "Binary serialization error: " ++ quote "unexpected end of file"
  | .base64DecodeError => "Invalid base64: " ++ quote "invalid text"
  | .entityNotFound msg => "Entity not found: " ++ quote msg
  | .internalError msg => "Internal error: " ++ quote msg
  | .panicked msg => msg
where
  quote (msg : String) : String := "`" ++ msg ++ "`"

end Klldap
