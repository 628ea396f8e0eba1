import Klldap.Schema

/-!
# Klldap.Sql.Value: attribute values as stored bytes

The value column of an attribute row holds bytes without a type. `attributeValueToDbBytes` writes
them (the same helper stands in both backend files) and `deserializeAttributeValue` reads them back
under the type and cardinality that the schema gives the attribute.
-/

namespace Klldap

open Lib (Bytes)
open Lib.Bincode (utf8 ofUtf8?)
open Lib.Text

variable [External]

namespace Sql

-- the values that the schema cannot hold, such as a list of integers, are stored as no bytes
def attributeValueToDbBytes : AttributeValue → Bytes
  | .string (.singleton s) => utf8 s
  | .string (.unbounded l) => utf8 (External.stringsToJson l)
  | .integer (.singleton i) => utf8 (toString i)
  | .avatar (.singleton p) => p.bytes
  | .dateTime (.singleton dt) => utf8 (toString (timestamp dt))
  | .integer (.unbounded _) | .avatar (.unbounded _) | .dateTime (.unbounded _) => []

/-- Attributes that the backend writes although the schema marks them read-only. -/
def isBackendWritableReadonlyAttribute (name : String) : Bool :=
  ["ou", "kerberossync", "allowedous", "krb_principal_name"].contains name

end Sql

/-- `Avatar::new`: an image that cannot be processed becomes an empty one. -/
def Avatar.new (bytes : Bytes) : Avatar :=
  match External.processAvatarInput bytes with
  | .ok jpeg => ⟨jpeg⟩
  | .error _ => ⟨[]⟩

def textOr (fallback : String) (value : Bytes) : String := (ofUtf8? value).getD fallback

def deserializeAttributeValue (value : Bytes) : AttributeType → Bool → AttributeValue
  | .string, false => .string (.singleton (textOr "" value))
  | .string, true =>
    match (ofUtf8? value).bind External.jsonToStrings with
    | some list => .string (.unbounded list)
    | none => .string (.unbounded [textOr "" value])
  | .integer, false => .integer (.singleton ((parseI64 (textOr "0" value)).getD 0))
  | .integer, true => .integer (.unbounded [(parseI64 (textOr "0" value)).getD 0])
  | .dateTime, false => .dateTime (.singleton ((External.bytesToDateTime value).getD 0))
  | .dateTime, true => .dateTime (.unbounded ((External.bytesToDateTimes value).getD []))
  | .avatar, false => .avatar (.singleton (Avatar.new value))
  | .avatar, true => .avatar (.unbounded [Avatar.new value])

def deserializeAttribute (name : AttributeName) (value : Bytes) (schema : AttributeList) :
    Except DomainError Attribute :=
  match getAttributeType schema name.asStr with
  | some (typ, isList) => .ok ⟨name, deserializeAttributeValue value typ isList⟩
  | none =>
    .error (.internalError ("Unable to find schema for attribute named '" ++ name.asStr ++ "'"))

end Klldap
