import Klldap.AccessControl

/-!
# Klldap.GraphQL.Helpers: attributes as GraphQL inputs

`mutation/helpers.rs` and `mutation/inputs.rs`. The attributes of a request are keyed by the
canonical names that the schema gives them, the deprecated fields are merged in, and each attribute
is checked against its schema entry and typed.
-/

namespace Klldap
namespace GraphQL

open Lib (Bytes Eff except_bind_ok except_mapM_ok)
open Lib.Bincode (utf8)
open Lib.Text

/-! ## Inputs -/

/-- `AttributeValueInput`. -/
structure AttributeInput where
  name : String
  value : List String
deriving DecidableEq

structure CreateUserInput where
  id : String
  email : Option String
  displayName : Option String
  firstName : Option String
  lastName : Option String
  avatar : Option String
  attributes : Option (List AttributeInput)

structure CreateGroupInput where
  displayName : String
  attributes : Option (List AttributeInput)

structure UpdateUserInput where
  id : String
  email : Option String
  displayName : Option String
  firstName : Option String
  lastName : Option String
  avatar : Option String
  removeAttributes : Option (List String)
  insertAttributes : Option (List AttributeInput)

structure UpdateGroupInput where
  id : Int
  displayName : Option String
  removeAttributes : Option (List String)
  insertAttributes : Option (List AttributeInput)

/-- A `FieldError` with the `details` it carries, or a panic of the resolver. -/
inductive FieldError where
  | error (message : String) (details : Option String)
  | panicked (message : String)
deriving DecidableEq

def FieldError.ofDomain : DomainError → FieldError
  | .panicked msg => .panicked msg
  | e => .error e.display none

def anyhow {α : Type} (message : String) : Except FieldError α := .error (.error message none)

/-! ## Checking and typing an attribute -/

def startsWith (s : String) (initial : String) : Bool := initial.toList.isPrefixOf s.toList

def firstWord (s : String) : String := String.ofList (s.toList.takeWhile fun c => !isWhitespace c)

def validateSshPublicKey (key : String) : Except String Unit :=
  let trimmed := trim key
  if trimmed = "" then .error "SSH public key cannot be empty"
  else if !(startsWith trimmed "ssh-" || startsWith trimmed "ecdsa-" || startsWith trimmed "sk-" ||
      startsWith trimmed "ssh-ed25519") then
    .error ("Invalid SSH public key format. Expected to start with ssh-, ecdsa-, sk-, or " ++
      "ssh-ed25519. Got: '" ++ firstWord trimmed ++ "'")
  else if !trimmed.toList.contains ' ' then
    .error "Invalid SSH public key: missing space after key type"
  else if (utf8 trimmed).length > 4096 then
    .error "SSH public key is too long (max 4096 characters)"
  else .ok ()

/-- The canonical name, or the name as given when the schema does not know it. -/
def canonicalName (l : AttributeList) (name : String) : String :=
  (resolveCanonicalName l name).getD name

section

variable [External]

def serializeInput (canonical : String) (schema : AttributeSchema) (value : List String) :
    Except FieldError Bytes :=
  if eqIgnoreAsciiCase canonical "avatar" && !schema.isList then
    let text := trim (value.head?.getD "")
    if text = "" then .ok []
    else
      match External.base64Decode text with
      | .error e => anyhow ("Invalid base64 avatar data: " ++ e)
      | .ok raw =>
        match External.processAvatarInput raw with
        | .error e => anyhow ("Invalid avatar upload: " ++ e)
        | .ok jpeg => .ok jpeg
  else if schema.isList then .ok (utf8 (External.stringsToJson value))
  else .ok (utf8 (value.head?.getD ""))

def validateSshPublicKeys (canonical : String) (schema : AttributeSchema) (value : List String) :
    Except FieldError Unit :=
  if eqIgnoreAsciiCase canonical "sshpublickey" && schema.isList then
    value.forM fun key =>
      match validateSshPublicKey key with
      | .ok _ => .ok ()
      | .error msg => anyhow ("Invalid SSH public key: " ++ msg)
  else .ok ()

def deserializeAttribute (schema : AttributeList) (input : AttributeInput) (isAdmin : Bool) :
    Except FieldError Attribute :=
  let canonical := canonicalName schema input.name
  let name := AttributeName.new canonical
  match getByNameOrAlias schema name.asStr with
  | none => anyhow ("Attribute " ++ input.name ++ " is not defined in the schema")
  | some attrSchema =>
    if attrSchema.isReadonly then
      anyhow ("Permission denied: Attribute " ++ input.name ++ " is read-only")
    else if !isAdmin && !attrSchema.isEditable then
      anyhow ("Permission denied: Attribute " ++ input.name ++ " is not editable by regular users")
    else do
      validateSshPublicKeys canonical attrSchema input.value
      let serialized ← serializeInput canonical attrSchema input.value
      .ok ⟨name, deserializeAttributeValue serialized attrSchema.attributeType attrSchema.isList⟩

structure UnpackedAttributes where
  email : Option Email
  displayName : Option String
  attributes : List Attribute

def stringOf (a : Attribute) : Except FieldError String :=
  match a.value with
  | .string (.singleton s) => .ok s
  | _ => .error (.panicked "called Option::unwrap() on a None value")

def unpackString (schema : AttributeList) (isAdmin : Bool) (canonical : String)
    (attributes : List AttributeInput) : Except FieldError (Option String) :=
  match attributes.find? fun a => canonicalName schema a.name = canonical with
  | none => .ok none
  | some input => do
    let attr ← deserializeAttribute schema input isAdmin
    let s ← stringOf attr
    .ok (some s)

def unpackAttributes (attributes : List AttributeInput) (schema : Schema) (isAdmin : Bool) :
    Except FieldError UnpackedAttributes := do
  let l := schema.userAttributes
  let email ← unpackString l isAdmin "mail" attributes
  let displayName ← unpackString l isAdmin "displayname" attributes
  let rest ← (attributes.filter fun a =>
    canonicalName l a.name ≠ "mail" && canonicalName l a.name ≠ "displayname").mapM
      fun a => deserializeAttribute l a isAdmin
  .ok ⟨email.map Email.mk, displayName, rest⟩

end

/-- A `BTreeMap` with string keys: its entries in the order of the keys. -/
abbrev Entries := List (String × AttributeInput)

def Entries.insert (key : String) (input : AttributeInput) : Entries → Entries
  | [] => [(key, input)]
  | (k, i) :: rest =>
    if key < k then (key, input) :: (k, i) :: rest
    else if key = k then (key, input) :: rest
    else (k, i) :: Entries.insert key input rest

/-- `entry(key).or_insert_with`: an entry under the same key stays. -/
def Entries.orInsert (key : String) (input : AttributeInput) (entries : Entries) : Entries :=
  if entries.any fun e => e.1 = key then entries else entries.insert key input

def entryKey (schema : Schema) (name : String) : String :=
  asciiLower (canonicalName schema.userAttributes name)

/-- Add a deprecated field, if it is given. An empty avatar counts as not given. -/
def addField (schema : Schema) (entries : Entries) (field : String × Option String) : Entries :=
  match field.2 with
  | none => entries
  | some val =>
    if field.1 = "avatar" && trim val = "" then entries
    else entries.orInsert (entryKey schema field.1) ⟨field.1, [val]⟩

def consolidateAttributes (attributes : List AttributeInput)
    (firstName lastName avatar : Option String) (schema : Schema) : List AttributeInput :=
  let provided := attributes.foldl
    (fun entries a =>
      Entries.insert (entryKey schema a.name) ⟨asciiLower a.name, a.value⟩ entries) []
  let fields := [("first_name", firstName), ("last_name", lastName), ("avatar", avatar)]
  (fields.foldl (addField schema) provided).map Prod.snd

variable [External]

theorem deserializeAttribute_ok {schema : AttributeList} {input : AttributeInput} {a : Attribute}
    (h : deserializeAttribute schema input false = .ok a) :
    ∃ entry, getByNameOrAlias schema a.name.asStr = some entry ∧ entry.isEditable = true ∧
      entry.isReadonly = false := by
  unfold deserializeAttribute at h
  simp only at h
  split at h
  · cases h
  · rename_i entry hentry
    split at h
    · cases h
    · rename_i hro
      split at h
      · cases h
      · rename_i hed
        obtain ⟨u, -, h⟩ := except_bind_ok.mp h
        obtain ⟨serialized, -, h⟩ := except_bind_ok.mp h
        cases h
        exact ⟨entry, hentry, by simpa using hed, by simpa using hro⟩

theorem unpackAttributes_ok {attributes : List AttributeInput} {schema : Schema}
    {unpacked : UnpackedAttributes} (h : unpackAttributes attributes schema false = .ok unpacked) :
    ∀ a ∈ unpacked.attributes, ∃ entry,
      getByNameOrAlias schema.userAttributes a.name.asStr = some entry ∧ entry.isEditable = true ∧
        entry.isReadonly = false := by
  obtain ⟨email, -, h⟩ := except_bind_ok.mp h
  obtain ⟨displayName, -, h⟩ := except_bind_ok.mp h
  obtain ⟨rest, hrest, h⟩ := except_bind_ok.mp h
  cases h
  intro a ha
  obtain ⟨input, -, hinput⟩ := except_mapM_ok hrest a ha
  exact deserializeAttribute_ok hinput

end GraphQL
end Klldap
