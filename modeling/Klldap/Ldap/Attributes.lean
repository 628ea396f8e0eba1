import Klldap.Ldap.SchemaManager
import Klldap.Lib.Effect

/-!
# Klldap.Ldap.Attributes: entries of users and groups

`crates/ldap/src/attributes.rs`: the values of an attribute of a user or a group, and the search
result entries made of them. A branch that panics is an error with the text of the panic.
-/

namespace Klldap
namespace Ldap

open Lib (Bytes)
open Lib.Bincode (utf8)
open Lib.Text

variable [Library]

/-! ## Values -/

def parseDate (value : String) : Except String DateTime :=
  (Library.parseRfc3339 value).elim (.error ("Invalid date value " ++ value)) .ok

def parseInteger (value : String) : Except String Int :=
  (parseI64 value).elim (.error ("Invalid integer value " ++ value)) .ok

def parseAvatar [External] (value : String) : Except String Avatar :=
  if value = "" then .ok ⟨[]⟩
  else
    match External.base64Decode value with
    | .error _ => .error "Invalid base64 data for avatar"
    | .ok raw =>
      match External.processAvatarInput raw with
      | .error _ => .error "Failed to process avatar"
      | .ok jpeg => .ok ⟨jpeg⟩

def parseValues {α : Type} (parse : String → Except String α) (values : List String) :
    Bool → Except String (Cardinality α)
  | true => (values.mapM parse).map .unbounded
  | false => (parse (values.head?.getD "")).map .singleton

/-- `crates/domain/src/deserialize.rs`: the value that a client wrote, as opposed to the stored one
that the backend reads back. The texts are those of the outermost errors. -/
def deserializeAttributeValue [External] (value : List String) (typ : AttributeType)
    (isList : Bool) : Except String AttributeValue :=
  if !isList && value.length ≠ 1 then
    .error "Attribute is not a list, but multiple values were provided"
  else
    match typ with
    | .string => (parseValues .ok value isList).map .string
    | .integer => (parseValues parseInteger value isList).map .integer
    | .dateTime => (parseValues parseDate value isList).map .dateTime
    | .avatar => (parseValues parseAvatar value isList).map .avatar

def getCustomAttribute (attributes : List Attribute) (name : AttributeName) :
    Option (List Bytes) :=
  (attributes.find? fun a => a.name = name).map fun a =>
    match a.value with
    | .string (.singleton s) => [utf8 s]
    | .string (.unbounded l) => l.map utf8
    | .integer (.singleton i) => [utf8 (toString i)]
    | .integer (.unbounded l) => l.map fun i => utf8 (toString i)
    | .avatar (.singleton p) => [p.bytes]
    | .avatar (.unbounded l) => l.map Avatar.bytes
    | .dateTime (.singleton dt) => [Library.toGeneralizedTime dt]
    | .dateTime (.unbounded l) => l.map Library.toGeneralizedTime

def findOu (attributes : List Attribute) : Option AttributeValue :=
  (attributes.find? fun a => eqIgnoreAsciiCase a.name.asStr "ou").map Attribute.value

def getOuFromAttributes (attributes : List Attribute) (default : String) : String :=
  match findOu attributes with
  | some (.string (.singleton s)) => s
  | some (.string (.unbounded (s :: _))) => s
  | _ => default

def getUserOu (user : User) : String := getOuFromAttributes user.attributes defaultPrimaryUserOu

def getGroupOu (group : Group) : String :=
  getOuFromAttributes group.attributes defaultPrimaryGroupOu

def getDefaultUserObjectClassesBytes (schema : Schema) : List Bytes :=
  [utf8 "top", utf8 "person"] ++ schema.extraUserObjectClasses.map utf8

def getDefaultGroupObjectClassesBytes (schema : Schema) : List Bytes :=
  [utf8 "groupOfUniqueNames", utf8 "groupOfNames"] ++ schema.extraGroupObjectClasses.map utf8

def nonEmptyValues (values : List Bytes) : Option (List Bytes) :=
  if values = [[]] then none else some values

/-- The `memberOf` value of a group. Only a single-valued `ou` is looked at here. -/
def memberOfValue (baseDnStr : String) (group : GroupDetails) : Bytes :=
  let groupOu :=
    match findOu group.attributes with
    | some (.string (.singleton s)) => s
    | _ => defaultPrimaryGroupOu
  utf8 (buildGroupDn group.displayName groupOu baseDnStr)

def inBuiltinGroup (groups : Option (List GroupDetails)) (name : String) : Bool :=
  groups.any fun gs => gs.any fun g => g.displayName.raw = name

def matchedStar (attr : AttributeName) : String :=
  "Matched " ++ attr.asStr ++ ", * should have been expanded"

def unmatchedUserAttribute (user : User) (attr : AttributeName)
    (groups : Option (List GroupDetails)) (ignoredUserAttributes : List AttributeName) :
    Except String (Option (List Bytes)) :=
  if attr.asStr = "1.1" || attr.asStr = "+" then .ok none
  else if attr.asStr = "*" then .error (matchedStar attr)
  else if eqIgnoreAsciiCase attr.asStr "logindisabled" then
    .ok (if inBuiltinGroup groups "lldap_disabled" then some [utf8 "TRUE"] else none)
  else if eqIgnoreAsciiCase attr.asStr "sudohost" then
    .ok (if inBuiltinGroup groups "lldap_sudohost" then some [utf8 "ALL"] else none)
  else if ignoredUserAttributes.contains attr then .ok none
  else .ok (getCustomAttribute user.attributes attr)

def userColumnValues (user : User) : UserColumn → Except String (Option (List Bytes))
  | .userId => .ok (some [utf8 user.userId.asStr])
  | .email => .ok (some [utf8 user.email.raw])
  | .lowercaseEmail | .passwordHash | .totpSecret | .mfaType => .error "Should not get here"
  | .uuid => .ok (some [utf8 user.uuid.val])
  | .displayName => .ok (user.displayName.map fun s => [utf8 s])
  | .creationDate => .ok (some [Library.toGeneralizedTime user.creationDate])
  | .modifiedDate => .ok (some [Library.toGeneralizedTime user.modifiedDate])
  | .passwordModifiedDate => .ok (some [Library.toGeneralizedTime user.passwordModifiedDate])
  | .krbPrincipalName => .ok (user.krbPrincipalName.map fun s => [utf8 s])

def getUserAttribute (user : User) (attr : AttributeName) (baseDnStr : String)
    (groups : Option (List GroupDetails)) (ignoredUserAttributes : List AttributeName)
    (schema : Schema) : Except String (Option (List Bytes)) := do
  let values ←
    match getSchemaManager.mapUserField attr schema with
    | .objectClass => .ok (some (getDefaultUserObjectClassesBytes schema))
    | .dn => .ok none
    | .entryDn => .ok (some [utf8 (buildUserDn user.userId (getUserOu user) baseDnStr)])
    | .entryUuid => .ok (some [utf8 user.uuid.val])
    | .memberOf => .ok (some ((groups.getD []).map (memberOfValue baseDnStr)))
    | .primaryField column => userColumnValues user column
    | .attr name _ _ => .ok (getCustomAttribute user.attributes name)
    | .noMatch => unmatchedUserAttribute user attr groups ignoredUserAttributes
  .ok (values.bind nonEmptyValues)

def btreeSet (l : List String) : List String := l.dedup.insertionSort (· ≤ ·)

def memberValues (group : Group) (baseDnStr : String) (userFilter : Option UserId) : List Bytes :=
  (btreeSet ((group.users.filter fun u => userFilter.all fun f => u.userId = f).map
    fun u => buildUserDn u.userId u.ou baseDnStr)).map utf8

def unmatchedGroupAttribute (group : Group) (attr : AttributeName)
    (ignoredGroupAttributes : List AttributeName) : Except String (Option (List Bytes)) :=
  if attr.asStr = "1.1" || attr.asStr = "+" then .ok none
  else if attr.asStr = "*" then .error (matchedStar attr)
  else if ignoredGroupAttributes.contains attr then .ok none
  else .ok (getCustomAttribute group.attributes attr)

def getGroupAttribute (group : Group) (baseDnStr : String) (attr : AttributeName)
    (userFilter : Option UserId) (ignoredGroupAttributes : List AttributeName) (schema : Schema) :
    Except String (Option (List Bytes)) := do
  let values ←
    match getSchemaManager.mapGroupField attr schema with
    | .objectClass => .ok (some (getDefaultGroupObjectClassesBytes schema))
    | .dn => .ok none
    | .entryDn => .ok (some [utf8 (buildGroupDn group.displayName (getGroupOu group) baseDnStr)])
    | .entryUuid => .ok (some [utf8 group.uuid.val])
    | .groupId => .ok (some [utf8 (toString group.id.val)])
    | .displayName => .ok (some [utf8 group.displayName.raw])
    | .creationDate => .ok (some [Library.toGeneralizedTime group.creationDate])
    | .modifiedDate => .ok (some [Library.toGeneralizedTime group.modifiedDate])
    | .member | .uniqueMember => .ok (some (memberValues group baseDnStr userFilter))
    | .memberOf => .ok none
    | .uuid => .ok (some [utf8 group.uuid.val])
    | .attr name _ _ => .ok (getCustomAttribute group.attributes name)
    | .noMatch => unmatchedGroupAttribute group attr ignoredGroupAttributes
  .ok (values.bind nonEmptyValues)

/-! ## Entries -/

def injectOperationalAttributes (attrs : List LdapPartialAttribute)
    (structuralClass baseDnStr : String) : List LdapPartialAttribute :=
  let admin := utf8 ("cn=admin,ou=people," ++ baseDnStr)
  attrs ++ ([
    (⟨"hasSubordinates", [utf8 "FALSE"]⟩ : LdapPartialAttribute),
    ⟨"structuralObjectClass", [utf8 structuralClass]⟩,
    ⟨"subschemaSubentry", [utf8 ("cn=Subschema," ++ baseDnStr)]⟩,
    ⟨"creatorsName", [admin]⟩,
    ⟨"modifiersName", [admin]⟩].filter fun new =>
      !attrs.any fun a => asciiLower a.atype = asciiLower new.atype)

def firstOfEachType (attrs : List LdapPartialAttribute) : List LdapPartialAttribute :=
  attrs.foldl (fun kept a => if kept.any fun k => k.atype = a.atype then kept else kept ++ [a]) []

/-- The attributes to show, with the custom ones that the entity has and `schema` does not name. -/
def withCustomAttributes (expanded : ExpandedAttributes) (schema : AttributeList)
    (attributes : List Attribute) : List (AttributeName × String) :=
  if expanded.includeCustomAttributes then
    let standardized := schema.flatMap fun a => a.name :: a.aliases
    ((attributes.filter fun a => !standardized.contains a.name.asStr).map
      fun a => a.name.asStr).foldl SchemaManager.insertKey expanded.attributeKeys
  else expanded.attributeKeys

/-- The attributes of an entry, `values` giving the values of each. -/
def entryAttributes (values : AttributeName → Except String (Option (List Bytes)))
    (keys : List (AttributeName × String)) (includeOperational : Bool)
    (structuralClass baseDnStr : String) : Except String (List LdapPartialAttribute) := do
  let shown := keys.filter fun k =>
    !getSchemaManager.isOperational k.1.asStr || includeOperational
  let attrs ← shown.mapM fun k => do
    let vals ← values k.1
    .ok (vals.map fun vals => (⟨k.2, vals⟩ : LdapPartialAttribute))
  let attrs := attrs.filterMap id
  .ok (firstOfEachType (if includeOperational then
    injectOperationalAttributes attrs structuralClass baseDnStr else attrs))

def makeLdapSearchUserResultEntry (user : User) (baseDnStr : String)
    (expandedAttributes : ExpandedAttributes) (groups : Option (List GroupDetails))
    (ignoredUserAttributes : List AttributeName) (schema : Schema) :
    Except String LdapSearchResultEntry := do
  let keys := withCustomAttributes expandedAttributes schema.userAttributes user.attributes
  let attributes ← entryAttributes
    (fun a => getUserAttribute user a baseDnStr groups ignoredUserAttributes schema) keys
    expandedAttributes.includeOperationalAttributes "inetOrgPerson" baseDnStr
  .ok ⟨buildUserDn user.userId (getUserOu user) baseDnStr, attributes⟩

def makeLdapSearchGroupResultEntry (group : Group) (baseDnStr : String)
    (expandedAttributes : ExpandedAttributes) (userFilter : Option UserId)
    (ignoredGroupAttributes : List AttributeName) (schema : Schema) :
    Except String LdapSearchResultEntry := do
  let keys := withCustomAttributes expandedAttributes schema.groupAttributes group.attributes
  let attributes ← entryAttributes
    (fun a => getGroupAttribute group baseDnStr a userFilter ignoredGroupAttributes schema) keys
    expandedAttributes.includeOperationalAttributes "groupOfUniqueNames" baseDnStr
  .ok ⟨buildGroupDn group.displayName (getGroupOu group) baseDnStr, attributes⟩

section

variable {baseDnStr : String} {expandedAttributes : ExpandedAttributes}
  {ignored : List AttributeName} {schema : Schema} {e : LdapSearchResultEntry}

theorem makeLdapSearchUserResultEntry_dn {user : User} {groups : Option (List GroupDetails)}
    (h : makeLdapSearchUserResultEntry user baseDnStr expandedAttributes groups ignored schema =
      .ok e) : e.dn = buildUserDn user.userId (getUserOu user) baseDnStr := by
  unfold makeLdapSearchUserResultEntry at h
  obtain ⟨attributes, -, h⟩ := Lib.except_bind_ok.mp h
  rw [← Except.ok.inj h]

theorem makeLdapSearchGroupResultEntry_dn {group : Group} {userFilter : Option UserId}
    (h : makeLdapSearchGroupResultEntry group baseDnStr expandedAttributes userFilter ignored
      schema = .ok e) : e.dn = buildGroupDn group.displayName (getGroupOu group) baseDnStr := by
  unfold makeLdapSearchGroupResultEntry at h
  obtain ⟨attributes, -, h⟩ := Lib.except_bind_ok.mp h
  rw [← Except.ok.inj h]

end

end Ldap
end Klldap
