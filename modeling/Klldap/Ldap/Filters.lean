import Klldap.Ldap.Attributes

/-!
# Klldap.Ldap.Filters: from LDAP filters to backend filters

`crates/ldap/src/search/filters.rs`. A leaf is translated by the field that its attribute stands
for; conjunctions and disjunctions are simplified on the way up.
-/

namespace Klldap
namespace Ldap

open Lib.Text

variable [External] [Library]

/-- The translated parts of a conjunction or disjunction, put together: neutral parts are dropped
and parts of the same kind are opened. -/
def joinParts {α : Type} (isNeutral : α → Bool) (parts : α → List α) (neutral : α)
    (build : List α → α) (converted : List α) : α :=
  match (converted.filter fun f => !isNeutral f).flatMap parts with
  | [] => neutral
  | [f] => f
  | fs => build fs

def unwilling {α : Type} (message : String) : LdapResult α := .error ⟨.unwillingToPerform, message⟩

/-- The filter for equality with a value that may be stored as given or in lower case. -/
def attributeEqualityFilter {α : Type} (equality : AttributeName → AttributeValue → α)
    (or : List α → α) (false : α) (field : AttributeName) (typ : AttributeType) (isList : Bool)
    (value : String) : α :=
  match deserializeAttributeValue [value] typ isList,
      deserializeAttributeValue [asciiLower value] typ isList with
  | .ok v, .ok vLc => or [equality field v, equality field vLc]
  | _, _ => false

/-! ## User filters -/

namespace UserFilter

def isTrue : UserRequestFilter → Bool
  | .true => true
  | _ => false

def isFalse : UserRequestFilter → Bool
  | .false => true
  | _ => false

def conjuncts : UserRequestFilter → List UserRequestFilter
  | .and fs => fs
  | f => [f]

def disjuncts : UserRequestFilter → List UserRequestFilter
  | .or fs => fs
  | f => [f]

def joinAnd : List UserRequestFilter → UserRequestFilter := joinParts isTrue conjuncts .true .and

def joinOr : List UserRequestFilter → UserRequestFilter := joinParts isFalse disjuncts .false .or

def negate : UserRequestFilter → UserRequestFilter
  | .true => .false
  | .false => .true
  | f => .not f

end UserFilter

def getUserAttributeEqualityFilter : AttributeName → AttributeType → Bool → String →
    UserRequestFilter :=
  attributeEqualityFilter .attributeEquality .or .false

def userClassFilter (schema : Schema) (value : String) : UserRequestFilter :=
  if (["top", "person", "inetorgperson", "posixaccount", "ldappublickey"] ++
      schema.extraUserObjectClasses.map asciiLower).contains (asciiLower value) then .true
  else .false

def userEqualityFilter (ldapInfo : LdapInfo) (schema : Schema) (field : AttributeName)
    (value : String) : LdapResult UserRequestFilter :=
  let valueLc := asciiLower value
  if eqIgnoreAsciiCase field.asStr "logindisabled" then
    .ok (if ["true", "1", "yes"].contains valueLc then .memberOf ⟨"lldap_disabled"⟩ else .false)
  else if eqIgnoreAsciiCase field.asStr "sudohost" then
    .ok (if ["*", "all", "true", "1"].contains valueLc then .memberOf ⟨"lldap_sudohost"⟩
      else .false)
  else
    match getSchemaManager.mapUserField field schema with
    | .primaryField .userId => .ok (.userId (.new valueLc))
    | .primaryField .email => .ok (.equality .lowercaseEmail valueLc)
    | .primaryField column => .ok (.equality column valueLc)
    | .attr name typ isList => .ok (getUserAttributeEqualityFilter name typ isList value)
    | .noMatch => .ok .false
    | .objectClass => .ok (.and [])
    | .memberOf =>
      match getGroupIdFromDistinguishedNameOrPlainName valueLc ldapInfo.baseDn ldapInfo.baseDnStr with
      | .ok group => .ok (.memberOf group)
      | .error _ => .ok .false
    | .entryDn | .dn =>
      match getUserIdFromDistinguishedNameOrPlainName valueLc ldapInfo.baseDn ldapInfo.baseDnStr with
      | .ok user => .ok (.userId user)
      | .error _ => .ok .false
    | .entryUuid =>
      match Library.parseUuid value with
      | .ok _ => .ok (.equality .uuid value)
      | .error e => .error ⟨.other, "Invalid UUID in filter: " ++ e⟩

def userOrderFilter (op : String) (onColumn : UserColumn → String → UserRequestFilter)
    (onAttribute : AttributeName → String → UserRequestFilter) (schema : Schema)
    (field : AttributeName) (value : String) : LdapResult UserRequestFilter :=
  match getSchemaManager.mapUserField field schema with
  | .primaryField .creationDate => .ok (onColumn .creationDate value)
  | .primaryField .modifiedDate => .ok (onColumn .modifiedDate value)
  | .primaryField .passwordModifiedDate => .ok (onColumn .passwordModifiedDate value)
  | .attr name .dateTime _ => .ok (onAttribute name value)
  | _ => unwilling (op ++ " not supported on this attribute: " ++ field.asStr)

def userPresentFilter (schema : Schema) (field : AttributeName) : UserRequestFilter :=
  if eqIgnoreAsciiCase field.asStr "logindisabled" then .memberOf ⟨"lldap_disabled"⟩
  else if eqIgnoreAsciiCase field.asStr "sudohost" then .memberOf ⟨"lldap_sudohost"⟩
  else
    match getSchemaManager.mapUserField field schema with
    | .attr name _ _ => .customAttributePresent name
    | .noMatch => .false
    | _ => .true

def userSubstringFilter (schema : Schema) (field : AttributeName) (f : SubStringFilter) :
    LdapResult UserRequestFilter :=
  let unsupported := "Unsupported user attribute for substring filter: " ++
    "AttributeName(CaseInsensitiveString(" ++ Library.debugString field.asStr ++ "))"
  match getSchemaManager.mapUserField field schema with
  | .primaryField .userId => .ok (.userIdSubString f)
  | .attr name .string _ => .ok (.attributeSubString name f)
  | .attr _ _ _ => unwilling unsupported
  | .objectClass | .memberOf | .dn | .entryDn | .entryUuid | .primaryField .creationDate
  | .primaryField .uuid => unwilling unsupported
  | .noMatch => .ok .false
  | .primaryField .email => .ok (.subString .lowercaseEmail f)
  | .primaryField column => .ok (.subString column f)

def convertUserLeaf (ldapInfo : LdapInfo) (schema : Schema) :
    LdapFilter → LdapResult UserRequestFilter
  | .equality field value =>
    if eqIgnoreAsciiCase field "objectclass" then .ok (userClassFilter schema value)
    else userEqualityFilter ldapInfo schema (.new field) value
  | .greaterOrEqual field value =>
    userOrderFilter "GreaterOrEqual" .greaterOrEqual .attributeGreaterOrEqual schema (.new field)
      value
  | .lessOrEqual field value =>
    userOrderFilter "LessOrEqual" .lessOrEqual .attributeLessOrEqual schema (.new field) value
  | .present field => .ok (userPresentFilter schema (.new field))
  | .substring field f => userSubstringFilter schema (.new field) f
  | f => unwilling ("Unsupported user filter: " ++ Library.debugFilter f)

mutual

def convertUserFilter (ldapInfo : LdapInfo) (schema : Schema) :
    LdapFilter → LdapResult UserRequestFilter
  | .and fs => do
    let converted ← convertUserFilters ldapInfo schema fs
    .ok (UserFilter.joinAnd converted)
  | .or fs => do
    let converted ← convertUserFilters ldapInfo schema fs
    .ok (UserFilter.joinOr converted)
  | .not f => do
    let converted ← convertUserFilter ldapInfo schema f
    .ok (UserFilter.negate converted)
  | f => convertUserLeaf ldapInfo schema f

def convertUserFilters (ldapInfo : LdapInfo) (schema : Schema) :
    List LdapFilter → LdapResult (List UserRequestFilter)
  | [] => .ok []
  | f :: fs => do
    let c ← convertUserFilter ldapInfo schema f
    let cs ← convertUserFilters ldapInfo schema fs
    .ok (c :: cs)

end

/-! ## Group filters -/

namespace GroupFilter

def isTrue : GroupRequestFilter → Bool
  | .true => true
  | _ => false

def isFalse : GroupRequestFilter → Bool
  | .false => true
  | _ => false

def conjuncts : GroupRequestFilter → List GroupRequestFilter
  | .and fs => fs
  | f => [f]

def disjuncts : GroupRequestFilter → List GroupRequestFilter
  | .or fs => fs
  | f => [f]

def joinAnd : List GroupRequestFilter → GroupRequestFilter := joinParts isTrue conjuncts .true .and

def joinOr : List GroupRequestFilter → GroupRequestFilter :=
  joinParts isFalse disjuncts .false .or

def negate : GroupRequestFilter → GroupRequestFilter
  | .true => .false
  | .false => .true
  | f => .not f

end GroupFilter

def getGroupAttributeEqualityFilter : AttributeName → AttributeType → Bool → String →
    GroupRequestFilter :=
  attributeEqualityFilter .attributeEquality .or .false

def groupClassFilter (schema : Schema) (value : String) : GroupRequestFilter :=
  if (["groupofuniquenames", "groupofnames", "posixgroup"] ++
      schema.extraGroupObjectClasses.map asciiLower).contains (asciiLower value) then .true
  else .false

def groupEqualityFilter (ldapInfo : LdapInfo) (schema : Schema) (field : AttributeName)
    (value : String) : LdapResult GroupRequestFilter :=
  let valueLc := asciiLower value
  match getSchemaManager.mapGroupField field schema with
  | .groupId => .ok ((parseI32 valueLc).elim .false fun id => .groupId ⟨id⟩)
  | .displayName => .ok (.displayName ⟨valueLc⟩)
  | .uuid =>
    match Library.parseUuid valueLc with
    | .ok uuid => .ok (.uuid uuid)
    | .error e => .error ⟨.other, "Invalid UUID: " ++ e⟩
  | .member | .uniqueMember | .memberOf =>
    match getUserIdFromDistinguishedNameOrPlainName valueLc ldapInfo.baseDn ldapInfo.baseDnStr with
    | .ok user => .ok (.member user)
    | .error _ => .ok .false
  | .objectClass => .ok (.and [])
  | .dn | .entryDn =>
    match getGroupIdFromDistinguishedNameOrPlainName valueLc ldapInfo.baseDn ldapInfo.baseDnStr with
    | .ok group => .ok (.displayName group)
    | .error _ => .ok .false
  | .entryUuid =>
    match Library.parseUuid value with
    | .ok uuid => .ok (.uuid uuid)
    | .error e => .error ⟨.other, "Invalid UUID in filter: " ++ e⟩
  | .noMatch => .ok .false
  | .attr name typ isList => .ok (getGroupAttributeEqualityFilter name typ isList value)
  | .creationDate => unwilling "Creation date filter for groups not supported"
  | .modifiedDate => unwilling "Modified date filter for groups not supported"

def groupOrderFilter (op : String) (onColumn : String → String → GroupRequestFilter)
    (onAttribute : AttributeName → String → GroupRequestFilter) (schema : Schema)
    (field : AttributeName) (value : String) : LdapResult GroupRequestFilter :=
  match getSchemaManager.mapGroupField field schema with
  | .creationDate | .modifiedDate =>
    .ok (onColumn ((resolveCanonicalName schema.groupAttributes field.asStr).getD field.asStr) value)
  | .attr name .dateTime _ => .ok (onAttribute name value)
  | _ => unwilling (op ++ " is only supported on timestamp attributes for groups (got: " ++
      field.asStr ++ ")")

def groupPresentFilter (schema : Schema) (field : AttributeName) : GroupRequestFilter :=
  match getSchemaManager.mapGroupField field schema with
  | .attr name _ _ => .customAttributePresent name
  | .noMatch => .false
  | _ => .true

def groupSubstringFilter (schema : Schema) (field : AttributeName) (f : SubStringFilter) :
    LdapResult GroupRequestFilter :=
  match getSchemaManager.mapGroupField field schema with
  | .displayName => .ok (.displayNameSubString f)
  | .attr name .string _ => .ok (.attributeSubString name f)
  | .noMatch => .ok .false
  | _ => unwilling ("Unsupported group attribute for substring filter: " ++ quoted field.asStr)

def convertGroupLeaf (ldapInfo : LdapInfo) (schema : Schema) :
    LdapFilter → LdapResult GroupRequestFilter
  | .equality field value =>
    if eqIgnoreAsciiCase field "objectclass" then .ok (groupClassFilter schema value)
    else groupEqualityFilter ldapInfo schema (.new field) value
  | .greaterOrEqual field value =>
    groupOrderFilter "GreaterOrEqual" .greaterOrEqual .attributeGreaterOrEqual schema (.new field)
      value
  | .lessOrEqual field value =>
    groupOrderFilter "LessOrEqual" .lessOrEqual .attributeLessOrEqual schema (.new field) value
  | .present field => .ok (groupPresentFilter schema (.new field))
  | .substring field f => groupSubstringFilter schema (.new field) f
  | f => unwilling ("Unsupported group filter: " ++ Library.debugFilter f)

mutual

def convertGroupFilter (ldapInfo : LdapInfo) (schema : Schema) :
    LdapFilter → LdapResult GroupRequestFilter
  | .and fs => do
    let converted ← convertGroupFilters ldapInfo schema fs
    .ok (GroupFilter.joinAnd converted)
  | .or fs => do
    let converted ← convertGroupFilters ldapInfo schema fs
    .ok (GroupFilter.joinOr converted)
  | .not f => do
    let converted ← convertGroupFilter ldapInfo schema f
    .ok (GroupFilter.negate converted)
  | f => convertGroupLeaf ldapInfo schema f

def convertGroupFilters (ldapInfo : LdapInfo) (schema : Schema) :
    List LdapFilter → LdapResult (List GroupRequestFilter)
  | [] => .ok []
  | f :: fs => do
    let c ← convertGroupFilter ldapInfo schema f
    let cs ← convertGroupFilters ldapInfo schema fs
    .ok (c :: cs)

end

end Ldap
end Klldap
