import Klldap.Ldap.Dn

/-!
# Klldap.Ldap.SchemaManager: attribute names of the LDAP side

`crates/ldap/src/schema`. The manager is a map from every lower-case name or alias to what it stands
for and to the name that LDAP clients know. It is rebuilt from the built-in schema wherever it is
used; a name that is registered twice stands for what was registered last.

The map is kept as the list of its insertions, the last one first.
-/

namespace Klldap
namespace Ldap

open Lib.Text

inductive LogicalAttr where
  | objectClass
  | memberOf
  | dn
  | entryDn
  | primary (column : UserColumn)
  | custom (name : String) (attributeType : AttributeType) (isList : Bool)
  | operational
deriving DecidableEq

inductive UserFieldType where
  | noMatch
  | objectClass
  | memberOf
  | dn
  | entryDn
  | entryUuid
  | primaryField (column : UserColumn)
  | attr (name : AttributeName) (attributeType : AttributeType) (isList : Bool)
deriving DecidableEq

inductive GroupFieldType where
  | noMatch
  | groupId
  | displayName
  | creationDate
  | modifiedDate
  | objectClass
  | dn
  | entryDn
  | entryUuid
  | uniqueMember
  | member
  | memberOf
  | uuid
  | attr (name : AttributeName) (attributeType : AttributeType) (isList : Bool)
deriving DecidableEq

/-- The attributes to show, in the order of their names, each with the name it is shown under. -/
structure ExpandedAttributes where
  attributeKeys : List (AttributeName × String)
  includeCustomAttributes : Bool
  includeOperationalAttributes : Bool
deriving DecidableEq

/-! ## Building the map -/

def standardLdapNames : List String :=
  ["cn", "sn", "givenname", "uid", "mail", "ou", "dc", "o", "c", "l", "st", "title", "description",
    "member", "uniquemember", "memberof", "createtimestamp", "modifytimestamp", "pwdchangedtime",
    "entryuuid", "hassubordinates", "structuralobjectclass", "subschemasubentry", "uidnumber",
    "gidnumber", "homedirectory", "loginshell", "sshpublickey", "krbprincipalname", "jpegphoto",
    "avatar", "loginDisabled", "sudoHost"]

def getPreferredLdapName (attr : AttributeSchema) : String :=
  (attr.aliases.find? fun a => standardLdapNames.contains (asciiLower a)).getD attr.name

/-- The map from lower-case names. -/
abbrev SchemaManager := List (String × (LogicalAttr × String))

def register (m : SchemaManager) (logical : LogicalAttr) (canonical : String)
    (aliases : List String) : SchemaManager :=
  let m := (asciiLower canonical, (logical, canonical)) :: m
  aliases.foldl
    (fun m a => if asciiLower a ≠ asciiLower canonical then (asciiLower a, (logical, canonical)) :: m
      else m) m

def coreAttrs : List (LogicalAttr × String × List String) := [
  (.objectClass, "objectClass", []),
  (.memberOf, "memberOf", ["ismemberof"]),
  (.dn, "dn", ["distinguishedname"]),
  (.entryDn, "entryDN", []),
  (.operational, "hasSubordinates", []),
  (.operational, "structuralObjectClass", []),
  (.operational, "subschemaSubentry", []),
  (.operational, "createTimestamp", ["creationdate", "creation_date", "creationtimestamp"]),
  (.operational, "modifyTimestamp", ["modifieddate", "modified_date", "modifydate"]),
  (.operational, "pwdChangedTime", ["passwordmodifieddate", "password_modified_date"]),
  (.operational, "creatorsName", []),
  (.operational, "modifiersName", []),
  (.operational, "entryUUID", ["uuid"]),
  (.operational, "loginDisabled", ["loginDisabled"]),
  (.operational, "sudoHost", ["sudoHost"])]

def determineLogicalAttr (attr : AttributeSchema) (preferred : String) : LogicalAttr :=
  let lower := asciiLower preferred
  if ["hassubordinates", "structuralobjectclass", "subschemasubentry", "entryuuid", "uuid",
      "memberof", "ismemberof"].contains lower then .operational
  else if ["uid", "user_id", "id", "userid"].contains lower then .primary .userId
  else if ["mail", "email"].contains lower then .primary .email
  else if ["cn", "displayname", "display_name"].contains lower then .primary .displayName
  else if ["krbprincipalname", "krb_principal_name"].contains lower then .primary .krbPrincipalName
  else if ["createtimestamp", "creationdate", "creation_date", "creationtimestamp"].contains lower
    then .primary .creationDate
  else if ["modifytimestamp", "modifieddate", "modified_date", "modifydate"].contains lower
    then .primary .modifiedDate
  else if ["pwdchangedtime", "passwordmodifieddate", "password_modified_date"].contains lower
    then .primary .passwordModifiedDate
  else .custom attr.name attr.attributeType attr.isList

def registerSchemaAttribute (m : SchemaManager) (attr : AttributeSchema) : SchemaManager :=
  let preferred := getPreferredLdapName attr
  register m (determineLogicalAttr attr preferred) preferred attr.aliases

namespace SchemaManager

def new (schema : Schema) : SchemaManager :=
  let core := coreAttrs.foldl (fun m a => register m a.1 a.2.1 a.2.2) []
  (schema.userAttributes ++ schema.groupAttributes).foldl registerSchemaAttribute core

variable (m : SchemaManager)

def resolveAttribute (name : String) : Option (LogicalAttr × String) :=
  (List.find? (fun e => e.1 = asciiLower name) m).map Prod.snd

def getCanonicalName (name : String) : String :=
  ((m.resolveAttribute name).map Prod.snd).getD name

def isOperational (name : String) : Bool :=
  (m.resolveAttribute name).any fun e => e.1 = .operational

def isUuidName (field : AttributeName) : Bool :=
  eqIgnoreAsciiCase field.asStr "entryuuid" || eqIgnoreAsciiCase field.asStr "uuid"

def mapUserField (field : AttributeName) (schema : Schema) : UserFieldType :=
  match m.resolveAttribute field.asStr with
  | some (.objectClass, _) => .objectClass
  | some (.memberOf, _) => .memberOf
  | some (.dn, _) => .dn
  | some (.entryDn, _) => .entryDn
  | some (.operational, _) => if isUuidName field then .entryUuid else .noMatch
  | some (.primary column, _) => .primaryField column
  | some (.custom internal t isList, _) => .attr (.new internal) t isList
  | none =>
    match getAttributeType schema.userAttributes field.asStr with
    | some (t, isList) => .attr field t isList
    | none => .noMatch

def groupFieldOfColumn : UserColumn → GroupFieldType
  | .creationDate => .creationDate
  | .modifiedDate => .modifiedDate
  | .uuid => .uuid
  | .displayName => .displayName
  | _ => .noMatch

def mapGroupField (field : AttributeName) (schema : Schema) : GroupFieldType :=
  match m.resolveAttribute field.asStr with
  | some (.objectClass, _) => .objectClass
  | some (.memberOf, _) => .memberOf
  | some (.dn, _) => .dn
  | some (.entryDn, _) => .entryDn
  | some (.operational, _) => if isUuidName field then .entryUuid else .noMatch
  | some (.primary column, _) => groupFieldOfColumn column
  | some (.custom internal t isList, _) => .attr (.new internal) t isList
  | none =>
    if eqIgnoreAsciiCase field.asStr "member" then .member
    else if eqIgnoreAsciiCase field.asStr "uniquemember" then .uniqueMember
    else
      match getAttributeType schema.groupAttributes field.asStr with
      | some (t, isList) => .attr field t isList
      | none => .noMatch

/-! ## Wildcards -/

def alwaysOperational : List String :=
  ["hassubordinates", "structuralobjectclass", "subschemasubentry", "createtimestamp",
    "modifytimestamp", "pwdchangedtime", "entryuuid", "entrydn", "memberof", "creatorsname",
    "modifiersname"]

def ignoreOnPlus : List String :=
  ["attributetypes", "objectclasses", "matchingrules", "ldapsyntaxes", "matchingruleuse",
    "creatorsname", "modifiersname", "namingcontexts", "supportedcontrol", "supportedextension",
    "supportedfeatures", "supportedldapversion", "supportedsaslmechanisms", "vendorname",
    "vendorversion", "altserver", "ref", "queryid"]

def pushNew (keys : List String) (name : String) : List String :=
  if keys.any fun k => eqIgnoreAsciiCase k name then keys else keys ++ [name]

def wildcardKeys (schema : Schema) : List String × List String :=
  let (standard, operational) := (schema.userAttributes ++ schema.groupAttributes).foldl
    (fun (standard, operational) attr =>
      let name := getPreferredLdapName attr
      let isOperational := (m.resolveAttribute name).any fun e =>
        e.1 = .operational || alwaysOperational.contains (asciiLower name)
      if isOperational then (standard, pushNew operational name)
      else (pushNew standard name, operational))
    ([], [])
  let operational := alwaysOperational.foldl pushNew operational
  let standard := standard.filter fun k => !alwaysOperational.contains (asciiLower k)
  (pushNew standard "objectClass", operational.filter fun k => !ignoreOnPlus.contains k)

def insertKey (keys : List (AttributeName × String)) (name : String) :
    List (AttributeName × String) :=
  match keys with
  | [] => [(.new name, name)]
  | (k, v) :: keys =>
    if asciiLower name < k.asStr then (.new name, name) :: (k, v) :: keys
    else if asciiLower name = k.asStr then (.new name, name) :: keys
    else (k, v) :: insertKey keys name

def isWildcard (name : String) : Bool :=
  ["*", "+", "1.1"].contains (asciiLower name) || ignoreOnPlus.contains (asciiLower name)

def expandAttributeWildcards (ldapAttributes : List String) (schema : Schema) :
    ExpandedAttributes :=
  let (standard, operational) := m.wildcardKeys schema
  let named := (ldapAttributes.filter fun s => !isWildcard s).map m.getCanonicalName
  let hasStar := ldapAttributes.contains "*" || ldapAttributes.isEmpty
  let hasPlus := ldapAttributes.contains "+"
  let keys := (named ++ (if hasStar || hasPlus then standard else []) ++
    (if hasPlus then operational else [])).foldl insertKey []
  let hasExplicitOperational := keys.any fun k =>
    m.isOperational k.1.asStr || alwaysOperational.contains (asciiLower k.1.asStr)
  ⟨keys, hasStar || hasPlus, hasPlus || hasExplicitOperational⟩

theorem mem_insertKey {keys : List (AttributeName × String)} {name : String}
    {k : AttributeName × String} (h : k ∈ insertKey keys name) :
    k = (.new name, name) ∨ k ∈ keys := by
  induction keys with
  | nil => simpa [insertKey] using h
  | cons p keys ih =>
    simp only [insertKey] at h
    split at h
    · simpa using h
    · split at h
      · exact (List.mem_cons.mp h).imp_right (List.mem_cons_of_mem _)
      · rcases List.mem_cons.mp h with rfl | h
        · exact .inr List.mem_cons_self
        · exact (ih h).imp_right (List.mem_cons_of_mem _)

theorem mem_foldl_insertKey {names : List String} {keys : List (AttributeName × String)}
    {k : AttributeName × String} (h : k ∈ names.foldl insertKey keys) :
    k ∈ keys ∨ ∃ n ∈ names, k = (.new n, n) := by
  induction names generalizing keys with
  | nil => exact .inl h
  | cons n names ih =>
    rcases ih h with h | ⟨n', hn', rfl⟩
    · rcases mem_insertKey h with rfl | h
      · exact .inr ⟨n, List.mem_cons_self, rfl⟩
      · exact .inl h
    · exact .inr ⟨n', List.mem_cons_of_mem n hn', rfl⟩

theorem mem_attributeKeys {ldapAttributes : List String} {schema : Schema}
    {k : AttributeName × String}
    (h : k ∈ (m.expandAttributeWildcards ldapAttributes schema).attributeKeys) :
    ∃ n, k = (.new n, n) ∧
      ((∃ a ∈ ldapAttributes, isWildcard a = false ∧ n = m.getCanonicalName a) ∨
      n ∈ (m.wildcardKeys schema).1 ∨ n ∈ (m.wildcardKeys schema).2) := by
  rw [expandAttributeWildcards] at h
  dsimp only at h
  obtain h | ⟨n, hn, rfl⟩ := mem_foldl_insertKey h
  · cases h
  refine ⟨n, rfl, ?_⟩
  rcases List.mem_append.mp hn with hn | hn
  · rcases List.mem_append.mp hn with hn | hn
    · obtain ⟨a, ha, rfl⟩ := List.mem_map.mp hn
      obtain ⟨ha, hspecial⟩ := List.mem_filter.mp ha
      exact .inl ⟨a, ha, by simpa using hspecial, rfl⟩
    · refine .inr (.inl ?_)
      split at hn
      · exact hn
      · cases hn
  · refine .inr (.inr ?_)
    split at hn
    · exact hn
    · cases hn

theorem includeCustomAttributes_eq (ldapAttributes : List String) (schema : Schema) :
    (m.expandAttributeWildcards ldapAttributes schema).includeCustomAttributes =
      (ldapAttributes.contains "*" || ldapAttributes.isEmpty || ldapAttributes.contains "+") :=
  rfl

def isMemberName (name : String) : Bool := ["member", "uniquemember"].contains (asciiLower name)

@[simp] theorem isMemberName_asciiLower (name : String) :
    isMemberName (asciiLower name) = isMemberName name := by
  simp [isMemberName]

theorem isMemberName_of_mapGroupField {field : AttributeName} {schema : Schema}
    (h : m.mapGroupField field schema = .member ∨ m.mapGroupField field schema = .uniqueMember) :
    isMemberName field.asStr = true := by
  have hcol : ∀ column, groupFieldOfColumn column ≠ .member ∧
      groupFieldOfColumn column ≠ .uniqueMember := by
    intro column
    cases column <;> decide
  by_cases hm : eqIgnoreAsciiCase field.asStr "member" = true
  · rw [isMemberName, eqIgnoreAsciiCase_iff.mp hm]
    decide
  by_cases hu : eqIgnoreAsciiCase field.asStr "uniquemember" = true
  · rw [isMemberName, eqIgnoreAsciiCase_iff.mp hu]
    decide
  exfalso
  rw [mapGroupField] at h
  split at h
  case h_6 column _ _ => simp [hcol column] at h
  case h_8 =>
    rw [if_neg hm, if_neg hu] at h
    split at h <;> simp at h
  case h_5 => split at h <;> simp at h
  all_goals simp at h

end SchemaManager

/-- The registrations of the public schema, the last one first, with their lower-case names. -/
def publicNames : List (LogicalAttr × String × List String) :=
  [(.custom "gidnumber" .integer false, "gidNumber", ["gid_number", "gidnumber"]),
    (.custom "ou" .string false, "ou", ["organizationalunit", "organizationalunit", "ou"]),
    (.primary .displayName, "cn", ["display_name", "cn"]),
    (.operational, "entryuuid", ["entryuuid"]),
    (.primary .modifiedDate, "modifyTimestamp", ["modified_date", "modifytimestamp"]),
    (.primary .creationDate, "createTimestamp", ["creation_date", "createtimestamp"]),
    (.custom "groupid" .integer false, "groupid", ["group_id", "groupid"]),
    (.custom "ou" .string false, "ou", ["organizationalunit", "organizationalunit", "ou"]),
    (.custom "sshpublickey" .string true, "sshPublicKey", ["sshpublickey"]),
    (.primary .krbPrincipalName, "krbPrincipalName", ["krb_principal_name", "krbprincipalname"]),
    (.custom "kerberossync" .integer false, "kerberossync", ["kerberos_sync", "kerberossync"]),
    (.custom "loginshell" .string false, "loginShell", ["login_shell", "loginshell"]),
    (.custom "homedirectory" .string false, "homeDirectory", ["home_directory", "homedirectory"]),
    (.custom "gidnumber" .integer false, "gidNumber", ["gid_number", "gidnumber"]),
    (.custom "uidnumber" .integer false, "uidNumber", ["uid_number", "uidnumber"]),
    (.operational, "entryuuid", ["entryuuid"]),
    (.primary .userId, "uid", ["id", "user_id", "uid"]),
    (.primary .passwordModifiedDate, "pwdChangedTime", ["password_modified_date", "pwdchangedtime"]),
    (.primary .modifiedDate, "modifyTimestamp", ["modified_date", "modifytimestamp"]),
    (.primary .email, "mail", ["email", "mail"]),
    (.custom "lastname" .string false, "sn", ["last_name", "sn"]),
    (.custom "firstname" .string false, "givenName", ["first_name", "givenname"]),
    (.primary .displayName, "cn", ["display_name", "cn"]),
    (.primary .creationDate, "createTimestamp", ["creation_date", "createtimestamp"]),
    (.custom "avatar" .avatar false, "jpegphoto", ["jpegphoto"]),
    (.operational, "sudoHost", ["sudohost"]), (.operational, "loginDisabled", ["logindisabled"]),
    (.operational, "entryUUID", ["uuid", "entryuuid"]),
    (.operational, "modifiersName", ["modifiersname"]),
    (.operational, "creatorsName", ["creatorsname"]),
    (.operational, "pwdChangedTime", ["password_modified_date", "passwordmodifieddate", "pwdchangedtime"]),
    (.operational, "modifyTimestamp", ["modifydate", "modified_date", "modifieddate", "modifytimestamp"]),
    (.operational, "createTimestamp", ["creationtimestamp", "creation_date", "creationdate", "createtimestamp"]),
    (.operational, "subschemaSubentry", ["subschemasubentry"]),
    (.operational, "structuralObjectClass", ["structuralobjectclass"]),
    (.operational, "hasSubordinates", ["hassubordinates"]), (.entryDn, "entryDN", ["entrydn"]),
    (.dn, "dn", ["distinguishedname", "dn"]), (.memberOf, "memberOf", ["ismemberof", "memberof"]),
    (.objectClass, "objectClass", ["objectclass"])]

/-- The map of the public schema, written out so that it is not built anew by every evaluation. -/
@[irreducible] def getSchemaManager : SchemaManager :=
  publicNames.flatMap fun r => r.2.2.map fun name => (name, (r.1, r.2.1))

theorem getSchemaManager_eq : getSchemaManager = .new PublicSchema.get := by decide +kernel

section

open SchemaManager

theorem getSchemaManager_canonical : ∀ e ∈ getSchemaManager,
    asciiLower (getSchemaManager.getCanonicalName e.2.2) = asciiLower e.2.2 := by decide +kernel

theorem getSchemaManager_wildcardKeys : ∀ n ∈ (getSchemaManager.wildcardKeys PublicSchema.get).1 ++
    (getSchemaManager.wildcardKeys PublicSchema.get).2, isMemberName n = false := by decide +kernel

theorem getSchemaManager_registered :
    (∀ e ∈ getSchemaManager, isMemberName e.2.2 = false ∧ asciiLower e.2.2 ≠ "*" ∧
      ∀ c ∈ [UserColumn.lowercaseEmail, .passwordHash, .totpSecret, .mfaType],
        e.2.1 ≠ .primary c) ∧
    (∀ n ∈ ["hasSubordinates", "structuralObjectClass", "subschemaSubentry", "creatorsName",
      "modifiersName"], asciiLower (getSchemaManager.getCanonicalName n) = asciiLower n) ∧
    getSchemaManager.resolveAttribute "memberof" = some (.memberOf, "memberOf") ∧
    getSchemaManager.resolveAttribute "dn" = some (.dn, "dn") ∧
    getSchemaManager.resolveAttribute "cn" = some (.primary .displayName, "cn") ∧
    getSchemaManager.resolveAttribute "email" = some (.primary .email, "mail") ∧
    ∀ n ∈ ["member", "uniquemember", "*", "+"], getSchemaManager.resolveAttribute n = none := by
  decide +kernel

theorem isMemberName_of_getCanonicalName {name : String}
    (h : isMemberName (getSchemaManager.getCanonicalName name) = true) :
    isMemberName name = true := by
  unfold getCanonicalName resolveAttribute at h
  cases he : List.find? (fun e => decide (e.1 = asciiLower name)) getSchemaManager with
  | none => simpa [he] using h
  | some e =>
    have hnone := (getSchemaManager_registered.1 e (List.mem_of_find?_eq_some he)).1
    rw [he] at h
    exact absurd h (by simp [hnone])

theorem isMemberName_wildcardKeys {n : String}
    (h : n ∈ (getSchemaManager.wildcardKeys PublicSchema.get).1 ∨
      n ∈ (getSchemaManager.wildcardKeys PublicSchema.get).2) : isMemberName n = false :=
  getSchemaManager_wildcardKeys n (List.mem_append.mpr h)

end

end Ldap
end Klldap
