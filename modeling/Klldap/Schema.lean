import Klldap.Types

/-!
# Klldap.Schema: attribute schemas and the built-in attributes

`crates/schema`. A schema lists the attributes of users and of groups. A name is looked up by the
first entry that carries it, as its name or as an alias, in any letter case.
-/

namespace Klldap

open Lib.Text

structure AttributeSchema where
  name : String
  aliases : List String
  attributeType : AttributeType
  isList : Bool
  isVisible : Bool
  isEditable : Bool
  isHardcoded : Bool
  isReadonly : Bool
deriving DecidableEq

abbrev AttributeList := List AttributeSchema

def eqIgnoreAsciiCase (s t : String) : Bool := asciiLower s = asciiLower t

/-- `n` is the name or an alias of the entry, in some letter case. -/
def AttributeSchema.answersTo (a : AttributeSchema) (n : String) : Bool :=
  eqIgnoreAsciiCase a.name n || a.aliases.any fun s => eqIgnoreAsciiCase s n

def getByNameOrAlias (l : AttributeList) (n : String) : Option AttributeSchema :=
  l.find? fun a => a.answersTo n

def getAttributeType (l : AttributeList) (n : String) : Option (AttributeType × Bool) :=
  (getByNameOrAlias l n).map fun a => (a.attributeType, a.isList)

def resolveCanonicalName (l : AttributeList) (n : String) : Option String :=
  (getByNameOrAlias l n).map AttributeSchema.name

structure Schema where
  userAttributes : AttributeList
  groupAttributes : AttributeList
  posixSettings : PosixSettings
  extraUserObjectClasses : List String
  extraGroupObjectClasses : List String
deriving DecidableEq

/-! ## The built-in schema -/

namespace PublicSchema

def hardcoded (name : String) (aliases : List String) (attributeType : AttributeType)
    (isVisible isEditable isReadonly : Bool) : AttributeSchema :=
  ⟨name, aliases, attributeType, false, isVisible, isEditable, true, isReadonly⟩

def userAttributes : AttributeList := [
  hardcoded "avatar" ["jpegphoto", "jpegPhoto"] .avatar true true false,
  hardcoded "creationdate" ["creation_date", "createTimestamp"] .dateTime true false true,
  hardcoded "displayname" ["display_name", "cn"] .string true true false,
  hardcoded "firstname" ["first_name", "givenName"] .string true true false,
  hardcoded "lastname" ["last_name", "sn"] .string true true false,
  hardcoded "mail" ["email"] .string true true false,
  hardcoded "modifieddate" ["modified_date", "modifyTimestamp"] .dateTime true false true,
  hardcoded "passwordmodifieddate" ["password_modified_date", "pwdChangedTime"] .dateTime
    true false true,
  hardcoded "userid" ["user_id", "uid", "id"] .string true false true,
  hardcoded "uuid" ["entryuuid", "entryUUID"] .string true false true,
  hardcoded "uidnumber" ["uid_number", "uidNumber"] .integer true false false,
  hardcoded "gidnumber" ["gid_number", "gidNumber"] .integer true false false,
  hardcoded "homedirectory" ["home_directory", "homeDirectory"] .string true false false,
  hardcoded "loginshell" ["login_shell", "loginShell"] .string true false false,
  hardcoded "kerberossync" ["kerberos_sync", "kerberosSync"] .integer true false false,
  hardcoded "krbprincipalname" ["krb_principal_name", "krbPrincipalName"] .string
    false false true,
  ⟨"sshpublickey", ["sshPublicKey", "ssHPublicKey"], .string, true, true, true, true, false⟩,
  hardcoded "ou" ["organizationalunit", "organizationalUnit"] .string true false true]

def groupAttributes : AttributeList := [
  hardcoded "groupid" ["group_id"] .integer true false true,
  hardcoded "creationdate" ["creation_date", "createTimestamp"] .dateTime true false true,
  hardcoded "modifieddate" ["modified_date", "modifyTimestamp"] .dateTime true false true,
  hardcoded "uuid" ["entryuuid", "entryUUID"] .string true false true,
  hardcoded "displayname" ["display_name", "cn"] .string true true false,
  hardcoded "ou" ["organizationalunit", "organizationalUnit"] .string true false true,
  hardcoded "gidnumber" ["gid_number", "gidNumber"] .integer true false false]

def posixSettings : PosixSettings where
  userUidnumberStart := 3001
  userUidnumberMax := 3999
  userGidnumberStart := 3001
  userLoginshellDefault := "/bin/bash"
  userHomedirectoryPrefix := "/home"
  groupGidnumberStart := 3001
  groupGidnumberMax := 3999

def get : Schema where
  userAttributes := userAttributes
  groupAttributes := groupAttributes
  posixSettings := posixSettings
  extraUserObjectClasses := ["inetOrgPerson", "posixAccount", "ldapPublicKey"]
  extraGroupObjectClasses := ["posixGroup"]

end PublicSchema

theorem eqIgnoreAsciiCase_iff {s t : String} :
    eqIgnoreAsciiCase s t = true ↔ asciiLower s = asciiLower t := by
  simp [eqIgnoreAsciiCase]

theorem answersTo_asciiLower (a : AttributeSchema) (n : String) :
    a.answersTo (asciiLower n) = a.answersTo n := by
  simp [AttributeSchema.answersTo, eqIgnoreAsciiCase]

theorem getByNameOrAlias_asciiLower (l : AttributeList) (n : String) :
    getByNameOrAlias l (asciiLower n) = getByNameOrAlias l n := by
  simp only [getByNameOrAlias, answersTo_asciiLower]

theorem getByNameOrAlias_some {l : AttributeList} {n : String} {a : AttributeSchema}
    (h : getByNameOrAlias l n = some a) : a ∈ l ∧ a.answersTo n = true := by
  unfold getByNameOrAlias at h
  exact ⟨List.mem_of_find?_eq_some h, by simpa using List.find?_some h⟩

theorem getByNameOrAlias_append {l l' : AttributeList} {n : String} {a : AttributeSchema}
    (h : getByNameOrAlias l n = some a) : getByNameOrAlias (l ++ l') n = some a := by
  unfold getByNameOrAlias at h ⊢
  rw [List.find?_append, h]
  rfl

/-- Lower-case names, no two the same. -/
structure WellNamed (l : AttributeList) : Prop where
  nodup : (l.map AttributeSchema.name).Nodup
  lower : ∀ a ∈ l, asciiLower a.name = a.name

theorem WellNamed.eq_of_name {l : AttributeList} (hl : WellNamed l) {a b : AttributeSchema}
    (ha : a ∈ l) (hb : b ∈ l) (h : a.name = b.name) : a = b :=
  List.inj_on_of_nodup_map hl.nodup ha hb h

theorem userAttributes_wellNamed : WellNamed PublicSchema.userAttributes where
  nodup := by decide
  lower := by decide

theorem groupAttributes_wellNamed : WellNamed PublicSchema.groupAttributes where
  nodup := by decide
  lower := by decide

end Klldap
