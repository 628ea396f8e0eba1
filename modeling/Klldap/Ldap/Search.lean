import Klldap.AccessControl
import Klldap.Ldap.Filters

/-!
# Klldap.Ldap.Search: searches

`crates/ldap/src/search` and the two functions of `handler.rs` that call it. A search lists users and
groups through the lister that access control hands out, renders them and keeps those that lie
under the base of the request; the organizational units are made up from the allowed ones.
-/

namespace Klldap
namespace Ldap

open Lib (Bytes Eff)
open Lib.Bincode (utf8)
open Lib.Text
open Opaque (Suite)

/-! ## Scopes -/

inductive SearchScope where
  | root | container | leafUser | leafGroup | invalid | unknown
deriving DecidableEq

def getSearchScope (baseDn dnParts : List Rdn) (ldapScope : LdapSearchScope)
    (allowedOus : List String) : SearchScope :=
  let leaf :=
    if ldapScope = .base && baseDn.length < dnParts.length then
      match getUserOrGroupIdFromDistinguishedName (renderRdns dnParts) baseDn with
      | .user _ => some .leafUser
      | .group _ => some .leafGroup
      | _ => none
    else none
  if !isSubtree dnParts baseDn then .invalid
  else if dnParts = baseDn then .root
  else if (ldapScope = .oneLevel || ldapScope = .subtree) &&
      dnParts.length = baseDn.length + 1 then .container
  else leaf.getD (if isContainerDn dnParts baseDn allowedOus then .container else .unknown)

/-! ## Entries that stand for no row -/

section

variable [Library]

def makeOuEntry (ouStr baseDnStr : String) (includeOperationalAttributes : Bool) :
    LdapSearchResultEntry :=
  let rdnChain := internalOuToLdapRdnChain ouStr
  let ouPart := renderRdns rdnChain
  let dn := if ouPart = "" then baseDnStr else ouPart ++ "," ++ baseDnStr
  let leafOuVal := utf8 ((rdnChain.head?.map Prod.snd).getD defaultPrimaryUserOu)
  ⟨dn, [⟨"objectClass", [utf8 "top", utf8 "organizationalUnit"]⟩, ⟨"ou", [leafOuVal]⟩] ++
    if includeOperationalAttributes then [
      ⟨"hasSubordinates", [utf8 "TRUE"]⟩,
      ⟨"structuralObjectClass", [utf8 "organizationalUnit"]⟩,
      ⟨"subschemaSubentry", [utf8 ("cn=Subschema," ++ baseDnStr)]⟩,
      ⟨"entryUUID", [utf8 (Library.uuidV5 dn)]⟩]
    else []⟩

def buildOuEntries (ous : List String) (baseDnStr : String) (includeOperationalAttributes : Bool) :
    List LdapSearchResultEntry :=
  ous.map fun ou => makeOuEntry ou baseDnStr includeOperationalAttributes

mutual

def ouMatchesFilter (ouStr : String) : LdapFilter → Bool
  | .equality field value =>
    if asciiLower field = "ou" then asciiLower ouStr = asciiLower value
    else if asciiLower field = "objectclass" then
      ["organizationalunit", "top"].contains (asciiLower value)
    else true
  | .present field =>
    ["ou", "objectclass", "hassubordinates", "structuralobjectclass"].contains (asciiLower field)
  | .and fs => ouMatchesAll ouStr fs
  | .or fs => ouMatchesAny ouStr fs
  | .not f => !ouMatchesFilter ouStr f
  | _ => true

def ouMatchesAll (ouStr : String) : List LdapFilter → Bool
  | [] => true
  | f :: fs => ouMatchesFilter ouStr f && ouMatchesAll ouStr fs

def ouMatchesAny (ouStr : String) : List LdapFilter → Bool
  | [] => false
  | f :: fs => ouMatchesFilter ouStr f || ouMatchesAny ouStr fs

end

def rdnValue (rdns : List Rdn) (key default : String) : Bytes :=
  utf8 (((rdns.find? fun p => eqIgnoreAsciiCase p.1 key).map Prod.snd).getD default)

def rootEntry (ldapInfo : LdapInfo) : LdapSearchResultEntry :=
  ⟨ldapInfo.baseDnStr, [
    ⟨"objectClass", [utf8 "top", utf8 "dcObject", utf8 "organization"]⟩,
    ⟨"dc", [rdnValue ldapInfo.baseDn "dc" "lldap"]⟩,
    ⟨"o", [rdnValue ldapInfo.baseDn "o" "lldap Directory"]⟩,
    ⟨"hasSubordinates", [utf8 "TRUE"]⟩,
    ⟨"structuralObjectClass", [utf8 "organization"]⟩,
    ⟨"subschemaSubentry", [utf8 ("cn=Subschema," ++ ldapInfo.baseDnStr)]⟩]⟩

def rootDseResponse (baseDn : String) : LdapSearchResultEntry :=
  let realm := utf8 (Library.realmName baseDn)
  let subschema := utf8 ("cn=Subschema," ++ baseDn)
  ⟨"", [
    ⟨"objectClass", [utf8 "top"]⟩,
    ⟨"vendorName", [utf8 "LLDAP"]⟩,
    ⟨"vendorVersion", [utf8 ("lldap_" ++ Library.packageVersion)]⟩,
    ⟨"supportedLDAPVersion", [utf8 "3"]⟩,
    ⟨"supportedExtension", [utf8 oidPasswordModify, utf8 oidWhoami]⟩,
    ⟨"supportedControl", [utf8 "1.2.840.113556.1.4.319", utf8 "1.3.6.1.4.1.4203.1.9.1"]⟩,
    ⟨"defaultNamingContext", [utf8 baseDn]⟩,
    ⟨"namingContexts", [utf8 baseDn]⟩,
    ⟨"schemaNamingContext", [subschema]⟩,
    ⟨"configurationNamingContext", [utf8 baseDn]⟩,
    ⟨"isGlobalCatalogReady", [utf8 "false"]⟩,
    ⟨"subschemaSubentry", [subschema]⟩,
    ⟨"krb5RealmName", [realm]⟩,
    ⟨"supportedSASLMechanisms", [utf8 "GSSAPI", utf8 "GSS-SPNEGO", utf8 "DIGEST-MD5"]⟩,
    ⟨"defaultRealm", [realm]⟩]⟩

def makeLdapSubschemaEntry (baseDnStr : String) : LdapSearchResultEntry :=
  ⟨"cn=Subschema," ++ baseDnStr, Library.subschemaAttributes baseDnStr⟩

end

def isRootDseRequest (request : LdapSearchRequest) : Bool :=
  request.base = "" && request.scope = .base &&
    match request.filter with
    | .present attr => eqIgnoreAsciiCase attr "objectclass"
    | _ => false

def namesObjectClass : LdapFilter → Bool
  | .equality attr _ => eqIgnoreAsciiCase attr "objectclass"
  | _ => false

def isSubschemaEntryRequest (request : LdapSearchRequest) : Bool :=
  hasInfix "cn=subschema" (asciiLower request.base) &&
    (request.scope = .base || request.scope = .subtree) &&
    match request.filter with
    | .present attr => eqIgnoreAsciiCase attr "objectclass"
    | .equality attr val =>
      eqIgnoreAsciiCase attr "objectclass" &&
        (val = "*" || eqIgnoreAsciiCase val "top" || eqIgnoreAsciiCase val "subschema")
    | .and fs | .or fs => fs.any namesObjectClass
    | _ => true

/-- A failure of the backend in the words of the LDAP layer. A panic stays one. -/
def Failure.ofDomain (wrap : DomainError → LdapError) : DomainError → Failure
  | .panicked msg => .panicked msg
  | e => .ldap (wrap e)

def recover {σ α : Type} (m : Eff σ DomainError α) (default : α) : Eff σ Failure α := do
  match ← Eff.attempt m with
  | .ok a => pure a
  | .error (.panicked msg) => Eff.fail (.panicked msg)
  | .error _ => pure default

section

variable [External] [Library] {σ : Type} (ldapInfo : LdapInfo) (schema : Schema)

def liftLdap {α : Type} (r : LdapResult α) : Eff σ Failure α := Eff.lift (r.mapError .ldap)

def getUserList (listUsers : Option UserRequestFilter → Bool → Eff σ DomainError (List UserAndGroups))
    (ldapFilter : LdapFilter) (requestGroups : Bool) (base : String) :
    Eff σ Failure (List UserAndGroups) := do
  let filters ← liftLdap (convertUserFilter ldapInfo schema ldapFilter)
  (listUsers (some filters) requestGroups).mapErr (Failure.ofDomain fun e =>
    ⟨.other, "Error while searching user " ++ quoted base ++ ": " ++ e.display⟩)

def getGroupsList (listGroups : Option GroupRequestFilter → Eff σ DomainError (List Group))
    (ldapFilter : LdapFilter) (base : String) : Eff σ Failure (List Group) := do
  let filters ← liftLdap (convertGroupFilter ldapInfo schema ldapFilter)
  (listGroups (some filters)).mapErr (Failure.ofDomain fun e =>
    ⟨.other, "Error while listing groups " ++ quoted base ++ ": " ++ e.display⟩)

def convertUsersToLdapOp (users : List UserAndGroups) (attributes : List String) :
    Except String (List LdapSearchResultEntry) :=
  users.mapM fun u => makeLdapSearchUserResultEntry u.user ldapInfo.baseDnStr
    (getSchemaManager.expandAttributeWildcards attributes schema) u.groups
    ldapInfo.ignoredUserAttributes schema

def convertGroupsToLdapOp (groups : List Group) (attributes : List String)
    (userFilter : Option UserId) : Except String (List LdapSearchResultEntry) :=
  groups.mapM fun g => makeLdapSearchGroupResultEntry g ldapInfo.baseDnStr
    (getSchemaManager.expandAttributeWildcards attributes schema) userFilter
    ldapInfo.ignoredGroupAttributes schema

def liftPanic {α : Type} (r : Except String α) : Eff σ Failure α := Eff.lift (r.mapError .panicked)

end

/-! ## Searches -/

def makeSearchError (code : LdapResultCode) (message : String) : LdapOp :=
  .searchResultDone ⟨code, "", message⟩

def makeSearchSuccess : LdapOp := makeSearchError .success ""

def found (entries : List LdapSearchResultEntry) : List LdapOp :=
  entries.map .searchResultEntry ++ [makeSearchSuccess]

def includeOp (attrs : List String) : Bool :=
  attrs.any fun a => a = "+" || ["hassubordinates", "structuralobjectclass", "subschemasubentry",
    "createtimestamp", "modifytimestamp", "pwdchangedtime", "entryuuid", "memberof"].contains
      (asciiLower a)

/-- Whether a rendered entry lies under the base of a search in a container. -/
def underBase (request : LdapSearchRequest) (dnParts : List Rdn) (e : LdapSearchResultEntry) :
    Bool :=
  match parseDistinguishedName e.dn with
  | .error _ => false
  | .ok parts =>
    endsWith (asciiLower request.base) (asciiLower e.dn) &&
      (request.scope ≠ .oneLevel || parts.length = dnParts.length + 1)

def isAtBase (request : LdapSearchRequest) (e : LdapSearchResultEntry) : Bool :=
  asciiLower e.dn = asciiLower request.base

def ousBelow (internalOu : String) (scope : LdapSearchScope) (allowedOus : List String) :
    List String :=
  if scope = .oneLevel then getDirectChildOus internalOu allowedOus
  else allowedOus.filter fun ou =>
    internalOu ≠ "" && startsWith (asciiLower internalOu ++ "\\") (asciiLower ou)

section

variable [External] [Library] {S : Suite} {σ : Type} (backend : UserRestrictedLister S σ)
  (ldapInfo : LdapInfo) (request : LdapSearchRequest)

def foundUsers : Eff σ Failure (List LdapSearchResultEntry) := do
  let users ← getUserList ldapInfo PublicSchema.get backend.listUsers request.filter true request.base
  liftPanic (convertUsersToLdapOp ldapInfo PublicSchema.get users request.attrs)

def foundGroups : Eff σ Failure (List LdapSearchResultEntry) := do
  let groups ← getGroupsList ldapInfo PublicSchema.get backend.listGroups request.filter request.base
  liftPanic (convertGroupsToLdapOp ldapInfo PublicSchema.get groups request.attrs none)

def searchRoot (allowedOus : List String) : Eff σ Failure (List LdapOp) :=
  if request.scope = .base then pure (found [rootEntry ldapInfo])
  else do
    let ous := (if request.scope = .subtree then allowedOus else getDirectChildOus "" allowedOus)
    let ouEntries := buildOuEntries (ous.filter fun ou => ouMatchesFilter ou request.filter)
      ldapInfo.baseDnStr (includeOp request.attrs)
    if request.scope = .subtree then do
      let users ← foundUsers backend ldapInfo request
      let groups ← foundGroups backend ldapInfo request
      pure (found (ouEntries ++ users ++ groups))
    else pure (found ouEntries)

def searchContainer (allowedOus : List String) (dnParts : List Rdn) :
    Eff σ Failure (List LdapOp) :=
  let internalOu := getInternalOuFromDnParts dnParts
  let ouEntries (ous : List String) := buildOuEntries
    (ous.filter fun ou => ouMatchesFilter ou request.filter) ldapInfo.baseDnStr
    (includeOp request.attrs)
  if request.scope = .base then pure (found (ouEntries [internalOu]))
  else do
    let users ← foundUsers backend ldapInfo request
    let groups ← foundGroups backend ldapInfo request
    pure (found (ouEntries (ousBelow internalOu request.scope allowedOus) ++
      users.filter (underBase request dnParts) ++ groups.filter (underBase request dnParts)))

def noSuchObject : Failure := .ldap ⟨.noSuchObject, ""⟩

/-- A search at a user first asks whether the user exists, then applies the client's filter. -/
def searchUser : Eff σ Failure (List LdapOp) :=
  match getUserIdFromDistinguishedName request.base ldapInfo.baseDn ldapInfo.baseDnStr with
  | .error _ => pure [makeSearchSuccess]
  | .ok userId => do
    let existing ← getUserList ldapInfo PublicSchema.get backend.listUsers
      (.equality "uid" userId.asStr) true request.base
    if existing.isEmpty then Eff.fail noSuchObject
    else do
      let users ← foundUsers backend ldapInfo request
      pure (found (users.filter (isAtBase request)))

def searchGroup : Eff σ Failure (List LdapOp) :=
  match getGroupIdFromDistinguishedName request.base ldapInfo.baseDn ldapInfo.baseDnStr with
  | .error _ => pure [makeSearchSuccess]
  | .ok groupName => do
    let existing ← getGroupsList ldapInfo PublicSchema.get backend.listGroups
      (.equality (getSchemaManager.getCanonicalName "cn") groupName.raw) request.base
    if existing.isEmpty then Eff.fail noSuchObject
    else do
      let groups ← foundGroups backend ldapInfo request
      pure (found (groups.filter (isAtBase request)))

def doSearch (allowedOus : List String) : Eff σ Failure (List LdapOp) :=
  match parseDistinguishedName request.base with
  | .error _ => pure [makeSearchSuccess]
  | .ok dnParts =>
    match getSearchScope ldapInfo.baseDn dnParts request.scope allowedOus with
    | .root => searchRoot backend ldapInfo request allowedOus
    | .container => searchContainer backend ldapInfo request allowedOus dnParts
    | .leafUser => searchUser backend ldapInfo request
    | .leafGroup => searchGroup backend ldapInfo request
    | .invalid | .unknown => pure [makeSearchSuccess]

end

section

variable [External] [Library] {S : Suite} {σ : Type} (h : Services S σ) (ldapInfo : LdapInfo)
  (userInfo : Option ValidationResults) (request : LdapSearchRequest)

def doBoundSearch : Eff σ Failure (List LdapOp) :=
  match userInfo with
  | none => Eff.fail (.ldap ⟨.insufficentAccessRights, "No user currently bound"⟩)
  | some v => do
    let allowedOus ← recover h.getAllowedOus ["people", "groups"]
    doSearch (getUserRestrictedListerHandler h v) ldapInfo request allowedOus

def doSearchOrDse : Eff σ Failure (List LdapOp) :=
  if isRootDseRequest request then pure (found [rootDseResponse ldapInfo.baseDnStr])
  else if isSubschemaEntryRequest request then
    pure (found [makeLdapSubschemaEntry ldapInfo.baseDnStr])
  else doBoundSearch h ldapInfo userInfo request

end

end Ldap
end Klldap
