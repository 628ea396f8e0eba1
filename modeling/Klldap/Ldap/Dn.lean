import Klldap.Ldap.Proto
import Klldap.Schema

/-!
# Klldap.Ldap.Dn: distinguished names and organizational units

`crates/ldap/src/dn.rs` and the base of the directory (`LdapInfo`). A DN is read as the list of its
RDNs, folded to ASCII lower case. An OU path is kept inside the server as `primary\\secondary` and
shown in DNs innermost first.
-/

namespace Klldap
namespace Ldap

open Lib.Text

/-! ## OU paths -/

/-- The type and the value of an RDN. -/
abbrev Rdn := String × String

def defaultPrimaryUserOu : String := "people"

def defaultPrimaryGroupOu : String := "groups"

def ouChain (dnParts : List Rdn) : List Rdn := dnParts.filter fun p => eqIgnoreAsciiCase p.1 "ou"

def ldapRdnChainToInternalOu (rdnChain : List Rdn) : String :=
  join "\\" ((ouChain rdnChain).map Prod.snd).reverse

def getInternalOuFromDnParts (dnParts : List Rdn) : String :=
  ldapRdnChainToInternalOu (ouChain dnParts)

def getDirectChildOus (parentInternalOu : String) (allowedOus : List String) : List String :=
  let parent := asciiLower parentInternalOu
  allowedOus.filter fun ou =>
    let ou := asciiLower ou
    if parent = "" then !hasChar '\\' ou
    else if startsWith (parent ++ "\\") ou then
      !(ou.toList.drop (parent.toList.length + 1)).contains '\\'
    else false

def internalOuToLdapRdnChain (ou : String) : List Rdn :=
  if trim ou = "" then []
  else (((splitOn '\\' ou).reverse.map trim).filter fun part => part ≠ "").map fun part => ("ou", part)

def isContainerDn (dnParts baseDn : List Rdn) (allowedOus : List String) : Bool :=
  let internalOu := ldapRdnChainToInternalOu (ouChain dnParts)
  (allowedOus.any fun allowed => eqIgnoreAsciiCase allowed internalOu) &&
    dnParts.length = baseDn.length + (ouChain dnParts).length

def isSubtree (subtree baseTree : List Rdn) : Bool :=
  if baseTree = [] then true
  else if subtree.length < baseTree.length then false
  else ((subtree.drop (subtree.length - baseTree.length)).zip baseTree).all fun (p, q) =>
    eqIgnoreAsciiCase p.1 q.1 && eqIgnoreAsciiCase p.2 q.2

def quoted (s : String) : String := "\"" ++ s ++ "\""

def makeDnPair : List String → LdapResult Rdn
  | [] => .error ⟨.invalidDNSyntax, "Empty DN element"⟩
  | [_] => .error ⟨.invalidDNSyntax, "Missing DN value"⟩
  | [k, v] => .ok (k, v)
  | k :: v :: e :: _ => .error ⟨.invalidDNSyntax,
    "Too many elements in distinguished name: " ++ join ", " [quoted k, quoted v, quoted e]⟩

def parseDistinguishedName (dn : String) : LdapResult (List Rdn) :=
  (splitOn ',' (asciiLower dn)).mapM fun s => makeDnPair ((splitOn '=' s).map trim)

inductive UserOrGroupName where
  | user (u : UserId)
  | group (g : GroupName)
  | badSubStree
  | unexpectedFormat
  | invalidSyntax (e : LdapError)
deriving DecidableEq

def UserOrGroupName.intoLdapError (n : UserOrGroupName) (input expectedFormat : String) :
    LdapError :=
  match n with
  | .badSubStree => ⟨.invalidDNSyntax, "Not a subtree of the base tree"⟩
  | .invalidSyntax err => err
  | .unexpectedFormat | .user _ | .group _ => ⟨.invalidDNSyntax,
    "Unexpected DN format. Got " ++ quoted input ++ ", expected: " ++ expectedFormat⟩

def getUserOrGroupIdFromDistinguishedName (dn : String) (baseTree : List Rdn) : UserOrGroupName :=
  match parseDistinguishedName dn with
  | .error e => .invalidSyntax e
  | .ok parts =>
    if !isSubtree parts baseTree then .badSubStree
    else
      let primaryOu := ((ouChain parts).getLast?.map fun p => asciiLower p.2).getD ""
      let isUserOu : Bool := primaryOu = defaultPrimaryUserOu || primaryOu = ""
      match parts with
      | [] => .unexpectedFormat
      | (rdnType, rdnValue) :: _ =>
        if parts.length = baseTree.length + (ouChain parts).length + 1 then
          if asciiLower rdnType = "uid" || (asciiLower rdnType = "cn" && isUserOu) then
            .user (UserId.new rdnValue)
          else if asciiLower rdnType = "cn" && !isUserOu then .group ⟨rdnValue⟩
          else .unexpectedFormat
        else .unexpectedFormat

def getUserIdFromDistinguishedName (dn : String) (baseTree : List Rdn) (baseDnStr : String) :
    LdapResult UserId :=
  match getUserOrGroupIdFromDistinguishedName dn baseTree with
  | .user userId => .ok userId
  | err => .error (err.intoLdapError dn (quoted ("uid=id,ou=...," ++ baseDnStr)))

def getGroupIdFromDistinguishedName (dn : String) (baseTree : List Rdn) (baseDnStr : String) :
    LdapResult GroupName :=
  match getUserOrGroupIdFromDistinguishedName dn baseTree with
  | .group groupName => .ok groupName
  | err => .error (err.intoLdapError dn (quoted ("cn=id,ou=any-allowed-ou,..." ++ baseDnStr)))

def looksLikeDistinguishedName (dn : String) : Bool := hasChar '=' dn || hasChar ',' dn

def getUserIdFromDistinguishedNameOrPlainName (dn : String) (baseTree : List Rdn)
    (baseDnStr : String) : LdapResult UserId :=
  if !looksLikeDistinguishedName dn then .ok (UserId.new dn)
  else getUserIdFromDistinguishedName dn baseTree baseDnStr

def getGroupIdFromDistinguishedNameOrPlainName (dn : String) (baseTree : List Rdn)
    (baseDnStr : String) : LdapResult GroupName :=
  if !looksLikeDistinguishedName dn then .ok ⟨dn⟩
  else getGroupIdFromDistinguishedName dn baseTree baseDnStr

def renderRdns (rdns : List Rdn) : String := join "," (rdns.map fun p => p.1 ++ "=" ++ p.2)

def buildDn (rdn internalOu baseDnStr : String) : String :=
  let ouPart := renderRdns (internalOuToLdapRdnChain internalOu)
  if ouPart = "" then rdn ++ "," ++ baseDnStr else rdn ++ "," ++ (ouPart ++ "," ++ baseDnStr)

def buildUserDn (userId : UserId) (internalOu baseDnStr : String) : String :=
  buildDn ("uid=" ++ userId.asStr) internalOu baseDnStr

def buildGroupDn (groupName : GroupName) (internalOu baseDnStr : String) : String :=
  buildDn ("cn=" ++ groupName.raw) internalOu baseDnStr

structure LdapInfo where
  baseDn : List Rdn
  baseDnStr : String
  ignoredUserAttributes : List AttributeName
  ignoredGroupAttributes : List AttributeName
deriving DecidableEq

def LdapInfo.new (baseDn : String) (ignoredUserAttributes ignoredGroupAttributes :
    List AttributeName) : LdapResult LdapInfo := do
  let baseDn ← parseDistinguishedName (asciiLower baseDn)
  .ok ⟨baseDn, renderRdns baseDn, ignoredUserAttributes, ignoredGroupAttributes⟩

end Ldap

def Plain.ldapInfo : Ldap.LdapInfo :=
  ⟨[("dc", "example"), ("dc", "com")], "dc=example,dc=com", [], []⟩

end Klldap
