import Klldap.Ldap.Rdn
import Klldap.Plain

/-!
# Klldap.Kerberos: names derived from the base of the directory

`crates/kerberos/src/lib.rs` and `keycloak_config.rs`. The Kerberos side reads the base DN from the
environment as a text: it keeps what follows `dc=` at the start of each part between commas. The realm
that is generated for Keycloak writes DNs back, replacing each dot of the realm by `,dc=`.
-/

namespace Klldap
namespace Kerberos

open Lib.Text
open Ldap (Rdn LdapInfo parseDistinguishedName isSubtree)

/-! ## Letter case -/

def asciiUpper (s : String) : String := String.ofList (s.toList.map Char.toUpper)

/-- Library functions of this crate: `str::to_uppercase` outside ASCII. -/
structure CaseLib where
  strUpper : String → String

def CaseLib.toUppercase (lib : CaseLib) (s : String) : String :=
  if s.toList.all isAscii then asciiUpper s else lib.strUpper s

/-! ## Derived names -/

/-- The environment variables that are read. -/
structure Env where
  ldapBaseDn : Option String
  kerbRealmName : Option String

def stripStart (p s : String) : Option String :=
  if startsWith p s then some (String.ofList (s.toList.drop p.toList.length)) else none

def dcParts (baseDn : String) : List String := (splitOn ',' baseDn).filterMap (stripStart "dc=")

section

variable [External] (lib : CaseLib) (env : Env)

def deriveDomainFromBaseDn : String :=
  toLowercase (join "." (dcParts (env.ldapBaseDn.getD "dc=example,dc=com")))

def deriveRealmFromBaseDn : String :=
  lib.toUppercase ((env.kerbRealmName.filter fun s => s ≠ "").getD
    (lib.toUppercase (deriveDomainFromBaseDn env)))

structure KeycloakRealmGenerationOptions where
  realm : String
  useLdaps : Bool
  externalKeycloak : Bool
  externalKeycloakUrl : String
  keycloakHostname : String
  enableHsts : Bool
  enableBruteForce : Bool

/-- The fields of the generated realm that depend on the options or on the environment. -/
structure RealmJson where
  realm : String
  sslRequired : String
  connectionUrl : String
  bindDn : String
  usersDn : String
  groupsDn : String
  kerberosRealm : String
  serverPrincipal : String
  strictTransportSecurity : String
  bruteForceProtected : Bool
deriving DecidableEq

def dotsToDc (s : String) : String := join ",dc=" (splitOn '.' s)

def generateKeycloakRealmJson (options : KeycloakRealmGenerationOptions) : RealmJson :=
  let realmUpper := deriveRealmFromBaseDn lib env
  let domain := deriveDomainFromBaseDn env
  let hostname :=
    if options.externalKeycloak && trim options.externalKeycloakUrl ≠ "" then
      options.externalKeycloakUrl
    else if trim options.keycloakHostname = "" || trim options.keycloakHostname = "keycloak" then
      "keycloak." ++ domain
    else options.keycloakHostname
  let base := dotsToDc (toLowercase realmUpper)
  { realm := toLowercase options.realm
    sslRequired := if options.useLdaps then "external" else "none"
    connectionUrl := if options.useLdaps then "ldaps://lldap:636" else "ldap://lldap:389"
    bindDn := "uid=keycloak,ou=people," ++ base
    usersDn := "ou=people," ++ base
    groupsDn := "ou=groups," ++ base
    kerberosRealm := realmUpper
    serverPrincipal := "HTTP/" ++ hostname ++ "@" ++ realmUpper
    strictTransportSecurity :=
      if options.enableHsts then "max-age=31536000; includeSubDomains" else ""
    bruteForceProtected := options.enableBruteForce }

end

def dotted (baseDn : List Rdn) : String := join "." (baseDn.map Prod.snd)

/-- The DN lies under the base, with the OU directly above it. -/
def LiesUnder (dn ou : String) (baseDn : List Rdn) : Prop :=
  ∃ above tail, parseDistinguishedName dn = .ok (above ++ ("ou", ou) :: tail) ∧
    tail.length = baseDn.length ∧ isSubtree tail baseDn = true

structure NamesAgree [External] (lib : CaseLib) (env : Env) (options : KeycloakRealmGenerationOptions)
    (info : LdapInfo) : Prop where
  domain : deriveDomainFromBaseDn env = dotted info.baseDn
  realm : deriveRealmFromBaseDn lib env = lib.toUppercase (dotted info.baseDn)
  bindDn : LiesUnder (generateKeycloakRealmJson lib env options).bindDn "people" info.baseDn
  usersDn : LiesUnder (generateKeycloakRealmJson lib env options).usersDn "people" info.baseDn
  groupsDn : LiesUnder (generateKeycloakRealmJson lib env options).groupsDn "groups" info.baseDn

/-! ## Separators -/

/-- Changing the letter case makes no separators. -/
structure LawfulCase [External] (lib : CaseLib) : Prop where
  lower : ∀ c ∈ [',', '='], ∀ s, hasChar c s = false → hasChar c (External.strLower s) = false
  upper : ∀ c ∈ [',', '='], ∀ s, hasChar c s = false → hasChar c (lib.strUpper s) = false

/-- A text that is neither an RDN nor a list of them. -/
abbrev Bare (s : String) : Prop := Ldap.PlainText s

theorem toUpper_eq_iff {c : Char} (hc : c.isAlpha = false) (x : Char) : x.toUpper = c ↔ x = c := by
  by_cases hx : x.isLower = true
  · have hx : x.isAlpha = true := by simp [Char.isAlpha, hx]
    constructor <;> rintro rfl
    · simp [hx] at hc
    · simp [hx] at hc
  · rw [Char.toUpper_eq_of_not_isLower (by simpa using hx)]

theorem hasChar_asciiUpper {c : Char} (hc : c.isAlpha = false) (s : String) :
    hasChar c (asciiUpper s) = hasChar c s := by
  simp [hasChar, asciiUpper, toUpper_eq_iff hc]

section

variable [External] {lib : CaseLib} (hlib : LawfulCase lib)

include hlib

theorem bare_toLowercase {s : String} (h : Bare s) : Bare (toLowercase s) := by
  unfold toLowercase
  split
  · exact ⟨(hasChar_asciiLower (by decide) s).trans h.noComma,
      (hasChar_asciiLower (by decide) s).trans h.noEquals⟩
  · exact ⟨hlib.lower _ (by simp) s h.noComma, hlib.lower _ (by simp) s h.noEquals⟩

theorem bare_toUppercase {s : String} (h : Bare s) : Bare (lib.toUppercase s) := by
  unfold CaseLib.toUppercase
  split
  · exact ⟨(hasChar_asciiUpper (by decide) s).trans h.noComma,
      (hasChar_asciiUpper (by decide) s).trans h.noEquals⟩
  · exact ⟨hlib.upper _ (by simp) s h.noComma, hlib.upper _ (by simp) s h.noEquals⟩

end

theorem bare_join {l : List String} (h : ∀ s ∈ l, Bare s) : Bare (join "." l) := by
  induction l with
  | nil => exact ⟨rfl, rfl⟩
  | cons s l ih =>
    have hs := h s List.mem_cons_self
    cases l with
    | nil => exact hs
    | cons t l =>
      have hrest := ih fun x hx => h x (List.mem_cons_of_mem s hx)
      rw [join_cons_cons]
      exact ⟨by simp [hs.noComma, hrest.noComma, show hasChar ',' "." = false by decide],
        by simp [hs.noEquals, hrest.noEquals, show hasChar '=' "." = false by decide]⟩

theorem eq_append_of_stripStart {p s v : String} (h : stripStart p s = some v) : s = p ++ v := by
  unfold stripStart at h
  split at h
  · rename_i hstart
    obtain ⟨t, ht⟩ := List.isPrefixOf_iff_prefix.mp hstart
    rw [← Option.some.inj h, ← String.toList_inj]
    simp [← ht]
  · cases h

section

variable {base : String} {ignoredUser ignoredGroup : List AttributeName} {info : LdapInfo}

theorem splitOn_equals_of_accepted (h : LdapInfo.new base ignoredUser ignoredGroup = .ok info)
    {part : String} (hpart : part ∈ splitOn ',' base) : (splitOn '=' part).length = 2 := by
  obtain ⟨baseDn, hparse, -⟩ := Lib.except_bind_ok.mp h
  unfold parseDistinguishedName at hparse
  rw [asciiLower_idem, splitOn_asciiLower (by decide)] at hparse
  obtain ⟨p, -, hp⟩ := Lib.except_mapM_mem hparse (asciiLower part) (List.mem_map_of_mem hpart)
  have hlength := congrArg List.length (Ldap.makeDnPair_ok.mp hp)
  simpa [splitOn_asciiLower (show ('=' : Char).isAlpha = false by decide)] using hlength

theorem bare_of_mem_dcParts (h : LdapInfo.new base ignoredUser ignoredGroup = .ok info)
    {v : String} (hv : v ∈ dcParts base) : Bare v := by
  obtain ⟨part, hpart, hstrip⟩ := List.mem_filterMap.mp hv
  have heq : part = "dc" ++ "=" ++ v := eq_append_of_stripStart hstrip
  have hcomma : hasChar ',' part = false := not_hasChar_of_mem_splitOn hpart
  have hlength := splitOn_equals_of_accepted h hpart
  rw [heq] at hcomma hlength
  rw [hasChar_append, Bool.or_eq_false_iff] at hcomma
  refine ⟨hcomma.2, ?_⟩
  rw [splitOn_append Ldap.isSep_equals,
    splitOn_of_not_hasChar (show hasChar '=' "dc" = false by decide)] at hlength
  obtain ⟨t, ht⟩ : ∃ t, splitOn '=' v = [t] := List.length_eq_one_iff.mp (Nat.succ.inj hlength)
  have hmem : t ∈ splitOn '=' v := ht ▸ List.mem_singleton_self t
  rw [eq_of_splitOn_eq_singleton Ldap.isSep_equals ht]
  exact not_hasChar_of_mem_splitOn hmem

end

/-! ## The generated DNs -/

theorem parse_bare {s : String} (h : Bare s) : ∀ r, parseDistinguishedName s ≠ .ok r := by
  intro r hr
  unfold parseDistinguishedName at hr
  rw [splitOn_asciiLower (by decide), splitOn_of_not_hasChar h.noComma] at hr
  obtain ⟨p, -, hp⟩ := Lib.except_mapM_mem hr (asciiLower s) List.mem_cons_self
  rw [splitOn_asciiLower (by decide), splitOn_of_not_hasChar h.noEquals] at hp
  cases hp

theorem parse_halves {s t : String} {r : List Rdn}
    (h : parseDistinguishedName (s ++ "," ++ t) = .ok r) :
    (∃ ps, parseDistinguishedName s = .ok ps) ∧ ∃ qs, parseDistinguishedName t = .ok qs := by
  rw [Ldap.parse_append] at h
  obtain ⟨ps, hps, h⟩ := Lib.except_bind_ok.mp h
  obtain ⟨qs, hqs, -⟩ := Lib.except_bind_ok.mp h
  exact ⟨⟨ps, hps⟩, qs, hqs⟩

theorem parse_dotsToDc {s : String} (h : Bare s) : ∀ r, parseDistinguishedName (dotsToDc s) ≠ .ok r := by
  intro r hr
  unfold dotsToDc at hr
  have hfirst {p : String} (hp : p ∈ splitOn '.' s) : Bare p :=
    ⟨hasChar_of_mem_splitOn h.noComma hp, hasChar_of_mem_splitOn h.noEquals hp⟩
  cases hsplit : splitOn '.' s with
  | nil => exact splitOn_ne_nil '.' s hsplit
  | cons p ps =>
    have hp : Bare p := hfirst (hsplit ▸ List.mem_cons_self)
    rw [hsplit] at hr
    cases ps with
    | nil => exact parse_bare hp r hr
    | cons q ps =>
      have hsep : p ++ ",dc=" ++ join ",dc=" (q :: ps) = p ++ "," ++ ("dc=" ++ join ",dc=" (q :: ps)) := by
        rw [← String.toList_inj]
        simp
      rw [join_cons_cons, hsep] at hr
      obtain ⟨⟨ps', hps'⟩, -⟩ := parse_halves hr
      exact parse_bare hp ps' hps'

section

variable [External] {lib : CaseLib} {env : Env} {base : String}
  {ignoredUser ignoredGroup : List AttributeName} {info : LdapInfo}

theorem deriveRealm_of_no_override (hrealm : ∀ s, env.kerbRealmName = some s → s = "") :
    deriveRealmFromBaseDn lib env =
      lib.toUppercase (lib.toUppercase (deriveDomainFromBaseDn env)) := by
  have hnone : (env.kerbRealmName.filter fun s => s ≠ "") = none := by
    rw [Option.filter_eq_none_iff]
    intro s hs
    simp [hrealm s hs]
  rw [deriveRealmFromBaseDn, hnone, Option.getD_none]

/-- For an accepted base in whatever spelling, none of the DNs of the generated realm is a DN, so
none of them lies under the base. -/
theorem realmDns_not_parsed (hlib : LawfulCase lib)
    (h : LdapInfo.new base ignoredUser ignoredGroup = .ok info)
    (hbase : env.ldapBaseDn = some base) (hrealm : ∀ s, env.kerbRealmName = some s → s = "")
    (options : KeycloakRealmGenerationOptions) :
    let json := generateKeycloakRealmJson lib env options
    (∀ dn ∈ [json.bindDn, json.usersDn, json.groupsDn], ∀ r, parseDistinguishedName dn ≠ .ok r) ∧
      ¬ NamesAgree lib env options info := by
  have hbare : Bare (toLowercase (deriveRealmFromBaseDn lib env)) := by
    rw [deriveRealm_of_no_override hrealm, deriveDomainFromBaseDn, hbase]
    refine bare_toLowercase hlib (bare_toUppercase hlib (bare_toUppercase hlib
      (bare_toLowercase hlib (bare_join fun v hv => ?_))))
    exact bare_of_mem_dcParts h hv
  have hfail (ou : String) (r : List Rdn) :
      parseDistinguishedName (ou ++ "," ++ dotsToDc (toLowercase (deriveRealmFromBaseDn lib env))) ≠
        .ok r := by
    intro hr
    obtain ⟨-, qs, hqs⟩ := parse_halves hr
    exact parse_dotsToDc hbare qs hqs
  have husers : ∀ r, parseDistinguishedName (generateKeycloakRealmJson lib env options).usersDn ≠
    .ok r := hfail "ou=people"
  refine ⟨fun dn hdn r => ?_, fun hagree => ?_⟩
  · simp only [List.mem_cons, List.not_mem_nil, or_false] at hdn
    rcases hdn with rfl | rfl | rfl
    · exact hfail "uid=keycloak,ou=people" r
    · exact husers r
    · exact hfail "ou=groups" r
  · obtain ⟨above, tail, hparse, -⟩ := hagree.usersDn
    exact husers _ hparse

/-! ## Bases that are spelled out -/

omit [External] in
theorem asciiLower_join (l : List String) : asciiLower (join "." l) = join "." (l.map asciiLower) := by
  induction l with
  | nil => rfl
  | cons s l ih =>
    cases l with
    | nil => rfl
    | cons t l =>
      rw [List.map_cons, List.map_cons, join_cons_cons, join_cons_cons, asciiLower_append,
        asciiLower_append, ih, List.map_cons]
      rfl

omit [External] in
theorem all_isAscii_join {l : List String} (h : ∀ s ∈ l, s.toList.all isAscii = true) :
    (join "." l).toList.all isAscii = true := by
  induction l with
  | nil => rfl
  | cons s l ih =>
    have hs := h s List.mem_cons_self
    cases l with
    | nil => exact hs
    | cons t l =>
      have hrest := ih fun x hx => h x (List.mem_cons_of_mem s hx)
      rw [join_cons_cons, String.toList_append, String.toList_append, List.all_append,
        List.all_append, hs, hrest]
      rfl

omit [External] in
theorem dcParts_renderRdns {vs : List String} (hne : vs ≠ []) (h : ∀ v ∈ vs, Bare v) :
    dcParts (Ldap.renderRdns (vs.map fun v => ("dc", v))) = vs := by
  have hsplit : splitOn ',' (Ldap.renderRdns (vs.map fun v => ("dc", v))) =
      vs.map fun v => "dc" ++ "=" ++ v := by
    rw [Ldap.renderRdns, splitOn_join Ldap.isSep_comma (by simpa using hne), List.map_map]
    · rfl
    · intro s hs
      rw [List.map_map] at hs
      obtain ⟨v, hv, rfl⟩ := List.mem_map.mp hs
      simp [(h v hv).noComma, show hasChar ',' "dc=" = false by decide]
  rw [dcParts, hsplit, List.filterMap_map]
  refine (List.filterMap_congr fun v _ => ?_).trans (List.filterMap_some (l := vs))
  simp [stripStart, startsWith, List.isPrefixOf]

theorem derivedNames_of_plain {vs : List String} (hne : vs ≠ [])
    (hvs : ∀ v ∈ vs, Bare v ∧ trim v = v ∧ v.toList.all isAscii = true)
    (h : LdapInfo.new (Ldap.renderRdns (vs.map fun v => ("dc", v))) ignoredUser ignoredGroup = .ok info)
    (hbase : env.ldapBaseDn = some (Ldap.renderRdns (vs.map fun v => ("dc", v))))
    (hrealm : ∀ s, env.kerbRealmName = some s → s = "") :
    deriveDomainFromBaseDn env = dotted info.baseDn ∧
      deriveRealmFromBaseDn lib env = lib.toUppercase (lib.toUppercase (dotted info.baseDn)) := by
  have hdomain : deriveDomainFromBaseDn env = join "." (vs.map asciiLower) := by
    rw [deriveDomainFromBaseDn, hbase, Option.getD_some,
      dcParts_renderRdns hne fun v hv => (hvs v hv).1, toLowercase,
      if_pos (all_isAscii_join fun v hv => (hvs v hv).2.2), asciiLower_join]
  have hdotted : dotted info.baseDn = join "." (vs.map asciiLower) := by
    obtain ⟨baseDn, hparse, hinfo⟩ := Lib.except_bind_ok.mp h
    have hplain : ∀ p ∈ vs.map fun v => ("dc", v), Ldap.Rdn.Plain p := by
      intro p hp
      obtain ⟨v, hv, rfl⟩ := List.mem_map.mp hp
      have hdc : Bare "dc" := ⟨by decide, by decide⟩
      exact ⟨hdc, (hvs v hv).1⟩
    have hrdns : vs.map (fun v => ("dc", v)) ≠ [] := by simpa using hne
    have hread := Ldap.parse_renderRdns hrdns hplain
    rw [parseDistinguishedName, ← asciiLower_idem] at hread
    rw [← Except.ok.inj hinfo, Except.ok.inj (hparse.symm.trans hread), dotted, List.map_map,
      List.map_map]
    refine congrArg (join ".") (List.map_congr_left fun v hv => ?_)
    change trim (asciiLower v) = asciiLower v
    rw [trim_asciiLower, (hvs v hv).2.1]
  rw [deriveRealm_of_no_override hrealm, hdomain, hdotted]
  exact ⟨rfl, rfl⟩

end

section

open Plain

def plainCase : CaseLib := ⟨id⟩

theorem plainCase_lawful : LawfulCase plainCase := ⟨fun _ _ _ h => h, fun _ _ _ h => h⟩

def envOf (base : String) : Env := ⟨some base, none⟩

def defaultOptions : KeycloakRealmGenerationOptions := ⟨"example.com", true, false, "", "", true, true⟩

theorem realmDns_not_parsed_example :
    LdapInfo.new "dc=example,dc=com" [] [] = .ok ldapInfo ∧
      ¬ NamesAgree plainCase (envOf "dc=example,dc=com") defaultOptions ldapInfo :=
  have haccepted : LdapInfo.new "dc=example,dc=com" [] [] = .ok ldapInfo := by decide +kernel
  ⟨haccepted, (realmDns_not_parsed plainCase_lawful haccepted rfl (fun _ h => by cases h)
    defaultOptions).2⟩

/-- The DN of the users lacks the first `dc=` and is refused. In another spelling of the base the
domain is lost as well. -/
theorem keycloak_users_dn :
    (generateKeycloakRealmJson plainCase (envOf "dc=example,dc=com") defaultOptions).usersDn =
        "ou=people,example,dc=com" ∧
      (parseDistinguishedName "ou=people,example,dc=com").isOk = false ∧
      LdapInfo.new "DC=Example, DC=Com" [] [] = .ok ldapInfo ∧
      dotted ldapInfo.baseDn = "example.com" ∧
      deriveDomainFromBaseDn (envOf "DC=Example, DC=Com") = "" := by
  decide +kernel

end

end Kerberos
end Klldap
