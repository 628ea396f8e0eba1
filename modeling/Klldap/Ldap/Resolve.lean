import Klldap.GraphQL.Mutation
import Klldap.Ldap.Rdn
import Klldap.Plain

/-!
# Klldap.Ldap.Resolve: whom a name stands for

The server renders the DN of a user or a group without escaping anything and reads DNs by splitting
them, counting the `ou` RDNs of the whole name.
-/

namespace Klldap
namespace Ldap

open Lib (except_bind_ok)
open Lib.Text

/-! ## Parsed names -/

/-- The organizational unit of a name is one where `cn` names a user. -/
def isUserOu (parts : List Rdn) : Bool :=
  let primaryOu := ((ouChain parts).getLast?.map fun p => asciiLower p.2).getD ""
  primaryOu = defaultPrimaryUserOu || primaryOu = ""

def resolveParts (parts baseTree : List Rdn) : UserOrGroupName :=
  if !isSubtree parts baseTree then .badSubStree
  else
    match parts with
    | [] => .unexpectedFormat
    | (rdnType, rdnValue) :: _ =>
      if parts.length = baseTree.length + (ouChain parts).length + 1 then
        if asciiLower rdnType = "uid" || (asciiLower rdnType = "cn" && isUserOu parts) then
          .user (UserId.new rdnValue)
        else if asciiLower rdnType = "cn" && !isUserOu parts then .group ⟨rdnValue⟩
        else .unexpectedFormat
      else .unexpectedFormat

theorem getUserOrGroupId_eq (dn : String) (baseTree : List Rdn) :
    getUserOrGroupIdFromDistinguishedName dn baseTree =
      match parseDistinguishedName dn with
      | .error e => .invalidSyntax e
      | .ok parts => resolveParts parts baseTree := by
  unfold getUserOrGroupIdFromDistinguishedName
  cases parseDistinguishedName dn with
  | error e => rfl
  | ok parts => rfl

theorem ouChain_append (ps qs : List Rdn) : ouChain (ps ++ qs) = ouChain ps ++ ouChain qs :=
  List.filter_append ..

theorem ouChain_ouChain (ps : List Rdn) : ouChain (ouChain ps) = ouChain ps := by
  simp [ouChain, List.filter_filter]

theorem isSubtree_append (ps qs : List Rdn) : isSubtree (ps ++ qs) qs = true := by
  have hself : ∀ l : List Rdn, ((l.zip l).all fun x =>
      eqIgnoreAsciiCase x.1.1 x.2.1 && eqIgnoreAsciiCase x.1.2 x.2.2) = true := by
    intro l
    induction l with
    | nil => rfl
    | cons p l ih => simpa [eqIgnoreAsciiCase] using ih
  unfold isSubtree
  split
  · rfl
  · rw [if_neg (by simp)]
    have hdrop : (ps ++ qs).drop ((ps ++ qs).length - qs.length) = qs := by simp
    rw [hdrop]
    exact hself qs

theorem resolveParts_append (rdn : Rdn) (ps qs : List Rdn) :
    resolveParts (rdn :: ps ++ qs) qs =
      if (rdn :: ps).length = (ouChain (rdn :: ps)).length + (ouChain qs).length + 1 then
        if asciiLower rdn.1 = "uid" || (asciiLower rdn.1 = "cn" && isUserOu (rdn :: ps ++ qs)) then
          .user (UserId.new rdn.2)
        else if asciiLower rdn.1 = "cn" && !isUserOu (rdn :: ps ++ qs) then .group ⟨rdn.2⟩
        else .unexpectedFormat
      else .unexpectedFormat := by
  have hcount : (rdn :: ps ++ qs).length = qs.length + (ouChain (rdn :: ps ++ qs)).length + 1 ↔
      (rdn :: ps).length = (ouChain (rdn :: ps)).length + (ouChain qs).length + 1 := by
    rw [ouChain_append, List.length_append, List.length_append]
    omega
  unfold resolveParts
  rw [isSubtree_append]
  simp only [List.cons_append, Bool.not_true, Bool.false_eq_true, ↓reduceIte] at hcount ⊢
  simp only [hcount]

theorem resolveParts_self (qs : List Rdn) : resolveParts qs qs = .unexpectedFormat := by
  have hsub : isSubtree qs qs = true := isSubtree_append [] qs
  unfold resolveParts
  rw [hsub]
  cases qs with
  | nil => rfl
  | cons q qs =>
    simp only [Bool.not_true, Bool.false_eq_true, ↓reduceIte]
    rw [if_neg (by omega)]

theorem cleanText_uid : CleanText "uid" := ⟨⟨by decide, by decide⟩, by decide, by decide⟩

theorem cleanText_cn : CleanText "cn" := ⟨⟨by decide, by decide⟩, by decide, by decide⟩

theorem cleanText_ou : CleanText "ou" := ⟨⟨by decide, by decide⟩, by decide, by decide⟩

/-! ## Users that stand for others -/

theorem head_of_parse {k s t rest : String} {ts : List String} {parts : List Rdn} (hk : CleanText k)
    (hs : splitOn ',' s = t :: ts)
    (h : parseDistinguishedName (k ++ "=" ++ s ++ "," ++ rest) = .ok parts) :
    ∃ tail, parts = (k, foldText t) :: tail := by
  have hkey : hasChar ',' (k ++ "=") = false := by
    simp [hk.noComma, show hasChar ',' "=" = false by decide]
  rw [parse_append] at h
  obtain ⟨ps, hps, h⟩ := except_bind_ok.mp h
  obtain ⟨qs, -, h⟩ := except_bind_ok.mp h
  rw [parseDistinguishedName, splitOn_asciiLower (by decide), splitOn_append_of_not_hasChar hkey hs,
    List.map_cons, List.mapM_cons] at hps
  obtain ⟨p, hp, hps⟩ := except_bind_ok.mp hps
  obtain ⟨ps', -, hps⟩ := except_bind_ok.mp hps
  cases hps
  cases h
  rw [makeDnPair_ok, splitOn_asciiLower (by decide), splitOn_append isSep_equals,
    splitOn_of_not_hasChar hk.noEquals, List.map_map, List.singleton_append, List.map_cons,
    List.cons.injEq] at hp
  obtain ⟨hpk, hpv⟩ := hp
  obtain ⟨t', ht', hv⟩ := List.map_eq_singleton_iff.mp hpv
  have htt : t = t' := eq_of_splitOn_eq_singleton isSep_equals ht'
  refine ⟨ps' ++ qs, ?_⟩
  have hpair : p = (k, foldText t) := by
    refine Prod.ext ?_ ?_
    · exact hpk.symm.trans hk.foldText_eq
    · rw [htt]
      exact hv.symm
  rw [hpair]
  rfl

theorem buildDn_eq (rdn ou baseDnStr : String) :
    ∃ rest, buildDn rdn ou baseDnStr = rdn ++ "," ++ rest := by
  unfold buildDn
  dsimp only
  split
  · exact ⟨_, rfl⟩
  · exact ⟨_, rfl⟩

theorem resolveParts_user {rdn : Rdn} {tail baseTree : List Rdn} {u : UserId}
    (h : resolveParts (rdn :: tail) baseTree = .user u) : u = UserId.new rdn.2 := by
  unfold resolveParts at h
  split at h
  · cases h
  · dsimp only at h
    split at h
    · split at h
      · cases h
        rfl
      · split at h <;> cases h
    · cases h

theorem asciiLower_asStr (u : UserId) : asciiLower u.asStr = u.asStr := u.name.lower

theorem UserId.eq_iff {u v : UserId} : u = v ↔ u.asStr = v.asStr := by
  constructor
  · rintro rfl
    rfl
  · intro h
    rw [← UserId.new_asStr u, h, UserId.new_asStr]

/-- The DN of a user that is read as the name of a user is read as the name of that user if and
only if its id has no comma in it and no white space around it. -/
theorem resolves_itself_iff {id u : UserId} {ou baseDnStr : String} {baseTree : List Rdn}
    (h : getUserOrGroupIdFromDistinguishedName (buildUserDn id ou baseDnStr) baseTree = .user u) :
    u = id ↔ hasChar ',' id.asStr = false ∧ trim id.asStr = id.asStr := by
  obtain ⟨rest, hdn⟩ := buildDn_eq ("uid=" ++ id.asStr) ou baseDnStr
  have hrdn : "uid=" ++ id.asStr = "uid" ++ "=" ++ id.asStr := by
    rw [show "uid=" = "uid" ++ "=" by decide]
  rw [getUserOrGroupId_eq, buildUserDn, hdn, hrdn] at h
  split at h
  · cases h
  · rename_i parts hparts
    cases hs : splitOn ',' id.asStr with
    | nil => exact absurd hs (splitOn_ne_nil ',' id.asStr)
    | cons t ts =>
      obtain ⟨tail, rfl⟩ := head_of_parse cleanText_uid hs hparts
      have hu : u.asStr = foldText t := by
        rw [resolveParts_user h, UserId.asStr_new, foldText, trim_asciiLower, asciiLower_idem]
      have hcomma : hasChar ',' t = false := not_hasChar_of_mem_splitOn (hs ▸ List.mem_cons_self)
      rw [UserId.eq_iff, hu]
      constructor
      · intro heq
        have hno : hasChar ',' id.asStr = false := by
          rw [← heq, foldText]
          exact hasChar_trim ((hasChar_asciiLower (by decide) t).trans hcomma)
        rw [splitOn_of_not_hasChar hno, List.cons.injEq] at hs
        rw [← hs.1, foldText, asciiLower_asStr] at heq
        exact ⟨hno, heq⟩
      · rintro ⟨hno, htrim⟩
        rw [splitOn_of_not_hasChar hno, List.cons.injEq] at hs
        rw [← hs.1, foldText, asciiLower_asStr, htrim]

section

open Plain

/-- A user whose id reads as the name of `bob` in another organizational unit. -/
def bobInDisguise : CreateUserRequest :=
  { userId := UserId.new "bob,ou=eve", email := ⟨"eve"⟩, displayName := none, attributes := [] }

theorem bob_resolves_itself :
    getUserOrGroupIdFromDistinguishedName
        (buildUserDn (UserId.new "bob") "people" ldapInfo.baseDnStr) ldapInfo.baseDn =
        .user (UserId.new "bob") ∧
      hasChar ',' (UserId.new "bob").asStr = false ∧
        trim (UserId.new "bob").asStr = (UserId.new "bob").asStr :=
  have h : getUserOrGroupIdFromDistinguishedName
      (buildUserDn (UserId.new "bob") "people" ldapInfo.baseDnStr) ldapInfo.baseDn =
      .user (UserId.new "bob") := by decide +kernel
  ⟨h, (resolves_itself_iff h).mp rfl⟩

def bobStore : Store :=
  { Store.empty with
    users := .single (userRow "bob")
    userAttributeSchema := ⟨[⟨.new "ou", .string, false, true, false, true, false, ""⟩], by decide⟩ }

/-- The id is accepted, and the DN of the new user stands for `bob`. -/
theorem disguise_resolves_to_bob :
    (Sql.createUser 0 bobInDisguise bobStore).1 = .ok () ∧
      getUserOrGroupIdFromDistinguishedName
        (buildUserDn bobInDisguise.userId "people" ldapInfo.baseDnStr) ldapInfo.baseDn =
          .user (UserId.new "bob") ∧
      bobInDisguise.userId ≠ UserId.new "bob" := by
  refine ⟨?_, ?_, ?_⟩ <;> decide +kernel

end

/-! ## Names that are read back -/

/-- Every level of an organizational unit follows the rules for new ones. -/
def IsRegularOu (ou : String) : Prop := ∀ seg ∈ splitOn '\\' ou, GraphQL.isValidOuName seg = true

def ouRdns (ou : String) : List Rdn := (splitOn '\\' ou).reverse.map fun seg => ("ou", seg)

theorem not_mem_of_isValidOuName {seg : String} (h : GraphQL.isValidOuName seg = true) {c : Char}
    (hc : (c.isAlphanum || c = '-' || c = '_') = false) : c ∉ seg.toList := by
  simp only [GraphQL.isValidOuName, Bool.and_eq_true] at h
  intro hmem
  have := List.all_eq_true.mp h.1.2 c hmem
  rw [hc] at this
  cases this

theorem isWhitespace_of_isValidOuName {seg : String} (h : GraphQL.isValidOuName seg = true) :
    ∀ x ∈ seg.toList, isWhitespace x = false := by
  intro x hx
  by_contra hw
  refine not_mem_of_isValidOuName h ?_ hx
  have halnum : x.isAlphanum = false := by
    by_contra hx
    exact hw (isWhitespace_of_isAlphanum (by simpa using hx))
  have hdash : x ≠ '-' := by
    rintro rfl
    exact hw (by decide)
  have hscore : x ≠ '_' := by
    rintro rfl
    exact hw (by decide)
  simp [halnum, hdash, hscore]

theorem plainText_of_isValidOuName {seg : String} (h : GraphQL.isValidOuName seg = true) :
    PlainText seg := by
  have hno : ∀ {c : Char}, (c.isAlphanum || c = '-' || c = '_') = false → hasChar c seg = false := by
    intro c hc
    simpa [hasChar] using not_mem_of_isValidOuName h hc
  exact ⟨hno (by decide), hno (by decide)⟩

theorem ne_empty_of_isValidOuName {seg : String} (h : GraphQL.isValidOuName seg = true) :
    seg ≠ "" := by
  rintro rfl
  revert h
  decide

theorem internalOuToLdapRdnChain_eq {ou : String} (h : IsRegularOu ou) :
    internalOuToLdapRdnChain ou = ouRdns ou := by
  have htrim : ∀ seg ∈ splitOn '\\' ou, trim seg = seg :=
    fun seg hseg => trim_eq_self (isWhitespace_of_isValidOuName (h seg hseg))
  have hne : trim ou ≠ "" := by
    intro hempty
    obtain ⟨seg, hseg⟩ := List.exists_mem_of_ne_nil _ (splitOn_ne_nil '\\' ou)
    have hchars : seg.toList ≠ [] := by simpa using ne_empty_of_isValidOuName (h seg hseg)
    obtain ⟨x, hx⟩ := List.exists_mem_of_ne_nil _ hchars
    have hwhite := trim_eq_empty.mp hempty x (toList_subset_of_mem_splitOn hseg hx)
    rw [isWhitespace_of_isValidOuName (h seg hseg) x hx] at hwhite
    cases hwhite
  rw [internalOuToLdapRdnChain, if_neg hne, ouRdns]
  congr 1
  rw [List.map_congr_left (g := id) fun seg hseg => htrim seg (List.mem_reverse.mp hseg), List.map_id,
    List.filter_eq_self]
  intro seg hseg
  simpa using ne_empty_of_isValidOuName (h seg (List.mem_reverse.mp hseg))

/-- A name or an id of the shape that the round trip is about. -/
structure RegularName (s : String) : Prop extends PlainText s where
  trimmed : trim s = s

theorem parse_buildDn {base : String} {ignoredUser ignoredGroup : List AttributeName}
    {info : LdapInfo} (hinfo : LdapInfo.new base ignoredUser ignoredGroup = .ok info) {ou : String}
    (hou : IsRegularOu ou) (rdn : Rdn) (hrdn : rdn.Plain) :
    parseDistinguishedName (buildDn (rdn.1 ++ "=" ++ rdn.2) ou info.baseDnStr) =
      .ok (rdn.fold :: ouRdns (asciiLower ou) ++ info.baseDn) := by
  have hchain := internalOuToLdapRdnChain_eq hou
  have hne : ouRdns ou ≠ [] := by simpa [ouRdns] using splitOn_ne_nil '\\' ou
  have hplain : ∀ p ∈ ouRdns ou, p.Plain := by
    intro p hp
    obtain ⟨seg, hseg, rfl⟩ := List.mem_map.mp hp
    exact ⟨cleanText_ou.toPlainText, plainText_of_isValidOuName (hou seg (List.mem_reverse.mp hseg))⟩
  have hfold : (ouRdns ou).map Rdn.fold = ouRdns (asciiLower ou) := by
    rw [ouRdns, ouRdns, splitOn_asciiLower (by decide), ← List.map_reverse, List.map_map,
      List.map_map]
    refine List.map_congr_left fun seg hseg => ?_
    have hwhite := isWhitespace_of_isValidOuName (hou seg (List.mem_reverse.mp hseg))
    refine Prod.ext cleanText_ou.foldText_eq ?_
    show trim (asciiLower seg) = asciiLower seg
    rw [trim_asciiLower, trim_eq_self hwhite]
  rw [buildDn, hchain]
  rw [if_neg (renderRdns_ne_empty hne), parse_append, parse_append, parse_pair hrdn,
    parse_renderRdns hne hplain, hfold, LdapInfo.parse_baseDnStr hinfo]
  simp only [bind, Except.bind, List.cons_append, List.nil_append]

theorem ouChain_ouRdns (ou : String) : ouChain (ouRdns ou) = ouRdns ou := by
  rw [ouChain, List.filter_eq_self]
  intro p hp
  obtain ⟨seg, -, rfl⟩ := List.mem_map.mp hp
  exact eqIgnoreAsciiCase_iff.mpr rfl

theorem ouChain_cons_of_ne {k : String} (h : eqIgnoreAsciiCase k "ou" = false) (v : String)
    (ps : List Rdn) : ouChain ((k, v) :: ps) = ouChain ps := by
  rw [ouChain, List.filter_cons_of_neg (by simp [h])]
  rfl

theorem internalOu_ouRdns (ou : String) : ldapRdnChainToInternalOu (ouRdns ou) = ou := by
  rw [ldapRdnChainToInternalOu, ouChain_ouRdns, ouRdns, List.map_map, ← List.map_reverse,
    List.reverse_reverse]
  exact (congrArg (join "\\") (List.map_id _)).trans (join_splitOn isSep_backslash ou)

section

variable {base : String} {ignoredUser ignoredGroup : List AttributeName} {info : LdapInfo}
  {ou : String}

theorem parse_buildUserDn (hinfo : LdapInfo.new base ignoredUser ignoredGroup = .ok info)
    (hou : IsRegularOu ou) {id : UserId} (hid : RegularName id.asStr) :
    parseDistinguishedName (buildUserDn id ou info.baseDnStr) =
      .ok (("uid", id.asStr) :: ouRdns (asciiLower ou) ++ info.baseDn) := by
  have hclean : CleanText id.asStr := ⟨hid.toPlainText, asciiLower_asStr id, hid.trimmed⟩
  have hparse := parse_buildDn hinfo hou ("uid", id.asStr)
    ⟨cleanText_uid.toPlainText, hid.toPlainText⟩
  have hfold : Rdn.fold ("uid", id.asStr) = ("uid", id.asStr) :=
    Rdn.Clean.fold_eq ⟨cleanText_uid, hclean⟩
  have hrdn : "uid=" ++ id.asStr = "uid" ++ "=" ++ id.asStr := by
    rw [show "uid=" = "uid" ++ "=" by decide]
  rw [buildUserDn, hrdn, hparse, hfold]

theorem parse_buildGroupDn (hinfo : LdapInfo.new base ignoredUser ignoredGroup = .ok info)
    (hou : IsRegularOu ou) {name : GroupName} (hname : RegularName name.raw) :
    parseDistinguishedName (buildGroupDn name ou info.baseDnStr) =
      .ok (("cn", asciiLower name.raw) :: ouRdns (asciiLower ou) ++ info.baseDn) := by
  have hparse := parse_buildDn hinfo hou ("cn", name.raw)
    ⟨cleanText_cn.toPlainText, hname.toPlainText⟩
  have hfold : Rdn.fold ("cn", name.raw) = ("cn", asciiLower name.raw) := by
    refine Prod.ext cleanText_cn.foldText_eq ?_
    show trim (asciiLower name.raw) = asciiLower name.raw
    rw [trim_asciiLower, hname.trimmed]
  have hrdn : "cn=" ++ name.raw = "cn" ++ "=" ++ name.raw := by
    rw [show "cn=" = "cn" ++ "=" by decide]
  rw [buildGroupDn, hrdn, hparse, hfold]

theorem resolveParts_ouRdns (hbase : ouChain info.baseDn = []) {k : String}
    (hk : eqIgnoreAsciiCase k "ou" = false) (v ou : String) :
    resolveParts ((k, v) :: ouRdns ou ++ info.baseDn) info.baseDn =
      if asciiLower k = "uid" ||
          (asciiLower k = "cn" && isUserOu ((k, v) :: ouRdns ou ++ info.baseDn)) then
        .user (UserId.new v)
      else if asciiLower k = "cn" && !isUserOu ((k, v) :: ouRdns ou ++ info.baseDn) then .group ⟨v⟩
      else .unexpectedFormat := by
  rw [resolveParts_append, ouChain_cons_of_ne hk, ouChain_ouRdns, hbase]
  exact if_pos rfl

theorem internalOu_of_parts (hbase : ouChain info.baseDn = []) {k : String}
    (hk : eqIgnoreAsciiCase k "ou" = false) (v ou : String) :
    getInternalOuFromDnParts ((k, v) :: ouRdns ou ++ info.baseDn) = ou := by
  rw [getInternalOuFromDnParts, ouChain_append, ouChain_cons_of_ne hk, ouChain_ouRdns, hbase,
    List.append_nil, internalOu_ouRdns]

def topOu (ou : String) : String := (splitOn '\\' ou).head?.getD ""

theorem isUserOu_ouRdns (hbase : ouChain info.baseDn = []) {k : String}
    (hk : eqIgnoreAsciiCase k "ou" = false) (v ou : String) :
    isUserOu ((k, v) :: ouRdns ou ++ info.baseDn) =
      (decide (asciiLower (topOu ou) = defaultPrimaryUserOu) ||
        decide (asciiLower (topOu ou) = "")) := by
  have hlast : (ouRdns ou).getLast?.map Prod.snd = (splitOn '\\' ou).head? := by
    rw [ouRdns, List.map_reverse, List.getLast?_reverse, List.head?_map, Option.map_map]
    cases (splitOn '\\' ou).head? <;> rfl
  have hprimary : ((ouRdns ou).getLast?.map fun p => asciiLower p.2).getD "" =
      asciiLower (topOu ou) := by
    rw [topOu, ← hlast]
    cases (ouRdns ou).getLast? <;> rfl
  rw [isUserOu, ouChain_append, ouChain_cons_of_ne hk, ouChain_ouRdns, hbase, List.append_nil,
    hprimary]

theorem topOu_asciiLower (ou : String) : topOu (asciiLower ou) = asciiLower (topOu ou) := by
  rw [topOu, topOu, splitOn_asciiLower (by decide), List.head?_map]
  cases (splitOn '\\' ou).head? <;> rfl

theorem topOu_ne_empty {ou : String} (hou : IsRegularOu ou) : asciiLower (topOu ou) ≠ "" := by
  cases hs : splitOn '\\' ou with
  | nil => exact absurd hs (splitOn_ne_nil '\\' ou)
  | cons seg segs =>
    have hseg := ne_empty_of_isValidOuName (hou seg (hs ▸ List.mem_cons_self))
    rw [topOu, hs]
    intro hempty
    refine hseg ?_
    rw [← String.toList_inj] at hempty ⊢
    simpa using hempty

section

variable [External]

omit [External] in
theorem compareChars_self (cs : List Char) : compareChars cs cs = .eq := by
  induction cs with
  | nil => rfl
  | cons c cs ih => simp [compareChars, ih]

theorem charToLowercase_toLower (c : Char) : charToLowercase c.toLower = charToLowercase c := by
  by_cases hc : c.isUpper = true
  · have hascii : ∀ {x : Char}, x.isAlpha = true → isAscii x = true := by
      intro x hx
      have hx : (65 ≤ x.toNat ∧ x.toNat ≤ 90) ∨ (97 ≤ x.toNat ∧ x.toNat ≤ 122) := by
        simpa [Char.isAlpha, Char.isUpper, Char.isLower, UInt32.le_iff_toNat_le] using hx
      simp only [isAscii, decide_eq_true_eq]
      omega
    have halpha : c.isAlpha = true := isAlpha_of_isUpper hc
    rw [charToLowercase, charToLowercase, if_pos (hascii halpha), if_pos (hascii (by simpa using halpha)),
      Char.toLower_toLower_eq_toLower]
  · rw [Char.toLower_eq_of_not_isUpper (by simpa using hc)]

theorem asciiLower_beq (name : GroupName) : ((⟨asciiLower name.raw⟩ : GroupName) == name) = true := by
  have hflat : (asciiLower name.raw).toList.flatMap charToLowercase =
      name.raw.toList.flatMap charToLowercase := by
    simp [List.flatMap_map, charToLowercase_toLower]
  show decide (compareStrCaseInsensitive (asciiLower name.raw) name.raw = .eq) = true
  rw [compareStrCaseInsensitive, hflat, compareChars_self]
  rfl

/-- The rendered DN of a user or a group is read as the name of that user or group, and its `ou`
RDNs give back the organizational unit. A group is a user to the server where the outermost level
is `people`, in any letter case. -/
theorem rendered_dn_resolves (hinfo : LdapInfo.new base ignoredUser ignoredGroup = .ok info)
    (hbase : ouChain info.baseDn = []) (hou : IsRegularOu ou) :
    (∀ id : UserId, RegularName id.asStr →
      getUserOrGroupIdFromDistinguishedName (buildUserDn id ou info.baseDnStr) info.baseDn =
          .user id ∧
        ∃ parts, parseDistinguishedName (buildUserDn id ou info.baseDnStr) = .ok parts ∧
          eqIgnoreAsciiCase (getInternalOuFromDnParts parts) ou = true) ∧
    ∀ name : GroupName, RegularName name.raw → eqIgnoreAsciiCase (topOu ou) "people" = false →
      ∃ name', getUserOrGroupIdFromDistinguishedName (buildGroupDn name ou info.baseDnStr)
        info.baseDn = .group name' ∧ (name' == name) = true := by
  have huid : eqIgnoreAsciiCase "uid" "ou" = false := by decide
  have hcn : eqIgnoreAsciiCase "cn" "ou" = false := by decide
  refine ⟨fun id hid => ?_, fun name hname htop => ?_⟩
  · have hparse := parse_buildUserDn hinfo hou hid
    refine ⟨?_, _, hparse, ?_⟩
    · rw [getUserOrGroupId_eq, hparse]
      dsimp only
      rw [resolveParts_ouRdns hbase huid, if_pos (by simp [cleanText_uid.lower]), UserId.new_asStr]
    · rw [internalOu_of_parts hbase huid, eqIgnoreAsciiCase_iff, asciiLower_idem]
  · have hparse := parse_buildGroupDn hinfo hou hname
    have huser : isUserOu (("cn", asciiLower name.raw) :: ouRdns (asciiLower ou) ++ info.baseDn) =
        false := by
      have hpeople : asciiLower (topOu ou) ≠ defaultPrimaryUserOu := by
        intro heq
        have hcase : eqIgnoreAsciiCase (topOu ou) "people" = true := by
          rw [eqIgnoreAsciiCase_iff, heq]
          decide
        rw [hcase] at htop
        cases htop
      rw [isUserOu_ouRdns hbase hcn, topOu_asciiLower, asciiLower_idem]
      simp [hpeople, topOu_ne_empty hou]
    refine ⟨⟨asciiLower name.raw⟩, ?_, asciiLower_beq name⟩
    rw [getUserOrGroupId_eq, hparse]
    dsimp only
    rw [resolveParts_ouRdns hbase hcn]
    rw [List.cons_append] at huser ⊢
    simp [huser, cleanText_cn.lower]

end

end

section

open Plain

/-- Names in an organizational unit of two levels, spelled with capitals, under a base that is
spelled with capitals and spaces. -/
theorem rendered_dn_of_bob :
    ∃ info, LdapInfo.new "DC=Example, dc=com" [] [] = .ok info ∧ ouChain info.baseDn = [] ∧
      IsRegularOu "Office\\Floor-1" ∧
      getUserOrGroupIdFromDistinguishedName
        (buildUserDn (UserId.new "bob") "Office\\Floor-1" info.baseDnStr) info.baseDn =
          .user (UserId.new "bob") ∧
      ∃ name', getUserOrGroupIdFromDistinguishedName
        (buildGroupDn ⟨"Staff"⟩ "Office\\Floor-1" info.baseDnStr) info.baseDn = .group name' ∧
          (name' == ⟨"Staff"⟩) = true := by
  have hinfo : LdapInfo.new "DC=Example, dc=com" [] [] = .ok ldapInfo := by decide +kernel
  have hbase : ouChain ldapInfo.baseDn = [] := by decide
  have hou : IsRegularOu "Office\\Floor-1" := by unfold IsRegularOu; decide +kernel
  have hbob : RegularName (UserId.new "bob").asStr := ⟨⟨by decide, by decide⟩, by decide⟩
  have hstaff : RegularName "Staff" := ⟨⟨by decide, by decide⟩, by decide⟩
  obtain ⟨huser, hgroup⟩ := rendered_dn_resolves hinfo hbase hou
  exact ⟨ldapInfo, hinfo, hbase, hou, (huser _ hbob).1, hgroup ⟨"Staff"⟩ hstaff (by decide +kernel)⟩

end

/-! ## Names relative to the base -/

/-- What the server reads off a DN: whom it stands for, and which organizational unit. -/
structure DnReading where
  name : UserOrGroupName
  isContainer : Bool
  internalOu : String
deriving DecidableEq

def readDn (info : LdapInfo) (allowedOus : List String) (dn : String) : LdapResult DnReading := do
  let parts ← parseDistinguishedName dn
  .ok ⟨getUserOrGroupIdFromDistinguishedName dn info.baseDn,
    isContainerDn parts info.baseDn allowedOus, getInternalOuFromDnParts parts⟩

/-- The `ou` RDNs of two bases make no difference to the names under them. -/
structure SameOus (base base' : List Rdn) : Prop where
  count : (ouChain base).length = (ouChain base').length
  internalOu : getInternalOuFromDnParts base = getInternalOuFromDnParts base'
  userOu : isUserOu base = isUserOu base'

theorem SameOus.eq_nil_iff {base base' : List Rdn} (h : SameOus base base') :
    ouChain base = [] ↔ ouChain base' = [] := by
  rw [← List.length_eq_zero_iff, ← List.length_eq_zero_iff, h.count]

theorem isUserOu_append (ps qs : List Rdn) :
    isUserOu (ps ++ qs) = if ouChain qs = [] then isUserOu ps else isUserOu qs := by
  unfold isUserOu
  rw [ouChain_append, List.getLast?_append]
  split
  · rename_i hqs
    rw [hqs]
    rfl
  · rename_i hqs
    rw [List.getLast?_eq_some_getLast hqs]
    rfl

theorem getInternalOuFromDnParts_append (ps qs : List Rdn) :
    getInternalOuFromDnParts (ps ++ qs) =
      if ouChain qs = [] then getInternalOuFromDnParts ps
      else if ouChain ps = [] then getInternalOuFromDnParts qs
      else getInternalOuFromDnParts qs ++ "\\" ++ getInternalOuFromDnParts ps := by
  simp only [getInternalOuFromDnParts, ldapRdnChainToInternalOu, ouChain_ouChain, ouChain_append,
    List.map_append, List.reverse_append]
  split
  · rename_i hqs
    rw [hqs]
    rfl
  · rename_i hqs
    split
    · rename_i hps
      rw [hps]
      simp
    · rename_i hps
      rw [join_append _ (by simpa using hqs) (by simpa using hps)]

def readUnder (base : List Rdn) (allowedOus : List String) (ps : List Rdn) : DnReading :=
  ⟨resolveParts (ps ++ base) base, isContainerDn (ps ++ base) base allowedOus,
    getInternalOuFromDnParts (ps ++ base)⟩

theorem readUnder_congr {base base' : List Rdn} (h : SameOus base base') (allowedOus : List String)
    (ps : List Rdn) : readUnder base allowedOus ps = readUnder base' allowedOus ps := by
  have huser : isUserOu (ps ++ base) = isUserOu (ps ++ base') := by
    rw [isUserOu_append, isUserOu_append, h.userOu]
    simp only [h.eq_nil_iff]
  have hou : getInternalOuFromDnParts (ps ++ base) = getInternalOuFromDnParts (ps ++ base') := by
    rw [getInternalOuFromDnParts_append, getInternalOuFromDnParts_append, h.internalOu]
    simp only [h.eq_nil_iff]
  have hcount : ∀ n, n + base.length = base.length + (ouChain (ps ++ base)).length ↔
      n + base'.length = base'.length + (ouChain (ps ++ base')).length := by
    intro n
    rw [ouChain_append, ouChain_append, List.length_append, List.length_append, h.count]
    omega
  have hname : resolveParts (ps ++ base) base = resolveParts (ps ++ base') base' := by
    cases ps with
    | nil => rw [List.nil_append, List.nil_append, resolveParts_self, resolveParts_self]
    | cons p ps => rw [resolveParts_append, resolveParts_append, huser, h.count]
  have hcontainer : isContainerDn (ps ++ base) base allowedOus =
      isContainerDn (ps ++ base') base' allowedOus := by
    have hou' : ldapRdnChainToInternalOu (ouChain (ps ++ base)) =
        ldapRdnChainToInternalOu (ouChain (ps ++ base')) := hou
    unfold isContainerDn
    simp only [hou', List.length_append, hcount]
  rw [readUnder, readUnder, hname, hcontainer, hou]

section

variable {base base' : String} {ignoredUser ignoredGroup ignoredUser' ignoredGroup' :
  List AttributeName} {info info' : LdapInfo}

theorem readDn_of_parse (hinfo : LdapInfo.new base ignoredUser ignoredGroup = .ok info)
    (allowedOus : List String) {pre : List Rdn} (hpre : pre ≠ []) :
    readDn info allowedOus (renderRdns (pre ++ info.baseDn)) =
      (parseDistinguishedName (renderRdns pre)).map (readUnder info.baseDn allowedOus) := by
  have hparse := LdapInfo.parse_baseDnStr hinfo
  rw [LdapInfo.baseDnStr_of_new hinfo] at hparse
  rw [readDn, getUserOrGroupId_eq, renderRdns_append hpre (LdapInfo.clean_of_new hinfo).1,
    parse_append, hparse]
  cases parseDistinguishedName (renderRdns pre) with
  | error e => rfl
  | ok ps => rfl

theorem readDn_base (hinfo : LdapInfo.new base ignoredUser ignoredGroup = .ok info)
    (allowedOus : List String) :
    readDn info allowedOus (renderRdns info.baseDn) =
      .ok (readUnder info.baseDn allowedOus []) := by
  have hparse := LdapInfo.parse_baseDnStr hinfo
  rw [LdapInfo.baseDnStr_of_new hinfo] at hparse
  rw [readDn, getUserOrGroupId_eq, hparse]
  rfl

/-- An RDN with as many others behind it as are needed to make up for the `ou` RDNs of a base. -/
def padded (key : String) (n : Nat) : List Rdn := (key, "x") :: List.replicate n ("x", "x")

theorem readDn_padded (hinfo : LdapInfo.new base ignoredUser ignoredGroup = .ok info) {key : String}
    (hkey : CleanText key) (n : Nat) :
    readDn info [] (renderRdns (padded key n ++ info.baseDn)) =
      .ok (readUnder info.baseDn [] (padded key n)) := by
  have hx : CleanText "x" := ⟨⟨by decide, by decide⟩, by decide, by decide⟩
  have hclean : ∀ p ∈ padded key n, p.Clean := by
    intro p hp
    rcases List.mem_cons.mp hp with rfl | hp
    · exact ⟨hkey, hx⟩
    · rw [List.eq_of_mem_replicate hp]
      exact ⟨hx, hx⟩
  have hne : padded key n ≠ [] := by simp [padded]
  rw [readDn_of_parse hinfo [] hne, parse_renderRdns hne fun p hp => (hclean p hp).plain,
    Rdn.map_fold_of_clean hclean]
  rfl

theorem ouChain_padded {key : String} (hkey : eqIgnoreAsciiCase key "ou" = false) (n : Nat) :
    ouChain (padded key n) = [] := by
  have hx : eqIgnoreAsciiCase "x" "ou" = false := by decide
  rw [padded, ouChain_cons_of_ne hkey, ouChain, List.filter_eq_nil_iff]
  intro p hp
  rw [List.eq_of_mem_replicate hp]
  simp [hx]

theorem isUserOu_padded {key : String} (hkey : eqIgnoreAsciiCase key "ou" = false) (n : Nat)
    (qs : List Rdn) : isUserOu (padded key n ++ qs) = isUserOu qs := by
  rw [isUserOu_append]
  split
  · rename_i hqs
    rw [isUserOu, isUserOu, hqs, ouChain_padded hkey]
  · rfl

theorem resolveParts_padded {key : String} (hkey : eqIgnoreAsciiCase key "ou" = false) (n : Nat)
    (qs : List Rdn) :
    resolveParts (padded key n ++ qs) qs =
      if n = (ouChain qs).length then
        if asciiLower key = "uid" || (asciiLower key = "cn" && isUserOu (padded key n ++ qs)) then
          .user (UserId.new "x")
        else if asciiLower key = "cn" && !isUserOu (padded key n ++ qs) then .group ⟨"x"⟩
        else .unexpectedFormat
      else .unexpectedFormat := by
  have hcount : (padded key n).length = (ouChain (padded key n)).length + (ouChain qs).length + 1 ↔
      n = (ouChain qs).length := by
    rw [ouChain_padded hkey]
    simp only [padded, List.length_cons, List.length_replicate, List.length_nil]
    omega
  rw [padded] at hcount ⊢
  rw [resolveParts_append]
  simp only [hcount]

/-- Names are read relative to the base, whatever stands in front of it, if and only if the `ou` RDNs
of the two bases make no difference. -/
theorem relocates_iff (hinfo : LdapInfo.new base ignoredUser ignoredGroup = .ok info)
    (hinfo' : LdapInfo.new base' ignoredUser' ignoredGroup' = .ok info') :
    (∀ allowedOus pre, readDn info allowedOus (renderRdns (pre ++ info.baseDn)) =
        readDn info' allowedOus (renderRdns (pre ++ info'.baseDn))) ↔
      SameOus info.baseDn info'.baseDn := by
  constructor
  · intro h
    have huid : eqIgnoreAsciiCase "uid" "ou" = false := by decide
    have hcn : eqIgnoreAsciiCase "cn" "ou" = false := by decide
    have hbase := h [] []
    rw [List.nil_append, List.nil_append, readDn_base hinfo, readDn_base hinfo'] at hbase
    have hcount : (ouChain info.baseDn).length = (ouChain info'.baseDn).length := by
      have hname := h [] (padded "uid" (ouChain info.baseDn).length)
      rw [readDn_padded hinfo cleanText_uid, readDn_padded hinfo' cleanText_uid] at hname
      have hname := congrArg DnReading.name (Except.ok.inj hname)
      simp only [readUnder] at hname
      rw [resolveParts_padded huid, resolveParts_padded huid, if_pos rfl] at hname
      by_contra hne
      rw [if_neg hne, if_pos (by simp [cleanText_uid.lower])] at hname
      simp at hname
    refine ⟨hcount, congrArg DnReading.internalOu (Except.ok.inj hbase), ?_⟩
    have hname := h [] (padded "cn" (ouChain info.baseDn).length)
    rw [readDn_padded hinfo cleanText_cn, readDn_padded hinfo' cleanText_cn] at hname
    have hname := congrArg DnReading.name (Except.ok.inj hname)
    simp only [readUnder] at hname
    rw [resolveParts_padded hcn, resolveParts_padded hcn, if_pos rfl, if_pos hcount,
      isUserOu_padded hcn, isUserOu_padded hcn, cleanText_cn.lower] at hname
    cases hb : isUserOu info.baseDn <;> cases hb' : isUserOu info'.baseDn <;> simp [hb, hb'] at hname ⊢
  · intro h allowedOus pre
    by_cases hpre : pre = []
    · subst hpre
      rw [List.nil_append, List.nil_append, readDn_base hinfo, readDn_base hinfo',
        readUnder_congr h]
    · have hread : readUnder info.baseDn allowedOus = readUnder info'.baseDn allowedOus :=
        funext (readUnder_congr h allowedOus)
      rw [readDn_of_parse hinfo _ hpre, readDn_of_parse hinfo' _ hpre, hread]

end

/-- Bases without `ou` RDNs. -/
theorem plain_bases_relocate :
    ∃ info info', LdapInfo.new "dc=example,dc=com" [] [] = .ok info ∧
      LdapInfo.new "o=example" [] [] = .ok info' ∧
      ((∀ allowedOus pre, readDn info allowedOus (renderRdns (pre ++ info.baseDn)) =
          readDn info' allowedOus (renderRdns (pre ++ info'.baseDn))) ↔
        SameOus info.baseDn info'.baseDn) ∧
      SameOus info.baseDn info'.baseDn := by
  have hinfo : LdapInfo.new "dc=example,dc=com" [] [] = .ok Plain.ldapInfo := by decide +kernel
  have hinfo' : LdapInfo.new "o=example" [] [] = .ok ⟨[("o", "example")], "o=example", [], []⟩ := by
    decide +kernel
  exact ⟨_, _, hinfo, hinfo', relocates_iff hinfo hinfo', by decide, by decide, by decide⟩

/-- Under a base with an `ou` RDN the usual name of a user stands for nobody. -/
theorem ou_base_hides_users :
    ∃ info info', LdapInfo.new "dc=example,dc=com" [] [] = .ok info ∧
      LdapInfo.new "ou=unit,dc=com" [] [] = .ok info' ∧
      (readDn info [] (renderRdns ([("uid", "bob"), ("ou", "people")] ++ info.baseDn))).map
        DnReading.name = .ok (.user (UserId.new "bob")) ∧
      (readDn info' [] (renderRdns ([("uid", "bob"), ("ou", "people")] ++ info'.baseDn))).map
        DnReading.name = .ok .unexpectedFormat := by
  refine ⟨Plain.ldapInfo, ⟨[("ou", "unit"), ("dc", "com")], "ou=unit,dc=com", [], []⟩, ?_, ?_, ?_, ?_⟩
  all_goals decide +kernel

end Ldap
end Klldap
