import Klldap.Ldap.Entries
import Klldap.Ldap.Rdn
import Klldap.Ldap.Restricted

/-!
# Klldap.Ldap.Membership: `memberOf` against `member`

A search shows the groups of a user as the values of `memberOf`, and the members of a group as those
of `member` and `uniqueMember`. Both are DNs that are rendered again, from what each listing has read
of the other entry: the groups of a user come without their attributes, so that their OU is always
taken to be the default one, and the OU of a member is read from its row.
-/

namespace Klldap
namespace Ldap

open Lib (Bytes Eff except_bind_ok except_mapError_ok)
open Lib.Bincode (utf8 utf8_injective)
open Lib.Text
open Opaque (Suite)

/-! ## Rendered DNs -/

def ouPart (internalOu : String) : String := renderRdns (internalOuToLdapRdnChain internalOu)

def dnTail (internalOu baseDnStr : String) : String :=
  if ouPart internalOu = "" then baseDnStr else ouPart internalOu ++ "," ++ baseDnStr

theorem buildDn_eq_dnTail (rdn internalOu baseDnStr : String) :
    buildDn rdn internalOu baseDnStr = rdn ++ "," ++ dnTail internalOu baseDnStr := by
  unfold buildDn dnTail ouPart
  dsimp only
  split <;> rfl

theorem dnTail_inj {ou ou' baseDnStr : String} :
    dnTail ou baseDnStr = dnTail ou' baseDnStr ↔ ouPart ou = ouPart ou' := by
  constructor
  · intro h
    have hlen := congrArg (fun s : String => s.toList.length) h
    unfold dnTail at h hlen
    split at h <;> split at h
    · rename_i h₁ h₂
      rw [h₁, h₂]
    · rename_i h₁ h₂
      simp only [h₁, h₂, if_true, if_false, String.toList_append, List.length_append] at hlen
      simp at hlen
    · rename_i h₁ h₂
      simp only [h₁, h₂, if_true, if_false, String.toList_append, List.length_append] at hlen
      simp at hlen
    · rw [← String.toList_inj] at h
      simp only [String.toList_append] at h
      exact String.toList_inj.mp (List.append_cancel_right (List.append_cancel_right h))
  · intro h
    unfold dnTail
    rw [h]

theorem buildDn_inj {rdn rdn' ou ou' baseDnStr : String} (h : hasChar ',' rdn = false)
    (h' : hasChar ',' rdn' = false) :
    buildDn rdn ou baseDnStr = buildDn rdn' ou' baseDnStr ↔
      rdn = rdn' ∧ ouPart ou = ouPart ou' := by
  rw [buildDn_eq_dnTail, buildDn_eq_dnTail, append_sep_inj isSep_comma h h', dnTail_inj]

theorem buildUserDn_inj {u u' : UserId} {ou ou' baseDnStr : String}
    (h : hasChar ',' u.asStr = false) (h' : hasChar ',' u'.asStr = false) :
    buildUserDn u ou baseDnStr = buildUserDn u' ou' baseDnStr ↔
      u = u' ∧ ouPart ou = ouPart ou' := by
  unfold buildUserDn
  rw [buildDn_inj (not_hasChar_append (by decide) h) (not_hasChar_append (by decide) h')]
  have hid : u.asStr = u'.asStr ↔ u = u' :=
    ⟨fun h => by rw [← UserId.new_asStr u, h, UserId.new_asStr], fun h => h ▸ rfl⟩
  rw [← hid]
  simp [← String.toList_inj]

theorem buildGroupDn_inj {g g' : GroupName} {ou ou' baseDnStr : String}
    (h : hasChar ',' g.raw = false) (h' : hasChar ',' g'.raw = false) :
    buildGroupDn g ou baseDnStr = buildGroupDn g' ou' baseDnStr ↔
      g.raw = g'.raw ∧ ouPart ou = ouPart ou' := by
  unfold buildGroupDn
  rw [buildDn_inj (not_hasChar_append (by decide) h) (not_hasChar_append (by decide) h')]
  simp [← String.toList_inj]

/-! ## The names that are asked for -/

/-- The client asks for the name, in some letter case. -/
def Asks (attrs : List String) (name : String) : Prop := ∃ a ∈ attrs, asciiLower a = name

section

open SchemaManager

theorem resolveAttribute_memberships :
    getSchemaManager.resolveAttribute "memberof" = some (.memberOf, "memberOf") ∧
      getSchemaManager.resolveAttribute "member" = none ∧
      getSchemaManager.resolveAttribute "uniquemember" = none := by
  obtain ⟨-, -, hmemberOf, -, -, -, hnone⟩ := getSchemaManager_registered
  exact ⟨hmemberOf, hnone "member" (by simp), hnone "uniquemember" (by simp)⟩

/-- The client asks for the name, in some letter case, and it is shown under a spelling of its
own. -/
structure Requested (attrs : List String) (name : String) : Prop where
  asks : Asks attrs name
  special : isWildcard name = false
  injected : AttributeName.new name ∉ injectedNames
  canonical : AttributeName.new (getSchemaManager.getCanonicalName name) = .new name
  operational : getSchemaManager.isOperational (AttributeName.new name).asStr = false

theorem Asks.memberOf {attrs : List String} (h : Asks attrs "memberof") :
    Requested attrs "memberof" where
  asks := h
  special := by decide
  injected := by decide
  canonical := by
    rw [getCanonicalName, resolveAttribute_memberships.1]
    decide
  operational := by
    rw [AttributeName.asStr_new, isOperational, resolveAttribute_asciiLower,
      resolveAttribute_memberships.1]
    decide

theorem Asks.member {attrs : List String} {name : String} (h : Asks attrs name)
    (hname : name = "member" ∨ name = "uniquemember") : Requested attrs name where
  asks := h
  special := by rcases hname with rfl | rfl <;> decide
  injected := by rcases hname with rfl | rfl <;> decide
  canonical := by
    have hnone : getSchemaManager.resolveAttribute name = none := by
      rcases hname with rfl | rfl
      · exact resolveAttribute_memberships.2.1
      · exact resolveAttribute_memberships.2.2
    rw [getCanonicalName, hnone]
    rfl
  operational := by
    have hnone : getSchemaManager.resolveAttribute name = none := by
      rcases hname with rfl | rfl
      · exact resolveAttribute_memberships.2.1
      · exact resolveAttribute_memberships.2.2
    rw [AttributeName.asStr_new, isOperational, resolveAttribute_asciiLower, hnone]
    rfl

theorem Requested.exists_key {attrs : List String} {name : String} {schema : Schema}
    (h : Requested attrs name) :
    ∃ k ∈ (getSchemaManager.expandAttributeWildcards attrs schema).attributeKeys,
      k.1 = .new name := by
  obtain ⟨a, ha, hlower⟩ := h.asks
  have hcanonical : AttributeName.new (getSchemaManager.getCanonicalName a) = .new name := by
    have hname := h.canonical
    rw [← hlower, getCanonicalName, resolveAttribute_asciiLower] at hname
    rw [← hlower, getCanonicalName]
    cases hr : getSchemaManager.resolveAttribute a with
    | none => simp [AttributeName.new, CaseInsensitiveString.new]
    | some e => simpa only [hr, Option.map_some, Option.getD_some] using hname
  refine exists_key_foldl (.inr ⟨getSchemaManager.getCanonicalName a, ?_, hcanonical⟩)
  refine List.mem_append_left _ (List.mem_append_left _ (List.mem_map_of_mem ?_))
  refine List.mem_filter.mpr ⟨ha, ?_⟩
  have hspecial := h.special
  rw [← hlower] at hspecial
  simpa [isWildcard] using hspecial

theorem mapGroupField_member {name : String} (hname : name = "member" ∨ name = "uniquemember") :
    getSchemaManager.mapGroupField (.new name) PublicSchema.get = .member ∨
      getSchemaManager.mapGroupField (.new name) PublicSchema.get = .uniqueMember := by
  rcases hname with rfl | rfl
  · left
    rw [SchemaManager.mapGroupField, AttributeName.asStr_new, resolveAttribute_asciiLower,
      resolveAttribute_memberships.2.1]
    decide
  · right
    rw [SchemaManager.mapGroupField, AttributeName.asStr_new, resolveAttribute_asciiLower,
      resolveAttribute_memberships.2.2]
    decide

end

theorem utf8_eq_nil {s : String} : utf8 s = [] ↔ s = "" :=
  utf8_injective.eq_iff (b := "")

theorem buildDn_ne_empty (rdn internalOu baseDnStr : String) :
    buildDn rdn internalOu baseDnStr ≠ "" := by
  rw [buildDn_eq_dnTail, ne_eq, ← String.toList_inj]
  simp

section

variable [External] [Library] {S : Suite} {setup : S.ServerSetup} {rng : S.Coins} {out : Outside}
  {v : ValidationResults} {ldapInfo : LdapInfo} {request : LdapSearchRequest} {w : World}
  {x : UserAndGroups} {g : Group} {e : LdapSearchResultEntry}

/-- The search lists the user, and this is its entry. -/
def ShowsUser {σ : Type} (backend : UserRestrictedLister S σ) (ldapInfo : LdapInfo)
    (request : LdapSearchRequest) (s : σ) (x : UserAndGroups) (e : LdapSearchResultEntry) : Prop :=
  (∃ users, (getUserList ldapInfo PublicSchema.get backend.listUsers request.filter true
      request.base s).1 = .ok users ∧ x ∈ users) ∧
    makeLdapSearchUserResultEntry x.user ldapInfo.baseDnStr
      (getSchemaManager.expandAttributeWildcards request.attrs PublicSchema.get) x.groups
      ldapInfo.ignoredUserAttributes PublicSchema.get = .ok e

/-- The search lists the group, and this is its entry. -/
def ShowsGroup {σ : Type} (backend : UserRestrictedLister S σ) (ldapInfo : LdapInfo)
    (request : LdapSearchRequest) (s : σ) (g : Group) (e : LdapSearchResultEntry) : Prop :=
  (∃ groups, (getGroupsList ldapInfo PublicSchema.get backend.listGroups request.filter
      request.base s).1 = .ok groups ∧ g ∈ groups) ∧
    makeLdapSearchGroupResultEntry g ldapInfo.baseDnStr
      (getSchemaManager.expandAttributeWildcards request.attrs PublicSchema.get) none
      ldapInfo.ignoredGroupAttributes PublicSchema.get = .ok e

theorem ShowsUser.row (h : ShowsUser (listerOf setup rng out v) ldapInfo request w x e) :
    ∃ row ∈ w.db.users.rows, x.user.userId = row.userId ∧
      x.groups = some ((Sql.orderBy (fun g => g.displayName.raw)
        (w.db.groupsOf row.userId)).map GroupRow.toGroupDetails) := by
  obtain ⟨⟨users, husers, hx⟩, -⟩ := h
  rw [getUserList_fst] at husers
  obtain ⟨f, -, husers⟩ := except_bind_ok.mp husers
  exact Sql.mem_listUsers (except_mapError_ok.mp husers) hx

theorem ShowsGroup.row (h : ShowsGroup (listerOf setup rng out v) ldapInfo request w g e) :
    ∃ row ∈ w.db.groups.rows, row.groupId = g.id ∧ row.displayName = g.displayName ∧
      g.users = Sql.groupMembers w.db row.groupId := by
  obtain ⟨⟨groups, hgroups, hg⟩, -⟩ := h
  rw [getGroupsList_fst] at hgroups
  obtain ⟨f, -, hgroups⟩ := except_bind_ok.mp hgroups
  obtain ⟨row, hrow, -, hid, hname, husers⟩ := Sql.mem_listGroups (except_mapError_ok.mp hgroups) hg
  exact ⟨row, hrow, hid, hname, husers⟩

/-! ## `memberOf`, `member` and `uniqueMember` -/

omit [External] [Library] in
theorem mem_btreeSet {l : List String} {s : String} : s ∈ btreeSet l ↔ s ∈ l := by
  simp [btreeSet]

omit [External] [Library] in
theorem nonEmptyValues_of_ne {values : List Bytes} (h : ∀ b ∈ values, b ≠ []) :
    nonEmptyValues values = some values := by
  unfold nonEmptyValues
  rw [if_neg]
  rintro rfl
  exact h [] (List.mem_singleton_self _) rfl

omit [External] [Library] in
theorem utf8_buildDn_ne_nil (rdn internalOu baseDnStr : String) :
    utf8 (buildDn rdn internalOu baseDnStr) ≠ [] :=
  fun h => buildDn_ne_empty rdn internalOu baseDnStr (utf8_eq_nil.mp h)

omit [External] in
theorem valuesOf_userEntry {name : String} {vals : List Bytes}
    (h : makeLdapSearchUserResultEntry x.user ldapInfo.baseDnStr
      (getSchemaManager.expandAttributeWildcards request.attrs PublicSchema.get) x.groups
      ldapInfo.ignoredUserAttributes PublicSchema.get = .ok e)
    (hname : Requested request.attrs name)
    (hvals : getUserAttribute x.user (.new name) ldapInfo.baseDnStr x.groups
      ldapInfo.ignoredUserAttributes PublicSchema.get = .ok (some vals)) :
    valuesOf e (.new name) = vals := by
  unfold makeLdapSearchUserResultEntry at h
  obtain ⟨attributes, hattrs, h⟩ := except_bind_ok.mp h
  rw [← Except.ok.inj h]
  exact valuesOf_entry hattrs (fun k => key_withCustomAttributes)
    (exists_key_withCustomAttributes hname.exists_key) hname.operational hname.injected hvals

omit [External] in
theorem valuesOf_groupEntry {name : String} {vals : List Bytes}
    (h : makeLdapSearchGroupResultEntry g ldapInfo.baseDnStr
      (getSchemaManager.expandAttributeWildcards request.attrs PublicSchema.get) none
      ldapInfo.ignoredGroupAttributes PublicSchema.get = .ok e)
    (hname : Requested request.attrs name)
    (hvals : getGroupAttribute g ldapInfo.baseDnStr (.new name) none
      ldapInfo.ignoredGroupAttributes PublicSchema.get = .ok (some vals)) :
    valuesOf e (.new name) = vals := by
  unfold makeLdapSearchGroupResultEntry at h
  obtain ⟨attributes, hattrs, h⟩ := except_bind_ok.mp h
  rw [← Except.ok.inj h]
  exact valuesOf_entry hattrs (fun k => key_withCustomAttributes)
    (exists_key_withCustomAttributes hname.exists_key) hname.operational hname.injected hvals

omit [External] in
theorem valuesOf_memberOf
    (h : makeLdapSearchUserResultEntry x.user ldapInfo.baseDnStr
      (getSchemaManager.expandAttributeWildcards request.attrs PublicSchema.get) x.groups
      ldapInfo.ignoredUserAttributes PublicSchema.get = .ok e)
    (hasks : Asks request.attrs "memberof") :
    valuesOf e (.new "memberof") = (x.groups.getD []).map (memberOfValue ldapInfo.baseDnStr) := by
  refine valuesOf_userEntry h hasks.memberOf ?_
  have hfield : getSchemaManager.mapUserField (.new "memberof") PublicSchema.get = .memberOf := by
    rw [SchemaManager.mapUserField, AttributeName.asStr_new, resolveAttribute_asciiLower,
      resolveAttribute_memberships.1]
  unfold getUserAttribute
  rw [hfield]
  refine congrArg Except.ok (nonEmptyValues_of_ne fun b hb => ?_)
  obtain ⟨d, -, rfl⟩ := List.mem_map.mp hb
  exact utf8_buildDn_ne_nil _ _ _

omit [External] in
theorem valuesOf_member {name : String} (hname : name = "member" ∨ name = "uniquemember")
    (h : makeLdapSearchGroupResultEntry g ldapInfo.baseDnStr
      (getSchemaManager.expandAttributeWildcards request.attrs PublicSchema.get) none
      ldapInfo.ignoredGroupAttributes PublicSchema.get = .ok e)
    (hasks : Asks request.attrs name) :
    valuesOf e (.new name) = memberValues g ldapInfo.baseDnStr none := by
  refine valuesOf_groupEntry h (hasks.member hname) ?_
  have hmember : nonEmptyValues (memberValues g ldapInfo.baseDnStr none) =
      some (memberValues g ldapInfo.baseDnStr none) := by
    refine nonEmptyValues_of_ne fun b hb => ?_
    obtain ⟨dn, hdn, rfl⟩ := List.mem_map.mp hb
    obtain ⟨u, -, rfl⟩ := List.mem_map.mp (mem_btreeSet.mp hdn)
    exact utf8_buildDn_ne_nil _ _ _
  unfold getGroupAttribute
  rcases mapGroupField_member hname with hfield | hfield <;>
  · rw [hfield]
    exact congrArg Except.ok hmember

omit [External] [Library] in
theorem mem_groupMembers {db : Store} {id : GroupId} {m : GroupMember} :
    m ∈ Sql.groupMembers db id ↔
      db.isMember m.userId id = true ∧ m.ou = Sql.memberOu db m.userId := by
  constructor
  · intro h
    obtain ⟨row, hrow, rfl⟩ := List.mem_map.mp h
    obtain ⟨hrow, hid⟩ := List.mem_filter.mp hrow
    refine ⟨?_, rfl⟩
    rw [← of_decide_eq_true hid]
    exact Option.isSome_iff_exists.mpr ⟨row, Lib.Table.find?_of_mem hrow⟩
  · rintro ⟨h, hou⟩
    obtain ⟨row, hfind⟩ := Option.isSome_iff_exists.mp h
    have hkey := Lib.Table.key_of_find? hfind
    refine List.mem_map.mpr ⟨row, List.mem_filter.mpr ⟨Lib.Table.mem_of_find? hfind, ?_⟩, ?_⟩
    · simp [(Prod.mk.inj hkey).2]
    · rw [(Prod.mk.inj hkey).1, ← hou]

theorem mem_memberOf_iff (hx : ShowsUser (listerOf setup rng out v) ldapInfo request w x e)
    (hasks : Asks request.attrs "memberof") {dn : String} :
    utf8 dn ∈ valuesOf e (.new "memberof") ↔
      ∃ row ∈ w.db.groupsOf x.user.userId,
        buildGroupDn row.displayName defaultPrimaryGroupOu ldapInfo.baseDnStr = dn := by
  obtain ⟨row, hrow, hid, hgroups⟩ := hx.row
  rw [valuesOf_memberOf hx.2 hasks, hgroups, hid]
  constructor
  · intro h
    obtain ⟨d, hd, hdn⟩ := List.mem_map.mp h
    obtain ⟨row, hrow, rfl⟩ := List.mem_map.mp hd
    exact ⟨row, Sql.mem_orderBy.mp hrow, utf8_injective hdn⟩
  · rintro ⟨row, hrow, rfl⟩
    exact List.mem_map.mpr
      ⟨row.toGroupDetails, List.mem_map_of_mem (Sql.mem_orderBy.mpr hrow), rfl⟩

theorem mem_member_iff (hg : ShowsGroup (listerOf setup rng out v) ldapInfo request w g e)
    (hasks : Asks request.attrs "member") {dn : String} :
    utf8 dn ∈ valuesOf e (.new "member") ↔
      ∃ m ∈ Sql.groupMembers w.db g.id, buildUserDn m.userId m.ou ldapInfo.baseDnStr = dn := by
  obtain ⟨row, hrow, hgid, -, husers⟩ := hg.row
  rw [valuesOf_member (.inl rfl) hg.2 hasks, ← hgid, ← husers]
  constructor
  · intro h
    obtain ⟨dn', hdn, heq⟩ := List.mem_map.mp h
    obtain ⟨m, hm, rfl⟩ := List.mem_map.mp (mem_btreeSet.mp hdn)
    exact ⟨m, List.mem_of_mem_filter hm, utf8_injective heq⟩
  · rintro ⟨m, hm, rfl⟩
    exact List.mem_map_of_mem
      (mem_btreeSet.mpr (List.mem_map_of_mem (List.mem_filter.mpr ⟨hm, rfl⟩)))

/-! ## When the attributes agree -/

/-- The two attributes agree about the entries of a user and a group, and `uniqueMember` is
`member`. -/
def Dual (eu eg : LdapSearchResultEntry) : Prop :=
  (utf8 eg.dn ∈ valuesOf eu (.new "memberof") ↔ utf8 eu.dn ∈ valuesOf eg (.new "member")) ∧
    valuesOf eg (.new "uniquemember") = valuesOf eg (.new "member")

/-- A group of the user would have the DN of `g` if it lay in the default OU, just in case a member
of `g` has the DN of the user under the OU of its row. -/
def OusAgree (baseDnStr : String) (db : Store) (u : User) (g : Group) : Prop :=
  (∃ row ∈ db.groupsOf u.userId, buildGroupDn row.displayName defaultPrimaryGroupOu baseDnStr =
      buildGroupDn g.displayName (getGroupOu g) baseDnStr) ↔
    ∃ m ∈ Sql.groupMembers db g.id,
      buildUserDn m.userId m.ou baseDnStr = buildUserDn u.userId (getUserOu u) baseDnStr

/-- Ids and names that a DN can hold as they are, and one group for each name. -/
structure PlainNames (db : Store) : Prop where
  users : ∀ r ∈ db.users.rows, hasChar ',' r.userId.asStr = false
  members : ∀ m ∈ db.memberships.rows, hasChar ',' m.userId.asStr = false
  groups : ∀ r ∈ db.groups.rows, hasChar ',' r.displayName.raw = false
  unique : ∀ r ∈ db.groups.rows, ∀ r' ∈ db.groups.rows,
    r.displayName.raw = r'.displayName.raw → r = r'

omit [External] [Library] in
theorem PlainNames.ousAgree_iff {baseDnStr : String} {db : Store} (hdb : PlainNames db) {u : User}
    (hu : ∃ row ∈ db.users.rows, u.userId = row.userId)
    (hg : ∃ row ∈ db.groups.rows, row.groupId = g.id ∧ row.displayName = g.displayName) :
    OusAgree baseDnStr db u g ↔ (db.isMember u.userId g.id = true →
      (ouPart (getGroupOu g) = ouPart defaultPrimaryGroupOu ↔
        ouPart (Sql.memberOu db u.userId) = ouPart (getUserOu u))) := by
  obtain ⟨urow, hurow, hid⟩ := hu
  obtain ⟨grow, hgrow, hgid, hgname⟩ := hg
  have hcomma : hasChar ',' u.userId.asStr = false := hid ▸ hdb.users _ hurow
  have hgcomma : hasChar ',' g.displayName.raw = false := hgname ▸ hdb.groups _ hgrow
  have hleft : (∃ row ∈ db.groupsOf u.userId,
      buildGroupDn row.displayName defaultPrimaryGroupOu baseDnStr =
        buildGroupDn g.displayName (getGroupOu g) baseDnStr) ↔
      db.isMember u.userId g.id = true ∧ ouPart (getGroupOu g) = ouPart defaultPrimaryGroupOu := by
    constructor
    · rintro ⟨row, hrow, hdn⟩
      obtain ⟨hmem, hmember⟩ := List.mem_filter.mp hrow
      obtain ⟨hname, hou⟩ := (buildGroupDn_inj (hdb.groups _ hmem) hgcomma).mp hdn
      cases hdb.unique _ hmem _ hgrow (by rw [hgname]; exact hname)
      exact ⟨hgid ▸ hmember, hou.symm⟩
    · rintro ⟨hmember, hou⟩
      exact ⟨grow, List.mem_filter.mpr ⟨hgrow, hgid ▸ hmember⟩,
        (buildGroupDn_inj (hdb.groups _ hgrow) hgcomma).mpr
          ⟨congrArg GroupName.raw hgname, hou.symm⟩⟩
  have hright : (∃ m ∈ Sql.groupMembers db g.id,
      buildUserDn m.userId m.ou baseDnStr = buildUserDn u.userId (getUserOu u) baseDnStr) ↔
      db.isMember u.userId g.id = true ∧
        ouPart (Sql.memberOu db u.userId) = ouPart (getUserOu u) := by
    constructor
    · rintro ⟨m, hm, hdn⟩
      obtain ⟨hmember, hmou⟩ := mem_groupMembers.mp hm
      obtain ⟨mrow, hfind⟩ := Option.isSome_iff_exists.mp hmember
      have hkey := Lib.Table.key_of_find? hfind
      have hplain : hasChar ',' m.userId.asStr = false :=
        (Prod.mk.inj hkey).1 ▸ hdb.members _ (Lib.Table.mem_of_find? hfind)
      obtain ⟨huid, hou⟩ := (buildUserDn_inj hplain hcomma).mp hdn
      rw [← huid, ← hmou]
      exact ⟨hmember, hou⟩
    · rintro ⟨hmember, hou⟩
      exact ⟨⟨u.userId, Sql.memberOu db u.userId⟩, mem_groupMembers.mpr ⟨hmember, rfl⟩,
        (buildUserDn_inj hcomma hcomma).mpr ⟨rfl, hou⟩⟩
  rw [OusAgree, hleft, hright]
  exact and_congr_right_iff

/-- The attributes agree about a user and a group exactly if the OUs that the two listings take for
the other side do. With plain names this is so unless the user is a member of the group and just
one of the two OUs is right. -/
theorem dual_iff {request' : LdapSearchRequest} {eu eg : LdapSearchResultEntry}
    (hx : ShowsUser (listerOf setup rng out v) ldapInfo request w x eu)
    (hg : ShowsGroup (listerOf setup rng out v) ldapInfo request' w g eg)
    (hmemberOf : Asks request.attrs "memberof") (hmember : Asks request'.attrs "member")
    (hunique : Asks request'.attrs "uniquemember") :
    (Dual eu eg ↔ OusAgree ldapInfo.baseDnStr w.db x.user g) ∧
      (PlainNames w.db → (Dual eu eg ↔ (w.db.isMember x.user.userId g.id = true →
        (ouPart (getGroupOu g) = ouPart defaultPrimaryGroupOu ↔
          ouPart (Sql.memberOu w.db x.user.userId) = ouPart (getUserOu x.user))))) := by
  have hdual : Dual eu eg ↔ OusAgree ldapInfo.baseDnStr w.db x.user g := by
    have hsame : valuesOf eg (.new "uniquemember") = valuesOf eg (.new "member") := by
      rw [valuesOf_member (.inl rfl) hg.2 hmember, valuesOf_member (.inr rfl) hg.2 hunique]
    rw [Dual, mem_memberOf_iff hx hmemberOf, mem_member_iff hg hmember,
      makeLdapSearchUserResultEntry_dn hx.2, makeLdapSearchGroupResultEntry_dn hg.2]
    simp only [hsame, and_true]
    rfl
  refine ⟨hdual, fun hdb => ?_⟩
  obtain ⟨urow, hurow, hid, -⟩ := hx.row
  obtain ⟨grow, hgrow, hgid, hgname, -⟩ := hg.row
  rw [hdual]
  exact hdb.ousAgree_iff ⟨urow, hurow, hid⟩ ⟨grow, hgrow, hgid, hgname⟩

end

/-! ## A group in an OU of its own -/

section

open Plain

/-- `alice` is a member of the group `team`, which lies in the given OU. -/
def clubStore (ou : String) : Store :=
  { Store.empty with
    users := ⟨[userRow "alice"], by decide⟩
    groups := ⟨[groupRow 1 "team"], by decide⟩
    groupAttributes := ⟨[⟨⟨1⟩, .new "ou", utf8 ou⟩], List.nodup_singleton _⟩
    memberships := ⟨[⟨UserId.new "alice", ⟨1⟩⟩], by decide⟩ }

def allMemberships : LdapSearchRequest :=
  ⟨"dc=example,dc=com", .subtree, .present "objectClass", ["memberOf", "member", "uniqueMember"]⟩

def admin : ValidationResults := ⟨UserId.new "admin", .admin⟩

def operational (structuralClass : String) : List LdapPartialAttribute :=
  injectOperationalAttributes [] structuralClass "dc=example,dc=com"

def clubAlice : LdapSearchResultEntry :=
  ⟨"uid=alice,ou=people,dc=example,dc=com",
    ⟨"memberOf", [utf8 "cn=team,ou=groups,dc=example,dc=com"]⟩ :: operational "inetOrgPerson"⟩

def clubTeam (ou : String) : LdapSearchResultEntry :=
  ⟨"cn=team,ou=" ++ ou ++ ",dc=example,dc=com",
    ⟨"member", [utf8 "uid=alice,ou=people,dc=example,dc=com"]⟩ ::
      ⟨"uniqueMember", [utf8 "uid=alice,ou=people,dc=example,dc=com"]⟩ ::
      operational "groupOfUniqueNames"⟩

def searchByAdmin (request : LdapSearchRequest) (db : Store) : Except Failure (List LdapOp) :=
  (doSearchOrDse (sqlServices Opaque.plainSuite () () outside) ldapInfo (some admin) request
    (world db)).1

def listedAlice : UserAndGroups :=
  ⟨(userRow "alice").toUser, some [(groupRow 1 "team").toGroupDetails]⟩

def listedTeam (ou : String) : Group :=
  { (groupRow 1 "team").toGroup with
    users := [⟨UserId.new "alice", "people"⟩]
    attributes := [⟨.new "ou", .string (.singleton ou)⟩] }

def adminLister : UserRestrictedLister Opaque.plainSuite World :=
  getUserRestrictedListerHandler (sqlServices Opaque.plainSuite () () outside) admin

theorem shows_alice :
    ShowsUser adminLister ldapInfo allMemberships (world (clubStore "groups")) listedAlice
      clubAlice :=
  ⟨⟨[listedAlice], by decide +kernel, List.mem_singleton_self _⟩, by decide +kernel⟩

theorem shows_team :
    ShowsGroup adminLister ldapInfo allMemberships (world (clubStore "groups"))
      (listedTeam "groups") (clubTeam "groups") :=
  ⟨⟨[listedTeam "groups"], by decide +kernel, List.mem_singleton_self _⟩, by decide +kernel⟩

theorem clubStore_plainNames : PlainNames (clubStore "groups") where
  users := by decide
  members := by decide
  groups := by decide
  unique := by decide

/-- `alice` and `team` agree while the group lies in the default OU. -/
theorem dual_in_default_ou :
    ShowsUser adminLister ldapInfo allMemberships (world (clubStore "groups")) listedAlice
        clubAlice ∧
      ShowsGroup adminLister ldapInfo allMemberships (world (clubStore "groups"))
        (listedTeam "groups") (clubTeam "groups") ∧
      Dual clubAlice (clubTeam "groups") := by
  refine ⟨shows_alice, shows_team, ?_⟩
  have hiff := dual_iff shows_alice shows_team ⟨"memberOf", by decide, by decide⟩
    ⟨"member", by decide, by decide⟩ ⟨"uniqueMember", by decide, by decide⟩
  refine (hiff.2 (clubStore_plainNames)).mpr fun _ => ?_
  have hteam : getGroupOu (listedTeam "groups") = defaultPrimaryGroupOu := by decide +kernel
  have halice : Sql.memberOu (world (clubStore "groups")).db listedAlice.user.userId =
      getUserOu listedAlice.user := by
    decide +kernel
  simp only [hteam, halice]

/-- A group in another OU has a member that does not have it among its groups. -/
theorem group_outside_default_ou :
    (searchByAdmin allMemberships (clubStore "staff")).map entriesOf =
        .ok [clubAlice, clubTeam "staff"] ∧
      ¬Dual clubAlice (clubTeam "staff") := by
  refine ⟨by decide +kernel, fun h => ?_⟩
  have hmember : utf8 clubAlice.dn ∈ valuesOf (clubTeam "staff") (.new "member") := by
    decide +kernel
  exact absurd (h.1.mpr hmember) (by decide +kernel)

end

end Ldap
end Klldap
