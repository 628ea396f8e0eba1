import Klldap.Ldap.Restricted
import Klldap.Ldap.Translation
import Klldap.Lib.Relational

/-!
# Klldap.Ldap.NonInterference: what an unprivileged search depends on

A session whose permission is `regular` lists its own user and its own groups. The groups are
listed with all their members, and neither the filter nor the rendering keeps to the member who asks.
-/

namespace Klldap
namespace Ldap

open Lib (ExceptRel except_bind_ok)
open Lib.Bincode (utf8)
open Lib.Text
open Opaque (Suite)
open SchemaManager (isMemberName isMemberName_asciiLower)

/-! ## Filters -/

def asksMember (field : String) : Bool :=
  match getSchemaManager.mapGroupField (.new field) PublicSchema.get with
  | .member | .uniqueMember | .memberOf => true
  | _ => false

mutual

/-- Every leaf about the members of a group is about `u` or about nobody. -/
def asksOnlyFor (ldapInfo : LdapInfo) (u : UserId) : LdapFilter → Bool
  | .and fs | .or fs => allAskOnlyFor ldapInfo u fs
  | .not f => asksOnlyFor ldapInfo u f
  | .equality field value =>
    !asksMember field ||
      match getUserIdFromDistinguishedNameOrPlainName (asciiLower value) ldapInfo.baseDn
        ldapInfo.baseDnStr with
      | .ok v => v = u
      | .error _ => true
  | _ => true

def allAskOnlyFor (ldapInfo : LdapInfo) (u : UserId) : List LdapFilter → Bool
  | [] => true
  | f :: fs => asksOnlyFor ldapInfo u f && allAskOnlyFor ldapInfo u fs

end

theorem allAskOnlyFor_iff {u : UserId} {fs : List GroupRequestFilter} :
    Sql.allAskOnlyFor u fs = true ↔ ∀ f ∈ fs, Sql.asksOnlyFor u f = true := by
  induction fs with
  | nil => simp [Sql.allAskOnlyFor]
  | cons f fs ih => simp [Sql.allAskOnlyFor, ih]

section

variable {ldapInfo : LdapInfo} {u : UserId}

theorem joinAnd_asksOnlyFor {fs : List GroupRequestFilter} (h : Sql.allAskOnlyFor u fs = true) :
    Sql.asksOnlyFor u (GroupFilter.joinAnd fs) = true := by
  refine joinParts_closed (P := fun f => Sql.asksOnlyFor u f = true) (fun f hf p hp => ?_) rfl
    (fun fs hfs => show Sql.asksOnlyFor u (.and fs) = true from allAskOnlyFor_iff.mpr hfs)
    (allAskOnlyFor_iff.mp h)
  cases f with
  | and fs => exact allAskOnlyFor_iff.mp hf p hp
  | _ =>
    cases List.mem_singleton.mp hp
    exact hf

theorem joinOr_asksOnlyFor {fs : List GroupRequestFilter} (h : Sql.allAskOnlyFor u fs = true) :
    Sql.asksOnlyFor u (GroupFilter.joinOr fs) = true := by
  refine joinParts_closed (P := fun f => Sql.asksOnlyFor u f = true) (fun f hf p hp => ?_) rfl
    (fun fs hfs => show Sql.asksOnlyFor u (.or fs) = true from allAskOnlyFor_iff.mpr hfs)
    (allAskOnlyFor_iff.mp h)
  cases f with
  | or fs => exact allAskOnlyFor_iff.mp hf p hp
  | _ =>
    cases List.mem_singleton.mp hp
    exact hf

theorem negate_asksOnlyFor {f : GroupRequestFilter} (h : Sql.asksOnlyFor u f = true) :
    Sql.asksOnlyFor u (GroupFilter.negate f) = true := by
  cases f with
  | true => rfl
  | false => rfl
  | _ => exact h

variable [External] [Library]

theorem groupEqualityFilter_asksOnlyFor {field value : String} {f : GroupRequestFilter}
    (h : asksOnlyFor ldapInfo u (.equality field value) = true)
    (hf : groupEqualityFilter ldapInfo PublicSchema.get (.new field) value = .ok f) :
    Sql.asksOnlyFor u f = true := by
  have hmember : ∀ {f : GroupRequestFilter}, asksMember field = true →
      (match getUserIdFromDistinguishedNameOrPlainName (asciiLower value) ldapInfo.baseDn
          ldapInfo.baseDnStr with
        | .ok user => (.ok (.member user) : LdapResult GroupRequestFilter)
        | .error _ => .ok .false) = .ok f → Sql.asksOnlyFor u f = true := by
    intro f hm hf
    rw [asksOnlyFor, hm, Bool.not_true, Bool.false_or] at h
    split at hf
    · rename_i v hv
      rw [hv] at h
      cases hf
      exact h
    · cases hf
      rfl
  rw [groupEqualityFilter] at hf
  split at hf
  case h_1 =>
    cases hf
    cases parseI32 (asciiLower value) <;> rfl
  case h_4 hfield | h_5 hfield | h_6 hfield => exact hmember (by rw [asksMember, hfield]) hf
  case h_12 name typ isList _ =>
    cases hf
    rw [getGroupAttributeEqualityFilter, attributeEqualityFilter]
    split <;> rfl
  case h_13 | h_14 => cases hf
  all_goals first
    | (cases hf; rfl)
    | (split at hf <;> cases hf <;> rfl)

theorem convertGroupLeaf_asksOnlyFor {leaf : LdapFilter} {f : GroupRequestFilter}
    (h : asksOnlyFor ldapInfo u leaf = true)
    (hf : convertGroupLeaf ldapInfo PublicSchema.get leaf = .ok f) :
    Sql.asksOnlyFor u f = true := by
  rw [convertGroupLeaf.eq_def] at hf
  split at hf
  · split at hf
    · cases hf
      rw [groupClassFilter]
      split <;> rfl
    · exact groupEqualityFilter_asksOnlyFor h hf
  · rw [groupOrderFilter] at hf
    split at hf <;> cases hf <;> rfl
  · rw [groupOrderFilter] at hf
    split at hf <;> cases hf <;> rfl
  · cases hf
    rw [groupPresentFilter]
    split <;> rfl
  · rw [groupSubstringFilter] at hf
    split at hf <;> cases hf <;> rfl
  · cases hf

mutual

theorem convertGroupFilter_asksOnlyFor : (filter : LdapFilter) → {f : GroupRequestFilter} →
    asksOnlyFor ldapInfo u filter = true →
    convertGroupFilter ldapInfo PublicSchema.get filter = .ok f → Sql.asksOnlyFor u f = true
  | .and fs => by
    intro h hf
    rw [asksOnlyFor] at h
    rw [convertGroupFilter] at hf
    obtain ⟨cs, hcs, hf⟩ := except_bind_ok.mp hf
    cases hf
    exact joinAnd_asksOnlyFor (convertGroupFilters_asksOnlyFor fs h hcs)
  | .or fs => by
    intro h hf
    rw [asksOnlyFor] at h
    rw [convertGroupFilter] at hf
    obtain ⟨cs, hcs, hf⟩ := except_bind_ok.mp hf
    cases hf
    exact joinOr_asksOnlyFor (convertGroupFilters_asksOnlyFor fs h hcs)
  | .not filter => by
    intro h hf
    rw [asksOnlyFor] at h
    rw [convertGroupFilter] at hf
    obtain ⟨c, hc, hf⟩ := except_bind_ok.mp hf
    cases hf
    exact negate_asksOnlyFor (convertGroupFilter_asksOnlyFor filter h hc)
  | .equality _ _ | .substring _ _ | .greaterOrEqual _ _ | .lessOrEqual _ _ | .present _
  | .approx _ _ | .extensible _ _ _ _ => by
    intro h hf
    simp only [convertGroupFilter] at hf
    exact convertGroupLeaf_asksOnlyFor h hf

theorem convertGroupFilters_asksOnlyFor : (filters : List LdapFilter) →
    {fs : List GroupRequestFilter} → allAskOnlyFor ldapInfo u filters = true →
    convertGroupFilters ldapInfo PublicSchema.get filters = .ok fs → Sql.allAskOnlyFor u fs = true
  | [] => by
    intro _ hfs
    rw [convertGroupFilters] at hfs
    cases hfs
    rfl
  | filter :: filters => by
    intro h hfs
    rw [allAskOnlyFor] at h
    obtain ⟨hhead, htail⟩ := Bool.and_eq_true_iff.mp h
    rw [convertGroupFilters] at hfs
    obtain ⟨c, hc, hfs⟩ := except_bind_ok.mp hfs
    obtain ⟨cs, hcs, hfs⟩ := except_bind_ok.mp hfs
    cases hfs
    rw [Sql.allAskOnlyFor]
    exact Bool.and_eq_true_iff.mpr
      ⟨convertGroupFilter_asksOnlyFor filter hhead hc, convertGroupFilters_asksOnlyFor filters htail hcs⟩

end

end

/-! ## Rendering -/

/-- Whether the entry of a group shows who is a member: the attributes are asked for by name, or
the group has attributes of these names of its own, which wildcards show. -/
def showsMembers (attrs : List String) (group : Group) : Bool :=
  attrs.any isMemberName ||
    ((attrs.contains "*" || attrs.isEmpty || attrs.contains "+") &&
      group.attributes.any fun a => isMemberName a.name.asStr)

section

variable [Library] {group : Group} {baseDnStr : String} {userFilter : Option UserId}
  {ignored : List AttributeName}

theorem getGroupAttribute_withoutMembers (attr : AttributeName) (schema : Schema) :
    ExceptRel (fun values values' => isMemberName attr.asStr = false → values = values')
      (getGroupAttribute group baseDnStr attr userFilter ignored schema)
      (getGroupAttribute (Sql.withoutMembers group) baseDnStr attr userFilter ignored schema) := by
  have hmember : ∀ {Q : Prop}, getSchemaManager.mapGroupField attr schema = .member ∨
      getSchemaManager.mapGroupField attr schema = .uniqueMember →
      isMemberName attr.asStr = false → Q := by
    intro Q hfield h
    have := getSchemaManager.isMemberName_of_mapGroupField hfield
    simp [this] at h
  unfold getGroupAttribute
  split
  case h_9 hfield => exact .ok (hmember (.inl hfield))
  case h_10 hfield => exact .ok (hmember (.inr hfield))
  all_goals exact .refl (fun _ _ => rfl) _

omit [Library] in
theorem entryAttributes_rel (values values' : AttributeName → Except String (Option (List Lib.Bytes)))
    {keys : List (AttributeName × String)} {P : Prop}
    (h : ∀ k ∈ keys, ExceptRel (fun v v' => P → v = v') (values k.1) (values' k.1))
    (includeOperational : Bool) (structuralClass baseDnStr : String) :
    ExceptRel (fun as as' => P → as = as')
      (entryAttributes values keys includeOperational structuralClass baseDnStr)
      (entryAttributes values' keys includeOperational structuralClass baseDnStr) := by
  refine ExceptRel.bind (ExceptRel.mapM fun k hk => ?_) fun as as' has => .ok fun hP => by rw [has hP]
  exact ExceptRel.bind (h k (List.mem_of_mem_filter hk)) fun v v' hv => .ok fun hP => by rw [hv hP]

omit [Library] in
theorem buildGroupDn_withoutMembers (group : Group) (baseDnStr : String) :
    buildGroupDn (Sql.withoutMembers group).displayName (getGroupOu (Sql.withoutMembers group))
      baseDnStr = buildGroupDn group.displayName (getGroupOu group) baseDnStr := by
  simp only [Sql.withoutMembers, getGroupOu]

theorem makeLdapSearchGroupResultEntry_withoutMembers {expanded : ExpandedAttributes}
    {schema : Schema} {P : Prop}
    (h : P → ∀ k ∈ withCustomAttributes expanded schema.groupAttributes group.attributes,
      isMemberName k.1.asStr = false) :
    ExceptRel (fun e e' => e.dn = buildGroupDn group.displayName (getGroupOu group) baseDnStr ∧
        e'.dn = e.dn ∧ (P → e = e'))
      (makeLdapSearchGroupResultEntry group baseDnStr expanded userFilter ignored schema)
      (makeLdapSearchGroupResultEntry (Sql.withoutMembers group) baseDnStr expanded userFilter
        ignored schema) := by
  have hvalues : ∀ k ∈ withCustomAttributes expanded schema.groupAttributes group.attributes,
      ExceptRel (fun v v' => P → v = v')
        (getGroupAttribute group baseDnStr k.1 userFilter ignored schema)
        (getGroupAttribute (Sql.withoutMembers group) baseDnStr k.1 userFilter ignored schema) :=
    fun k hk => (getGroupAttribute_withoutMembers k.1 schema).mono fun v v' hv hP => hv (h hP k hk)
  have hattrs := entryAttributes_rel
    (fun a => getGroupAttribute group baseDnStr a userFilter ignored schema)
    (fun a => getGroupAttribute (Sql.withoutMembers group) baseDnStr a userFilter ignored schema)
    hvalues expanded.includeOperationalAttributes "groupOfUniqueNames" baseDnStr
  unfold makeLdapSearchGroupResultEntry
  refine ExceptRel.bind hattrs fun as as' has => ?_
  rw [buildGroupDn_withoutMembers]
  refine ExceptRel.ok ?_
  refine ⟨?_, ?_, fun hP => ?_⟩
  · dsimp only
  · dsimp only
  · rw [has hP]

omit [Library] in
theorem isMemberName_of_showsMembers {attrs : List String} (h : showsMembers attrs group = false) :
    ∀ k ∈ withCustomAttributes (getSchemaManager.expandAttributeWildcards attrs PublicSchema.get)
      PublicSchema.get.groupAttributes group.attributes, isMemberName k.1.asStr = false := by
  obtain ⟨hnamed, hcustom⟩ := Bool.or_eq_false_iff.mp h
  have hkeys : ∀ k ∈ (getSchemaManager.expandAttributeWildcards attrs PublicSchema.get).attributeKeys,
      isMemberName k.1.asStr = false := by
    intro k hk
    obtain ⟨n, rfl, ⟨a, ha, -, rfl⟩ | hn⟩ := getSchemaManager.mem_attributeKeys hk
    · have ha : isMemberName a = false := by
        simpa using List.any_eq_false.mp hnamed a ha
      rw [AttributeName.asStr_new, isMemberName_asciiLower, ← Bool.not_eq_true]
      exact fun hc => by simp [isMemberName_of_getCanonicalName hc] at ha
    · rw [AttributeName.asStr_new, isMemberName_asciiLower]
      exact isMemberName_wildcardKeys hn
  intro k hk
  unfold withCustomAttributes at hk
  split at hk
  · rename_i hstar
    rcases SchemaManager.mem_foldl_insertKey hk with hk | ⟨n, hn, rfl⟩
    · exact hkeys k hk
    · obtain ⟨a, ha, rfl⟩ := List.mem_map.mp hn
      rw [SchemaManager.includeCustomAttributes_eq] at hstar
      rw [hstar, Bool.true_and] at hcustom
      rw [AttributeName.asStr_new, isMemberName_asciiLower]
      simpa using List.any_eq_false.mp hcustom a (List.mem_of_mem_filter ha)
  · exact hkeys k hk

end

/-! ## Searches -/

section

variable [External] [Library] {S : Suite} {setup : S.ServerSetup} {rng : S.Coins} {out : Outside}
  {ldapInfo : LdapInfo} {v : ValidationResults} {request : LdapSearchRequest} {w w' : World}

/-- The search gets as far as listing groups by its filter, and returns those whose entry passes the
test: at the root and at a container the users have been listed before, and a group that the base
names has been found. -/
def ListsGroups (setup : S.ServerSetup) (rng : S.Coins) (out : Outside) (ldapInfo : LdapInfo)
    (v : ValidationResults) (request : LdapSearchRequest) (w : World)
    (test : LdapSearchResultEntry → Bool) : Prop :=
  ∃ dnParts, parseDistinguishedName request.base = .ok dnParts ∧
    match getSearchScope ldapInfo.baseDn dnParts request.scope (Sql.getAllowedOus w.db) with
    | .root => request.scope = .subtree ∧ test = (fun _ => true) ∧
      ∃ users, (foundUsers (listerOf setup rng out v) ldapInfo request w).1 = .ok users
    | .container => request.scope ≠ .base ∧ test = underBase request dnParts ∧
      ∃ users, (foundUsers (listerOf setup rng out v) ldapInfo request w).1 = .ok users
    | .leafGroup => test = isAtBase request ∧ ∃ name existing,
      getGroupIdFromDistinguishedName request.base ldapInfo.baseDn ldapInfo.baseDnStr = .ok name ∧
      (getGroupsList ldapInfo PublicSchema.get (listerOf setup rng out v).listGroups
        (.equality (getSchemaManager.getCanonicalName "cn") name.raw) request.base w).1 =
          .ok existing ∧ existing.isEmpty = false
    | .leafUser | .invalid | .unknown => False

/-- A listing of groups by `u` that depends on no other member: a filter that is accepted asks for no
other member, and no entry that stands where the search looks shows members. -/
structure Discreet (ldapInfo : LdapInfo) (request : LdapSearchRequest) (u : UserId) (db : Store)
    (test : LdapSearchResultEntry → Bool) : Prop where
  filter : ∀ f, convertGroupFilter ldapInfo PublicSchema.get request.filter = .ok f →
    db.groupsOf u ≠ [] → asksOnlyFor ldapInfo u request.filter = true
  entries : ∀ f groups, convertGroupFilter ldapInfo PublicSchema.get request.filter = .ok f →
    Sql.listGroups (some (.and [f, .member u])) db = .ok groups → ∀ group ∈ groups,
      test ⟨buildGroupDn group.displayName (getGroupOu group) ldapInfo.baseDnStr, []⟩ = true →
        showsMembers request.attrs group = false

theorem getUserList_own (hv : v.permission = .regular)
    (hview : Sql.ownView v.user w.db = Sql.ownView v.user w'.db) (filter : LdapFilter)
    (base : String) :
    (getUserList ldapInfo PublicSchema.get (listerOf setup rng out v).listUsers filter true base
        w).1 =
      (getUserList ldapInfo PublicSchema.get (listerOf setup rng out v).listUsers filter true base
        w').1 := by
  rw [getUserList_fst, getUserList_fst]
  simp only [listerOf_userFilters hv, Sql.listUsers_and_userId]
  cases convertUserFilter ldapInfo PublicSchema.get filter with
  | error e => rfl
  | ok f =>
    simp only [Except.mapError, bind, Except.bind]
    cases hc : Sql.getUserFilterExpr f with
    | error e => rfl
    | ok c => simp only [Sql.listOwnUser_own hview hc]

theorem foundUsers_own (hv : v.permission = .regular)
    (hview : Sql.ownView v.user w.db = Sql.ownView v.user w'.db) :
    (foundUsers (listerOf setup rng out v) ldapInfo request w).1 =
      (foundUsers (listerOf setup rng out v) ldapInfo request w').1 := by
  rw [foundUsers_fst listerOf_readsOnly, foundUsers_fst listerOf_readsOnly, getUserList_own hv hview]

theorem getGroupsList_own (hv : v.permission = .regular)
    (hview : Sql.ownView v.user w.db = Sql.ownView v.user w'.db) {filter : LdapFilter}
    (hf : ∀ f, convertGroupFilter ldapInfo PublicSchema.get filter = .ok f →
      w.db.groupsOf v.user ≠ [] → asksOnlyFor ldapInfo v.user filter = true) (base : String) :
    (getGroupsList ldapInfo PublicSchema.get (listerOf setup rng out v).listGroups filter base
        w).1.map (List.map Sql.withoutMembers) =
      (getGroupsList ldapInfo PublicSchema.get (listerOf setup rng out v).listGroups filter base
        w').1.map (List.map Sql.withoutMembers) := by
  rw [getGroupsList_fst, getGroupsList_fst]
  simp only [listerOf_groupFilters hv]
  cases hc : convertGroupFilter ldapInfo PublicSchema.get filter with
  | error e => rfl
  | ok f =>
    exact Lib.mapError_map_congr (Sql.listGroups_own hview
      fun hne => convertGroupFilter_asksOnlyFor _ (hf f hc hne) hc)

omit [External] in
theorem convertGroupsToLdapOp_withoutMembers {test : LdapSearchResultEntry → Bool}
    (htest : ∀ {e e' : LdapSearchResultEntry}, e.dn = e'.dn → test e = test e') {groups : List Group}
    {attrs : List String}
    (h : ∀ g ∈ groups.map Sql.withoutMembers,
      test ⟨buildGroupDn g.displayName (getGroupOu g) ldapInfo.baseDnStr, []⟩ = true →
        showsMembers attrs g = false) :
    (convertGroupsToLdapOp ldapInfo PublicSchema.get groups attrs none).map (List.filter test) =
      (convertGroupsToLdapOp ldapInfo PublicSchema.get (groups.map Sql.withoutMembers) attrs
        none).map (List.filter test) := by
  unfold convertGroupsToLdapOp
  rw [List.mapM_map]
  refine Lib.mapM_filter_congr fun g hg => ?_
  refine (makeLdapSearchGroupResultEntry_withoutMembers isMemberName_of_showsMembers).mono ?_
  rintro e e' ⟨hdn, hdn', heq⟩
  refine ⟨htest hdn'.symm, fun he => heq ?_⟩
  have hpass : test ⟨buildGroupDn g.displayName (getGroupOu g) ldapInfo.baseDnStr, []⟩ = true := by
    rw [← he]
    refine htest ?_
    rw [hdn]
  have hshows := h _ (List.mem_map_of_mem hg)
  rw [buildGroupDn_withoutMembers] at hshows
  exact hshows hpass

theorem foundGroups_own (hv : v.permission = .regular)
    (hview : Sql.ownView v.user w.db = Sql.ownView v.user w'.db) {test : LdapSearchResultEntry → Bool}
    (htest : ∀ {e e' : LdapSearchResultEntry}, e.dn = e'.dn → test e = test e')
    (hd : Discreet ldapInfo request v.user w.db test) :
    (foundGroups (listerOf setup rng out v) ldapInfo request w).1.map (List.filter test) =
      (foundGroups (listerOf setup rng out v) ldapInfo request w').1.map (List.filter test) := by
  have hlists : (getGroupsList ldapInfo PublicSchema.get (listerOf setup rng out v).listGroups
      request.filter request.base w).1.map (List.map Sql.withoutMembers) = _ :=
    getGroupsList_own hv hview hd.filter request.base
  have hrel := ExceptRel.of_map_eq hlists
  rw [foundGroups_fst listerOf_readsOnly, foundGroups_fst listerOf_readsOnly]
  generalize hx : (getGroupsList ldapInfo PublicSchema.get (listerOf setup rng out v).listGroups
    request.filter request.base w).1 = x at hrel ⊢
  generalize (getGroupsList ldapInfo PublicSchema.get (listerOf setup rng out v).listGroups
    request.filter request.base w').1 = y at hrel ⊢
  cases hrel with
  | error e => rfl
  | @ok gs gs' heq =>
    rw [getGroupsList_fst] at hx
    obtain ⟨f, hf, hx⟩ := except_bind_ok.mp hx
    rw [Lib.except_mapError_ok] at hf hx
    rw [listerOf_groupFilters hv] at hx
    have hshown : ∀ g ∈ gs.map Sql.withoutMembers,
        test ⟨buildGroupDn g.displayName (getGroupOu g) ldapInfo.baseDnStr, []⟩ = true →
          showsMembers request.attrs g = false := by
      intro _ hmem
      obtain ⟨g, hg, rfl⟩ := List.mem_map.mp hmem
      rw [buildGroupDn_withoutMembers]
      exact hd.entries f gs hf hx g hg
    have hrender := convertGroupsToLdapOp_withoutMembers htest hshown
    rw [heq] at hshown hrender
    rw [← convertGroupsToLdapOp_withoutMembers htest hshown] at hrender
    exact Lib.mapError_map_congr hrender

theorem searchRoot_own (hv : v.permission = .regular)
    (hview : Sql.ownView v.user w.db = Sql.ownView v.user w'.db) {allowedOus : List String}
    (hd : request.scope = .subtree → ∀ users,
      (foundUsers (listerOf setup rng out v) ldapInfo request w).1 = .ok users →
        Discreet ldapInfo request v.user w.db fun _ => true) :
    (searchRoot (listerOf setup rng out v) ldapInfo request allowedOus w).1 =
      (searchRoot (listerOf setup rng out v) ldapInfo request allowedOus w').1 := by
  rw [searchRoot_fst listerOf_readsOnly, searchRoot_fst listerOf_readsOnly,
    ← foundUsers_own hv hview]
  dsimp only
  split
  · rfl
  · split
    · rename_i hscope
      cases husers : (foundUsers (listerOf setup rng out v) ldapInfo request w).1 with
      | error e => rfl
      | ok users =>
        have hall (x : Except Failure (List LdapSearchResultEntry)) :
            x.map (List.filter fun _ => true) = x := by
          cases x <;> simp [Except.map]
        have hgroups : (foundGroups (listerOf setup rng out v) ldapInfo request w).1.map
            (List.filter fun _ => true) = _ :=
          foundGroups_own hv hview (fun _ => rfl) (hd hscope users husers)
        rw [hall, hall] at hgroups
        rw [hgroups]
    · rfl

theorem searchContainer_own (hv : v.permission = .regular)
    (hview : Sql.ownView v.user w.db = Sql.ownView v.user w'.db) {allowedOus : List String}
    {dnParts : List Rdn}
    (hd : request.scope ≠ .base → ∀ users,
      (foundUsers (listerOf setup rng out v) ldapInfo request w).1 = .ok users →
        Discreet ldapInfo request v.user w.db (underBase request dnParts)) :
    (searchContainer (listerOf setup rng out v) ldapInfo request allowedOus dnParts w).1 =
      (searchContainer (listerOf setup rng out v) ldapInfo request allowedOus dnParts w').1 := by
  rw [searchContainer_fst listerOf_readsOnly, searchContainer_fst listerOf_readsOnly,
    ← foundUsers_own hv hview]
  dsimp only
  split
  · rfl
  · rename_i hscope
    cases husers : (foundUsers (listerOf setup rng out v) ldapInfo request w).1 with
    | error e => rfl
    | ok users =>
      refine Lib.bind_congr_of_map (foundGroups_own hv hview ?_ (hd hscope users husers)) fun groups =>
        .ok (found (_ ++ users.filter (underBase request dnParts) ++ groups))
      intro e e' he
      simp only [underBase, he]

omit [External] [Library] in
theorem map_isEmpty_congr {ε α β : Type} {x y : Except ε (List α)} {g : α → β}
    (h : x.map (List.map g) = y.map (List.map g)) : x.map List.isEmpty = y.map List.isEmpty := by
  have hcomp : ∀ z : Except ε (List α), z.map List.isEmpty = (z.map (List.map g)).map List.isEmpty := by
    intro z
    cases z with
    | error e => rfl
    | ok l => simp [Except.map]
  rw [hcomp x, hcomp y, h]

theorem searchUser_own (hv : v.permission = .regular)
    (hview : Sql.ownView v.user w.db = Sql.ownView v.user w'.db) :
    (searchUser (listerOf setup rng out v) ldapInfo request w).1 =
      (searchUser (listerOf setup rng out v) ldapInfo request w').1 := by
  rw [searchUser_fst listerOf_readsOnly, searchUser_fst listerOf_readsOnly, foundUsers_own hv hview]
  simp only [getUserList_own hv hview]

theorem searchGroup_own (hv : v.permission = .regular)
    (hview : Sql.ownView v.user w.db = Sql.ownView v.user w'.db)
    (hd : ∀ name existing,
      getGroupIdFromDistinguishedName request.base ldapInfo.baseDn ldapInfo.baseDnStr = .ok name →
      (getGroupsList ldapInfo PublicSchema.get (listerOf setup rng out v).listGroups
        (.equality (getSchemaManager.getCanonicalName "cn") name.raw) request.base w).1 =
          .ok existing → existing.isEmpty = false →
      Discreet ldapInfo request v.user w.db (isAtBase request)) :
    (searchGroup (listerOf setup rng out v) ldapInfo request w).1 =
      (searchGroup (listerOf setup rng out v) ldapInfo request w').1 := by
  have hcn : asksMember (getSchemaManager.getCanonicalName "cn") = false := by
    rw [SchemaManager.getCanonicalName, getSchemaManager_registered.2.2.2.2.1]
    decide +kernel
  rw [searchGroup_fst listerOf_readsOnly, searchGroup_fst listerOf_readsOnly]
  cases hid : getGroupIdFromDistinguishedName request.base ldapInfo.baseDn ldapInfo.baseDnStr with
  | error e => rfl
  | ok name =>
    have hasks : asksOnlyFor ldapInfo v.user
        (.equality (getSchemaManager.getCanonicalName "cn") name.raw) = true := by
      rw [asksOnlyFor, hcn]
      rfl
    have hexisting : (getGroupsList ldapInfo PublicSchema.get (listerOf setup rng out v).listGroups
        (.equality (getSchemaManager.getCanonicalName "cn") name.raw) request.base w).1.map
          List.isEmpty = _ :=
      map_isEmpty_congr (getGroupsList_own hv hview (fun _ _ _ => hasks) request.base)
    have hrel := ExceptRel.of_map_eq hexisting
    dsimp only
    generalize hx : (getGroupsList ldapInfo PublicSchema.get (listerOf setup rng out v).listGroups
      (.equality (getSchemaManager.getCanonicalName "cn") name.raw) request.base w).1 = x at hrel ⊢
    generalize (getGroupsList ldapInfo PublicSchema.get (listerOf setup rng out v).listGroups
      (.equality (getSchemaManager.getCanonicalName "cn") name.raw) request.base w').1 = y at hrel ⊢
    cases hrel with
    | error e => rfl
    | @ok rows rows' hrows =>
      show (if rows.isEmpty = true then _ else _) = if rows'.isEmpty = true then _ else _
      rw [← hrows]
      cases hempty : rows.isEmpty with
      | true => rfl
      | false =>
        have hgroups : (foundGroups (listerOf setup rng out v) ldapInfo request w).1.map
            (List.filter (isAtBase request)) = _ :=
          foundGroups_own hv hview (fun he => by simp only [isAtBase, he]) (hd name rows hid hx hempty)
        exact Lib.bind_congr_of_map hgroups fun groups => .ok (found groups)

theorem doSearch_own (hv : v.permission = .regular)
    (hview : Sql.ownView v.user w.db = Sql.ownView v.user w'.db)
    (hd : ∀ test, ListsGroups setup rng out ldapInfo v request w test →
      Discreet ldapInfo request v.user w.db test) :
    (doSearch (listerOf setup rng out v) ldapInfo request (Sql.getAllowedOus w.db) w).1 =
      (doSearch (listerOf setup rng out v) ldapInfo request (Sql.getAllowedOus w.db) w').1 := by
  unfold doSearch
  cases hparse : parseDistinguishedName request.base with
  | error e => rfl
  | ok dnParts =>
    have hlists (test : LdapSearchResultEntry → Bool) (h : _) :=
      hd test ⟨dnParts, hparse, h⟩
    dsimp only at hlists ⊢
    cases hscope : getSearchScope ldapInfo.baseDn dnParts request.scope (Sql.getAllowedOus w.db) with
    | root =>
      rw [hscope] at hlists
      exact searchRoot_own hv hview fun hs users husers => hlists _ ⟨hs, rfl, users, husers⟩
    | container =>
      rw [hscope] at hlists
      exact searchContainer_own hv hview fun hs users husers => hlists _ ⟨hs, rfl, users, husers⟩
    | leafUser => exact searchUser_own hv hview
    | leafGroup =>
      rw [hscope] at hlists
      exact searchGroup_own hv hview fun name existing hid hex hne =>
        hlists _ ⟨rfl, name, existing, hid, hex, hne⟩
    | invalid | unknown => rfl

/-- A search by a session with the permission `regular` that asks for no other member and shows no
members answers the same in worlds whose databases its user cannot tell apart. -/
theorem restricted_noninterference (hv : v.permission = .regular)
    (hview : Sql.ownView v.user w.db = Sql.ownView v.user w'.db)
    (hd : isRootDseRequest request = false → isSubschemaEntryRequest request = false →
      ∀ test, ListsGroups setup rng out ldapInfo v request w test →
        Discreet ldapInfo request v.user w.db test) :
    (doSearchOrDse (sqlServices S setup rng out) ldapInfo (some v) request w).1 =
      (doSearchOrDse (sqlServices S setup rng out) ldapInfo (some v) request w').1 := by
  have hous : Sql.getAllowedOus w.db = Sql.getAllowedOus w'.db := congrArg Sql.OwnView.allowedOus hview
  unfold doSearchOrDse
  split
  · rfl
  · split
    · rfl
    · rename_i hdse hsub
      rw [doBoundSearch_fst, doBoundSearch_fst, ← hous]
      exact doSearch_own hv hview (hd (by simpa using hdse) (by simpa using hsub))

end

section

open Plain

theorem ownView_teamStore :
    Sql.ownView (UserId.new "alice") (teamStore []) =
      Sql.ownView (UserId.new "alice") (teamStore ["bob"]) := by
  have hgroups : (teamStore []).groupsOf (UserId.new "alice") =
      (teamStore ["bob"]).groupsOf (UserId.new "alice") := by decide
  simp only [Sql.ownView, hgroups]
  rfl

theorem everything_discreet (u : UserId) (db : Store) (test : LdapSearchResultEntry → Bool) :
    Discreet Plain.ldapInfo everything u db test where
  filter _ _ _ := rfl
  entries _ _ _ _ _ _ _ := rfl

/-- A search for names does not tell whether `bob` is in the group. -/
theorem names_do_not_show_members :
    searchByAlice everything (teamStore []) = searchByAlice everything (teamStore ["bob"]) :=
  restricted_noninterference rfl ownView_teamStore
    fun _ _ test _ => everything_discreet _ _ test

/-- A search for members does. -/
theorem members_are_shown :
    Sql.ownView (UserId.new "alice") (teamStore []) =
        Sql.ownView (UserId.new "alice") (teamStore ["bob"]) ∧
      searchByAlice { everything with attrs := ["member"] } (teamStore []) ≠
        searchByAlice { everything with attrs := ["member"] } (teamStore ["bob"]) := by
  refine ⟨ownView_teamStore, fun h => ?_⟩
  have hentries := congrArg (Except.map entriesOf) h
  revert hentries
  decide +kernel

end

end Ldap
end Klldap
