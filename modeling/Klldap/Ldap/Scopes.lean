import Klldap.Ldap.Rdn
import Klldap.Ldap.Restricted

/-!
# Klldap.Ldap.Scopes: searches at one base compared

The three scopes of a search are answered by branches of their own, and the base of a request is
compared as a text in some of them.
-/

namespace Klldap
namespace Ldap

open Lib (Eff except_bind_ok except_mapError_ok)
open Lib.Bincode (utf8)
open Lib.Text
open Opaque (Suite)

/-! ## Entries of an answer -/

def entriesIn : Except Failure (List LdapOp) → List LdapSearchResultEntry
  | .ok ops => entriesOf ops
  | .error _ => []

@[simp] theorem entriesIn_found (es : List LdapSearchResultEntry) :
    entriesIn (.ok (found es)) = es := entriesOf_found es

@[simp] theorem entriesIn_success : entriesIn (.ok [makeSearchSuccess]) = [] := rfl

@[simp] theorem entriesIn_error (e : Failure) : entriesIn (.error e) = [] := rfl

theorem mem_entriesIn_bind {α : Type} {x : Except Failure α}
    {f : α → Except Failure (List LdapOp)} {e : LdapSearchResultEntry} :
    e ∈ entriesIn (x >>= f) ↔ ∃ a, x = .ok a ∧ e ∈ entriesIn (f a) := by
  cases x with
  | error err => simp [bind, Except.bind]
  | ok a => simp [bind, Except.bind]

section

variable [External] [Library] {S : Suite} {σ : Type} {backend : UserRestrictedLister S σ}
  {ldapInfo : LdapInfo} {request : LdapSearchRequest}

/-- The users and the groups that the filter selects, where both can be listed and shown. -/
def Listed (backend : UserRestrictedLister S σ) (ldapInfo : LdapInfo) (request : LdapSearchRequest)
    (s : σ) (users groups : List LdapSearchResultEntry) : Prop :=
  (foundUsers backend ldapInfo request s).1 = .ok users ∧
    (foundGroups backend ldapInfo request s).1 = .ok groups

/-- The entries of the organizational units among `ous` that the filter accepts. -/
def ouEntries (ldapInfo : LdapInfo) (request : LdapSearchRequest) (ous : List String) :
    List LdapSearchResultEntry :=
  buildOuEntries (ous.filter fun ou => ouMatchesFilter ou request.filter) ldapInfo.baseDnStr
    (includeOp request.attrs)

omit [External] in
theorem mem_ouEntries {ous : List String} {e : LdapSearchResultEntry} :
    e ∈ ouEntries ldapInfo request ous ↔ ∃ ou ∈ ous, ouMatchesFilter ou request.filter = true ∧
      makeOuEntry ou ldapInfo.baseDnStr (includeOp request.attrs) = e := by
  simp [ouEntries, buildOuEntries, and_assoc]

variable (h : ReadsOnly backend)

include h

theorem mem_searchRoot {allowedOus : List String} {s : σ} {e : LdapSearchResultEntry} :
    e ∈ entriesIn (searchRoot backend ldapInfo request allowedOus s).1 ↔
      if request.scope = .base then e = rootEntry ldapInfo
      else if request.scope = .subtree then ∃ users groups,
        Listed backend ldapInfo request s users groups ∧
          (e ∈ ouEntries ldapInfo request allowedOus ∨ e ∈ users ∨ e ∈ groups)
      else e ∈ ouEntries ldapInfo request (getDirectChildOus "" allowedOus) := by
  rw [searchRoot_fst h]
  dsimp only
  split
  · simp
  · split
    · simp [mem_entriesIn_bind, Listed, ouEntries, and_assoc]
    · simp [ouEntries]

theorem mem_searchContainer {allowedOus : List String} {dnParts : List Rdn} {s : σ}
    {e : LdapSearchResultEntry} :
    e ∈ entriesIn (searchContainer backend ldapInfo request allowedOus dnParts s).1 ↔
      if request.scope = .base then
        e ∈ ouEntries ldapInfo request [getInternalOuFromDnParts dnParts]
      else ∃ users groups, Listed backend ldapInfo request s users groups ∧
        (e ∈ ouEntries ldapInfo request
            (ousBelow (getInternalOuFromDnParts dnParts) request.scope allowedOus) ∨
          (e ∈ users ∨ e ∈ groups) ∧ underBase request dnParts e = true) := by
  rw [searchContainer_fst h]
  dsimp only
  split
  · simp [ouEntries]
  · simp [mem_entriesIn_bind, Listed, ouEntries, and_assoc, or_and_right]

theorem mem_searchUser {s : σ} {e : LdapSearchResultEntry} :
    e ∈ entriesIn (searchUser backend ldapInfo request s).1 ↔
      ∃ userId,
        getUserIdFromDistinguishedName request.base ldapInfo.baseDn ldapInfo.baseDnStr =
          .ok userId ∧ ∃ existing,
        (getUserList ldapInfo PublicSchema.get backend.listUsers (.equality "uid" userId.asStr) true
          request.base s).1 = .ok existing ∧ existing.isEmpty = false ∧ ∃ users,
        (foundUsers backend ldapInfo request s).1 = .ok users ∧ e ∈ users ∧
          isAtBase request e = true := by
  rw [searchUser_fst h]
  cases getUserIdFromDistinguishedName request.base ldapInfo.baseDn ldapInfo.baseDnStr with
  | error err => simp
  | ok userId =>
    simp only [mem_entriesIn_bind, Except.ok.injEq, ↓existsAndEq, true_and]
    refine exists_congr fun existing => ?_
    cases existing.isEmpty <;> simp [mem_entriesIn_bind]

theorem mem_searchGroup {s : σ} {e : LdapSearchResultEntry} :
    e ∈ entriesIn (searchGroup backend ldapInfo request s).1 ↔
      ∃ name,
        getGroupIdFromDistinguishedName request.base ldapInfo.baseDn ldapInfo.baseDnStr =
          .ok name ∧ ∃ existing,
        (getGroupsList ldapInfo PublicSchema.get backend.listGroups
          (.equality (getSchemaManager.getCanonicalName "cn") name.raw) request.base s).1 =
            .ok existing ∧ existing.isEmpty = false ∧ ∃ groups,
        (foundGroups backend ldapInfo request s).1 = .ok groups ∧ e ∈ groups ∧
          isAtBase request e = true := by
  rw [searchGroup_fst h]
  cases getGroupIdFromDistinguishedName request.base ldapInfo.baseDn ldapInfo.baseDnStr with
  | error err => simp
  | ok name =>
    simp only [mem_entriesIn_bind, Except.ok.injEq, ↓existsAndEq, true_and]
    refine exists_congr fun existing => ?_
    cases existing.isEmpty <;> simp [mem_entriesIn_bind]

end

/-! ## Names of entries -/

theorem length_lt_buildDn (rdn ou baseDnStr : String) :
    baseDnStr.length < (buildDn rdn ou baseDnStr).length := by
  unfold buildDn
  dsimp only
  split <;> simp only [String.length_append, show ",".length = 1 by decide] <;> omega

theorem head_buildDn {c : Char} {rdn : String} (h : rdn.toList.head? = some c)
    (ou baseDnStr : String) : (buildDn rdn ou baseDnStr).toList.head? = some c := by
  have hhead : ∀ t : String, (rdn ++ "," ++ t).toList.head? = some c := by
    intro t
    simp [List.head?_append, h]
  unfold buildDn
  dsimp only
  split
  · exact hhead _
  · exact hhead _

/-- The DN of a user or a group: longer than the base, and beginning with another letter than the
DN of an organizational unit. -/
structure IsRowName (baseDnStr dn : String) : Prop where
  longer : baseDnStr.length < dn.length
  head : dn.toList.head? ≠ some 'o'

theorem isRowName_buildUserDn (userId : UserId) (ou baseDnStr : String) :
    IsRowName baseDnStr (buildUserDn userId ou baseDnStr) where
  longer := length_lt_buildDn ..
  head := by
    rw [buildUserDn, head_buildDn (c := 'u') (by simp)]
    decide

theorem isRowName_buildGroupDn (name : GroupName) (ou baseDnStr : String) :
    IsRowName baseDnStr (buildGroupDn name ou baseDnStr) where
  longer := length_lt_buildDn ..
  head := by
    rw [buildGroupDn, head_buildDn (c := 'c') (by simp)]
    decide

theorem key_of_mem_chain {ou : String} {p : Rdn} (h : p ∈ internalOuToLdapRdnChain ou) :
    p.1 = "ou" := by
  unfold internalOuToLdapRdnChain at h
  split at h
  · cases h
  · obtain ⟨part, -, rfl⟩ := List.mem_map.mp h
    rfl

section

variable [Library]

theorem makeOuEntry_dn (ou baseDnStr : String) (includeOperational : Bool) :
    (makeOuEntry ou baseDnStr includeOperational).dn = baseDnStr ∨
      (makeOuEntry ou baseDnStr includeOperational).dn.toList.head? = some 'o' := by
  have hhead : renderRdns (internalOuToLdapRdnChain ou) ≠ "" →
      (renderRdns (internalOuToLdapRdnChain ou)).toList.head? = some 'o' := by
    intro hne
    cases hchain : internalOuToLdapRdnChain ou with
    | nil => exact absurd (by rw [hchain]; rfl) hne
    | cons p ps =>
      have hp : p.1 = "ou" := by
        have hmem : p ∈ internalOuToLdapRdnChain ou := by simp [hchain]
        exact key_of_mem_chain hmem
      obtain ⟨k, v⟩ := p
      cases hp
      cases ps with
      | nil => simp [renderRdns, join]
      | cons q ps => simp [renderRdns_cons]
  unfold makeOuEntry
  dsimp only
  split
  · exact .inl rfl
  · rename_i hne
    exact .inr (by simp [List.head?_append, hhead hne])

theorem makeOuEntry_ne {ou baseDnStr : String} {includeOperational : Bool}
    {e : LdapSearchResultEntry} (he : IsRowName baseDnStr e.dn) :
    makeOuEntry ou baseDnStr includeOperational ≠ e := by
  rintro rfl
  rcases makeOuEntry_dn ou baseDnStr includeOperational with hdn | hdn
  · have := he.longer
    rw [hdn] at this
    omega
  · exact he.head hdn

theorem isRowName_subschema (baseDnStr : String) :
    IsRowName baseDnStr (makeLdapSubschemaEntry baseDnStr).dn where
  longer := by
    simp [makeLdapSubschemaEntry, String.length_append, show "cn=Subschema,".length = 13 by decide]
  head := by simp [makeLdapSubschemaEntry]

theorem rootEntry_ne_makeOuEntry (ldapInfo : LdapInfo) (ou : String) (includeOperational : Bool) :
    makeOuEntry ou ldapInfo.baseDnStr includeOperational ≠ rootEntry ldapInfo := by
  intro heq
  have hclass := congrArg (fun e => e.attributes.head?.map fun a => a.vals.length) heq
  simp [makeOuEntry, rootEntry] at hclass

end

/-! ## Scopes -/

section

variable {baseDn dnParts : List Rdn} {allowedOus : List String}

theorem getSearchScope_subtree : getSearchScope baseDn dnParts .subtree allowedOus =
    if !isSubtree dnParts baseDn then .invalid
    else if dnParts = baseDn then .root
    else if dnParts.length = baseDn.length + 1 || isContainerDn dnParts baseDn allowedOus then
      .container
    else .unknown := by
  by_cases hlen : dnParts.length = baseDn.length + 1 <;> simp [getSearchScope, hlen]

theorem getSearchScope_oneLevel : getSearchScope baseDn dnParts .oneLevel allowedOus =
    getSearchScope baseDn dnParts .subtree allowedOus := by
  simp [getSearchScope]

def leafScope (baseDn dnParts : List Rdn) : Option SearchScope :=
  if baseDn.length < dnParts.length then
    match getUserOrGroupIdFromDistinguishedName (renderRdns dnParts) baseDn with
    | .user _ => some .leafUser
    | .group _ => some .leafGroup
    | _ => none
  else none

theorem getSearchScope_base : getSearchScope baseDn dnParts .base allowedOus =
    if !isSubtree dnParts baseDn then .invalid
    else if dnParts = baseDn then .root
    else (leafScope baseDn dnParts).getD
      (if isContainerDn dnParts baseDn allowedOus then .container else .unknown) := by
  unfold getSearchScope leafScope
  cases getUserOrGroupIdFromDistinguishedName (renderRdns dnParts) baseDn <;>
    simp only [decide_true, Bool.true_and, decide_eq_true_eq, reduceCtorEq, decide_false,
      Bool.or_false, Bool.false_and, Bool.false_eq_true, if_false]

variable (baseDn dnParts) in
theorem leafScope_cases : leafScope baseDn dnParts = none ∨
    leafScope baseDn dnParts = some .leafUser ∨ leafScope baseDn dnParts = some .leafGroup := by
  unfold leafScope
  split
  · split <;> simp
  · simp

variable (baseDn dnParts allowedOus) in
theorem getSearchScope_cases :
    (getSearchScope baseDn dnParts .base allowedOus = .invalid ∧
      getSearchScope baseDn dnParts .subtree allowedOus = .invalid) ∨
    (getSearchScope baseDn dnParts .base allowedOus = .root ∧
      getSearchScope baseDn dnParts .subtree allowedOus = .root) ∨
    (getSearchScope baseDn dnParts .base allowedOus = .container ∧
      getSearchScope baseDn dnParts .subtree allowedOus = .container) ∨
    (getSearchScope baseDn dnParts .base allowedOus ∈
        [SearchScope.leafUser, .leafGroup, .unknown] ∧
      getSearchScope baseDn dnParts .subtree allowedOus ∈ [SearchScope.container, .unknown]) := by
  rw [getSearchScope_base, getSearchScope_subtree]
  split
  · exact .inl ⟨rfl, rfl⟩
  · split
    · exact .inr (.inl ⟨rfl, rfl⟩)
    · have hsub : (if dnParts.length = baseDn.length + 1 || isContainerDn dnParts baseDn allowedOus
          then SearchScope.container else .unknown) ∈ [SearchScope.container, .unknown] := by
        split <;> simp
      right; right
      rcases leafScope_cases baseDn dnParts with hleaf | hleaf | hleaf
      · by_cases hc : isContainerDn dnParts baseDn allowedOus = true
        · exact .inl (by simp [hleaf, hc])
        · exact .inr ⟨by simp [hleaf, hc], hsub⟩
      · exact .inr ⟨by simp [hleaf], hsub⟩
      · exact .inr ⟨by simp [hleaf], hsub⟩

end

/-! ## Smaller scopes -/

def LdapSearchRequest.withScope (request : LdapSearchRequest) (scope : LdapSearchScope) :
    LdapSearchRequest :=
  { request with scope := scope }

@[simp] theorem withScope_scope (request : LdapSearchRequest) (scope : LdapSearchScope) :
    (request.withScope scope).scope = scope := rfl

@[simp] theorem withScope_base (request : LdapSearchRequest) (scope : LdapSearchScope) :
    (request.withScope scope).base = request.base := rfl

section

variable [External] [Library] {S : Suite} {σ : Type} {backend : UserRestrictedLister S σ}
  {ldapInfo : LdapInfo} {request : LdapSearchRequest} {allowedOus : List String} {s : σ}

/-- The users and groups that the filter selects can be listed and shown. -/
def CanList (backend : UserRestrictedLister S σ) (ldapInfo : LdapInfo) (request : LdapSearchRequest)
    (s : σ) : Prop :=
  ∃ users groups, Listed backend ldapInfo request s users groups

/-- The base names a user, that user can be listed, and an entry that the filter selects has the base
as its name. -/
def UserAtBase (backend : UserRestrictedLister S σ) (ldapInfo : LdapInfo)
    (request : LdapSearchRequest) (s : σ) : Prop :=
  ∃ userId existing users,
    getUserIdFromDistinguishedName request.base ldapInfo.baseDn ldapInfo.baseDnStr = .ok userId ∧
    (getUserList ldapInfo PublicSchema.get backend.listUsers (.equality "uid" userId.asStr) true
      request.base s).1 = .ok existing ∧ existing.isEmpty = false ∧
    (foundUsers backend ldapInfo request s).1 = .ok users ∧ ∃ e ∈ users, isAtBase request e = true

/-- The base names a group, that group can be listed, and an entry that the filter selects has the
base as its name. -/
def GroupAtBase (backend : UserRestrictedLister S σ) (ldapInfo : LdapInfo)
    (request : LdapSearchRequest) (s : σ) : Prop :=
  ∃ name existing groups,
    getGroupIdFromDistinguishedName request.base ldapInfo.baseDn ldapInfo.baseDnStr = .ok name ∧
    (getGroupsList ldapInfo PublicSchema.get backend.listGroups
      (.equality (getSchemaManager.getCanonicalName "cn") name.raw) request.base s).1 =
        .ok existing ∧ existing.isEmpty = false ∧
    (foundGroups backend ldapInfo request s).1 = .ok groups ∧ ∃ e ∈ groups, isAtBase request e = true

theorem searchUser_ne_nil (h : ReadsOnly backend) :
    entriesIn (searchUser backend ldapInfo request s).1 ≠ [] ↔
      UserAtBase backend ldapInfo request s := by
  constructor
  · intro hsome
    obtain ⟨e, hmem⟩ := List.exists_mem_of_ne_nil _ hsome
    obtain ⟨userId, hid, existing, hex, hne, users, husers, he, hat⟩ := (mem_searchUser h).mp hmem
    exact ⟨userId, existing, users, hid, hex, hne, husers, e, he, hat⟩
  · rintro ⟨userId, existing, users, hid, hex, hne, husers, e, he, hat⟩
    exact List.ne_nil_of_mem
      ((mem_searchUser h).mpr ⟨userId, hid, existing, hex, hne, users, husers, he, hat⟩)

theorem searchGroup_ne_nil (h : ReadsOnly backend) :
    entriesIn (searchGroup backend ldapInfo request s).1 ≠ [] ↔
      GroupAtBase backend ldapInfo request s := by
  constructor
  · intro hsome
    obtain ⟨e, hmem⟩ := List.exists_mem_of_ne_nil _ hsome
    obtain ⟨name, hid, existing, hex, hne, groups, hgroups, he, hat⟩ := (mem_searchGroup h).mp hmem
    exact ⟨name, existing, groups, hid, hex, hne, hgroups, e, he, hat⟩
  · rintro ⟨name, existing, groups, hid, hex, hne, hgroups, e, he, hat⟩
    exact List.ne_nil_of_mem
      ((mem_searchGroup h).mpr ⟨name, hid, existing, hex, hne, groups, hgroups, he, hat⟩)

/-- When the entries of `base` and `oneLevel` at a base are among those of `subtree`: it is not the
root; it is no container that the filter accepts, unless another organizational unit below has the
same entry; it is no user or group that is found, unless it stands one RDN below the root; and if
it stands there without an `ou` the filter accepts no organizational unit. -/
structure Nests (backend : UserRestrictedLister S σ) (ldapInfo : LdapInfo)
    (request : LdapSearchRequest) (allowedOus : List String) (dnParts : List Rdn) (s : σ) : Prop where
  notRoot : getSearchScope ldapInfo.baseDn dnParts .base allowedOus ≠ .root
  container : getSearchScope ldapInfo.baseDn dnParts .base allowedOus = .container →
    ouMatchesFilter (getInternalOuFromDnParts dnParts) request.filter = true →
      CanList backend ldapInfo request s ∧
        ∃ ou ∈ ousBelow (getInternalOuFromDnParts dnParts) .subtree allowedOus,
          ouMatchesFilter ou request.filter = true ∧
            makeOuEntry ou ldapInfo.baseDnStr (includeOp request.attrs) =
              makeOuEntry (getInternalOuFromDnParts dnParts) ldapInfo.baseDnStr
                (includeOp request.attrs)
  user : getSearchScope ldapInfo.baseDn dnParts .base allowedOus = .leafUser →
    UserAtBase backend ldapInfo request s →
      getSearchScope ldapInfo.baseDn dnParts .subtree allowedOus = .container ∧
        CanList backend ldapInfo request s
  group : getSearchScope ldapInfo.baseDn dnParts .base allowedOus = .leafGroup →
    GroupAtBase backend ldapInfo request s →
      getSearchScope ldapInfo.baseDn dnParts .subtree allowedOus = .container ∧
        CanList backend ldapInfo request s
  children : getSearchScope ldapInfo.baseDn dnParts .subtree allowedOus = .container →
    getInternalOuFromDnParts dnParts = "" → CanList backend ldapInfo request s →
      ∀ ou ∈ getDirectChildOus "" allowedOus, ouMatchesFilter ou request.filter = false

theorem isRowName_of_mem_users (h : ReadsOnly backend) {users : List LdapSearchResultEntry}
    (hu : (foundUsers backend ldapInfo request s).1 = .ok users) {e : LdapSearchResultEntry}
    (he : e ∈ users) : IsRowName ldapInfo.baseDnStr e.dn := by
  rw [foundUsers_fst h] at hu
  obtain ⟨rows, -, hu⟩ := except_bind_ok.mp hu
  obtain ⟨x, -, hx⟩ := Lib.except_mapM_ok (except_mapError_ok.mp hu) e he
  rw [makeLdapSearchUserResultEntry_dn hx]
  exact isRowName_buildUserDn ..

theorem isRowName_of_mem_groups (h : ReadsOnly backend) {groups : List LdapSearchResultEntry}
    (hg : (foundGroups backend ldapInfo request s).1 = .ok groups) {e : LdapSearchResultEntry}
    (he : e ∈ groups) : IsRowName ldapInfo.baseDnStr e.dn := by
  rw [foundGroups_fst h] at hg
  obtain ⟨rows, -, hg⟩ := except_bind_ok.mp hg
  obtain ⟨x, -, hx⟩ := Lib.except_mapM_ok (except_mapError_ok.mp hg) e he
  rw [makeLdapSearchGroupResultEntry_dn hx]
  exact isRowName_buildGroupDn ..

theorem Listed.isRowName (h : ReadsOnly backend) {users groups : List LdapSearchResultEntry}
    (hl : Listed backend ldapInfo request s users groups) {e : LdapSearchResultEntry}
    (he : e ∈ users ∨ e ∈ groups) : IsRowName ldapInfo.baseDnStr e.dn := by
  rcases he with he | he
  · exact isRowName_of_mem_users h hl.1 he
  · exact isRowName_of_mem_groups h hl.2 he

omit [External] [Library] in
theorem parse_congr {dn dn' : String} (h : asciiLower dn = asciiLower dn') :
    parseDistinguishedName dn = parseDistinguishedName dn' := by
  rw [parseDistinguishedName, parseDistinguishedName, h]

omit [External] [Library] in
theorem underBase_of_isAtBase {dnParts : List Rdn} {e : LdapSearchResultEntry}
    (hparse : parseDistinguishedName request.base = .ok dnParts) (he : isAtBase request e = true) :
    underBase (request.withScope .subtree) dnParts e = true := by
  have hlower : asciiLower e.dn = asciiLower request.base := of_decide_eq_true he
  rw [underBase, parse_congr hlower, hparse]
  simp [LdapSearchRequest.withScope, endsWith, hlower]

omit [External] [Library] in
theorem underBase_of_oneLevel {dnParts : List Rdn} {e : LdapSearchResultEntry}
    (he : underBase (request.withScope .oneLevel) dnParts e = true) :
    underBase (request.withScope .subtree) dnParts e = true := by
  unfold underBase at he ⊢
  split
  · rename_i herr
    simp [herr] at he
  · rename_i hok
    rw [hok] at he
    simp only [LdapSearchRequest.withScope, Bool.and_eq_true] at he ⊢
    exact ⟨he.1, by simp⟩

def searchAs (backend : UserRestrictedLister S σ) (ldapInfo : LdapInfo) (request : LdapSearchRequest)
    (allowedOus : List String) (dnParts : List Rdn) : SearchScope → Eff σ Failure (List LdapOp)
  | .root => searchRoot backend ldapInfo request allowedOus
  | .container => searchContainer backend ldapInfo request allowedOus dnParts
  | .leafUser => searchUser backend ldapInfo request
  | .leafGroup => searchGroup backend ldapInfo request
  | .invalid | .unknown => pure [makeSearchSuccess]

theorem doSearch_of_parse {dnParts : List Rdn}
    (hparse : parseDistinguishedName request.base = .ok dnParts) :
    doSearch backend ldapInfo request allowedOus = searchAs backend ldapInfo request allowedOus
      dnParts (getSearchScope ldapInfo.baseDn dnParts request.scope allowedOus) := by
  unfold doSearch
  rw [hparse]
  dsimp only
  cases getSearchScope ldapInfo.baseDn dnParts request.scope allowedOus <;> rfl

section

variable {dnParts : List Rdn}

theorem mem_container_base (h : ReadsOnly backend) {e : LdapSearchResultEntry} :
    e ∈ entriesIn (searchContainer backend ldapInfo (request.withScope .base) allowedOus dnParts
        s).1 ↔
      ouMatchesFilter (getInternalOuFromDnParts dnParts) request.filter = true ∧
        makeOuEntry (getInternalOuFromDnParts dnParts) ldapInfo.baseDnStr
          (includeOp request.attrs) = e := by
  rw [mem_searchContainer h, withScope_scope, if_pos rfl, mem_ouEntries]
  simp [LdapSearchRequest.withScope]

theorem mem_container_subtree (h : ReadsOnly backend) {e : LdapSearchResultEntry} :
    e ∈ entriesIn (searchContainer backend ldapInfo (request.withScope .subtree) allowedOus dnParts
        s).1 ↔
      ∃ users groups, Listed backend ldapInfo request s users groups ∧
        (e ∈ ouEntries ldapInfo request
            (ousBelow (getInternalOuFromDnParts dnParts) .subtree allowedOus) ∨
          (e ∈ users ∨ e ∈ groups) ∧
            underBase (request.withScope .subtree) dnParts e = true) := by
  rw [mem_searchContainer h, withScope_scope, if_neg (by decide)]
  rfl

theorem ou_mem_container_subtree (h : ReadsOnly backend) {ou : String} :
    makeOuEntry ou ldapInfo.baseDnStr (includeOp request.attrs) ∈ entriesIn
        (searchContainer backend ldapInfo (request.withScope .subtree) allowedOus dnParts s).1 ↔
      CanList backend ldapInfo request s ∧
        makeOuEntry ou ldapInfo.baseDnStr (includeOp request.attrs) ∈ ouEntries ldapInfo request
          (ousBelow (getInternalOuFromDnParts dnParts) .subtree allowedOus) := by
  rw [mem_container_subtree h]
  constructor
  · rintro ⟨users, groups, hl, he | ⟨he, -⟩⟩
    · exact ⟨⟨users, groups, hl⟩, he⟩
    · exact absurd rfl (makeOuEntry_ne (hl.isRowName h he))
  · rintro ⟨⟨users, groups, hl⟩, he⟩
    exact ⟨users, groups, hl, .inl he⟩

omit [External] [Library] in
theorem directChild_below {internalOu ou : String} (hne : internalOu ≠ "")
    (hou : ou ∈ ousBelow internalOu .oneLevel allowedOus) :
    ou ∈ ousBelow internalOu .subtree allowedOus := by
  have hlower : asciiLower internalOu ≠ "" := by
    intro hempty
    refine hne ?_
    rw [← String.toList_inj] at hempty ⊢
    simpa using hempty
  rw [ousBelow, if_pos rfl, getDirectChildOus, List.mem_filter] at hou
  rw [ousBelow, if_neg (by decide), List.mem_filter]
  refine ⟨hou.1, ?_⟩
  have hdirect := hou.2
  rw [if_neg hlower] at hdirect
  split at hdirect
  · rename_i hstarts
    simp [hne, hstarts]
  · cases hdirect

theorem container_children_iff (h : ReadsOnly backend) :
    (∀ e ∈ entriesIn (searchContainer backend ldapInfo (request.withScope .oneLevel) allowedOus
        dnParts s).1, e ∈ entriesIn (searchContainer backend ldapInfo (request.withScope .subtree)
          allowedOus dnParts s).1) ↔
      (getInternalOuFromDnParts dnParts = "" → CanList backend ldapInfo request s →
        ∀ ou ∈ getDirectChildOus "" allowedOus, ouMatchesFilter ou request.filter = false) := by
  have hone : ∀ e, e ∈ entriesIn (searchContainer backend ldapInfo (request.withScope .oneLevel)
      allowedOus dnParts s).1 ↔ ∃ users groups, Listed backend ldapInfo request s users groups ∧
        (e ∈ ouEntries ldapInfo request
            (ousBelow (getInternalOuFromDnParts dnParts) .oneLevel allowedOus) ∨
          (e ∈ users ∨ e ∈ groups) ∧
            underBase (request.withScope .oneLevel) dnParts e = true) := by
    intro e
    rw [mem_searchContainer h, withScope_scope, if_neg (by decide)]
    rfl
  constructor
  · intro hall hempty ⟨users, groups, hl⟩ ou hou
    by_contra hmatch
    have hentry : makeOuEntry ou ldapInfo.baseDnStr (includeOp request.attrs) ∈
        ouEntries ldapInfo request (ousBelow "" .oneLevel allowedOus) :=
      mem_ouEntries.mpr ⟨ou, hou, by simpa using hmatch, rfl⟩
    have hmem := hall _ ((hone _).mpr ⟨users, groups, hl, .inl (hempty ▸ hentry)⟩)
    rw [ou_mem_container_subtree h, hempty, mem_ouEntries] at hmem
    obtain ⟨-, ou', hou', -⟩ := hmem
    simp [ousBelow] at hou'
  · intro hchildren e he
    obtain ⟨users, groups, hl, he⟩ := (hone e).mp he
    refine (mem_container_subtree h).mpr ⟨users, groups, hl, ?_⟩
    rcases he with he | ⟨he, hunder⟩
    · obtain ⟨ou, hou, hmatch, rfl⟩ := mem_ouEntries.mp he
      by_cases hempty : getInternalOuFromDnParts dnParts = ""
      · have hno := hchildren hempty ⟨users, groups, hl⟩ ou (by rwa [hempty] at hou)
        rw [hno] at hmatch
        cases hmatch
      · exact .inl (mem_ouEntries.mpr ⟨ou, directChild_below hempty hou, hmatch, rfl⟩)
    · exact .inr ⟨he, underBase_of_oneLevel hunder⟩

theorem children_iff (h : ReadsOnly backend) {kind : SearchScope}
    (hkind : kind ∈ [SearchScope.container, .unknown]) :
    (∀ e ∈ entriesIn (searchAs backend ldapInfo (request.withScope .oneLevel) allowedOus dnParts
        kind s).1, e ∈ entriesIn (searchAs backend ldapInfo (request.withScope .subtree) allowedOus
          dnParts kind s).1) ↔
      (kind = .container → getInternalOuFromDnParts dnParts = "" →
        CanList backend ldapInfo request s →
          ∀ ou ∈ getDirectChildOus "" allowedOus, ouMatchesFilter ou request.filter = false) := by
  rcases List.mem_cons.mp hkind with rfl | hkind
  · exact (container_children_iff h).trans ⟨fun hc _ => hc, fun hc => hc rfl⟩
  · cases List.mem_singleton.mp hkind
    exact iff_of_true nofun nofun

variable (allowedOus) in
theorem leaf_iff (h : ReadsOnly backend) {leaf : List LdapSearchResultEntry}
    (hparse : parseDistinguishedName request.base = .ok dnParts)
    (hleaf : ∀ e ∈ leaf, isAtBase request e = true ∧
      ∀ users groups, Listed backend ldapInfo request s users groups → e ∈ users ∨ e ∈ groups)
    (kind : SearchScope) (hkind : kind ∈ [SearchScope.container, .unknown]) :
    (∀ e ∈ leaf, e ∈ entriesIn (searchAs backend ldapInfo (request.withScope .subtree) allowedOus
        dnParts kind s).1) ↔
      (leaf ≠ [] → kind = .container ∧ CanList backend ldapInfo request s) := by
  constructor
  · intro hall hne
    obtain ⟨e, he⟩ := List.exists_mem_of_ne_nil _ hne
    have hmem := hall e he
    rcases List.mem_cons.mp hkind with rfl | hkind
    · obtain ⟨users, groups, hl, -⟩ := (mem_container_subtree h).mp hmem
      exact ⟨rfl, users, groups, hl⟩
    · cases List.mem_singleton.mp hkind
      cases hmem
  · intro hcond e he
    obtain ⟨rfl, users, groups, hl⟩ := hcond (List.ne_nil_of_mem he)
    obtain ⟨hat, hmem⟩ := hleaf e he
    exact (mem_container_subtree h).mpr
      ⟨users, groups, hl, .inr ⟨hmem users groups hl, underBase_of_isAtBase hparse hat⟩⟩

theorem searchUser_withScope (scope : LdapSearchScope) :
    searchUser backend ldapInfo (request.withScope scope) = searchUser backend ldapInfo request := by
  have hfound : foundUsers backend ldapInfo (request.withScope scope) =
      foundUsers backend ldapInfo request := rfl
  have hat : isAtBase (request.withScope scope) = isAtBase request := rfl
  rw [searchUser, searchUser, withScope_base, hfound, hat]

theorem searchGroup_withScope (scope : LdapSearchScope) :
    searchGroup backend ldapInfo (request.withScope scope) = searchGroup backend ldapInfo request := by
  have hfound : foundGroups backend ldapInfo (request.withScope scope) =
      foundGroups backend ldapInfo request := rfl
  have hat : isAtBase (request.withScope scope) = isAtBase request := rfl
  rw [searchGroup, searchGroup, withScope_base, hfound, hat]

variable (ldapInfo request s) in
theorem mem_searchUser_leaf (h : ReadsOnly backend) :
    ∀ e ∈ entriesIn (searchUser backend ldapInfo request s).1, isAtBase request e = true ∧
      ∀ users groups, Listed backend ldapInfo request s users groups → e ∈ users ∨ e ∈ groups := by
  intro e he
  obtain ⟨userId, -, existing, -, -, users, husers, hmem, hat⟩ := (mem_searchUser h).mp he
  refine ⟨hat, fun users' groups hl => .inl ?_⟩
  cases husers.symm.trans hl.1
  exact hmem

variable (ldapInfo request s) in
theorem mem_searchGroup_leaf (h : ReadsOnly backend) :
    ∀ e ∈ entriesIn (searchGroup backend ldapInfo request s).1, isAtBase request e = true ∧
      ∀ users groups, Listed backend ldapInfo request s users groups → e ∈ users ∨ e ∈ groups := by
  intro e he
  obtain ⟨name, -, existing, -, -, groups, hgroups, hmem, hat⟩ := (mem_searchGroup h).mp he
  refine ⟨hat, fun users groups' hl => .inr ?_⟩
  cases hgroups.symm.trans hl.2
  exact hmem

theorem rootEntry_not_mem (h : ReadsOnly backend) :
    rootEntry ldapInfo ∉ entriesIn (searchRoot backend ldapInfo (request.withScope .subtree)
      allowedOus s).1 := by
  intro hmem
  rw [mem_searchRoot h, withScope_scope, if_neg (by decide), if_pos rfl] at hmem
  obtain ⟨users, groups, hl, hou | hrow⟩ := hmem
  · obtain ⟨ou, -, -, heq⟩ := mem_ouEntries.mp hou
    exact rootEntry_ne_makeOuEntry ldapInfo ou _ heq
  · have hlonger := (Listed.isRowName h hl hrow).longer
    exact absurd hlonger (lt_irrefl _)

/-- Nothing but the subschema entry is found one level below a base of a given kind: no
organizational unit there is accepted by the filter, and no user or group that is listed there has
another name or other attributes than that entry. -/
def OnlySubschemaBelow (backend : UserRestrictedLister S σ) (ldapInfo : LdapInfo)
    (request : LdapSearchRequest) (allowedOus : List String) (dnParts : List Rdn) (s : σ) :
    SearchScope → Prop
  | .root => ∀ ou ∈ getDirectChildOus "" allowedOus, ouMatchesFilter ou request.filter = false
  | .container => ∀ users groups, Listed backend ldapInfo request s users groups →
    (∀ ou ∈ ousBelow (getInternalOuFromDnParts dnParts) .oneLevel allowedOus,
      ouMatchesFilter ou request.filter = false) ∧
    ∀ e, e ∈ users ∨ e ∈ groups → underBase (request.withScope .oneLevel) dnParts e = true →
      e = makeLdapSubschemaEntry ldapInfo.baseDnStr
  | _ => True

omit [External] in
theorem ouEntries_subschema_iff {ous : List String} :
    (∀ e ∈ ouEntries ldapInfo request ous, e = makeLdapSubschemaEntry ldapInfo.baseDnStr) ↔
      ∀ ou ∈ ous, ouMatchesFilter ou request.filter = false := by
  constructor
  · intro hall ou hou
    by_contra hmatch
    exact makeOuEntry_ne (isRowName_subschema ldapInfo.baseDnStr)
      (hall _ (mem_ouEntries.mpr ⟨ou, hou, by simpa using hmatch, rfl⟩))
  · intro hnone e he
    obtain ⟨ou, hou, hmatch, -⟩ := mem_ouEntries.mp he
    rw [hnone ou hou] at hmatch
    cases hmatch

theorem oneLevel_subschema_iff (h : ReadsOnly backend)
    (hparse : parseDistinguishedName request.base = .ok dnParts) :
    (∀ e ∈ entriesIn (doSearch backend ldapInfo (request.withScope .oneLevel) allowedOus s).1,
        e = makeLdapSubschemaEntry ldapInfo.baseDnStr) ↔
      OnlySubschemaBelow backend ldapInfo request allowedOus dnParts s
        (getSearchScope ldapInfo.baseDn dnParts .oneLevel allowedOus) := by
  have hdo : doSearch backend ldapInfo (request.withScope .oneLevel) allowedOus =
      searchAs backend ldapInfo (request.withScope .oneLevel) allowedOus dnParts
        (getSearchScope ldapInfo.baseDn dnParts .oneLevel allowedOus) := doSearch_of_parse hparse
  have hkind : getSearchScope ldapInfo.baseDn dnParts .oneLevel allowedOus ∈
      [SearchScope.invalid, .root, .container, .unknown] := by
    rw [getSearchScope_oneLevel, getSearchScope_subtree]
    split_ifs <;> simp
  rw [hdo]
  simp only [List.mem_cons, List.not_mem_nil, or_false] at hkind
  rcases hkind with hkind | hkind | hkind | hkind
  · rw [hkind]
    exact iff_of_true nofun trivial
  · rw [hkind]
    simp only [searchAs, mem_searchRoot h, withScope_scope, reduceCtorEq, if_false]
    exact ouEntries_subschema_iff
  · rw [hkind]
    simp only [searchAs, mem_searchContainer h, withScope_scope, reduceCtorEq, if_false]
    constructor
    · intro hall users groups hl
      exact ⟨ouEntries_subschema_iff.mp fun e he => hall e ⟨users, groups, hl, .inl he⟩,
        fun e he hunder => hall e ⟨users, groups, hl, .inr ⟨he, hunder⟩⟩⟩
    · rintro hall e ⟨users, groups, hl, he | ⟨he, hunder⟩⟩
      · exact ouEntries_subschema_iff.mpr (hall users groups hl).1 e he
      · exact (hall users groups hl).2 e he hunder
  · rw [hkind]
    exact iff_of_true nofun trivial

theorem doSearch_nests_iff (h : ReadsOnly backend)
    (hparse : parseDistinguishedName request.base = .ok dnParts) :
    (∀ e, e ∈ entriesIn (doSearch backend ldapInfo (request.withScope .base) allowedOus s).1 ∨
        e ∈ entriesIn (doSearch backend ldapInfo (request.withScope .oneLevel) allowedOus s).1 →
      e ∈ entriesIn (doSearch backend ldapInfo (request.withScope .subtree) allowedOus s).1) ↔
      Nests backend ldapInfo request allowedOus dnParts s := by
  have hdo : ∀ scope, doSearch backend ldapInfo (request.withScope scope) allowedOus =
      searchAs backend ldapInfo (request.withScope scope) allowedOus dnParts
        (getSearchScope ldapInfo.baseDn dnParts scope allowedOus) :=
    fun scope => doSearch_of_parse hparse
  simp only [hdo, getSearchScope_oneLevel, or_imp, forall_and]
  rcases getSearchScope_cases ldapInfo.baseDn dnParts allowedOus with ⟨hb, hs⟩ | ⟨hb, hs⟩ | ⟨hb, hs⟩ | ⟨hb, hs⟩
  · rw [hb, hs]
    refine iff_of_true ⟨nofun, nofun⟩ ?_
    constructor <;> simp [hb, hs]
  · rw [hb, hs]
    refine iff_of_false (fun hall => ?_) fun hn => hn.notRoot hb
    refine rootEntry_not_mem h (hall.1 _ ?_)
    exact (mem_searchRoot h).mpr (by rw [withScope_scope, if_pos rfl])
  · rw [hb, hs]
    simp only [searchAs]
    constructor
    · rintro ⟨hbase, hone⟩
      refine ⟨by simp [hb], fun _ hmatch => ?_, by simp [hb], by simp [hb],
        fun _ => (container_children_iff h).mp hone⟩
      have hmem := hbase _ ((mem_container_base h).mpr ⟨hmatch, rfl⟩)
      obtain ⟨hlist, hou⟩ := (ou_mem_container_subtree h).mp hmem
      exact ⟨hlist, mem_ouEntries.mp hou⟩
    · intro hn
      refine ⟨fun e he => ?_, (container_children_iff h).mpr (hn.children hs)⟩
      obtain ⟨hmatch, rfl⟩ := (mem_container_base h).mp he
      obtain ⟨hlist, hou⟩ := hn.container hb hmatch
      exact (ou_mem_container_subtree h).mpr ⟨hlist, mem_ouEntries.mpr hou⟩
  · rw [children_iff h hs]
    simp only [List.mem_cons, List.not_mem_nil, or_false] at hb
    rcases hb with hb | hb | hb
    · have huser := leaf_iff allowedOus h hparse (mem_searchUser_leaf ldapInfo request s h) _ hs
      rw [hb, searchAs, searchUser_withScope, huser, searchUser_ne_nil h]
      refine ⟨?_, fun hn => ⟨hn.user hb, hn.children⟩⟩
      rintro ⟨hleaf, hchildren⟩
      exact ⟨by simp [hb], by simp [hb], fun _ => hleaf, by simp [hb], hchildren⟩
    · have hgroup := leaf_iff allowedOus h hparse (mem_searchGroup_leaf ldapInfo request s h) _ hs
      rw [hb, searchAs, searchGroup_withScope, hgroup, searchGroup_ne_nil h]
      refine ⟨?_, fun hn => ⟨hn.group hb, hn.children⟩⟩
      rintro ⟨hleaf, hchildren⟩
      exact ⟨by simp [hb], by simp [hb], by simp [hb], fun _ => hleaf, hchildren⟩
    · rw [hb]
      refine ⟨?_, fun hn => ⟨nofun, hn.children⟩⟩
      rintro ⟨-, hchildren⟩
      exact ⟨by simp [hb], by simp [hb], by simp [hb], by simp [hb], hchildren⟩

end

end

section

variable [External] [Library] {S : Suite} {setup : S.ServerSetup} {rng : S.Coins} {out : Outside}
  {ldapInfo : LdapInfo} {userInfo : Option ValidationResults} {request : LdapSearchRequest}
  {w : World}

/-- The condition of `Nests` for a session, with the requests that are answered without a session. -/
structure SearchNests (setup : S.ServerSetup) (rng : S.Coins) (out : Outside) (ldapInfo : LdapInfo)
    (userInfo : Option ValidationResults) (request : LdapSearchRequest) (w : World) : Prop where
  notDse : isRootDseRequest (request.withScope .base) = false
  subschema : isSubschemaEntryRequest (request.withScope .subtree) = true →
    ∀ v dnParts, userInfo = some v → parseDistinguishedName request.base = .ok dnParts →
      OnlySubschemaBelow (listerOf setup rng out v) ldapInfo request (Sql.getAllowedOus w.db) dnParts
        w (getSearchScope ldapInfo.baseDn dnParts .oneLevel (Sql.getAllowedOus w.db))
  bound : isSubschemaEntryRequest (request.withScope .subtree) = false →
    ∀ v dnParts, userInfo = some v → parseDistinguishedName request.base = .ok dnParts →
      Nests (listerOf setup rng out v) ldapInfo request (Sql.getAllowedOus w.db) dnParts w

theorem entriesIn_doBoundSearch_of_error {err : LdapError}
    (h : parseDistinguishedName request.base = .error err) :
    entriesIn (doBoundSearch (sqlServices S setup rng out) ldapInfo userInfo request w).1 = [] := by
  cases userInfo with
  | none => rfl
  | some v =>
    rw [doBoundSearch_fst, doSearch, h]
    rfl

theorem bound_subschema_iff :
    (∀ e ∈ entriesIn (doBoundSearch (sqlServices S setup rng out) ldapInfo userInfo
        (request.withScope .oneLevel) w).1, e = makeLdapSubschemaEntry ldapInfo.baseDnStr) ↔
      ∀ v dnParts, userInfo = some v → parseDistinguishedName request.base = .ok dnParts →
        OnlySubschemaBelow (listerOf setup rng out v) ldapInfo request (Sql.getAllowedOus w.db)
          dnParts w (getSearchScope ldapInfo.baseDn dnParts .oneLevel (Sql.getAllowedOus w.db)) := by
  cases userInfo with
  | none => exact iff_of_true (fun e he => by cases he) fun v _ hv => by cases hv
  | some v =>
    cases hparse : parseDistinguishedName request.base with
    | error err =>
      have hnone : entriesIn (doBoundSearch (sqlServices S setup rng out) ldapInfo (some v)
          (request.withScope .oneLevel) w).1 = [] := entriesIn_doBoundSearch_of_error hparse
      rw [hnone]
      exact iff_of_true (fun e he => by cases he) fun _ _ _ h => by cases h
    | ok dnParts =>
      simp only [doBoundSearch_fst]
      rw [oneLevel_subschema_iff listerOf_readsOnly hparse]
      simp

omit [External] [Library] in
theorem isRootDseRequest_withScope {scope : LdapSearchScope} (h : scope ≠ .base) :
    isRootDseRequest (request.withScope scope) = false := by
  simp [isRootDseRequest, h]

omit [External] [Library] in
theorem isSubschemaEntryRequest_base :
    isSubschemaEntryRequest (request.withScope .base) =
      isSubschemaEntryRequest (request.withScope .subtree) := by
  simp [isSubschemaEntryRequest, LdapSearchRequest.withScope]

omit [External] [Library] in
theorem isSubschemaEntryRequest_oneLevel :
    isSubschemaEntryRequest (request.withScope .oneLevel) = false := by
  simp [isSubschemaEntryRequest]

/-- The entries of the searches with the scopes `base` and `oneLevel` are among those of `subtree`
exactly under the condition above. -/
theorem nests_iff :
    (∀ e, e ∈ entriesIn (doSearchOrDse (sqlServices S setup rng out) ldapInfo userInfo
          (request.withScope .base) w).1 ∨
        e ∈ entriesIn (doSearchOrDse (sqlServices S setup rng out) ldapInfo userInfo
          (request.withScope .oneLevel) w).1 →
      e ∈ entriesIn (doSearchOrDse (sqlServices S setup rng out) ldapInfo userInfo
        (request.withScope .subtree) w).1) ↔
      SearchNests setup rng out ldapInfo userInfo request w := by
  have hone : doSearchOrDse (sqlServices S setup rng out) ldapInfo userInfo
      (request.withScope .oneLevel) = doBoundSearch (sqlServices S setup rng out) ldapInfo userInfo
        (request.withScope .oneLevel) := by
    rw [doSearchOrDse, isRootDseRequest_withScope (by decide), isSubschemaEntryRequest_oneLevel]
    rfl
  have hsub : doSearchOrDse (sqlServices S setup rng out) ldapInfo userInfo
      (request.withScope .subtree) =
        if isSubschemaEntryRequest (request.withScope .subtree) then
          pure (found [makeLdapSubschemaEntry ldapInfo.baseDnStr])
        else doBoundSearch (sqlServices S setup rng out) ldapInfo userInfo
          (request.withScope .subtree) := by
    rw [doSearchOrDse, isRootDseRequest_withScope (by decide)]
    rfl
  rw [hone, hsub]
  cases hdse : isRootDseRequest (request.withScope .base) with
  | true =>
    refine iff_of_false (fun hall => ?_) fun hn => Bool.noConfusion (hdse.symm.trans hn.notDse)
    have hempty : request.base = "" := by
      simp only [isRootDseRequest, withScope_base, Bool.and_eq_true] at hdse
      exact of_decide_eq_true hdse.1.1
    have hschema : isSubschemaEntryRequest (request.withScope .subtree) = false := by
      rw [isSubschemaEntryRequest, withScope_base, hempty]
      rfl
    have hmem : rootDseResponse ldapInfo.baseDnStr ∈ entriesIn (doSearchOrDse
        (sqlServices S setup rng out) ldapInfo userInfo (request.withScope .base) w).1 := by
      rw [doSearchOrDse, hdse]
      exact List.mem_singleton.mpr rfl
    have hnone := hall _ (.inl hmem)
    rw [hschema] at hnone
    have herr : parseDistinguishedName (request.withScope .subtree).base =
        .error ⟨.invalidDNSyntax, "Missing DN value"⟩ := by
      rw [withScope_base, hempty]
      rfl
    simp [entriesIn_doBoundSearch_of_error herr] at hnone
  | false =>
    have hbase : doSearchOrDse (sqlServices S setup rng out) ldapInfo userInfo
        (request.withScope .base) =
          if isSubschemaEntryRequest (request.withScope .subtree) then
            pure (found [makeLdapSubschemaEntry ldapInfo.baseDnStr])
          else doBoundSearch (sqlServices S setup rng out) ldapInfo userInfo
            (request.withScope .base) := by
      rw [doSearchOrDse, hdse, isSubschemaEntryRequest_base]
      rfl
    rw [hbase]
    cases hschema : isSubschemaEntryRequest (request.withScope .subtree) with
    | true =>
      have hlist : ∀ e : LdapSearchResultEntry, e ∈ entriesIn
          ((pure (found [makeLdapSubschemaEntry ldapInfo.baseDnStr]) :
            Eff World Failure (List LdapOp)) w).1 ↔ e = makeLdapSubschemaEntry ldapInfo.baseDnStr :=
        fun e => List.mem_singleton
      simp only [if_true, hlist]
      constructor
      · intro hall
        exact ⟨hdse, fun _ => bound_subschema_iff.mp fun e he => hall e (.inr he),
          fun hfalse => by simp [hschema] at hfalse⟩
      · rintro hn e (rfl | he)
        · rfl
        · exact bound_subschema_iff.mpr (hn.subschema hschema) e he
    | false =>
      simp only [Bool.false_eq_true, if_false]
      have hcond : SearchNests setup rng out ldapInfo userInfo request w ↔
          ∀ v dnParts, userInfo = some v → parseDistinguishedName request.base = .ok dnParts →
            Nests (listerOf setup rng out v) ldapInfo request (Sql.getAllowedOus w.db) dnParts w :=
        ⟨fun hn => hn.bound hschema,
          fun hb => ⟨hdse, fun htrue => by simp [hschema] at htrue, fun _ => hb⟩⟩
      rw [hcond]
      cases userInfo with
      | none => exact iff_of_true (fun e he => by rcases he with he | he <;> cases he) nofun
      | some v =>
        cases hparse : parseDistinguishedName request.base with
        | error err =>
          have hnone : ∀ scope, entriesIn (doBoundSearch (sqlServices S setup rng out) ldapInfo
              (some v) (request.withScope scope) w).1 = [] :=
            fun _ => entriesIn_doBoundSearch_of_error hparse
          refine iff_of_true (fun e he => ?_) nofun
          simp [hnone] at he
        | ok dnParts =>
          simp only [doBoundSearch_fst]
          rw [doSearch_nests_iff listerOf_readsOnly hparse]
          simp

end

/-- The directory of `alice` with the default organizational units. -/
def unitStore : Store :=
  { teamStore [] with systemConfig := .single ⟨"allowedous", "default"⟩ }

def namesAt (base : String) (scope : LdapSearchScope) : LdapSearchRequest :=
  { everything with base := base, scope := scope }

open Plain in
/-- A container is not found by `subtree` at itself. -/
theorem subtree_omits_its_base :
    ∃ e ∈ entriesIn (searchByAlice (namesAt "ou=people,dc=example,dc=com" .base) unitStore),
      e ∉ entriesIn (searchByAlice (namesAt "ou=people,dc=example,dc=com" .subtree) unitStore) := by
  refine ⟨makeOuEntry "people" ldapInfo.baseDnStr false, ?_, ?_⟩
  · decide +kernel
  · decide +kernel

end Ldap
end Klldap
