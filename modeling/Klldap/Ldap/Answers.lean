import Klldap.Ldap.Search

/-!
# Klldap.Ldap.Answers: what a search answers

A search only reads, so its answer is made of the answers of its parts in one and the same state.
-/

namespace Klldap
namespace Ldap

open Lib (Eff except_bind_ok)
open Lib.Eff (Keeps)
open Opaque (Suite)

variable [External] [Library]

section

variable {S : Suite} {σ : Type} {backend : UserRestrictedLister S σ} {ldapInfo : LdapInfo}
  {request : LdapSearchRequest}

/-- The listings of a backend only read. -/
structure ReadsOnly (backend : UserRestrictedLister S σ) : Prop where
  users : ∀ filters getGroups, Keeps (backend.listUsers filters getGroups)
  groups : ∀ filters, Keeps (backend.listGroups filters)

variable (h : ReadsOnly backend)

include h

theorem ReadsOnly.getUserList (schema : Schema) (filter : LdapFilter) (requestGroups : Bool)
    (base : String) :
    Keeps (getUserList ldapInfo schema backend.listUsers filter requestGroups base) :=
  Lib.Eff.Frames.bind (Keeps.lift _) fun _ => (h.users _ _).mapErr

theorem ReadsOnly.getGroupsList (schema : Schema) (filter : LdapFilter) (base : String) :
    Keeps (getGroupsList ldapInfo schema backend.listGroups filter base) :=
  Lib.Eff.Frames.bind (Keeps.lift _) fun _ => (h.groups _).mapErr

theorem ReadsOnly.foundUsers : Keeps (foundUsers backend ldapInfo request) :=
  Lib.Eff.Frames.bind (h.getUserList _ _ _ _) fun _ => Keeps.lift _

theorem ReadsOnly.foundGroups : Keeps (foundGroups backend ldapInfo request) :=
  Lib.Eff.Frames.bind (h.getGroupsList _ _ _) fun _ => Keeps.lift _

theorem foundUsers_fst (s : σ) : (foundUsers backend ldapInfo request s).1 = (do
    let users ← (getUserList ldapInfo PublicSchema.get backend.listUsers request.filter true
      request.base s).1
    (convertUsersToLdapOp ldapInfo PublicSchema.get users request.attrs).mapError .panicked) := by
  rw [foundUsers, (h.getUserList _ _ _ _).bind_fst]
  rfl

theorem foundGroups_fst (s : σ) : (foundGroups backend ldapInfo request s).1 = (do
    let groups ← (getGroupsList ldapInfo PublicSchema.get backend.listGroups request.filter
      request.base s).1
    (convertGroupsToLdapOp ldapInfo PublicSchema.get groups request.attrs none).mapError
      .panicked) := by
  rw [foundGroups, (h.getGroupsList _ _ _).bind_fst]
  rfl

theorem searchRoot_fst (allowedOus : List String) (s : σ) :
    (searchRoot backend ldapInfo request allowedOus s).1 =
      let ous := if request.scope = .subtree then allowedOus else getDirectChildOus "" allowedOus
      let ouEntries := buildOuEntries (ous.filter fun ou => ouMatchesFilter ou request.filter)
        ldapInfo.baseDnStr (includeOp request.attrs)
      if request.scope = .base then .ok (found [rootEntry ldapInfo])
      else if request.scope = .subtree then do
        let users ← (foundUsers backend ldapInfo request s).1
        let groups ← (foundGroups backend ldapInfo request s).1
        .ok (found (ouEntries ++ users ++ groups))
      else .ok (found ouEntries) := by
  unfold searchRoot
  split
  · rfl
  · dsimp only
    split
    · rw [h.foundUsers.bind_fst]
      simp only [h.foundGroups.bind_fst]
      rfl
    · rfl

theorem searchContainer_fst (allowedOus : List String) (dnParts : List Rdn) (s : σ) :
    (searchContainer backend ldapInfo request allowedOus dnParts s).1 =
      let internalOu := getInternalOuFromDnParts dnParts
      let ouEntries (ous : List String) := buildOuEntries
        (ous.filter fun ou => ouMatchesFilter ou request.filter) ldapInfo.baseDnStr
        (includeOp request.attrs)
      if request.scope = .base then .ok (found (ouEntries [internalOu]))
      else (do
        let users ← (foundUsers backend ldapInfo request s).1
        let groups ← (foundGroups backend ldapInfo request s).1
        .ok (found (ouEntries (ousBelow internalOu request.scope allowedOus) ++
          users.filter (underBase request dnParts) ++ groups.filter (underBase request dnParts)))) := by
  unfold searchContainer
  dsimp only
  split
  · rfl
  · rw [h.foundUsers.bind_fst]
    simp only [h.foundGroups.bind_fst]
    rfl

theorem searchUser_fst (s : σ) :
    (searchUser backend ldapInfo request s).1 =
      match getUserIdFromDistinguishedName request.base ldapInfo.baseDn ldapInfo.baseDnStr with
      | .error _ => .ok [makeSearchSuccess]
      | .ok userId => (do
        let existing ← (getUserList ldapInfo PublicSchema.get backend.listUsers
          (.equality "uid" userId.asStr) true request.base s).1
        if existing.isEmpty then .error noSuchObject
        else (do
          let users ← (foundUsers backend ldapInfo request s).1
          .ok (found (users.filter (isAtBase request))))) := by
  unfold searchUser
  cases getUserIdFromDistinguishedName request.base ldapInfo.baseDn ldapInfo.baseDnStr with
  | error e => rfl
  | ok name =>
    dsimp only
    rw [(h.getUserList _ _ _ _).bind_fst]
    congr 1
    funext existing
    split
    · rfl
    · rw [h.foundUsers.bind_fst]
      rfl

theorem searchGroup_fst (s : σ) :
    (searchGroup backend ldapInfo request s).1 =
      match getGroupIdFromDistinguishedName request.base ldapInfo.baseDn ldapInfo.baseDnStr with
      | .error _ => .ok [makeSearchSuccess]
      | .ok groupName => (do
        let existing ← (getGroupsList ldapInfo PublicSchema.get backend.listGroups
          (.equality (getSchemaManager.getCanonicalName "cn") groupName.raw) request.base s).1
        if existing.isEmpty then .error noSuchObject
        else (do
          let groups ← (foundGroups backend ldapInfo request s).1
          .ok (found (groups.filter (isAtBase request))))) := by
  unfold searchGroup
  cases getGroupIdFromDistinguishedName request.base ldapInfo.baseDn ldapInfo.baseDnStr with
  | error e => rfl
  | ok name =>
    dsimp only
    rw [(h.getGroupsList _ _ _).bind_fst]
    congr 1
    funext existing
    split
    · rfl
    · rw [h.foundGroups.bind_fst]
      rfl

end

/-! ## Entries -/

section

variable {ldapInfo : LdapInfo} {request : LdapSearchRequest}

omit [External] [Library] in
theorem mem_found {es : List LdapSearchResultEntry} {e : LdapSearchResultEntry} :
    LdapOp.searchResultEntry e ∈ found es ↔ e ∈ es := by
  simp [found, makeSearchSuccess, makeSearchError]

def entriesOf (ops : List LdapOp) : List LdapSearchResultEntry :=
  ops.filterMap fun op =>
    match op with
    | .searchResultEntry e => some e
    | _ => none

omit [External] [Library] in
theorem mem_entriesOf {ops : List LdapOp} {e : LdapSearchResultEntry} :
    e ∈ entriesOf ops ↔ LdapOp.searchResultEntry e ∈ ops := by
  simp only [entriesOf, List.mem_filterMap]
  constructor
  · rintro ⟨op, hop, he⟩
    split at he
    · cases he
      exact hop
    · cases he
  · exact fun he => ⟨_, he, rfl⟩

omit [External] [Library] in
@[simp] theorem entriesOf_found (es : List LdapSearchResultEntry) : entriesOf (found es) = es := by
  have hmap : ∀ es : List LdapSearchResultEntry, entriesOf (es.map .searchResultEntry) = es := by
    intro es
    induction es with
    | nil => rfl
    | cons e es ih => exact congrArg (e :: ·) ih
  rw [found, entriesOf, List.filterMap_append]
  exact (congrArg (· ++ []) (hmap es)).trans (List.append_nil es)

/-- An entry that stands for no row: the root or an organizational unit. -/
def IsMadeUp (ldapInfo : LdapInfo) (request : LdapSearchRequest) (e : LdapSearchResultEntry) : Prop :=
  e = rootEntry ldapInfo ∨
    ∃ ou, e = makeOuEntry ou ldapInfo.baseDnStr (includeOp request.attrs)

omit [External] in
theorem isMadeUp_of_mem {ous : List String} {e : LdapSearchResultEntry}
    (he : e ∈ buildOuEntries ous ldapInfo.baseDnStr (includeOp request.attrs)) :
    IsMadeUp ldapInfo request e := by
  obtain ⟨ou, -, rfl⟩ := List.mem_map.mp he
  exact .inr ⟨ou, rfl⟩

variable {S : Suite} {σ : Type} {backend : UserRestrictedLister S σ}

/-- Where an entry of a search in state `s` comes from. -/
def Originates (backend : UserRestrictedLister S σ) (ldapInfo : LdapInfo)
    (request : LdapSearchRequest) (s : σ) (e : LdapSearchResultEntry) : Prop :=
  IsMadeUp ldapInfo request e ∨
    (∃ users, (foundUsers backend ldapInfo request s).1 = .ok users ∧ e ∈ users) ∨
    ∃ groups, (foundGroups backend ldapInfo request s).1 = .ok groups ∧ e ∈ groups

theorem searchRoot_entries (h : ReadsOnly backend) {allowedOus : List String} {s : σ}
    {ops : List LdapOp} (hs : (searchRoot backend ldapInfo request allowedOus s).1 = .ok ops) :
    ∃ es, ops = found es ∧ ∀ e ∈ es, Originates backend ldapInfo request s e := by
  rw [searchRoot_fst h] at hs
  dsimp only at hs
  split at hs
  · cases hs
    refine ⟨_, rfl, fun e he => .inl (.inl ?_)⟩
    exact List.mem_singleton.mp he
  · split at hs
    · obtain ⟨users, hu, hs⟩ := except_bind_ok.mp hs
      obtain ⟨groups, hg, hs⟩ := except_bind_ok.mp hs
      cases hs
      refine ⟨_, rfl, fun e he => ?_⟩
      rcases List.mem_append.mp he with he | he
      · rcases List.mem_append.mp he with he | he
        · exact .inl (isMadeUp_of_mem he)
        · exact .inr (.inl ⟨users, hu, he⟩)
      · exact .inr (.inr ⟨groups, hg, he⟩)
    · cases hs
      exact ⟨_, rfl, fun e he => .inl (isMadeUp_of_mem he)⟩

theorem searchContainer_entries (h : ReadsOnly backend) {allowedOus : List String}
    {dnParts : List Rdn} {s : σ} {ops : List LdapOp}
    (hs : (searchContainer backend ldapInfo request allowedOus dnParts s).1 = .ok ops) :
    ∃ es, ops = found es ∧ ∀ e ∈ es, Originates backend ldapInfo request s e := by
  rw [searchContainer_fst h] at hs
  dsimp only at hs
  split at hs
  · cases hs
    exact ⟨_, rfl, fun e he => .inl (isMadeUp_of_mem he)⟩
  · obtain ⟨users, hu, hs⟩ := except_bind_ok.mp hs
    obtain ⟨groups, hg, hs⟩ := except_bind_ok.mp hs
    cases hs
    refine ⟨_, rfl, fun e he => ?_⟩
    rcases List.mem_append.mp he with he | he
    · rcases List.mem_append.mp he with he | he
      · exact .inl (isMadeUp_of_mem he)
      · exact .inr (.inl ⟨users, hu, List.mem_of_mem_filter he⟩)
    · exact .inr (.inr ⟨groups, hg, List.mem_of_mem_filter he⟩)

theorem searchUser_entries (h : ReadsOnly backend) {s : σ} {ops : List LdapOp}
    (hs : (searchUser backend ldapInfo request s).1 = .ok ops) :
    ∃ es, ops = found es ∧ ∀ e ∈ es, Originates backend ldapInfo request s e := by
  rw [searchUser_fst h] at hs
  split at hs
  · cases hs
    exact ⟨[], rfl, by simp⟩
  · obtain ⟨existing, -, hs⟩ := except_bind_ok.mp hs
    split at hs
    · cases hs
    · obtain ⟨users, hu, hs⟩ := except_bind_ok.mp hs
      cases hs
      exact ⟨_, rfl, fun e he => .inr (.inl ⟨users, hu, List.mem_of_mem_filter he⟩)⟩

theorem searchGroup_entries (h : ReadsOnly backend) {s : σ} {ops : List LdapOp}
    (hs : (searchGroup backend ldapInfo request s).1 = .ok ops) :
    ∃ es, ops = found es ∧ ∀ e ∈ es, Originates backend ldapInfo request s e := by
  rw [searchGroup_fst h] at hs
  split at hs
  · cases hs
    exact ⟨[], rfl, by simp⟩
  · obtain ⟨existing, -, hs⟩ := except_bind_ok.mp hs
    split at hs
    · cases hs
    · obtain ⟨groups, hg, hs⟩ := except_bind_ok.mp hs
      cases hs
      exact ⟨_, rfl, fun e he => .inr (.inr ⟨groups, hg, List.mem_of_mem_filter he⟩)⟩

theorem doSearch_entries (h : ReadsOnly backend) {allowedOus : List String} {s : σ}
    {ops : List LdapOp} (hs : (doSearch backend ldapInfo request allowedOus s).1 = .ok ops) :
    ∃ es, ops = found es ∧ ∀ e ∈ es, Originates backend ldapInfo request s e := by
  unfold doSearch at hs
  cases hparse : parseDistinguishedName request.base with
  | error e =>
    rw [hparse] at hs
    cases hs
    exact ⟨[], rfl, by simp⟩
  | ok dnParts =>
    rw [hparse] at hs
    dsimp only at hs
    cases hscope : getSearchScope ldapInfo.baseDn dnParts request.scope allowedOus with
    | root =>
      rw [hscope] at hs
      exact searchRoot_entries h hs
    | container =>
      rw [hscope] at hs
      exact searchContainer_entries h hs
    | leafUser =>
      rw [hscope] at hs
      exact searchUser_entries h hs
    | leafGroup =>
      rw [hscope] at hs
      exact searchGroup_entries h hs
    | invalid | unknown =>
      rw [hscope] at hs
      cases hs
      exact ⟨[], rfl, by simp⟩

end

section

variable {S : Suite} {setup : S.ServerSetup} {rng : S.Coins} {out : Outside}
  {ldapInfo : LdapInfo} {v : ValidationResults} {request : LdapSearchRequest} {w : World}

abbrev listerOf (setup : S.ServerSetup) (rng : S.Coins) (out : Outside) (v : ValidationResults) :
    UserRestrictedLister S World :=
  getUserRestrictedListerHandler (sqlServices S setup rng out) v

omit [Library] in
theorem listerOf_readsOnly : ReadsOnly (listerOf setup rng out v) where
  users _ _ := onDb_query_keeps _
  groups _ := onDb_query_keeps _

theorem getUserList_fst (filter : LdapFilter) (base : String) :
    (getUserList ldapInfo PublicSchema.get (listerOf setup rng out v).listUsers filter true base
      w).1 = (do
    let f ← (convertUserFilter ldapInfo PublicSchema.get filter).mapError .ldap
    (Sql.listUsers ((listerOf setup rng out v).userFilters (some f)) true w.db).mapError
      (Failure.ofDomain fun e =>
        ⟨.other, "Error while searching user " ++ quoted base ++ ": " ++ e.display⟩)) := by
  rw [getUserList, liftLdap, (Keeps.lift _).bind_fst]
  rfl

theorem getGroupsList_fst (filter : LdapFilter) (base : String) :
    (getGroupsList ldapInfo PublicSchema.get (listerOf setup rng out v).listGroups filter base
      w).1 = (do
    let f ← (convertGroupFilter ldapInfo PublicSchema.get filter).mapError .ldap
    (Sql.listGroups ((listerOf setup rng out v).groupFilters (some f)) w.db).mapError
      (Failure.ofDomain fun e =>
        ⟨.other, "Error while listing groups " ++ quoted base ++ ": " ++ e.display⟩)) := by
  rw [getGroupsList, liftLdap, (Keeps.lift _).bind_fst]
  rfl

theorem doBoundSearch_fst : (doBoundSearch (sqlServices S setup rng out) ldapInfo (some v) request w).1 =
    (doSearch (listerOf setup rng out v) ldapInfo request (Sql.getAllowedOus w.db) w).1 := rfl

end

end Ldap
end Klldap
