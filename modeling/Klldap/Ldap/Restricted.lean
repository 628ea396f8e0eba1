import Klldap.Ldap.Answers
import Klldap.Plain
import Klldap.Sql.Own

/-!
# Klldap.Ldap.Restricted: searches of unprivileged sessions

A session whose permission is `regular` searches through a lister that adds its own user to every
filter.
-/

namespace Klldap
namespace Ldap

open Lib (Eff except_bind_ok except_mapError_ok)
open Lib.Bincode (utf8)
open Lib.Eff (Keeps)
open Opaque (Suite)

section

variable [External] [Library] {S : Suite} {setup : S.ServerSetup} {rng : S.Coins} {out : Outside}
  {ldapInfo : LdapInfo} {v : ValidationResults} {request : LdapSearchRequest} {w : World}

/-- The entry of a stored user. -/
def IsUserEntry (ldapInfo : LdapInfo) (request : LdapSearchRequest) (db : Store) (u : UserId)
    (e : LdapSearchResultEntry) : Prop :=
  ∃ user groups, Sql.getUserDetails u db = .ok user ∧
    makeLdapSearchUserResultEntry user ldapInfo.baseDnStr
      (getSchemaManager.expandAttributeWildcards request.attrs PublicSchema.get) groups
      ldapInfo.ignoredUserAttributes PublicSchema.get = .ok e

/-- The entry of a stored group. -/
def IsGroupEntry (ldapInfo : LdapInfo) (request : LdapSearchRequest) (db : Store) (row : GroupRow)
    (e : LdapSearchResultEntry) : Prop :=
  ∃ group : Group, group.id = row.groupId ∧ group.displayName = row.displayName ∧
    group.users = Sql.groupMembers db row.groupId ∧
    makeLdapSearchGroupResultEntry group ldapInfo.baseDnStr
      (getSchemaManager.expandAttributeWildcards request.attrs PublicSchema.get) none
      ldapInfo.ignoredGroupAttributes PublicSchema.get = .ok e

omit [Library] in
theorem listerOf_userFilters (hv : v.permission = .regular) (f : UserRequestFilter) :
    (listerOf setup rng out v).userFilters (some f) = some (.and [f, .userId v.user]) := by
  simp [UserRestrictedLister.userFilters, getUserRestrictedListerHandler,
    ValidationResults.canReadAll, hv]

omit [Library] in
theorem listerOf_groupFilters (hv : v.permission = .regular) (f : GroupRequestFilter) :
    (listerOf setup rng out v).groupFilters (some f) = some (.and [f, .member v.user]) := by
  simp [UserRestrictedLister.groupFilters, getUserRestrictedListerHandler,
    ValidationResults.canReadAll, hv]

theorem foundUsers_restricted (hv : v.permission = .regular) {es : List LdapSearchResultEntry}
    (h : (foundUsers (listerOf setup rng out v) ldapInfo request w).1 = .ok es)
    {e : LdapSearchResultEntry} (he : e ∈ es) : IsUserEntry ldapInfo request w.db v.user e := by
  rw [foundUsers_fst listerOf_readsOnly] at h
  obtain ⟨users, husers, h⟩ := except_bind_ok.mp h
  rw [getUserList_fst] at husers
  obtain ⟨f, -, husers⟩ := except_bind_ok.mp husers
  rw [except_mapError_ok, listerOf_userFilters hv, Sql.listUsers_and_userId] at husers
  obtain ⟨c, -, husers⟩ := except_bind_ok.mp husers
  obtain ⟨x, hx, hentry⟩ := Lib.except_mapM_ok (except_mapError_ok.mp h) e he
  exact ⟨x.user, x.groups, Sql.mem_listOwnUser husers hx, hentry⟩

theorem foundGroups_restricted (hv : v.permission = .regular) {es : List LdapSearchResultEntry}
    (h : (foundGroups (listerOf setup rng out v) ldapInfo request w).1 = .ok es)
    {e : LdapSearchResultEntry} (he : e ∈ es) :
    ∃ row ∈ w.db.groupsOf v.user, IsGroupEntry ldapInfo request w.db row e := by
  rw [foundGroups_fst listerOf_readsOnly] at h
  obtain ⟨groups, hgroups, h⟩ := except_bind_ok.mp h
  rw [getGroupsList_fst] at hgroups
  obtain ⟨f, -, hgroups⟩ := except_bind_ok.mp hgroups
  rw [except_mapError_ok, listerOf_groupFilters hv] at hgroups
  obtain ⟨g, hg, hentry⟩ := Lib.except_mapM_ok (except_mapError_ok.mp h) e he
  obtain ⟨row, hrow, hsel, hid, hname, husers⟩ := Sql.mem_listGroups hgroups hg
  have hmember : w.db.isMember v.user row.groupId = true :=
    Sql.getGroupFilterExpr_and_member (by simpa [Sql.groupSelected] using hsel)
  exact ⟨row, List.mem_filter.mpr ⟨hrow, hmember⟩, g, hid.symm, hname.symm, husers, hentry⟩

/-- A session with the permission `regular` is shown its own user and groups that have it as a
member, and nothing else that stands for a row. -/
theorem restricted_entries (hv : v.permission = .regular) {ops : List LdapOp}
    (h : (doSearchOrDse (sqlServices S setup rng out) ldapInfo (some v) request w).1 = .ok ops)
    {e : LdapSearchResultEntry} (he : .searchResultEntry e ∈ ops) :
    e = rootDseResponse ldapInfo.baseDnStr ∨ e = makeLdapSubschemaEntry ldapInfo.baseDnStr ∨
      IsMadeUp ldapInfo request e ∨ IsUserEntry ldapInfo request w.db v.user e ∨
      ∃ row ∈ w.db.groupsOf v.user, IsGroupEntry ldapInfo request w.db row e := by
  unfold doSearchOrDse at h
  split at h
  · cases h
    exact .inl (List.mem_singleton.mp (mem_found.mp he))
  · split at h
    · cases h
      exact .inr (.inl (List.mem_singleton.mp (mem_found.mp he)))
    · rw [doBoundSearch_fst] at h
      obtain ⟨es, rfl, hes⟩ := doSearch_entries listerOf_readsOnly h
      right; right
      rcases hes e (mem_found.mp he) with hmade | ⟨users, husers, hmem⟩ | ⟨groups, hgroups, hmem⟩
      · exact .inl hmade
      · exact .inr (.inl (foundUsers_restricted hv husers hmem))
      · exact .inr (.inr (foundGroups_restricted hv hgroups hmem))

end

/-! ## A directory to search -/

open Plain in
/-- Two users and two groups; `alice` is in the first group only, with the given others. -/
def teamStore (others : List String) : Store :=
  { Store.empty with
    users := ⟨[userRow "alice", userRow "bob"], by decide⟩
    groups := ⟨[groupRow 1 "team", groupRow 2 "staff"], by decide⟩
    memberships := others.foldl (fun t name => t.upsert ⟨UserId.new name, ⟨1⟩⟩)
      ⟨[⟨UserId.new "alice", ⟨1⟩⟩, ⟨UserId.new "bob", ⟨2⟩⟩], by decide⟩ }

open Plain in
def searchByAlice (request : LdapSearchRequest) (db : Store) : Except Failure (List LdapOp) :=
  (doSearchOrDse (sqlServices Opaque.plainSuite () () outside) ldapInfo
    (some ⟨UserId.new "alice", .regular⟩) request (world db)).1

def everything : LdapSearchRequest :=
  ⟨"dc=example,dc=com", .subtree, .present "objectClass", ["cn", "uid"]⟩

def aliceEntry : LdapSearchResultEntry :=
  ⟨"uid=alice,ou=people,dc=example,dc=com", [⟨"uid", [utf8 "alice"]⟩]⟩

def teamEntry : LdapSearchResultEntry :=
  ⟨"cn=team,ou=groups,dc=example,dc=com", [⟨"cn", [utf8 "team"]⟩]⟩

theorem everything_by_alice :
    (searchByAlice everything (teamStore ["bob"])).map entriesOf = .ok [aliceEntry, teamEntry] := by
  decide +kernel

open Plain in
/-- `alice` is shown the group `team`, which is one of its groups, and not `staff` or `bob`. -/
theorem restricted_entries_of_alice :
    ∃ ops, searchByAlice everything (teamStore ["bob"]) = .ok ops ∧ entriesOf ops = [aliceEntry, teamEntry] ∧
      (teamEntry = rootDseResponse ldapInfo.baseDnStr ∨
        teamEntry = makeLdapSubschemaEntry ldapInfo.baseDnStr ∨
        IsMadeUp ldapInfo everything teamEntry ∨
        IsUserEntry ldapInfo everything (teamStore ["bob"]) (UserId.new "alice") teamEntry ∨
        ∃ row ∈ (teamStore ["bob"]).groupsOf (UserId.new "alice"),
          IsGroupEntry ldapInfo everything (teamStore ["bob"]) row teamEntry) := by
  obtain ⟨ops, hops, hentries⟩ := Lib.except_map_ok.mp everything_by_alice
  refine ⟨ops, hops, hentries, restricted_entries rfl hops (mem_entriesOf.mp ?_)⟩
  rw [hentries]
  simp

end Ldap
end Klldap
