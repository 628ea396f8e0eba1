import Klldap.Sql.User

/-!
# Klldap.Sql.Own: listings for one user

What the listings read when they are asked for one user only, as `And [f, UserId u]`, or for the
groups of one user, as `And [f, Member u]`.
-/

namespace Klldap
namespace Sql

open Lib (Bytes Trool except_bind_ok)

variable [External]

/-- The row of a user, its groups and the attributes of both, with what everybody may know. -/
structure OwnView where
  user : Option UserRow
  userAttributes : List UserAttributeRow
  groups : List GroupRow
  groupAttributes : List GroupAttributeRow
  schema : Except DomainError Schema
  allowedOus : List String

def ownView (u : UserId) (db : Store) : OwnView where
  user := db.users.find? u
  userAttributes := db.userAttributes.rows.filter fun a => a.userId = u
  groups := db.groupsOf u
  groupAttributes := db.groupAttributes.rows.filter fun a =>
    (db.groupsOf u).any fun g => g.groupId = a.groupId
  schema := getSchema db
  allowedOus := getAllowedOus db

/-! ## Users -/

section

variable {u : UserId} {db db' : Store}

theorem inGroup_own (p : GroupRow → Bool) {r : UserRow} (hr : r.userId = u) :
    inGroup p db r = .ofBool ((ownView u db).groups.any p) := by
  simp only [inGroup, ownView, Store.groupsOf, List.any_filter, hr, Bool.and_comm]

theorem hasUserAttribute_own (name : AttributeName) (p : Bytes → Bool) {r : UserRow}
    (hr : r.userId = u) :
    hasUserAttribute name p db r =
      .ofBool ((ownView u db).userAttributes.any fun a => a.attributeName = name && p a.value) := by
  simp only [hasUserAttribute, ownView, List.any_filter, hr, Bool.and_assoc]

mutual

theorem userCond_own (h : ownView u db = ownView u db') {r : UserRow} (hr : r.userId = u) :
    ∀ {f : UserRequestFilter} {c : UserCond}, getUserFilterExpr f = .ok c → c db r = c db' r
  | .true, _, hc | .false, _, hc | .userId _, _, hc | .userIdSubString _, _, hc
  | .subString _ _, _, hc => by
    cases hc
    rfl
  | .and fs, _, hc | .or fs, _, hc => by
    obtain ⟨cs, hcs, hc⟩ := except_bind_ok.mp hc
    cases hc
    simp only [userConds_own h hr hcs]
  | .not f, _, hc => by
    obtain ⟨c, hcf, hc⟩ := except_bind_ok.mp hc
    cases hc
    simp only [userCond_own h hr hcf]
  | .equality column value, _, hc | .greaterOrEqual column value, _, hc
  | .lessOrEqual column value, _, hc => by
    simp only [getUserFilterExpr] at hc
    split at hc <;> (try split at hc) <;> cases hc <;> rfl
  | .attributeEquality _ _, _, hc | .customAttributePresent _, _, hc
  | .attributeSubString _ _, _, hc => by
    cases hc
    simp only [attributeCondition, hasUserAttribute_own _ _ hr, h]
  | .memberOf _, _, hc | .memberOfId _, _, hc => by
    cases hc
    simp only [inGroup_own _ hr, h]
  | .attributeGreaterOrEqual _ _, _, hc | .attributeLessOrEqual _ _, _, hc => nomatch hc

theorem userConds_own (h : ownView u db = ownView u db') {r : UserRow} (hr : r.userId = u) :
    ∀ {fs : List UserRequestFilter} {cs : List UserCond}, getUserFilterExprs fs = .ok cs →
      (cs.map fun c => c db r) = cs.map fun c => c db' r
  | [], _, hcs => by
    cases hcs
    rfl
  | f :: fs, _, hcs => by
    obtain ⟨c, cs, hc, hcs', rfl⟩ := getUserFilterExprs_cons hcs
    simp only [List.map_cons, userCond_own h hr hc, userConds_own h hr hcs']

end

theorem getUserFilterExpr_and (f : UserRequestFilter) (u : UserId) :
    getUserFilterExpr (.and [f, .userId u]) =
      getUserFilterExpr f >>= fun c => .ok fun db r => .all [c db r, .ofBool (r.userId = u)] := by
  simp only [getUserFilterExpr, getUserFilterExprs]
  cases getUserFilterExpr f with
  | ok c => rfl
  | error e => cases e <;> rfl

def listOwnUser (u : UserId) (c : UserCond) (db : Store) :
    Except DomainError (List UserAndGroups) := do
  let schema ← getSchema db
  match (db.users.find? u).filter fun r => (c db r).holds with
  | none => .ok []
  | some r => do
    let user ← readUser schema r (orderBy (fun a => toLex (a.userId.asStr, a.attributeName.asStr))
      (db.userAttributes.rows.filter fun a => a.userId = u))
    .ok [⟨user, some ((orderBy (fun g => g.displayName.raw) (db.groupsOf u)).map
      GroupRow.toGroupDetails)⟩]

theorem listUsers_and_userId (f : UserRequestFilter) (u : UserId) (getGroups : Bool) (db : Store) :
    listUsers (some (.and [f, .userId u])) getGroups db =
      getUserFilterExpr f >>= fun c => listOwnUser u c db := by
  simp only [listUsers, userCondition, getUserFilterExpr_and]
  cases hc : getUserFilterExpr f with
  | error e => rfl
  | ok c =>
    have hrows : (db.users.rows.filter fun r =>
          (Trool.all [c db r, .ofBool (decide (r.userId = u))]).holds) =
        ((db.users.find? u).filter fun r => (c db r).holds).toList := by
      rw [← db.users.filter_key]
      simp [Trool.all]
    simp only [bind, Except.bind, hrows, listOwnUser]
    cases getSchema db with
    | error e => rfl
    | ok schema =>
      cases hr : (db.users.find? u).filter fun r => (c db r).holds with
      | none => rfl
      | some r =>
        have hu : r.userId = u := Lib.Table.key_of_find? (Option.filter_eq_some_iff.mp hr).1
        have hsort : orderBy (fun r : UserRow => r.userId.asStr) (some r).toList = [r] := rfl
        have hown : (db.userAttributes.rows.filter fun a => [r].any fun r => r.userId = a.userId) =
            db.userAttributes.rows.filter fun a => a.userId = u := by
          simp [hu, eq_comm]
        rw [hsort, hown, takeRows_singleton (by simp [hu])]
        simp only [List.mapM_cons, List.mapM_nil, bind, Except.bind, hu]
        cases readUser schema r _ <;> rfl

theorem mem_listOwnUser {c : UserCond} {users : List UserAndGroups} {x : UserAndGroups}
    (h : listOwnUser u c db = .ok users) (hx : x ∈ users) :
    getUserDetails u db = .ok x.user := by
  obtain ⟨schema, hschema, h⟩ := except_bind_ok.mp h
  cases hr : (db.users.find? u).filter fun r => (c db r).holds with
  | none =>
    rw [hr] at h
    cases h
    cases hx
  | some r =>
    rw [hr] at h
    obtain ⟨user, huser, h⟩ := except_bind_ok.mp h
    cases h
    cases List.mem_singleton.mp hx
    have hfind : db.users.find? u = some r := (Option.filter_eq_some_iff.mp hr).1
    have hsort : orderBy (fun a : UserAttributeRow => toLex (a.userId.asStr, a.attributeName.asStr))
        (db.userAttributes.rows.filter fun a => a.userId = u) =
        orderBy (fun a => a.attributeName.asStr)
          (db.userAttributes.rows.filter fun a => a.userId = u) := by
      refine orderBy_congr fun a ha b hb => ?_
      have hau : a.userId = u := by simpa using (List.mem_filter.mp ha).2
      have hbu : b.userId = u := by simpa using (List.mem_filter.mp hb).2
      simp [Prod.Lex.toLex_le_toLex, hau, hbu]
    rw [hsort] at huser
    simp [getUserDetails, hfind, hschema, huser, bind, Except.bind]

theorem listOwnUser_own (h : ownView u db = ownView u db') {f : UserRequestFilter} {c : UserCond}
    (hc : getUserFilterExpr f = .ok c) : listOwnUser u c db = listOwnUser u c db' := by
  obtain ⟨huser, hattrs, hgroups, -, hschema, -⟩ := OwnView.mk.injEq .. ▸ h
  have hrow : ((db.users.find? u).filter fun r => (c db r).holds) =
      (db'.users.find? u).filter fun r => (c db' r).holds := by
    rw [← huser]
    cases hr : db.users.find? u with
    | none => rfl
    | some r => simp only [Option.filter, userCond_own h (Lib.Table.key_of_find? hr) hc]
  simp only [listOwnUser, hrow, hschema, hattrs, hgroups]

/-! ## Groups -/

mutual

/-- No leaf of the filter asks whether somebody other than `u` is a member. -/
def asksOnlyFor (u : UserId) : GroupRequestFilter → Bool
  | .and fs | .or fs => allAskOnlyFor u fs
  | .not f => asksOnlyFor u f
  | .member v => v = u
  | _ => true

def allAskOnlyFor (u : UserId) : List GroupRequestFilter → Bool
  | [] => true
  | f :: fs => asksOnlyFor u f && allAskOnlyFor u fs

end

theorem mem_ownGroups {g : GroupRow} (hg : g ∈ (ownView u db).groups) :
    db.isMember u g.groupId = true :=
  (List.mem_filter.mp hg).2

theorem hasGroupAttribute_own (name : AttributeName) (p : Bytes → Bool) {g : GroupRow}
    (hg : g ∈ (ownView u db).groups) :
    hasGroupAttribute name p db g = .ofBool ((ownView u db).groupAttributes.any fun a =>
      a.groupId = g.groupId && a.attributeName = name && p a.value) := by
  have hown : ∀ a : GroupAttributeRow, (decide (a.groupId = g.groupId) = true →
      ((db.groupsOf u).any fun g => decide (g.groupId = a.groupId)) = true) := by
    intro a ha
    exact List.any_eq_true.mpr ⟨g, hg, by simpa [eq_comm] using ha⟩
  simp only [hasGroupAttribute, ownView, List.any_filter]
  congr 2
  funext a
  cases ha : decide (a.groupId = g.groupId) with
  | false => simp
  | true => simp [hown a ha]

mutual

theorem groupCond_own (h : ownView u db = ownView u db') {g : GroupRow}
    (hg : g ∈ (ownView u db).groups) : ∀ {f : GroupRequestFilter}, asksOnlyFor u f = true →
      getGroupFilterExpr f db g = getGroupFilterExpr f db' g
  | .true, _ | .false, _ | .displayName _, _ | .displayNameSubString _, _ | .uuid _, _
  | .groupId _, _ | .greaterOrEqual _ _, _ | .lessOrEqual _ _, _ => rfl
  | .and fs, hf | .or fs, hf => by
    have hfs : allAskOnlyFor u fs = true := hf
    simp only [getGroupFilterExpr, groupConds_own h hg hfs]
  | .not f, hf => by
    simp only [getGroupFilterExpr, groupCond_own h hg (f := f) hf]
  | .member v, hf => by
    have hv : v = u := of_decide_eq_true hf
    simp only [getGroupFilterExpr, hv, mem_ownGroups hg, mem_ownGroups (h ▸ hg)]
  | .attributeEquality _ _, _ | .customAttributePresent _, _ | .attributeGreaterOrEqual _ _, _
  | .attributeLessOrEqual _ _, _ | .attributeSubString _ _, _ => by
    simp only [getGroupFilterExpr, groupAttributeCondition, hasGroupAttribute_own _ _ hg,
      hasGroupAttribute_own _ _ (h ▸ hg), h]

theorem groupConds_own (h : ownView u db = ownView u db') {g : GroupRow}
    (hg : g ∈ (ownView u db).groups) : ∀ {fs : List GroupRequestFilter},
      allAskOnlyFor u fs = true → getGroupFilterExprs fs db g = getGroupFilterExprs fs db' g
  | [], _ => rfl
  | f :: fs, hfs => by
    obtain ⟨hf, hfs⟩ := Bool.and_eq_true_iff.mp hfs
    simp only [getGroupFilterExprs, groupCond_own h hg hf, groupConds_own h hg hfs]

end

def ownGroupRows (u : UserId) (f : GroupRequestFilter) (db : Store) : List GroupRow :=
  (db.groupsOf u).filter fun g => (getGroupFilterExpr f db g).holds

theorem filter_groupSelected_and_member (f : GroupRequestFilter) (u : UserId) (db : Store) :
    db.groups.rows.filter (groupSelected (some (.and [f, .member u])) db) =
      ownGroupRows u f db := by
  simp only [ownGroupRows, Store.groupsOf, List.filter_filter]
  congr 1
  funext g
  simp [groupSelected, getGroupFilterExpr, getGroupFilterExprs, Trool.all]

theorem ownGroupRows_own (h : ownView u db = ownView u db') {f : GroupRequestFilter}
    (hf : db.groupsOf u ≠ [] → asksOnlyFor u f = true) :
    ownGroupRows u f db = ownGroupRows u f db' := by
  have hgroups : db.groupsOf u = db'.groupsOf u := congrArg OwnView.groups h
  rw [ownGroupRows, ownGroupRows, ← hgroups]
  exact List.filter_congr fun g hg => by rw [groupCond_own h hg (hf (List.ne_nil_of_mem hg))]

def withoutMembers (g : Group) : Group := { g with users := [] }

theorem groupAttributes_own (h : ownView u db = ownView u db') {rows : List GroupRow}
    (hrows : ∀ g ∈ rows, g ∈ db.groupsOf u) :
    (db.groupAttributes.rows.filter fun a => rows.any fun g => g.groupId = a.groupId) =
      db'.groupAttributes.rows.filter fun a => rows.any fun g => g.groupId = a.groupId := by
  have hgroups : db.groupsOf u = db'.groupsOf u := congrArg OwnView.groups h
  have hsplit : ∀ l : List GroupAttributeRow,
      (l.filter fun a => rows.any fun g => g.groupId = a.groupId) =
        (l.filter fun a => (db.groupsOf u).any fun g => g.groupId = a.groupId).filter
          fun a => rows.any fun g => g.groupId = a.groupId := by
    intro l
    rw [List.filter_filter]
    refine List.filter_congr fun a _ => ?_
    rw [Bool.eq_iff_iff, Bool.and_eq_true, iff_self_and, List.any_eq_true, List.any_eq_true]
    rintro ⟨g, hg, ha⟩
    exact ⟨g, hrows g hg, ha⟩
  have hattrs := congrArg OwnView.groupAttributes h
  simp only [ownView, ← hgroups] at hattrs
  rw [hsplit, hattrs, ← hsplit]

theorem readGroup_withoutMembers (schema : Schema) (db db' : Store)
    (row : GroupRow × List GroupAttributeRow) :
    (readGroup schema db row).map withoutMembers = (readGroup schema db' row).map withoutMembers := by
  simp only [readGroup]
  cases row.2.mapM (readGroupAttribute schema) <;> rfl

theorem map_withoutMembers_sortGroups (groups : List Group) :
    (sortGroups groups).map withoutMembers = sortGroups (groups.map withoutMembers) :=
  List.map_insertionSort _ _ _ _ fun _ _ _ _ => Iff.rfl

theorem listGroups_own (h : ownView u db = ownView u db') {f : GroupRequestFilter}
    (hf : db.groupsOf u ≠ [] → asksOnlyFor u f = true) :
    (listGroups (some (.and [f, .member u])) db).map (List.map withoutMembers) =
      (listGroups (some (.and [f, .member u])) db').map (List.map withoutMembers) := by
  have hschema : getSchema db = getSchema db' := congrArg OwnView.schema h
  have hsub : ∀ g ∈ orderBy (fun g => g.groupId.val) (ownGroupRows u f db), g ∈ db.groupsOf u :=
    fun g hg => (List.mem_filter.mp (mem_orderBy.mp hg)).1
  have hsorted : ∀ x : Except DomainError (List Group),
      (x >>= fun gs => .ok (sortGroups gs)).map (List.map withoutMembers) =
        (x.map (List.map withoutMembers)).map sortGroups := by
    intro x
    cases x with
    | error e => rfl
    | ok gs => exact congrArg Except.ok (map_withoutMembers_sortGroups gs)
  simp only [listGroups, filter_groupSelected_and_member, ← ownGroupRows_own h hf, ← hschema,
    ← groupAttributes_own h hsub]
  cases getSchema db with
  | error e => rfl
  | ok schema =>
    simp only [bind, Except.bind] at hsorted ⊢
    rw [hsorted, hsorted, Lib.except_map_mapM, Lib.except_map_mapM]
    simp only [readGroup_withoutMembers schema db db']

theorem readUser_userId {schema : Schema} {r : UserRow} {attrs : List UserAttributeRow} {u : User}
    (h : readUser schema r attrs = .ok u) : u.userId = r.userId := by
  obtain ⟨attributes, -, h⟩ := except_bind_ok.mp h
  cases h
  unfold User.materializeProtectedFields
  split
  · split <;> rfl
  · rfl

theorem mem_listUsers {filters : Option UserRequestFilter} {getGroups : Bool}
    {users : List UserAndGroups} {x : UserAndGroups}
    (h : listUsers filters getGroups db = .ok users) (hx : x ∈ users) :
    ∃ row ∈ db.users.rows, x.user.userId = row.userId ∧
      x.groups = some ((orderBy (fun g => g.displayName.raw) (db.groupsOf row.userId)).map
        GroupRow.toGroupDetails) := by
  obtain ⟨cond, -, h⟩ := except_bind_ok.mp h
  obtain ⟨schema, -, h⟩ := except_bind_ok.mp h
  obtain ⟨row, hrow, hread⟩ := Lib.except_mapM_ok h x hx
  obtain ⟨user, huser, hread⟩ := except_bind_ok.mp hread
  cases hread
  obtain ⟨hmem, -⟩ := List.mem_filter.mp (mem_orderBy.mp (takeRows_fst hrow))
  exact ⟨row.1, hmem, readUser_userId huser, rfl⟩

theorem mem_listGroups {filters : Option GroupRequestFilter} {groups : List Group} {g : Group}
    (h : listGroups filters db = .ok groups) (hg : g ∈ groups) :
    ∃ row ∈ db.groups.rows, groupSelected filters db row = true ∧ row.groupId = g.id ∧
      row.displayName = g.displayName ∧ g.users = groupMembers db row.groupId := by
  obtain ⟨schema, -, h⟩ := except_bind_ok.mp h
  obtain ⟨unsorted, hmap, h⟩ := except_bind_ok.mp h
  cases h
  have hg' : g ∈ unsorted := by simpa [sortGroups] using hg
  obtain ⟨row, hrow, hread⟩ := Lib.except_mapM_ok hmap g hg'
  obtain ⟨attributes, -, hread⟩ := except_bind_ok.mp hread
  cases hread
  obtain ⟨hmem, hsel⟩ := List.mem_filter.mp (mem_orderBy.mp (takeRows_fst hrow))
  exact ⟨row.1, hmem, hsel, rfl, rfl, rfl⟩

end

end Sql
end Klldap
