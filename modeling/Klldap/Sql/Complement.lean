import Klldap.Plain
import Klldap.Sql.Stored

/-!
# Klldap.Sql.Complement: a filter and its negation

`NOT` of a condition that is `NULL` is `NULL`, so a row for which a filter is `NULL` is listed neither
under the filter nor under its negation.
-/

namespace Klldap
namespace Sql

open Lib (Bytes Trool except_bind_ok)

section

variable [External] {db : Store}

/-! ## Users -/

def columnIsNull (r : UserRow) (column : UserColumn) : Bool :=
  if column = .passwordHash then r.passwordHash.isNone else (columnText r column).isNone

mutual

/-- The filter compares a column that is `NULL` in the row. -/
def comparesNull (r : UserRow) : UserRequestFilter → Bool
  | .and fs | .or fs => eachComparesNull r fs
  | .not f => comparesNull r f
  | .equality column _ | .subString column _ => columnIsNull r column
  | _ => false

def eachComparesNull (r : UserRow) : List UserRequestFilter → Bool
  | [] => false
  | f :: fs => comparesNull r f || eachComparesNull r fs

end

theorem columnCond_ne_unknown {column : UserColumn} {onText : String → Bool} {onBytes : Bytes → Bool}
    {r : UserRow} (h : columnIsNull r column = false) :
    columnCond column onText onBytes r ≠ .unknown := by
  unfold columnIsNull at h
  unfold columnCond
  split_ifs at h ⊢
  · cases hbytes : r.passwordHash with
    | none => simp [hbytes] at h
    | some bytes => exact Trool.ofBool_ne_unknown _
  · cases htext : columnText r column with
    | none => simp [htext] at h
    | some text => exact Trool.ofBool_ne_unknown _

mutual

theorem cond_ne_unknown {r : UserRow} : ∀ {f : UserRequestFilter} {c : UserCond},
    getUserFilterExpr f = .ok c → comparesNull r f = false → c db r ≠ .unknown
  | .true, _, hc, _ | .false, _, hc, _ => by
    cases hc
    exact nofun
  | .userId _, _, hc, _ | .userIdSubString _, _, hc, _ | .attributeEquality _ _, _, hc, _
  | .customAttributePresent _, _, hc, _ | .attributeSubString _ _, _, hc, _ | .memberOf _, _, hc, _
  | .memberOfId _, _, hc, _ => by
    cases hc
    exact Trool.ofBool_ne_unknown _
  | .subString column f, _, hc, hnull => by
    cases hc
    exact columnCond_ne_unknown hnull
  | .equality column value, _, hc, hnull => by
    rw [getUserFilterExpr] at hc
    split_ifs at hc <;> cases hc
    · exact Trool.ofBool_ne_unknown _
    · exact columnCond_ne_unknown hnull
  | .greaterOrEqual column value, _, hc, _ | .lessOrEqual column value, _, hc, _ => by
    rw [getUserFilterExpr] at hc
    split_ifs at hc with hdate
    cases hc
    cases column <;> first | exact Trool.ofBool_ne_unknown _ | cases hdate
  | .and fs, _, hc, hnull => by
    rw [getUserFilterExpr] at hc
    obtain ⟨cs, hcs, hc⟩ := except_bind_ok.mp hc
    cases hc
    exact Trool.all_ne_unknown (conds_ne_unknown hcs hnull)
  | .or fs, _, hc, hnull => by
    rw [getUserFilterExpr] at hc
    obtain ⟨cs, hcs, hc⟩ := except_bind_ok.mp hc
    cases hc
    exact Trool.any_ne_unknown (conds_ne_unknown hcs hnull)
  | .not f, _, hc, hnull => by
    rw [getUserFilterExpr] at hc
    obtain ⟨c, hcf, hc⟩ := except_bind_ok.mp hc
    cases hc
    exact Trool.not_ne_unknown (cond_ne_unknown hcf hnull)
  | .attributeGreaterOrEqual _ _, _, hc, _ | .attributeLessOrEqual _ _, _, hc, _ => nomatch hc

theorem conds_ne_unknown {r : UserRow} : ∀ {fs : List UserRequestFilter} {cs : List UserCond},
    getUserFilterExprs fs = .ok cs → eachComparesNull r fs = false →
      ∀ t ∈ cs.map fun c => c db r, t ≠ .unknown
  | [], _, hcs, _ => by
    cases hcs
    exact fun _ ht => (List.not_mem_nil ht).elim
  | f :: fs, _, hcs, hnull => by
    rw [eachComparesNull, Bool.or_eq_false_iff] at hnull
    obtain ⟨c, cs, hc, hcs', rfl⟩ := getUserFilterExprs_cons hcs
    rw [List.map_cons, List.forall_mem_cons]
    exact ⟨cond_ne_unknown hc hnull.1, conds_ne_unknown hcs' hnull.2⟩

end

theorem groupDateCond_ne_unknown (column : String) (p : String → Bool) (g : GroupRow) :
    groupDateCond column p db g ≠ .unknown := by
  unfold groupDateCond
  split_ifs
  · exact Trool.ofBool_ne_unknown _
  · exact Trool.ofBool_ne_unknown _
  · exact nofun

mutual

theorem groupCond_ne_unknown (g : GroupRow) : ∀ f : GroupRequestFilter,
    getGroupFilterExpr f db g ≠ .unknown
  | .true | .false => nofun
  | .and fs => Trool.all_ne_unknown (groupConds_ne_unknown g fs)
  | .or fs => Trool.any_ne_unknown (groupConds_ne_unknown g fs)
  | .not f => Trool.not_ne_unknown (groupCond_ne_unknown g f)
  | .displayName _ | .groupId _ | .uuid _ | .member _ | .displayNameSubString _
  | .attributeEquality _ _ | .customAttributePresent _ | .attributeGreaterOrEqual _ _
  | .attributeLessOrEqual _ _ | .attributeSubString _ _ => Trool.ofBool_ne_unknown _
  | .greaterOrEqual column _ | .lessOrEqual column _ => groupDateCond_ne_unknown column _ g

theorem groupConds_ne_unknown (g : GroupRow) : ∀ fs : List GroupRequestFilter,
    ∀ t ∈ getGroupFilterExprs fs db g, t ≠ .unknown
  | [] => fun _ ht => (List.not_mem_nil ht).elim
  | f :: fs => List.forall_mem_cons.mpr ⟨groupCond_ne_unknown g f, groupConds_ne_unknown g fs⟩

end

/-! ## Listings -/

/-- Two listings without a common entry that together have an entry for every id. -/
structure Complementary {α κ : Type} (id : α → κ) (ids : List κ) (xs ys : List α) : Prop where
  disjoint : ∀ x ∈ xs, ∀ y ∈ ys, id x ≠ id y
  cover : ∀ i ∈ ids, i ∈ xs.map id ∨ i ∈ ys.map id

omit [External] in
theorem complementary_iff {α β κ : Type} {id : α → κ} {key : β → κ} {rows : List β} {t : β → Trool}
    {xs ys : List α} (hkey : ∀ r ∈ rows, ∀ r' ∈ rows, key r = key r' → r = r')
    (hxs : ∀ i, i ∈ xs.map id ↔ ∃ r ∈ rows, t r = .yes ∧ key r = i)
    (hys : ∀ i, i ∈ ys.map id ↔ ∃ r ∈ rows, t r = .no ∧ key r = i) :
    Complementary id (rows.map key) xs ys ↔ ∀ r ∈ rows, t r ≠ .unknown := by
  constructor
  · intro h r hr hunknown
    rcases h.cover (key r) (List.mem_map_of_mem hr) with hmem | hmem
    · obtain ⟨r', hr', ht, heq⟩ := (hxs _).mp hmem
      rw [hkey r' hr' r hr heq, hunknown] at ht
      cases ht
    · obtain ⟨r', hr', ht, heq⟩ := (hys _).mp hmem
      rw [hkey r' hr' r hr heq, hunknown] at ht
      cases ht
  · intro h
    refine ⟨fun x hx y hy heq => ?_, fun i hi => ?_⟩
    · obtain ⟨r, hr, hyes, hx⟩ := (hxs _).mp (List.mem_map_of_mem hx)
      obtain ⟨r', hr', hno, hy⟩ := (hys _).mp (List.mem_map_of_mem hy)
      rw [hkey r hr r' hr' (hx.trans (heq.trans hy.symm)), hno] at hyes
      cases hyes
    · obtain ⟨r, hr, rfl⟩ := List.mem_map.mp hi
      cases ht : t r with
      | yes => exact .inl ((hxs _).mpr ⟨r, hr, ht, rfl⟩)
      | no => exact .inr ((hys _).mpr ⟨r, hr, ht, rfl⟩)
      | unknown => exact absurd ht (h r hr)

theorem mem_ids_listUsers {f : UserRequestFilter} {c : UserCond} {getGroups : Bool}
    {users : List UserAndGroups} (hc : getUserFilterExpr f = .ok c)
    (h : listUsers (some f) getGroups db = .ok users) (u : UserId) :
    u ∈ users.map (fun x => x.user.userId) ↔
      ∃ r ∈ db.users.rows, (c db r).holds = true ∧ r.userId = u := by
  obtain ⟨cond, schema, hcond, -, hsound, hcomplete⟩ := mem_listUsers_rows h
  obtain rfl : c = cond := Except.ok.inj (hc.symm.trans hcond)
  constructor
  · intro hu
    obtain ⟨x, hx, rfl⟩ := List.mem_map.mp hu
    obtain ⟨r, hr, rows, hholds, -, hread⟩ := hsound x hx
    exact ⟨r, hr, hholds, (readUser_userId hread).symm⟩
  · rintro ⟨r, hr, hholds, rfl⟩
    obtain ⟨x, hx, rows, -, hread⟩ := hcomplete r hr hholds
    exact List.mem_map.mpr ⟨x, hx, readUser_userId hread⟩

theorem mem_ids_listGroups {f : GroupRequestFilter} {groups : List Group}
    (h : listGroups (some f) db = .ok groups) (i : GroupId) :
    i ∈ groups.map Group.id ↔
      ∃ g ∈ db.groups.rows, (getGroupFilterExpr f db g).holds = true ∧ g.groupId = i := by
  obtain ⟨schema, -, hsound, hcomplete⟩ := mem_listGroups_rows h
  constructor
  · intro hi
    obtain ⟨x, hx, rfl⟩ := List.mem_map.mp hi
    obtain ⟨g, hg, rows, hsel, hid, -⟩ := hsound x hx
    exact ⟨g, hg, hsel, hid.symm⟩
  · rintro ⟨g, hg, hholds, rfl⟩
    obtain ⟨x, hx, rows, hid, -⟩ := hcomplete g hg hholds
    exact List.mem_map.mpr ⟨x, hx, hid⟩

/-- A filter and its negation list every user once exactly when the filter is not `NULL` for any of
them, which is so if no column that it compares is. Groups are always listed once. -/
theorem listings_complementary (db : Store) :
    (∀ f c getGroups us vs, getUserFilterExpr f = .ok c →
      listUsers (some f) getGroups db = .ok us →
      listUsers (some (.not f)) getGroups db = .ok vs →
      (Complementary (fun x => x.user.userId) (db.users.rows.map UserRow.userId) us vs ↔
        ∀ r ∈ db.users.rows, c db r ≠ .unknown) ∧
      ((∀ r ∈ db.users.rows, comparesNull r f = false) →
        ∀ r ∈ db.users.rows, c db r ≠ .unknown)) ∧
    ∀ f gs hs, listGroups (some f) db = .ok gs → listGroups (some (.not f)) db = .ok hs →
      Complementary Group.id (db.groups.rows.map GroupRow.groupId) gs hs := by
  refine ⟨fun f c getGroups us vs hc hus hvs => ⟨?_, ?_⟩, fun f gs hs hgs hhs => ?_⟩
  · have hnot : getUserFilterExpr (.not f) = .ok fun db r => (c db r).not := by
      rw [getUserFilterExpr, hc]
      rfl
    refine complementary_iff (fun r hr r' hr' => List.inj_on_of_nodup_map db.users.nodup hr hr') (fun u => ?_) fun u => ?_
    · simp only [mem_ids_listUsers hc hus, Trool.holds_iff]
    · simp only [mem_ids_listUsers hnot hvs, Trool.holds_not_iff]
  · exact fun h r hr => cond_ne_unknown hc (h r hr)
  · have hnone : ∀ g ∈ db.groups.rows, getGroupFilterExpr f db g ≠ .unknown :=
      fun g _ => groupCond_ne_unknown g f
    refine (complementary_iff (fun r hr r' hr' => List.inj_on_of_nodup_map db.groups.nodup hr hr')
      (fun i => ?_) fun i => ?_).mpr hnone
    · simp only [mem_ids_listGroups hgs, Trool.holds_iff]
    · simp only [mem_ids_listGroups hhs, getGroupFilterExpr, Trool.holds_not_iff]

end

section Samples

open Plain

def namelessBob : Store :=
  { Store.empty with
    users := Lib.Table.empty.upsert (userRow "bob")
    groups := Lib.Table.empty.upsert (groupRow 1 "staff") }

/-- Two more users, of whom `carol` has a name, and a group with members. -/
def mixedStore : Store :=
  { namelessBob with
    users := ⟨[userRow "alice", userRow "bob", { userRow "carol" with displayName := some "Carol" }],
      by decide⟩
    groups := ⟨[groupRow 1 "staff", groupRow 2 "admins"], by decide⟩
    memberships := ⟨[⟨UserId.new "alice", ⟨2⟩⟩, ⟨UserId.new "bob", ⟨2⟩⟩], by decide⟩ }

theorem listings_complementary_bob :
    ∃ us vs, listUsers (some (.memberOf ⟨"admins"⟩)) true mixedStore = .ok us ∧
      listUsers (some (.not (.memberOf ⟨"admins"⟩))) true mixedStore = .ok vs ∧
      us.length = 2 ∧
      Complementary (fun x => x.user.userId)
        [UserId.new "alice", UserId.new "bob", UserId.new "carol"] us vs ∧
      Complementary Group.id [⟨1⟩, ⟨2⟩]
        [{ (groupRow 2 "admins").toGroup with
          users := [⟨UserId.new "alice", "people"⟩, ⟨UserId.new "bob", "people"⟩] }]
        [(groupRow 1 "staff").toGroup] := by
  have h := listings_complementary mixedStore
  have hlength : (listUsers (some (.memberOf ⟨"admins"⟩)) true mixedStore).map List.length = .ok 2 := by
    decide +kernel
  have hrest : (listUsers (some (.not (.memberOf ⟨"admins"⟩))) true mixedStore).isOk = true := by
    decide +kernel
  obtain ⟨vs, hvs⟩ := Lib.exists_of_isOk hrest
  cases hus : listUsers (some (.memberOf ⟨"admins"⟩)) true mixedStore with
  | error e =>
    rw [hus] at hlength
    cases hlength
  | ok us =>
    rw [hus] at hlength
    obtain ⟨hiff, henough⟩ := h.1 _ _ true us vs rfl hus hvs
    exact ⟨us, vs, rfl, hvs, Except.ok.inj hlength, hiff.mpr (henough (by decide)),
      h.2 (.displayName ⟨"admins"⟩) _ _ (by decide +kernel) (by decide +kernel)⟩

/-- `bob` is listed neither among those named `alice` nor among the others. -/
theorem nameless_user_not_listed :
    listUsers (some (.equality .displayName "alice")) true namelessBob = .ok [] ∧
    listUsers (some (.not (.equality .displayName "alice"))) true namelessBob = .ok [] ∧
    ¬ Complementary (fun x : UserAndGroups => x.user.userId)
      (namelessBob.users.rows.map UserRow.userId) [] [] := by
  refine ⟨by decide +kernel, by decide +kernel, fun h => ?_⟩
  have hcover := h.cover (.new "bob") (by decide)
  simp at hcover

end Samples

end Sql
end Klldap
