import Klldap.Plain
import Klldap.Sql.Stored

/-!
# Klldap.Sql.Listings: what a listing shows of each entry

A listing reads the selected users (or groups) and their attribute rows with two queries, both ordered
by the id, and walks through the two results in step. Each query sees the database at its own time
(`listUsersAcross`, `listGroupsAcross`).
-/

namespace Klldap
namespace Sql

open Lib (Eff except_bind_ok except_mapM_congr except_mapM_keys except_isOk_bind except_isOk_mapM)

/-! ## Walking through two results -/

/-- Every row whose key comes before `k` is that of an owner. -/
def NoStray {α β γ : Type} [LinearOrder γ] (ka : α → γ) (kb : β → γ) (as : List α) (rows : List β)
    (k : γ) : Prop :=
  ∀ b ∈ rows, kb b < k → ∃ a ∈ as, ka a = kb b

section

variable {α β γ : Type} [LinearOrder γ] (ka : α → γ) (kb : β → γ) {own : α → β → Bool}

theorem takeRows_stuck {ka : α → γ} {kb : β → γ} (hown : ∀ a b, own a b = true ↔ kb b = ka a) {as : List α} {b : β}
    {rows : List β} (hb : ∀ a ∈ as, kb b < ka a) :
    takeRows own as (b :: rows) = as.map fun a => (a, []) := by
  induction as with
  | nil => rfl
  | cons a as ih =>
    have hnot : ¬own a b = true := fun h => (hb a List.mem_cons_self).ne ((hown a b).mp h)
    rw [takeRows, List.takeWhile_cons_of_neg hnot, List.dropWhile_cons_of_neg hnot,
      ih fun a' ha' => hb a' (List.mem_cons_of_mem a ha'), List.map_cons]

/-- What each owner takes, by induction on the owners: the rows of the first one are in front, or a
stray row is. -/
theorem takeRows_eq_ite (hown : ∀ a b, own a b = true ↔ kb b = ka a) {as : List α} {rows : List β}
    (has : as.Pairwise fun a a' => ka a < ka a') (hrows : rows.Pairwise fun b b' => kb b ≤ kb b') :
    takeRows own as rows = as.map fun a => (a, open scoped Classical in
      if NoStray ka kb as rows (ka a) then rows.filter (own a) else []) := by
  classical
  induction as generalizing rows with
  | nil => rfl
  | cons a as ih =>
    rw [List.pairwise_cons] at has
    by_cases hstray : ∃ b rest, rows = b :: rest ∧ kb b < ka a
    · obtain ⟨b, rest, rfl, hlt⟩ := hstray
      have hbefore : ∀ a' ∈ a :: as, kb b < ka a' := by
        intro a' ha'
        rcases List.mem_cons.mp ha' with rfl | ha'
        · exact hlt
        · exact hlt.trans (has.1 a' ha')
      rw [takeRows_stuck hown hbefore]
      refine List.map_congr_left fun a' ha' => ?_
      rw [if_neg]
      intro hno
      obtain ⟨a'', ha'', heq⟩ := hno b List.mem_cons_self (hbefore a' ha')
      exact (hbefore a'' ha'').ne heq.symm
    · have hfirst : ∀ b ∈ rows, ka a ≤ kb b := by
        cases rows with
        | nil => exact fun b hb => nomatch hb
        | cons c rest =>
          have hc : ka a ≤ kb c := not_lt.mp fun hlt => hstray ⟨c, rest, rfl, hlt⟩
          intro b hb
          rcases List.mem_cons.mp hb with rfl | hb
          · exact hc
          · exact hc.trans ((List.pairwise_cons.mp hrows).1 b hb)
      have hclosed : rows.Pairwise fun b b' => own a b' = true → own a b = true :=
        hrows.imp_of_mem fun hb _ hle howned => (hown _ _).mpr
          (le_antisymm (hle.trans ((hown _ _).mp howned).le) (hfirst _ hb))
      obtain ⟨htake, hdrop⟩ := takeWhile_eq_filter hclosed
      have hnone : NoStray ka kb (a :: as) rows (ka a) := fun b hb hlt =>
        absurd hlt (not_lt.mpr (hfirst b hb))
      rw [takeRows, htake, hdrop, ih has.2 (hrows.sublist List.filter_sublist), List.map_cons,
        if_pos hnone]
      congr 1
      refine List.map_congr_left fun a' ha' => ?_
      have hlater : ka a < ka a' := has.1 a' ha'
      have hfilter : (rows.filter fun b => !own a b).filter (own a') = rows.filter (own a') := by
        rw [List.filter_filter]
        refine List.filter_congr fun b _ => ?_
        cases hb : own a' b with
        | false => simp
        | true =>
          have : own a b = false := by
            rw [Bool.eq_false_iff]
            exact fun hab => hlater.ne (((hown _ _).mp hab).symm.trans ((hown _ _).mp hb))
          simp [this]
      have hiff : NoStray ka kb as (rows.filter fun b => !own a b) (ka a') ↔
          NoStray ka kb (a :: as) rows (ka a') := by
        constructor
        · intro h b hb hlt
          cases hab : own a b with
          | true => exact ⟨a, List.mem_cons_self, ((hown _ _).mp hab).symm⟩
          | false =>
            obtain ⟨a'', ha'', heq⟩ := h b (List.mem_filter.mpr ⟨hb, by simp [hab]⟩) hlt
            exact ⟨a'', List.mem_cons_of_mem a ha'', heq⟩
        · intro h b hb hlt
          obtain ⟨hb, hnot⟩ := List.mem_filter.mp hb
          obtain ⟨a'', ha'', heq⟩ := h b hb hlt
          rcases List.mem_cons.mp ha'' with rfl | ha''
          · rw [(hown _ _).mpr heq.symm] at hnot
            cases hnot
          · exact ⟨a'', ha'', heq⟩
      simp only [hfilter, hiff]

end

theorem filter_orderBy {β κ ν γ δ : Type} [DecidableEq κ] [DecidableEq ν] [LinearOrder γ]
    [LinearOrder δ] {key : β → κ × ν} (t : Lib.Table β (κ × ν) key) (f : κ → γ) {g : ν → δ}
    (hg : ∀ n n', g n = g n' → n = n') {p : β → Bool} {k : κ}
    (hp : ∀ b ∈ t.rows, (key b).1 = k → p b = true) :
    ((orderBy (fun b => toLex (f (key b).1, g (key b).2)) (t.rows.filter p)).filter
        fun b => (key b).1 = k) =
      orderBy (fun b => g (key b).2) (t.rows.filter fun b => (key b).1 = k) := by
  have hperm : ((orderBy (fun b => toLex (f (key b).1, g (key b).2)) (t.rows.filter p)).filter
      fun b => (key b).1 = k).Perm
        (orderBy (fun b => g (key b).2) (t.rows.filter fun b => (key b).1 = k)) := by
    have hsame : (t.rows.filter p).filter (fun b => (key b).1 = k) =
        t.rows.filter fun b => (key b).1 = k := by
      rw [List.filter_filter]
      refine List.filter_congr fun b hb => ?_
      by_cases hk : (key b).1 = k
      · simp [hk, hp b hb hk]
      · simp [hk]
    rw [← hsame]
    exact ((List.perm_insertionSort _ _).filter _).trans (List.perm_insertionSort _ _).symm
  have hmem : ∀ b ∈ (orderBy (fun b => toLex (f (key b).1, g (key b).2)) (t.rows.filter p)).filter
      fun b => (key b).1 = k, b ∈ t.rows ∧ (key b).1 = k := by
    intro b hb
    obtain ⟨hb, hk⟩ := List.mem_filter.mp hb
    exact ⟨(List.mem_filter.mp (mem_orderBy.mp hb)).1, of_decide_eq_true hk⟩
  refine List.Perm.eq_of_pairwise (fun b b' hb hb' hle hle' => ?_) ?_ (pairwise_orderBy _ _) hperm
  · obtain ⟨hb, hk⟩ := hmem b hb
    obtain ⟨hb', hk'⟩ := hmem b' (hperm.mem_iff.mpr hb')
    have hkey : key b = key b' :=
      Prod.ext (hk.trans hk'.symm) (hg _ _ (le_antisymm hle hle'))
    have hfind := Lib.Table.find?_of_mem hb
    rw [hkey, Lib.Table.find?_of_mem hb'] at hfind
    exact (Option.some.inj hfind).symm
  · refine ((pairwise_orderBy _ _).filter _).imp_of_mem fun hb hb' hle => ?_
    have hk := (hmem _ hb).2
    have hk' := (hmem _ hb').2
    rw [hk, hk'] at hle
    rcases Prod.Lex.le_iff.mp hle with hlt | ⟨-, hle⟩
    · exact absurd hlt (lt_irrefl _)
    · exact hle

/-- An entry gets its rows although entries came and went: it has none, or it is still selected and
every selected entry with rows that sorts before it was selected at first. -/
def Undisturbed {κ γ : Type} [LT γ] (f : κ → γ) (selected selectedLater hasRows : κ → Prop) (k : κ) :
    Prop :=
  hasRows k → selectedLater k ∧
    ∀ k', f k' < f k → selectedLater k' → hasRows k' → selected k'

theorem takeRows_across {α β κ ν γ δ : Type} [DecidableEq κ] [DecidableEq ν] [LinearOrder γ]
    [LinearOrder δ] {key : α → κ} {owned : β → κ × ν} (t t' : Lib.Table α κ key) (p p' : α → Bool)
    (l : Lib.Table β (κ × ν) owned) {f : κ → γ} (hf : ∀ k k', f k = f k' → k = k') {g : ν → δ}
    (hg : ∀ n n', g n = g n' → n = n') :
    takeRows (fun r b => (owned b).1 = key r) (orderBy (fun r => f (key r)) (t.rows.filter p))
        (orderBy (fun b => toLex (f (owned b).1, g (owned b).2)) (l.rows.filter fun b =>
          (orderBy (fun r => f (key r)) (t'.rows.filter p')).any fun r => key r = (owned b).1)) =
      (orderBy (fun r => f (key r)) (t.rows.filter p)).map fun r => (r, open scoped Classical in
        if Undisturbed f (fun k => ∃ r ∈ t.rows, p r = true ∧ key r = k)
            (fun k => ∃ r ∈ t'.rows, p' r = true ∧ key r = k)
            (fun k => ∃ b ∈ l.rows, (owned b).1 = k) (key r)
        then orderBy (fun b => g (owned b).2) (l.rows.filter fun b => (owned b).1 = key r)
        else []) := by
  classical
  set later : β → Bool := fun b =>
    (orderBy (fun r => f (key r)) (t'.rows.filter p')).any fun r => key r = (owned b).1 with hlater
  have hlater_iff (b : β) : later b = true ↔ ∃ r ∈ t'.rows, p' r = true ∧ key r = (owned b).1 := by
    simp [hlater, and_assoc]
  have hmem (b : β) : b ∈ orderBy (fun b => toLex (f (owned b).1, g (owned b).2))
      (l.rows.filter later) ↔ b ∈ l.rows ∧ later b = true := by
    rw [mem_orderBy, List.mem_filter]
  rw [takeRows_eq_ite (fun r => f (key r)) (fun b => f (owned b).1)
    (fun r b => by
      rw [decide_eq_true_iff]
      exact ⟨fun heq => by rw [heq], hf _ _⟩)
    (pairwise_lt_orderBy t hf p)
    ((pairwise_orderBy (fun b => toLex (f (owned b).1, g (owned b).2)) _).imp fun hle =>
      (Prod.Lex.le_iff.mp hle).elim le_of_lt fun hle => hle.1.le)]
  refine List.map_congr_left fun r hr => ?_
  rw [Prod.mk.injEq]
  refine ⟨rfl, ?_⟩
  by_cases hrows : ∃ b ∈ l.rows, (owned b).1 = key r
  · by_cases hsel : ∃ r' ∈ t'.rows, p' r' = true ∧ key r' = key r
    · have hall : ∀ b ∈ l.rows, (owned b).1 = key r → later b = true := fun b _ hb =>
        (hlater_iff b).mpr (hb ▸ hsel)
      rw [filter_orderBy l f hg hall]
      refine if_congr ?_ rfl rfl
      constructor
      · intro hno _
        refine ⟨hsel, ?_⟩
        rintro k' hlt hsel' ⟨b, hb, rfl⟩
        obtain ⟨a, ha, heq⟩ := hno b ((hmem b).mpr ⟨hb, (hlater_iff b).mpr hsel'⟩) hlt
        obtain ⟨ha, hp⟩ := List.mem_filter.mp (mem_orderBy.mp ha)
        exact ⟨a, ha, hp, hf _ _ heq⟩
      · intro hund b hb hlt
        obtain ⟨hb, hb'⟩ := (hmem b).mp hb
        obtain ⟨a, ha, hp, heq⟩ := (hund hrows).2 _ hlt ((hlater_iff b).mp hb') ⟨b, hb, rfl⟩
        exact ⟨a, mem_orderBy.mpr (List.mem_filter.mpr ⟨ha, hp⟩), congrArg f heq⟩
    · have hnone : (orderBy (fun b => toLex (f (owned b).1, g (owned b).2))
          (l.rows.filter later)).filter (fun b => (owned b).1 = key r) = [] := by
        rw [List.filter_eq_nil_iff]
        intro b hb heq
        obtain ⟨-, hb⟩ := (hmem b).mp hb
        rw [hlater_iff, of_decide_eq_true heq] at hb
        exact hsel hb
      rw [hnone, ite_self, if_neg fun hund => hsel (hund hrows).1]
  · have hnone : l.rows.filter (fun b => (owned b).1 = key r) = [] := by
      rw [List.filter_eq_nil_iff]
      exact fun b hb heq => hrows ⟨b, hb, of_decide_eq_true heq⟩
    have hnone' : (orderBy (fun b => toLex (f (owned b).1, g (owned b).2))
        (l.rows.filter later)).filter (fun b => (owned b).1 = key r) = [] := by
      rw [List.filter_eq_nil_iff]
      exact fun b hb heq => hrows ⟨b, ((hmem b).mp hb).1, of_decide_eq_true heq⟩
    rw [hnone, hnone', ite_self]
    exact (ite_self _).symm

theorem undisturbed_self {κ γ : Type} [LT γ] {f : κ → γ} {selected hasRows : κ → Prop} {k : κ}
    (hk : selected k) : Undisturbed f selected selected hasRows k :=
  fun _ => ⟨hk, fun _ _ hk' _ => hk'⟩


section

variable [External]

/-! ## Listings of an unchanged database -/

/-- The ids of the users that a filter selects. -/
def UserSelected (cond : UserCond) (db : Store) (u : UserId) : Prop :=
  ∃ row ∈ db.users.rows, (cond db row).holds = true ∧ row.userId = u

/-- The ids of the groups that a filter selects. -/
def GroupPicked (filters : Option GroupRequestFilter) (db : Store) (g : GroupId) : Prop :=
  ∃ row ∈ db.groups.rows, groupSelected filters db row = true ∧ row.groupId = g

/-- The attribute rows of a user, as `getUserDetails` reads them. -/
def userRows (db : Store) (u : UserId) : List UserAttributeRow :=
  orderBy (fun a => a.attributeName.asStr) (db.userAttributes.rows.filter fun a => a.userId = u)

/-- The attribute rows of a group, as `getGroupDetails` reads them. -/
def groupRows (db : Store) (g : GroupId) : List GroupAttributeRow :=
  orderBy (fun a => a.attributeName.asStr) (db.groupAttributes.rows.filter fun a => a.groupId = g)

def selectedUsers (cond : UserCond) (db : Store) : List UserRow :=
  orderBy (fun r => r.userId.asStr) (db.users.rows.filter fun r => (cond db r).holds)

def selectedGroups (filters : Option GroupRequestFilter) (db : Store) : List GroupRow :=
  orderBy (fun g => g.groupId.val) (db.groups.rows.filter (groupSelected filters db))

/-- The rows that the second query hands to a user of the first one, at a later time. -/
def UserUndisturbed (cond : UserCond) (db later : Store) : UserId → Prop :=
  Undisturbed UserId.asStr (UserSelected cond db) (UserSelected cond later)
    fun u => ∃ a ∈ later.userAttributes.rows, a.userId = u

/-- The same for a group. -/
def GroupUndisturbed (filters : Option GroupRequestFilter) (db later : Store) : GroupId → Prop :=
  Undisturbed GroupId.val (GroupPicked filters db) (GroupPicked filters later)
    fun g => ∃ a ∈ later.groupAttributes.rows, a.groupId = g

omit [External] in
theorem userId_eq_of_asStr {u u' : UserId} (h : u.asStr = u'.asStr) : u = u' := by
  rw [← UserId.new_asStr u, h, UserId.new_asStr]

omit [External] in
theorem attributeName_eq_of_asStr {n n' : AttributeName} (h : n.asStr = n'.asStr) : n = n' := by
  rw [← AttributeName.new_asStr n, h, AttributeName.new_asStr]

omit [External] in
theorem groupId_eq_of_val {g g' : GroupId} (h : g.val = g'.val) : g = g' := by
  cases g
  cases g'
  exact congrArg GroupId.mk h

/-- The attribute rows that a listing of users reads, and whom it hands them to. -/
def handedUserRows (cond : UserCond) (db later : Store) : List (UserRow × List UserAttributeRow) :=
  takeRows (fun r a => a.userId = r.userId) (selectedUsers cond db)
    (orderBy (fun r => toLex (r.userId.asStr, r.attributeName.asStr))
      (later.userAttributes.rows.filter fun a =>
        (selectedUsers cond later).any fun r => r.userId = a.userId))

/-- The attribute rows that a listing of groups reads, and whom it hands them to. -/
def handedGroupRows (filters : Option GroupRequestFilter) (db later : Store) :
    List (GroupRow × List GroupAttributeRow) :=
  takeRows (fun g r => r.groupId = g.groupId) (selectedGroups filters db)
    (orderBy (fun r => toLex (r.groupId.val, r.attributeName.asStr))
      (later.groupAttributes.rows.filter fun r =>
        (selectedGroups filters later).any fun g => g.groupId = r.groupId))

omit [External] in
theorem handedUserRows_eq (cond : UserCond) (db later : Store) :
    handedUserRows cond db later = (selectedUsers cond db).map fun r => (r, open scoped Classical in
      if UserUndisturbed cond db later r.userId then userRows later r.userId else []) :=
  takeRows_across db.users later.users (fun r => (cond db r).holds) (fun r => (cond later r).holds)
    later.userAttributes (f := UserId.asStr) (fun _ _ => userId_eq_of_asStr) (g := AttributeName.asStr)
    fun _ _ => attributeName_eq_of_asStr

theorem handedGroupRows_eq (filters : Option GroupRequestFilter) (db later : Store) :
    handedGroupRows filters db later =
      (selectedGroups filters db).map fun g => (g, open scoped Classical in
        if GroupUndisturbed filters db later g.groupId then groupRows later g.groupId else []) :=
  takeRows_across db.groups later.groups (groupSelected filters db) (groupSelected filters later)
    later.groupAttributes (f := GroupId.val) (fun _ _ => groupId_eq_of_val) (g := AttributeName.asStr)
    fun _ _ => attributeName_eq_of_asStr

omit [External] in
theorem mem_selectedUsers {cond : UserCond} {db : Store} {r : UserRow} :
    r ∈ selectedUsers cond db ↔ r ∈ db.users.rows ∧ (cond db r).holds = true := by
  simp [selectedUsers]

theorem mem_selectedGroups {filters : Option GroupRequestFilter} {db : Store} {g : GroupRow} :
    g ∈ selectedGroups filters db ↔ g ∈ db.groups.rows ∧ groupSelected filters db g = true := by
  simp [selectedGroups]

def showUser (db : Store) (r : UserRow) : Except DomainError UserAndGroups := do
  let user ← getUserDetails r.userId db
  .ok ⟨user, some ((orderBy (fun g => g.displayName.raw) (db.groupsOf r.userId)).map
    GroupRow.toGroupDetails)⟩

def showGroup (db : Store) (g : GroupRow) : Except DomainError Group := do
  let details ← getGroupDetails g.groupId db
  .ok { g.toGroup with users := groupMembers db g.groupId, attributes := details.attributes }

theorem listUsers_eq (filters : Option UserRequestFilter) (getGroups : Bool) (db : Store) :
    listUsers filters getGroups db = (do
      let cond ← userCondition filters
      let _ ← getSchema db
      (selectedUsers cond db).mapM (showUser db)) := by
  unfold listUsers
  cases userCondition filters with
  | error e => rfl
  | ok cond =>
    cases hschema : getSchema db with
    | error e => rfl
    | ok schema =>
      show (handedUserRows cond db db).mapM _ = _
      rw [handedUserRows_eq, List.mapM_map]
      refine except_mapM_congr fun r hr => ?_
      obtain ⟨hrow, hholds⟩ := mem_selectedUsers.mp hr
      have hsel : UserUndisturbed cond db db r.userId := undisturbed_self ⟨r, hrow, hholds, rfl⟩
      have hfind : db.users.find? r.userId = some r := Lib.Table.find?_of_mem hrow
      simp only [showUser, getUserDetails, hfind, hschema, Function.comp, if_pos hsel]
      rfl

theorem listGroups_eq (filters : Option GroupRequestFilter) (db : Store) :
    listGroups filters db = (do
      let _ ← getSchema db
      let groups ← (selectedGroups filters db).mapM (showGroup db)
      .ok (sortGroups groups)) := by
  unfold listGroups
  cases hschema : getSchema db with
  | error e => rfl
  | ok schema =>
    show ((handedGroupRows filters db db).mapM (readGroup schema db) >>= _) =
      ((selectedGroups filters db).mapM (showGroup db) >>= _)
    rw [handedGroupRows_eq, List.mapM_map]
    congr 1
    refine except_mapM_congr fun g hg => ?_
    obtain ⟨hrow, hsel⟩ := mem_selectedGroups.mp hg
    have hund : GroupUndisturbed filters db db g.groupId := undisturbed_self ⟨g, hrow, hsel, rfl⟩
    have hfind : db.groups.find? g.groupId = some g := Lib.Table.find?_of_mem hrow
    simp only [showGroup, getGroupDetails, hfind, hschema, if_pos hund, Function.comp, readGroup]
    show ((groupRows db g.groupId).mapM _ >>= _) = (((groupRows db g.groupId).mapM _ >>= _) >>= _)
    cases (groupRows db g.groupId).mapM (readGroupAttribute schema) with
    | error e => rfl
    | ok attributes => rfl

theorem showUser_userId {db : Store} {r : UserRow} {x : UserAndGroups}
    (h : showUser db r = .ok x) :
    x.user.userId = r.userId ∧ getUserDetails r.userId db = .ok x.user := by
  obtain ⟨user, huser, h⟩ := except_bind_ok.mp h
  rw [← Except.ok.inj h]
  refine ⟨?_, huser⟩
  unfold getUserDetails at huser
  cases hfind : db.users.find? r.userId with
  | none =>
    rw [hfind] at huser
    cases huser
  | some row =>
    rw [hfind] at huser
    obtain ⟨schema, -, huser⟩ := except_bind_ok.mp huser
    exact (readUser_userId huser).trans (Lib.Table.key_of_find? hfind)

theorem showGroup_details {db : Store} {g : GroupRow} {x : Group} (h : showGroup db g = .ok x) :
    x.id = g.groupId ∧ x.users = groupMembers db g.groupId ∧
      ∃ details, getGroupDetails g.groupId db = .ok details ∧ details.attributes = x.attributes := by
  obtain ⟨details, hdetails, h⟩ := except_bind_ok.mp h
  rw [← Except.ok.inj h]
  exact ⟨rfl, rfl, details, hdetails, rfl⟩

theorem isOk_showUser {db : Store} {r : UserRow} :
    (showUser db r).isOk = true ↔ (getUserDetails r.userId db).isOk = true := by
  unfold showUser
  cases getUserDetails r.userId db with
  | error e => exact Iff.rfl
  | ok user => exact iff_of_true rfl rfl

theorem isOk_showGroup {db : Store} {g : GroupRow} :
    (showGroup db g).isOk = true ↔ (getGroupDetails g.groupId db).isOk = true := by
  unfold showGroup
  cases getGroupDetails g.groupId db with
  | error e => exact Iff.rfl
  | ok details => exact iff_of_true rfl rfl

omit [External] in
theorem nodup_selectedUsers (cond : UserCond) (db : Store) :
    ((selectedUsers cond db).map UserRow.userId).Nodup :=
  ((List.perm_insertionSort _ _).map _).nodup_iff.mpr
    (db.users.nodup.sublist (List.filter_sublist.map _))

theorem nodup_selectedGroups (filters : Option GroupRequestFilter) (db : Store) :
    ((selectedGroups filters db).map GroupRow.groupId).Nodup :=
  ((List.perm_insertionSort _ _).map _).nodup_iff.mpr
    (db.groups.nodup.sublist (List.filter_sublist.map _))

omit [External] in
theorem groupMembers_once (db : Store) (g : GroupId) :
    ((groupMembers db g).map GroupMember.userId).Nodup ∧
      ∀ u, u ∈ (groupMembers db g).map GroupMember.userId ↔
        ∃ m ∈ db.memberships.rows, m.groupId = g ∧ m.userId = u := by
  have hmap : (groupMembers db g).map GroupMember.userId =
      (db.memberships.rows.filter fun m => m.groupId = g).map MembershipRow.userId := by
    rw [groupMembers, List.map_map]
    rfl
  rw [hmap]
  refine ⟨?_, fun u => by simp [and_assoc]⟩
  have hkeys := List.pairwise_map.mp
    (db.memberships.nodup.sublist (List.filter_sublist (p := fun m => decide (m.groupId = g)) |>.map _))
  refine List.pairwise_map.mpr (hkeys.imp_of_mem fun {m m'} hm hm' hne heq => hne ?_)
  have hg := of_decide_eq_true (List.mem_filter.mp hm).2
  have hg' := of_decide_eq_true (List.mem_filter.mp hm').2
  exact Prod.ext heq (hg.trans hg'.symm)

/-- Listings on an unchanged database: each selected entry once, with the attributes that the query
of its details returns, and it succeeds if those queries do. -/
theorem listings_show_details (db : Store) :
    (∀ filters getGroups users, listUsers filters getGroups db = .ok users →
      (users.map fun x => x.user.userId).Nodup ∧
      (∃ cond, userCondition filters = .ok cond ∧
        ∀ u, u ∈ users.map (fun x => x.user.userId) ↔ UserSelected cond db u) ∧
      ∀ x ∈ users, getUserDetails x.user.userId db = .ok x.user) ∧
    (∀ filters getGroups, (listUsers filters getGroups db).isOk = true ↔
      (getSchema db).isOk = true ∧ ∃ cond, userCondition filters = .ok cond ∧
        ∀ u, UserSelected cond db u → (getUserDetails u db).isOk = true) ∧
    (∀ filters groups, listGroups filters db = .ok groups →
      (groups.map Group.id).Nodup ∧
      (∀ g, g ∈ groups.map Group.id ↔ GroupPicked filters db g) ∧
      ∀ x ∈ groups,
        (∃ details, getGroupDetails x.id db = .ok details ∧ details.attributes = x.attributes) ∧
        (x.users.map GroupMember.userId).Nodup ∧
        ∀ u, u ∈ x.users.map GroupMember.userId ↔
          ∃ m ∈ db.memberships.rows, m.groupId = x.id ∧ m.userId = u) ∧
    ∀ filters, (listGroups filters db).isOk = true ↔
      (getSchema db).isOk = true ∧
        ∀ g, GroupPicked filters db g → (getGroupDetails g db).isOk = true := by
  refine ⟨fun filters getGroups users h => ?_, fun filters getGroups => ?_, fun filters groups h => ?_,
    fun filters => ?_⟩
  · rw [listUsers_eq] at h
    obtain ⟨cond, hcond, h⟩ := except_bind_ok.mp h
    obtain ⟨schema, -, h⟩ := except_bind_ok.mp h
    have hids : users.map (fun x => x.user.userId) = (selectedUsers cond db).map UserRow.userId :=
      except_mapM_keys h fun r x hx => (showUser_userId hx).1
    refine ⟨hids ▸ nodup_selectedUsers cond db, ⟨cond, hcond, fun u => ?_⟩, fun x hx => ?_⟩
    · rw [hids]
      simp [mem_selectedUsers, UserSelected, and_assoc]
    · obtain ⟨r, -, hshow⟩ := Lib.except_mapM_ok h x hx
      obtain ⟨hid, hdetails⟩ := showUser_userId hshow
      exact hid ▸ hdetails
  · rw [listUsers_eq, except_isOk_bind]
    constructor
    · rintro ⟨cond, hcond, h⟩
      obtain ⟨schema, hschema, h⟩ := except_isOk_bind.mp h
      refine ⟨by rw [hschema]; rfl, cond, hcond, ?_⟩
      rintro u ⟨row, hrow, hholds, rfl⟩
      exact isOk_showUser.mp (except_isOk_mapM.mp h row (mem_selectedUsers.mpr ⟨hrow, hholds⟩))
    · rintro ⟨hschema, cond, hcond, h⟩
      obtain ⟨schema, hschema⟩ := Lib.exists_of_isOk hschema
      refine ⟨cond, hcond, except_isOk_bind.mpr ⟨schema, hschema, except_isOk_mapM.mpr fun r hr => ?_⟩⟩
      obtain ⟨hrow, hholds⟩ := mem_selectedUsers.mp hr
      exact isOk_showUser.mpr (h r.userId ⟨r, hrow, hholds, rfl⟩)
  · rw [listGroups_eq] at h
    obtain ⟨schema, -, h⟩ := except_bind_ok.mp h
    obtain ⟨unsorted, hmap, h⟩ := except_bind_ok.mp h
    have hperm : groups.Perm unsorted := Except.ok.inj h ▸ List.perm_insertionSort _ _
    have hids : unsorted.map Group.id = (selectedGroups filters db).map GroupRow.groupId :=
      except_mapM_keys hmap fun g x hx => (showGroup_details hx).1
    refine ⟨(hperm.map _).nodup_iff.mpr (hids ▸ nodup_selectedGroups filters db), fun g => ?_,
      fun x hx => ?_⟩
    · rw [(hperm.map _).mem_iff, hids]
      simp [mem_selectedGroups, GroupPicked, and_assoc]
    · obtain ⟨g, -, hshow⟩ := Lib.except_mapM_ok hmap x (hperm.mem_iff.mp hx)
      obtain ⟨hid, husers, hdetails⟩ := showGroup_details hshow
      rw [hid, husers]
      exact ⟨hdetails, groupMembers_once db g.groupId⟩
  · rw [listGroups_eq, except_isOk_bind]
    constructor
    · rintro ⟨schema, hschema, h⟩
      obtain ⟨groups, hmap, -⟩ := except_isOk_bind.mp h
      refine ⟨by rw [hschema]; rfl, ?_⟩
      rintro g ⟨row, hrow, hsel, rfl⟩
      exact isOk_showGroup.mp
        (except_isOk_mapM.mp (by rw [hmap]; rfl) row (mem_selectedGroups.mpr ⟨hrow, hsel⟩))
    · rintro ⟨hschema, h⟩
      obtain ⟨schema, hschema⟩ := Lib.exists_of_isOk hschema
      have hall : ((selectedGroups filters db).mapM (showGroup db)).isOk = true := by
        refine except_isOk_mapM.mpr fun g hg => ?_
        obtain ⟨hrow, hsel⟩ := mem_selectedGroups.mp hg
        exact isOk_showGroup.mpr (h g.groupId ⟨g, hrow, hsel, rfl⟩)
      obtain ⟨groups, hmap⟩ := Lib.exists_of_isOk hall
      exact ⟨schema, hschema, except_isOk_bind.mpr ⟨groups, hmap, rfl⟩⟩

/-! ## Listings across changes -/

/-- `list_users`, with the database as each of its queries sees it. -/
def listUsersAcross (filters : Option UserRequestFilter) (db later last : Store) :
    Except DomainError (List UserAndGroups) := do
  let cond ← userCondition filters
  let schema ← getSchema last
  (handedUserRows cond db later).mapM fun (r, attrs) => do
    let user ← readUser schema r attrs
    let groups := orderBy (fun g => g.displayName.raw) (db.groupsOf r.userId)
    .ok ⟨user, some (groups.map GroupRow.toGroupDetails)⟩

theorem listUsers_across (filters : Option UserRequestFilter) (getGroups : Bool) (db : Store) :
    listUsers filters getGroups db = listUsersAcross filters db db db := rfl

/-- `list_groups`, with the database as each of its queries sees it: the groups with their members,
the `ou` of the members, the schema, the attributes. -/
def listGroupsAcross (filters : Option GroupRequestFilter) (db dbOus dbSchema later : Store) :
    Except DomainError (List Group) := do
  let schema ← getSchema dbSchema
  let groups ← (handedGroupRows filters db later).mapM fun (g, rows) => do
    let attributes ← rows.mapM (readGroupAttribute schema)
    .ok { g.toGroup with
      users := (db.memberships.rows.filter fun m => m.groupId = g.groupId).map fun m =>
        ⟨m.userId, memberOu dbOus m.userId⟩
      attributes := attributes }
  .ok (sortGroups groups)

theorem listGroups_across (filters : Option GroupRequestFilter) (db : Store) :
    listGroups filters db = listGroupsAcross filters db db db db := rfl

theorem readUser_length {schema : Schema} {r : UserRow} {attrs attrs' : List UserAttributeRow}
    {user : User} (h : readUser schema r attrs = .ok user) (h' : readUser schema r attrs' = .ok user) :
    attrs.length = attrs'.length := by
  obtain ⟨attributes, hattrs, h⟩ := except_bind_ok.mp h
  obtain ⟨attributes', hattrs', h'⟩ := except_bind_ok.mp h'
  rw [Lib.except_mapM_length hattrs, Lib.except_mapM_length hattrs']
  have hlen := congrArg (fun u => u.attributes.length) (Except.ok.inj (h.trans h'.symm))
  have hprincipal : r.toUser.krbPrincipalName = r.krbPrincipalName := rfl
  unfold User.materializeProtectedFields at hlen
  dsimp only at hlen
  rw [hprincipal] at hlen
  cases hk : r.krbPrincipalName with
  | none => simpa [hk] using hlen
  | some principal =>
    by_cases hp : principal = ""
    · simpa [hk, hp] using hlen
    · simpa [hk, hp] using hlen

/-- A listing while other entries come and go. An entry of the result has its attributes, as they are
when the second query runs, exactly if it is undisturbed; otherwise it has none, and never those of
another entry. -/
theorem listings_keep_attributes_iff :
    (∀ filters db later last users, listUsersAcross filters db later last = .ok users →
      ∃ cond schema, userCondition filters = .ok cond ∧ getSchema last = .ok schema ∧
        ∀ x ∈ users, ∃ row ∈ db.users.rows, row.userId = x.user.userId ∧
          (readUser schema row (userRows later row.userId) = .ok x.user ↔
            UserUndisturbed cond db later row.userId) ∧
          (readUser schema row (userRows later row.userId) = .ok x.user ∨
            readUser schema row [] = .ok x.user)) ∧
    ∀ filters db dbOus dbSchema later groups,
      listGroupsAcross filters db dbOus dbSchema later = .ok groups →
      ∃ schema, getSchema dbSchema = .ok schema ∧
        ∀ x ∈ groups, ∃ row ∈ db.groups.rows, row.groupId = x.id ∧
          ((groupRows later row.groupId).mapM (readGroupAttribute schema) = .ok x.attributes ↔
            GroupUndisturbed filters db later row.groupId) ∧
          ((groupRows later row.groupId).mapM (readGroupAttribute schema) = .ok x.attributes ∨
            x.attributes = []) := by
  refine ⟨fun filters db later last users h => ?_, fun filters db dbOus dbSchema later groups h => ?_⟩
  · obtain ⟨cond, hcond, h⟩ := except_bind_ok.mp h
    obtain ⟨schema, hschema, h⟩ := except_bind_ok.mp h
    refine ⟨cond, schema, hcond, hschema, fun x hx => ?_⟩
    obtain ⟨p, hp, hread⟩ := Lib.except_mapM_ok h x hx
    rw [handedUserRows_eq] at hp
    obtain ⟨row, hrow, rfl⟩ := List.mem_map.mp hp
    obtain ⟨user, huser, hread⟩ := except_bind_ok.mp hread
    rw [← Except.ok.inj hread]
    refine ⟨row, (mem_selectedUsers.mp hrow).1, (readUser_userId huser).symm, ?_⟩
    by_cases hund : UserUndisturbed cond db later row.userId
    · rw [if_pos hund] at huser
      exact ⟨iff_of_true huser hund, .inl huser⟩
    · rw [if_neg hund] at huser
      refine ⟨iff_of_false (fun hown => ?_) hund, .inr huser⟩
      have hnil : userRows later row.userId = [] :=
        List.eq_nil_of_length_eq_zero (readUser_length hown huser)
      refine hund ?_
      rintro ⟨a, ha, hid⟩
      exact absurd (mem_orderBy.mpr (List.mem_filter.mpr ⟨ha, decide_eq_true hid⟩))
        (List.eq_nil_iff_forall_not_mem.mp hnil a)
  · obtain ⟨schema, hschema, h⟩ := except_bind_ok.mp h
    obtain ⟨unsorted, hmap, h⟩ := except_bind_ok.mp h
    refine ⟨schema, hschema, fun x hx => ?_⟩
    rw [← Except.ok.inj h, sortGroups, List.mem_insertionSort] at hx
    obtain ⟨p, hp, hread⟩ := Lib.except_mapM_ok hmap x hx
    rw [handedGroupRows_eq] at hp
    obtain ⟨row, hrow, rfl⟩ := List.mem_map.mp hp
    obtain ⟨attributes, hattrs, hread⟩ := except_bind_ok.mp hread
    rw [← Except.ok.inj hread]
    refine ⟨row, (mem_selectedGroups.mp hrow).1, rfl, ?_⟩
    by_cases hund : GroupUndisturbed filters db later row.groupId
    · rw [if_pos hund] at hattrs
      exact ⟨iff_of_true hattrs hund, .inl hattrs⟩
    · rw [if_neg hund] at hattrs
      have hnone : attributes = [] := (Except.ok.inj hattrs).symm
      refine ⟨iff_of_false (fun hown => ?_) hund, .inr hnone⟩
      have hnil : groupRows later row.groupId = [] := by
        refine List.eq_nil_of_length_eq_zero ?_
        rw [Lib.except_mapM_length hown, hnone]
        rfl
      refine hund ?_
      rintro ⟨a, ha, hid⟩
      exact absurd (mem_orderBy.mpr (List.mem_filter.mpr ⟨ha, decide_eq_true hid⟩))
        (List.eq_nil_iff_forall_not_mem.mp hnil a)

end

section Samples

open Plain

/-- A directory without users, whose schema table has the attribute that every user gets. -/
def noUsers : Store :=
  { Store.empty with
    userAttributeSchema := ⟨[⟨.new "ou", .string, false, true, false, true, true, "[]"⟩], by decide⟩ }

def oneUser : Store := (createUser 0 ⟨.new "carol", ⟨"carol@example.com"⟩, none, []⟩ noUsers).2

def twoUsers : Store := (createUser 1 ⟨.new "bob", ⟨"bob@example.com"⟩, none, []⟩ oneUser).2

/-- With `alice`, who has no attributes, and a group that `bob` is in. -/
def staffedStore : Store :=
  { twoUsers with
    users := twoUsers.users.upsert (userRow "alice")
    groups := .single (groupRow 1 "staff")
    memberships := .single ⟨UserId.new "bob", ⟨1⟩⟩ }

theorem carol_listed_with_details :
    ∃ users, listUsers none true staffedStore = .ok users ∧
      users.map (fun x => (x.user.userId, x.user.attributes.length, x.groups.map List.length)) =
        [(UserId.new "alice", 0, some 0), (UserId.new "bob", 1, some 1),
          (UserId.new "carol", 1, some 0)] ∧
      ∀ x ∈ users, getUserDetails x.user.userId staffedStore = .ok x.user := by
  have hshown : (listUsers none true staffedStore).map (fun users => users.map fun x =>
      (x.user.userId, x.user.attributes.length, x.groups.map List.length)) =
      .ok [(UserId.new "alice", 0, some 0), (UserId.new "bob", 1, some 1),
        (UserId.new "carol", 1, some 0)] := by decide +kernel
  cases h : listUsers none true staffedStore with
  | error e =>
    rw [h] at hshown
    cases hshown
  | ok users =>
    rw [h] at hshown
    exact ⟨users, rfl, Except.ok.inj hshown,
      ((listings_show_details staffedStore).1 none true users h).2.2⟩

/-- Carol is selected when the second query runs, but so is bob, who sorts before carol and was not. -/
theorem carol_is_disturbed :
    ∃ users, listUsersAcross none oneUser twoUsers twoUsers = .ok users ∧ users ≠ [] ∧
      ∃ cond schema, userCondition none = .ok cond ∧ getSchema twoUsers = .ok schema ∧
        ∀ x ∈ users, ∃ row ∈ oneUser.users.rows, row.userId = x.user.userId ∧
          (readUser schema row (userRows twoUsers row.userId) = .ok x.user ↔
            UserUndisturbed cond oneUser twoUsers row.userId) := by
  have hok : (listUsersAcross none oneUser twoUsers twoUsers).isOk = true := by decide +kernel
  have hsome : listUsersAcross none oneUser twoUsers twoUsers ≠ .ok [] := by decide +kernel
  obtain ⟨users, h⟩ := Lib.exists_of_isOk hok
  obtain ⟨cond, schema, hcond, hschema, hall⟩ :=
    listings_keep_attributes_iff.1 none oneUser twoUsers twoUsers users h
  refine ⟨users, h, ?_, cond, schema, hcond, hschema, fun x hx => ?_⟩
  · rintro rfl
    exact hsome h
  · obtain ⟨row, hrow, hid, hiff, -⟩ := hall x hx
    exact ⟨row, hrow, hid, hiff⟩

/-- The listing sees bob's attributes but not bob: carol, whom nobody touched, has none. -/
theorem carol_without_attributes :
    userRows oneUser (.new "carol") = userRows twoUsers (.new "carol") ∧
      (listUsersAcross none oneUser twoUsers twoUsers).map
        (fun users => users.map fun x => (x.user.userId, x.user.attributes)) =
          .ok [(UserId.new "carol", [])] ∧
      ((getUserDetails (.new "carol") twoUsers).map fun u => u.attributes.map Attribute.name) =
        .ok [AttributeName.new "ou"] := by
  decide +kernel

end Samples

end Sql
end Klldap
