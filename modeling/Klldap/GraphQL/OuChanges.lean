import Klldap.Placement

/-!
# Klldap.GraphQL.OuChanges: moving a list of users or groups

`changeUserOu` and `changeGroupOu` update one user or group after the other, each in a transaction of its
own, and stop at the first that cannot be updated.
-/

namespace Klldap

open Lib (Eff)
open Lib.Bincode (utf8)
open Lib.Text
open Opaque (Suite)

/-! ## Loops that stop -/

theorem each_prefix {σ ε α κ : Type} {R : List κ → σ → σ → Prop}
    (htrans : ∀ {ids ids' : List κ} {s s' s'' : σ}, R ids s s' → R ids' s' s'' → R (ids ++ ids') s s'')
    (f : α → Eff σ ε Unit) (id : α → κ) (good : α → Bool) (l : List α) (s₀ : σ)
    (hf : ∀ a ids s, R ids s₀ s →
      R (if good a then [id a] else []) s (f a s).2 ∧ (f a s).1.isOk = good a)
    {ids : List κ} {s : σ} (h : R ids s₀ s) :
    R (ids ++ (l.takeWhile good).map id) s₀ (Eff.each f l s).2 ∧
      (Eff.each f l s).1.isOk = l.all good := by
  induction l generalizing ids s with
  | nil =>
    rw [List.takeWhile_nil, List.map_nil, List.append_nil]
    exact ⟨h, rfl⟩
  | cons a l ih =>
    obtain ⟨hstep, hverdict⟩ := hf a ids s h
    rw [Eff.each, Eff.bind_run]
    cases hrun : f a s with
    | mk r s₁ =>
      rw [hrun] at hstep hverdict
      cases r with
      | error e =>
        have hbad : good a = false := hverdict.symm
        rw [hbad] at hstep
        rw [List.takeWhile_cons_of_neg (by simp [hbad]), List.all_cons, hbad]
        exact ⟨htrans h hstep, rfl⟩
      | ok _ =>
        have hgood : good a = true := hverdict.symm
        rw [hgood] at hstep
        obtain ⟨hrest, hall⟩ := ih (htrans h hstep)
        rw [List.takeWhile_cons_of_pos hgood, List.all_cons, hgood, Bool.true_and]
        rw [List.append_assoc] at hrest
        exact ⟨hrest, hall⟩

/-! ## One move -/

namespace Sql

variable [External] {ou : String}

def userMovable (db : Store) (u : UserId) : Bool :=
  (getSchema db).isOk && (db.users.find? u).isSome &&
    (db.userAttributeSchema.find? (.new "ou")).isSome

def groupMovable (db : Store) (g : GroupId) : Bool :=
  (getSchema db).isOk && (db.groups.find? g).isSome &&
    (db.groupAttributeSchema.find? (.new "ou")).isSome

theorem MovedUsers.userMovable_eq {ids : List UserId} {db db' : Store} (h : MovedUsers ou ids db db')
    (u : UserId) : userMovable db' u = userMovable db u := by
  unfold userMovable
  rw [h.getSchema_eq, h.users u, h.userAttributeSchema]

theorem MovedGroups.groupMovable_eq {ids : List GroupId} {db db' : Store}
    (h : MovedGroups ou ids db db') (g : GroupId) : groupMovable db' g = groupMovable db g := by
  unfold groupMovable
  rw [h.getSchema_eq, h.groups g, h.groupAttributeSchema]

theorem moveUser_iff {now : DateTime} {db : Store} {u : UserId} :
    (∃ kerb db', updateUserWithTransaction now (moveUser ou u) db = (.ok kerb, db')) ↔
      userMovable db u = true := by
  unfold userMovable
  cases hschema : getSchema db with
  | error e =>
    refine iff_of_false ?_ (by simp [Except.isOk, Except.toBool])
    rintro ⟨kerb, db', h⟩
    obtain ⟨schema, changes, hok, -⟩ := updateUserWithTransaction_ok.mp h
    rw [hschema] at hok
    cases hok
  | ok schema =>
    cases hu : (db.users.find? u).isSome with
    | true =>
      rw [moveUser_succeeds hschema hu]
      simp [Except.isOk, Except.toBool]
    | false =>
      refine iff_of_false ?_ (by simp)
      rintro ⟨kerb, db', h⟩
      obtain ⟨schema', changes, -, -, -, hfits, -⟩ := updateUserWithTransaction_ok.mp h
      exact absurd hfits.user (by simp [moveUser, hu])

theorem moveGroup_iff {now : DateTime} {db : Store} {g : GroupId} :
    (∃ db', updateGroupWithTransaction now (moveGroup ou g) db = (.ok (), db')) ↔
      groupMovable db g = true := by
  unfold groupMovable
  cases hschema : getSchema db with
  | error e =>
    refine iff_of_false ?_ (by simp [Except.isOk, Except.toBool])
    rintro ⟨db', h⟩
    obtain ⟨schema, removes, hok, -⟩ := updateGroupWithTransaction_ok.mp h
    rw [hschema] at hok
    cases hok
  | ok schema =>
    cases hg : (db.groups.find? g).isSome with
    | true =>
      rw [moveGroup_succeeds hschema hg]
      simp [Except.isOk, Except.toBool]
    | false =>
      refine iff_of_false ?_ (by simp)
      rintro ⟨db', h⟩
      obtain ⟨schema', removes, -, -, -, hfits, -⟩ := updateGroupWithTransaction_ok.mp h
      exact absurd hfits.1 (by simp [moveGroup, hg])

omit [External] in
theorem transaction_of_not_ok {σ ε α : Type} {m : Eff σ ε α} {s : σ}
    (h : ¬∃ a s', m s = (.ok a, s')) : ∃ e, m.transaction s = (.error e, s) := by
  unfold Eff.transaction
  cases hm : m s with
  | mk r s' =>
    cases r with
    | ok a => exact absurd ⟨a, s', hm⟩ h
    | error e => exact ⟨e, rfl⟩

theorem isOk_updateUser (out : Outside) (request : UpdateUserRequest) (w : World) :
    (updateUser out request w).1.isOk =
      ((updateUserWithTransaction out.now request).transaction w.db).1.isOk := by
  unfold updateUser
  rw [Eff.bind_run, onDb, Eff.zoom]
  cases (updateUserWithTransaction out.now request).transaction w.db with
  | mk r db' =>
    cases r with
    | error e => rfl
    | ok kerb =>
      dsimp only
      split <;> rfl

theorem updateUser_verdict (out : Outside) (u : UserId) (w : World) :
    MovedUsers ou (if userMovable w.db u then [u] else []) w.db (updateUser out (moveUser ou u) w).2.db ∧
      (updateUser out (moveUser ou u) w).1.isOk = userMovable w.db u := by
  rw [isOk_updateUser, updateUser_db]
  have hiff : (∃ kerb db', updateUserWithTransaction out.now (moveUser ou u) w.db = (.ok kerb, db')) ↔
    _ := moveUser_iff
  cases hmovable : userMovable w.db u with
  | true =>
    obtain ⟨kerb, db', h⟩ := hiff.mpr hmovable
    rw [Eff.transaction, h]
    exact ⟨moveUser_ok h, rfl⟩
  | false =>
    obtain ⟨e, h⟩ := transaction_of_not_ok fun h => absurd (hiff.mp h) (by simp [hmovable])
    rw [h]
    exact ⟨.refl ou w.db, rfl⟩

theorem updateGroup_verdict (now : DateTime) (g : GroupId) (db : Store) :
    MovedGroups ou (if groupMovable db g then [g] else []) db (updateGroup now (moveGroup ou g) db).2 ∧
      (updateGroup now (moveGroup ou g) db).1.isOk = groupMovable db g := by
  have htransaction : updateGroup now (moveGroup ou g) =
    (updateGroupWithTransaction now (moveGroup ou g)).transaction := rfl
  have hiff : (∃ db', updateGroupWithTransaction now (moveGroup ou g) db = (.ok (), db')) ↔
    _ := moveGroup_iff
  rw [htransaction]
  cases hmovable : groupMovable db g with
  | true =>
    obtain ⟨db', h⟩ := hiff.mpr hmovable
    rw [Eff.transaction, h]
    exact ⟨moveGroup_ok h, rfl⟩
  | false =>
    obtain ⟨e, h⟩ := transaction_of_not_ok fun h => absurd (hiff.mp (h.elim fun _ h => h))
      (by simp [hmovable])
    rw [h]
    exact ⟨.refl ou db, rfl⟩

end Sql

/-! ## The lists -/

namespace GraphQL

open Sql

section

variable [External] {S : Suite} (setup : S.ServerSetup) (rng : S.Coins) (out : Outside)

/-- Such a list is processed: the caller is an administrator and the target is not `all`. -/
def mayMove (v : ValidationResults) (newOu : String) : Bool :=
  v.isAdmin && decide (toLowercase (trim newOu) ≠ "all")

omit [External] in
theorem isOk_withDetails {σ α : Type} (message : String) (m : Eff σ DomainError α) (s : σ) :
    (withDetails message m s).1.isOk = (m s).1.isOk := by
  unfold withDetails Eff.mapErr
  cases (m s).1 <;> rfl

theorem adminLoop_outcome {σ : Type} (h : Services S σ) (v : ValidationResults)
    (newOu message refusal : String) (loop : Services S σ → Field σ Unit) (s : σ) :
    let m : Field σ Response := do
      let handler ← orUnauthorized message (getAdminHandler h v)
      if toLowercase (trim newOu) = "all" then fieldError refusal
      else do
        loop handler
        pure .success
    (mayMove v newOu = false → (m s).2 = s) ∧
      (mayMove v newOu = true → (m s).1.isOk = (loop h s).1.isOk ∧ (m s).2 = (loop h s).2) := by
  intro m
  unfold mayMove
  cases hadmin : v.isAdmin with
  | false =>
    have hrun : m s = (.error (.error message none), s) := by
      simp only [m, getAdminHandler, hadmin]
      rfl
    exact ⟨fun _ => by rw [hrun], fun hmay => by cases hmay⟩
  | true =>
    have hrun : m s = (if toLowercase (trim newOu) = "all" then fieldError refusal
        else do loop h; pure .success : Field σ Response) s := by
      simp only [m, getAdminHandler, hadmin]
      rfl
    rw [hrun]
    by_cases hall : toLowercase (trim newOu) = "all"
    · rw [if_pos hall]
      exact ⟨fun _ => rfl, fun hmay => by simp [hall] at hmay⟩
    · rw [if_neg hall, Eff.bind_run]
      refine ⟨fun hmay => by simp [hall] at hmay, fun _ => ?_⟩
      cases loop h s with
      | mk r s' => cases r <;> exact ⟨rfl, rfl⟩

theorem changeUserOu_outcome {v : ValidationResults} {newOu : String} (hmay : mayMove v newOu = true)
    (userIds : List String) (w : World) :
    MovedUsers newOu ((userIds.takeWhile fun u => userMovable w.db (UserId.new u)).map UserId.new) w.db
        (changeUserOu ⟨sqlServices S setup rng out, v⟩ userIds newOu w).2.db ∧
      (changeUserOu ⟨sqlServices S setup rng out, v⟩ userIds newOu w).1.isOk =
        userIds.all fun u => userMovable w.db (UserId.new u) := by
  obtain ⟨hok, hstate⟩ := (adminLoop_outcome (sqlServices S setup rng out) v newOu
    "Unauthorized OU change" "Cannot move users to built-in OU 'All'" (fun handler => Eff.each
      (fun userId => withDetails ("Failed to change OU for user " ++ userId)
        (handler.updateUser (moveUser newOu (UserId.new userId)))) userIds) w).2 hmay
  have hloop := each_prefix (R := fun ids w w' => MovedUsers newOu ids w.db w'.db) (.trans)
    (fun userId => withDetails ("Failed to change OU for user " ++ userId)
      ((sqlServices S setup rng out).updateUser (moveUser newOu (UserId.new userId))))
    UserId.new (fun u => userMovable w.db (UserId.new u)) userIds w
    (fun u ids w' hmoved => by
      have hverdict := @updateUser_verdict _ newOu out (UserId.new u) w'
      rw [hmoved.userMovable_eq] at hverdict
      rw [isOk_withDetails]
      exact hverdict) (.refl newOu w.db)
  rw [← hstate, ← hok] at hloop
  exact hloop

theorem changeGroupOu_outcome {v : ValidationResults} {newOu : String} (hmay : mayMove v newOu = true)
    (groupIds : List Int) (w : World) :
    MovedGroups newOu ((groupIds.takeWhile fun g => groupMovable w.db ⟨g⟩).map GroupId.mk) w.db
        (changeGroupOu ⟨sqlServices S setup rng out, v⟩ groupIds newOu w).2.db ∧
      (changeGroupOu ⟨sqlServices S setup rng out, v⟩ groupIds newOu w).1.isOk =
        groupIds.all fun g => groupMovable w.db ⟨g⟩ := by
  obtain ⟨hok, hstate⟩ := (adminLoop_outcome (sqlServices S setup rng out) v newOu
    "Unauthorized OU change" "Cannot move groups to built-in OU 'All'" (fun handler => Eff.each
      (fun groupId => withDetails ("Failed to change OU for group " ++ toString groupId)
        (handler.updateGroup (moveGroup newOu ⟨groupId⟩))) groupIds) w).2 hmay
  have hloop := each_prefix (R := fun ids w w' => MovedGroups newOu ids w.db w'.db) (.trans)
    (fun groupId => withDetails ("Failed to change OU for group " ++ toString groupId)
      ((sqlServices S setup rng out).updateGroup (moveGroup newOu ⟨groupId⟩)))
    GroupId.mk (fun g => groupMovable w.db ⟨g⟩) groupIds w
    (fun g ids w' hmoved => by
      have hverdict := @updateGroup_verdict _ newOu out.now ⟨g⟩ w'.db
      rw [hmoved.groupMovable_eq] at hverdict
      rw [isOk_withDetails]
      exact hverdict) (.refl newOu w.db)
  rw [← hstate, ← hok] at hloop
  exact hloop

omit [External] in
theorem unchanged_iff {κ α : Type} [DecidableEq κ] {moved ids : List κ} {before after : κ → Option α}
    {value : α} (hsub : ∀ k ∈ moved, k ∈ ids)
    (h : ∀ k, after k = if k ∈ moved then some value else before k) :
    (∀ k ∈ ids, after k = before k) ↔ ∀ k ∈ moved, before k = some value := by
  constructor
  · intro hids k hk
    rw [← hids k (hsub k hk), h, if_pos hk]
  · intro hmoved k _
    rw [h]
    split
    · next hk => exact (hmoved k hk).symm
    · rfl

/-- An error leaves the users of the list where they were exactly if, should some of them not exist,
those before the first of these are in the new place already. The same holds of groups. -/
theorem changeOu_atomic_iff (v : ValidationResults) (newOu : String) (w : World) :
    (∀ userIds : List String,
      let answer := changeUserOu ⟨sqlServices S setup rng out, v⟩ userIds newOu w
      (answer.1.isOk = false → ∀ u ∈ userIds,
          userValue answer.2.db (UserId.new u) "ou" = userValue w.db (UserId.new u) "ou") ↔
        (mayMove v newOu = true → (userIds.all fun u => userMovable w.db (UserId.new u)) = false →
          ∀ u ∈ userIds.takeWhile fun u => userMovable w.db (UserId.new u),
            userValue w.db (UserId.new u) "ou" = some (utf8 newOu))) ∧
    (∀ groupIds : List Int,
      let answer := changeGroupOu ⟨sqlServices S setup rng out, v⟩ groupIds newOu w
      (answer.1.isOk = false → ∀ g ∈ groupIds,
          groupValue answer.2.db ⟨g⟩ "ou" = groupValue w.db ⟨g⟩ "ou") ↔
        (mayMove v newOu = true → (groupIds.all fun g => groupMovable w.db ⟨g⟩) = false →
          ∀ g ∈ groupIds.takeWhile fun g => groupMovable w.db ⟨g⟩,
            groupValue w.db ⟨g⟩ "ou" = some (utf8 newOu))) := by
  constructor
  · intro userIds answer
    cases hmay : mayMove v newOu with
    | false =>
      refine iff_of_true (fun _ u _ => ?_) fun h => nomatch h
      rw [show answer.2 = w from (adminLoop_outcome (sqlServices S setup rng out) v newOu _ _ _ w).1 hmay]
    | true =>
      obtain ⟨hmoved, hok⟩ := changeUserOu_outcome setup rng out hmay userIds w
      rw [show answer.1.isOk = _ from hok]
      rw [forall_prop_of_true (rfl : true = true)]
      refine imp_congr_right fun _ => ?_
      have hiff : (∀ k ∈ userIds.map UserId.new, userValue answer.2.db k "ou" = userValue w.db k "ou") ↔ _ :=
        unchanged_iff (fun k hk => ?_) hmoved.value
      · simpa using hiff
      · obtain ⟨u, hu, rfl⟩ := List.mem_map.mp hk
        exact List.mem_map.mpr ⟨u, List.takeWhile_subset _ hu, rfl⟩
  · intro groupIds answer
    cases hmay : mayMove v newOu with
    | false =>
      refine iff_of_true (fun _ g _ => ?_) fun h => nomatch h
      rw [show answer.2 = w from (adminLoop_outcome (sqlServices S setup rng out) v newOu _ _ _ w).1 hmay]
    | true =>
      obtain ⟨hmoved, hok⟩ := changeGroupOu_outcome setup rng out hmay groupIds w
      rw [show answer.1.isOk = _ from hok]
      rw [forall_prop_of_true (rfl : true = true)]
      refine imp_congr_right fun _ => ?_
      have hiff : (∀ k ∈ groupIds.map GroupId.mk, groupValue answer.2.db k "ou" = groupValue w.db k "ou") ↔ _ :=
        unchanged_iff (fun k hk => ?_) hmoved.value
      · simpa using hiff
      · obtain ⟨g, hg, rfl⟩ := List.mem_map.mp hk
        exact List.mem_map.mpr ⟨g, List.takeWhile_subset _ hg, rfl⟩

end

section

open Plain
open Codecs

/-- `alice` is moved although the request fails at `bob`. -/
theorem alice_moved_by_failed_request :
    let w := afterPlacements [placeAlice]
    let answer := changeUserOu ⟨sqlServices Opaque.plainSuite () () outside, anAdmin⟩ ["alice", "bob"]
      "sales" w
    answer.1.isOk = false ∧ userValue w.db (UserId.new "alice") "ou" = some (utf8 "people") ∧
      userValue answer.2.db (UserId.new "alice") "ou" = some (utf8 "sales") := by
  decide +kernel

end

end GraphQL
end Klldap
