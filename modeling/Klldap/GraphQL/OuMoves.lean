import Klldap.GraphQL.Ous
import Klldap.Sql.Stored

/-!
# Klldap.GraphQL.OuMoves: moving users and groups out of a deleted organizational unit

The deletion of an organizational unit lists the users and the groups and updates those that are in
it. Each call to the backend may fail; the ones that move somebody are only logged.
-/

namespace Klldap

open Lib (Eff except_bind_ok)
open Lib.Bincode (utf8)
open Opaque (Suite)
open GraphQL (ouAttribute)

namespace Sql

variable [External]

omit [External] in
theorem ou_userAttribute : "ou" ∈ PublicSchema.userAttributes.map AttributeSchema.name := by decide

omit [External] in
theorem ou_groupAttribute : "ou" ∈ PublicSchema.groupAttributes.map AttributeSchema.name := by
  decide

omit [External] in
theorem lastGiven_append_cons {canonical : String → AttributeName} {n : String}
    (before : List Attribute) {after : List Attribute} {a : Attribute} (ha : canonical a.name.asStr = .new n)
    (hafter : ∀ a' ∈ after, canonical a'.name.asStr ≠ .new n) :
    lastGiven canonical n (before ++ a :: after) = some a := by
  unfold lastGiven
  rw [List.reverse_append, List.reverse_cons, List.append_assoc, List.find?_append,
    List.find?_eq_none.mpr (by simpa using hafter), Option.none_or, List.singleton_append,
    List.find?_cons_of_pos (by simpa using ha)]

omit [External] in
theorem ouAttribute_user (ou : String) :
    canonicalUserAttributeName (ouAttribute ou).name.asStr = .new "ou" :=
  have h : canonicalUserAttributeName (AttributeName.new "ou").asStr = .new "ou" := by
    decide +kernel
  h

omit [External] in
theorem ouAttribute_group (ou : String) :
    canonicalGroupAttributeName (ouAttribute ou).name.asStr = .new "ou" :=
  have h : canonicalGroupAttributeName (AttributeName.new "ou").asStr = .new "ou" := by
    decide +kernel
  h

theorem ouAttribute_text (ou : String) :
    textOr "" (attributeValueToDbBytes (ouAttribute ou).value) = ou := textOr_utf8 "" ou

variable {now : DateTime} {db db' : Store} {ou : String}

/-! ## Moves -/

def moveUser (ou : String) (u : UserId) : UpdateUserRequest := ⟨u, none, none, [], [ouAttribute ou]⟩

def moveGroup (ou : String) (g : GroupId) : UpdateGroupRequest := ⟨g, none, [], [ouAttribute ou]⟩

/-- Some users have been moved: their organizational unit is written, and of what is placed nothing
else. -/
structure MovedUsers (ou : String) (ids : List UserId) (db db' : Store) : Prop where
  rest : ∃ users attrs, db' = { db with users := users, userAttributes := attrs }
  users : ∀ u, (db'.users.find? u).isSome = (db.users.find? u).isSome
  value : ∀ u, userValue db' u "ou" = if u ∈ ids then some (utf8 ou) else userValue db u "ou"
  named : UserNamed "ou" db → UserNamed "ou" db'

/-- Some groups have been moved. -/
structure MovedGroups (ou : String) (ids : List GroupId) (db db' : Store) : Prop where
  rest : ∃ groups attrs, db' = { db with groups := groups, groupAttributes := attrs }
  groups : ∀ g, (db'.groups.find? g).isSome = (db.groups.find? g).isSome
  value : ∀ g, groupValue db' g "ou" = if g ∈ ids then some (utf8 ou) else groupValue db g "ou"
  named : GroupNamed "ou" db → GroupNamed "ou" db'

namespace MovedUsers

variable {ids ids' : List UserId} {db'' : Store}

omit [External] in
theorem refl (ou : String) (db : Store) : MovedUsers ou [] db db :=
  ⟨⟨_, _, rfl⟩, fun _ => rfl, fun _ => rfl, id⟩

omit [External] in
theorem trans (h : MovedUsers ou ids db db') (h' : MovedUsers ou ids' db' db'') :
    MovedUsers ou (ids ++ ids') db db'' := by
  refine ⟨?_, fun u => (h'.users u).trans (h.users u), fun u => ?_, fun hn => h'.named (h.named hn)⟩
  · obtain ⟨users, attrs, rfl⟩ := h.rest
    obtain ⟨users', attrs', rfl⟩ := h'.rest
    exact ⟨users', attrs', rfl⟩
  · rw [h'.value u, h.value u]
    by_cases hu : u ∈ ids
    · simp [hu]
    · simp [hu]

theorem getSchema_eq (h : MovedUsers ou ids db db') : getSchema db' = getSchema db := by
  obtain ⟨users, attrs, rfl⟩ := h.rest
  rfl

omit [External] in
theorem userAttributeSchema (h : MovedUsers ou ids db db') :
    db'.userAttributeSchema = db.userAttributeSchema := by
  obtain ⟨users, attrs, rfl⟩ := h.rest
  rfl

end MovedUsers

namespace MovedGroups

variable {ids ids' : List GroupId} {db'' : Store}

omit [External] in
theorem refl (ou : String) (db : Store) : MovedGroups ou [] db db :=
  ⟨⟨_, _, rfl⟩, fun _ => rfl, fun _ => rfl, id⟩

omit [External] in
theorem trans (h : MovedGroups ou ids db db') (h' : MovedGroups ou ids' db' db'') :
    MovedGroups ou (ids ++ ids') db db'' := by
  refine ⟨?_, fun g => (h'.groups g).trans (h.groups g), fun g => ?_,
    fun hn => h'.named (h.named hn)⟩
  · obtain ⟨groups, attrs, rfl⟩ := h.rest
    obtain ⟨groups', attrs', rfl⟩ := h'.rest
    exact ⟨groups', attrs', rfl⟩
  · rw [h'.value g, h.value g]
    by_cases hg : g ∈ ids
    · simp [hg]
    · simp [hg]

theorem getSchema_eq (h : MovedGroups ou ids db db') : getSchema db' = getSchema db := by
  obtain ⟨groups, attrs, rfl⟩ := h.rest
  rfl

omit [External] in
theorem groupAttributeSchema (h : MovedGroups ou ids db db') :
    db'.groupAttributeSchema = db.groupAttributeSchema := by
  obtain ⟨groups, attrs, rfl⟩ := h.rest
  rfl

end MovedGroups

theorem isSome_find?_updatedUsers {request : UpdateUserRequest} {kerb : Option Bool} {users}
    (u : UserId) :
    ((updatedUsers now request kerb users).find? u).isSome = (users.find? u).isSome := by
  unfold updatedUsers
  dsimp only
  split
  · rw [Lib.Table.isSome_find?_update, Lib.Table.isSome_find?_update]
  · rw [Lib.Table.isSome_find?_update]

theorem moveUser_ok {u : UserId} {kerb : Option Bool}
    (h : updateUserWithTransaction now (moveUser ou u) db = (.ok kerb, db')) :
    MovedUsers ou [u] db db' := by
  obtain ⟨schema, changes, hschema, hchanges, -, -, hkeys, rfl, rfl⟩ :=
    updateUserWithTransaction_ok.mp h
  have hgiven : givenUser "ou" (moveUser ou u).insertAttributes = some (ouAttribute ou) :=
    lastGiven_append_cons [] (ouAttribute_user ou) fun _ ha => nomatch ha
  refine ⟨⟨_, _, rfl⟩, isSome_find?_updatedUsers, fun v => ?_, fun hn => ?_⟩
  · rw [userValue_updated hschema hchanges ou_userAttribute, hgiven]
    simp only [List.mem_singleton]
    rfl
  · exact hn.upsertAll _ (fun r hr => List.mem_of_mem_filter hr) fun r hr => (hkeys r hr).2

theorem moveGroup_ok {g : GroupId}
    (h : updateGroupWithTransaction now (moveGroup ou g) db = (.ok (), db')) :
    MovedGroups ou [g] db db' := by
  obtain ⟨schema, removes, hschema, -, -, -, hkeys, rfl⟩ := updateGroupWithTransaction_ok.mp h
  have hgiven : givenGroup "ou" (moveGroup ou g).insertAttributes = some (ouAttribute ou) :=
    lastGiven_append_cons [] (ouAttribute_group ou) fun _ ha => nomatch ha
  refine ⟨⟨_, _, rfl⟩, fun v => ?_, fun v => ?_, fun hn => ?_⟩
  · exact Lib.Table.isSome_find?_update _ _ _ _ updatedGroup_groupId
  · rw [groupValue_updated hschema ou_groupAttribute, hgiven]
    simp only [List.mem_singleton]
    rfl
  · exact hn.upsertAll _ _ (fun r hr => List.mem_of_mem_filter hr) fun r hr => (hkeys r hr).2

theorem storedName_userOu {schema : Schema} (hschema : getSchema db = .ok schema) :
    storedName schema.userAttributes (ouAttribute ou).name = .new "ou" := by
  obtain ⟨b, hb, hname⟩ := List.mem_map.mp ou_userAttribute
  rw [← hname, storedName_user hschema hb, hname]
  exact ouAttribute_user ou

theorem storedName_groupOu {schema : Schema} (hschema : getSchema db = .ok schema) :
    storedName schema.groupAttributes (ouAttribute ou).name = .new "ou" := by
  obtain ⟨b, hb, hname⟩ := List.mem_map.mp ou_groupAttribute
  rw [← hname, storedName_group hschema hb, hname]
  exact ouAttribute_group ou

theorem computeUserAttributeChanges_move (schema : Schema) (u : UserId) :
    computeUserAttributeChanges u (moveUser ou u).insertAttributes (moveUser ou u).deleteAttributes
      schema = .ok ⟨[attributeRow schema u (ouAttribute ou)], [], none⟩ := by
  have hwritable : isWritable schema.userAttributes (ouAttribute ou).name = true :=
    Bool.or_eq_true_iff.mpr (.inr rfl)
  unfold computeUserAttributeChanges moveUser
  rw [List.mapM_cons, if_pos hwritable]
  rfl

theorem moveUser_succeeds {schema : Schema} (hschema : getSchema db = .ok schema) {u : UserId}
    (hu : (db.users.find? u).isSome = true) :
    (∃ kerb db', updateUserWithTransaction now (moveUser ou u) db = (.ok kerb, db')) ↔
      (db.userAttributeSchema.find? (.new "ou")).isSome = true := by
  have hstored : storedName schema.userAttributes (ouAttribute ou).name = .new "ou" :=
    storedName_userOu hschema
  constructor
  · rintro ⟨kerb, db', h⟩
    obtain ⟨schema', changes, hschema', hchanges, -, -, hkeys, -, -⟩ :=
      updateUserWithTransaction_ok.mp h
    cases Except.ok.inj (hschema.symm.trans hschema')
    have hrow := (hkeys (attributeRow schema u (ouAttribute ou)) (by
      rw [← Except.ok.inj ((computeUserAttributeChanges_move schema u).symm.trans hchanges)]
      exact List.mem_singleton_self _)).2
    rw [← hstored]
    exact hrow
  · intro hrow
    refine ⟨none, _, updateUserWithTransaction_ok.mpr ⟨schema, _, hschema,
      computeUserAttributeChanges_move schema u, ?_, ⟨hu, fun e he => nomatch he⟩, ?_, rfl, rfl⟩⟩
    · intro row hmem
      rw [List.mem_singleton.mp hmem]
      unfold checkUserNumber attributeRow
      dsimp only
      rw [hstored]
      split
      · rfl
      · rfl
    · intro row hmem
      rw [List.mem_singleton.mp hmem]
      refine ⟨hu, ?_⟩
      unfold attributeRow
      dsimp only
      rw [hstored]
      exact hrow

theorem moveGroup_succeeds {schema : Schema} (hschema : getSchema db = .ok schema) {g : GroupId}
    (hg : (db.groups.find? g).isSome = true) :
    (∃ db', updateGroupWithTransaction now (moveGroup ou g) db = (.ok (), db')) ↔
      (db.groupAttributeSchema.find? (.new "ou")).isSome = true := by
  have hstored : storedName schema.groupAttributes (ouAttribute ou).name = .new "ou" :=
    storedName_groupOu hschema
  constructor
  · rintro ⟨db', h⟩
    obtain ⟨schema', removes, hschema', -, -, -, hkeys, -⟩ := updateGroupWithTransaction_ok.mp h
    cases Except.ok.inj (hschema.symm.trans hschema')
    have hrow := (hkeys (groupAttributeRow schema g (ouAttribute ou))
      (List.mem_singleton_self _)).2
    rw [← hstored]
    exact hrow
  · intro hrow
    refine ⟨_, updateGroupWithTransaction_ok.mpr
      ⟨schema, [], hschema, ?_, rfl, ⟨hg, fun n hn => nomatch hn⟩, ?_, rfl⟩⟩
    · intro a ha
      rw [List.mem_singleton.mp ha]
      rfl
    · intro row hmem
      rw [List.mem_singleton.mp hmem]
      refine ⟨hg, ?_⟩
      unfold groupAttributeRow
      dsimp only
      rw [hstored]
      exact hrow

/-! ## Reading the organizational unit -/

omit [External] in
theorem ou_schema : ∃ b ∈ PublicSchema.userAttributes, b.name = "ou" ∧
    b.attributeType = .string ∧ b.isList = false := by decide

omit [External] in
theorem ou_groupSchema : ∃ b ∈ PublicSchema.groupAttributes, b.name = "ou" ∧
    b.attributeType = .string ∧ b.isList = false := by decide

omit [External] in
theorem currentOu_eq {attributes : List Attribute} {ou : String}
    (h : ∀ a, a ∈ attributes ∧ a.name = .new "ou" ↔ a = ouAttribute ou) :
    GraphQL.currentOu attributes = ou := by
  have hfind : attributes.find? (fun a => a.name.asStr = "ou") = some (ouAttribute ou) := by
    cases hf : attributes.find? fun a => a.name.asStr = "ou" with
    | none =>
      have hnone := List.find?_eq_none.mp hf _ ((h _).mpr rfl).1
      exact absurd (decide_eq_true rfl) hnone
    | some a =>
      have hname : a.name.asStr = "ou" := by simpa using List.find?_some hf
      rw [(h a).mp ⟨List.mem_of_find?_eq_some hf, by rw [← AttributeName.new_asStr a.name, hname]⟩]
  unfold GraphQL.currentOu
  rw [hfind]
  rfl

theorem listUsers_ou {users : List UserAndGroups} (hn : UserNamed "ou" db)
    (h : listUsers none false db = .ok users) {u : UserId}
    (hu : (db.users.find? u).isSome = true) {value : Lib.Bytes}
    (hvalue : userValue db u "ou" = some value) :
    ∃ x ∈ users, x.user.userId = u ∧ GraphQL.currentOu x.user.attributes = textOr "" value := by
  obtain ⟨cond, schema, hcond, hschema, -, hall⟩ := mem_listUsers_rows h
  obtain ⟨b, hb, hname, htype, hlist⟩ := ou_schema
  obtain ⟨row, hrow⟩ := Option.isSome_iff_exists.mp hu
  have hkey := Lib.Table.key_of_find? hrow
  have hholds : (cond db row).holds = true := by
    cases hcond
    rfl
  obtain ⟨x, hx, rows, hrows, hread⟩ := hall row (Lib.Table.mem_of_find? hrow) hholds
  refine ⟨x, hx, (readUser_userId hread).trans hkey, currentOu_eq fun a => ?_⟩
  rw [readUser_value hschema hname hn hb (by decide) (hkey ▸ hrows) hread, hvalue, htype, hlist]
  simp [ouAttribute, deserializeAttributeValue]

theorem listGroups_ou {groups : List Group} (hn : GroupNamed "ou" db)
    (h : listGroups none db = .ok groups) {g : GroupId}
    (hg : (db.groups.find? g).isSome = true) {value : Lib.Bytes}
    (hvalue : groupValue db g "ou" = some value) :
    ∃ x ∈ groups, x.id = g ∧ GraphQL.currentOu x.attributes = textOr "" value := by
  obtain ⟨schema, hschema, -, hall⟩ := mem_listGroups_rows h
  obtain ⟨b, hb, hname, htype, hlist⟩ := ou_groupSchema
  obtain ⟨row, hrow⟩ := Option.isSome_iff_exists.mp hg
  have hkey := Lib.Table.key_of_find? hrow
  obtain ⟨x, hx, rows, hid, hrows, hread⟩ := hall row (Lib.Table.mem_of_find? hrow) rfl
  refine ⟨x, hx, hid.trans hkey, currentOu_eq fun a => ?_⟩
  rw [readGroup_value hschema hname hn hb (hkey ▸ hrows) hread, hvalue, htype, hlist]
  simp [ouAttribute, deserializeAttributeValue]

theorem listGroups_congr (hgroups : db'.groups = db.groups)
    (hattrs : db'.groupAttributes = db.groupAttributes) (hschema : getSchema db' = getSchema db)
    {groups : List Group} (h : listGroups none db = .ok groups) :
    ∃ groups', listGroups none db' = .ok groups' ∧
      ∀ x ∈ groups, ∃ x' ∈ groups', withoutMembers x' = withoutMembers x := by
  obtain ⟨schema, hs, h⟩ := except_bind_ok.mp h
  obtain ⟨unsorted, hmap, hsort⟩ := except_bind_ok.mp h
  have hsame := congrArg (Except.map (List.map withoutMembers)) hmap
  rw [Lib.except_map_mapM, funext (readGroup_withoutMembers schema db db'),
    ← Lib.except_map_mapM] at hsame
  obtain ⟨unsorted', hmap', heq⟩ := Lib.except_map_ok.mp hsame
  refine ⟨sortGroups unsorted', ?_, fun x hx => ?_⟩
  · unfold listGroups
    rw [hschema, hs, hgroups, hattrs]
    exact except_bind_ok.mpr ⟨schema, rfl, except_bind_ok.mpr ⟨unsorted', hmap', rfl⟩⟩
  · rw [← Except.ok.inj hsort, sortGroups, List.mem_insertionSort] at hx
    have hmem : withoutMembers x ∈ unsorted'.map withoutMembers := by
      rw [heq]
      exact List.mem_map_of_mem hx
    obtain ⟨x', hx', hxx'⟩ := List.mem_map.mp hmem
    refine ⟨x', ?_, hxx'⟩
    rw [sortGroups, List.mem_insertionSort]
    exact hx'

end Sql

/-! ## Loops of moves -/

section

open Sql

variable [External] {S : Suite} (setup : S.ServerSetup) (rng : S.Coins) (out : Outside)

theorem updateUser_move (ou : String) (u : UserId) (w : World) :
    ∃ ids, MovedUsers ou ids w.db
      ((sqlServices S setup rng out).updateUser (moveUser ou u) w).2.db := by
  change ∃ ids, MovedUsers ou ids w.db (Sql.updateUser out (moveUser ou u) w).2.db
  rw [Sql.updateUser_db]
  rcases Eff.transaction_cases (updateUserWithTransaction out.now (moveUser ou u)) w.db with
    h | ⟨kerb, h⟩
  · rw [h]
    exact ⟨[], .refl ou w.db⟩
  · exact ⟨[u], moveUser_ok h⟩

theorem updateGroup_move (ou : String) (g : GroupId) (w : World) :
    ∃ ids, MovedGroups ou ids w.db
      ((sqlServices S setup rng out).updateGroup (moveGroup ou g) w).2.db := by
  change ∃ ids, MovedGroups ou ids w.db (Sql.updateGroup out.now (moveGroup ou g) w.db).2
  rcases updateGroup_atomic out.now (moveGroup ou g) w.db with h | ⟨_, h⟩
  · rw [h]
    exact ⟨[], .refl ou w.db⟩
  · exact ⟨[g], moveGroup_ok (updateGroup_ok h)⟩

theorem updateUser_moved (ou : String) {schema : Schema} {u : UserId} {w : World}
    (hschema : getSchema w.db = .ok schema) (hu : (w.db.users.find? u).isSome = true) :
    MovedUsers ou (if (w.db.userAttributeSchema.find? (.new "ou")).isSome then [u] else []) w.db
      ((sqlServices S setup rng out).updateUser (moveUser ou u) w).2.db := by
  change MovedUsers ou _ w.db (Sql.updateUser out (moveUser ou u) w).2.db
  rw [Sql.updateUser_db]
  have hiff : (∃ kerb db', updateUserWithTransaction out.now (moveUser ou u) w.db =
    (.ok kerb, db')) ↔ _ := moveUser_succeeds hschema hu
  split
  · rename_i hrow
    obtain ⟨kerb, db', hmove⟩ := hiff.mpr hrow
    rw [Eff.transaction, hmove]
    exact moveUser_ok hmove
  · rename_i hrow
    rcases Eff.transaction_cases (updateUserWithTransaction out.now (moveUser ou u)) w.db with
      h | ⟨kerb, h⟩
    · rw [h]
      exact .refl ou w.db
    · exact absurd (hiff.mp ⟨kerb, _, h⟩) hrow

theorem updateGroup_moved (ou : String) {schema : Schema} {g : GroupId} {w : World}
    (hschema : getSchema w.db = .ok schema) (hg : (w.db.groups.find? g).isSome = true) :
    MovedGroups ou (if (w.db.groupAttributeSchema.find? (.new "ou")).isSome then [g] else []) w.db
      ((sqlServices S setup rng out).updateGroup (moveGroup ou g) w).2.db := by
  change MovedGroups ou _ w.db (Sql.updateGroup out.now (moveGroup ou g) w.db).2
  have htransaction : Sql.updateGroup out.now (moveGroup ou g) =
    (updateGroupWithTransaction out.now (moveGroup ou g)).transaction := rfl
  have hiff : (∃ db', updateGroupWithTransaction out.now (moveGroup ou g) w.db = (.ok (), db')) ↔ _ :=
    moveGroup_succeeds hschema hg
  rw [htransaction]
  split
  · rename_i hrow
    obtain ⟨db', hmove⟩ := hiff.mpr hrow
    rw [Eff.transaction, hmove]
    exact moveGroup_ok hmove
  · rename_i hrow
    rcases Eff.transaction_cases (updateGroupWithTransaction out.now (moveGroup ou g)) w.db with
      h | ⟨_, h⟩
    · rw [h]
      exact .refl ou w.db
    · exact absurd (hiff.mp ⟨_, h⟩) hrow

omit [External] in
theorem bestEffort_moved {α κ : Type} {R : List κ → Store → Store → Prop}
    (htrans : ∀ {ids ids' : List κ} {db db' db'' : Store}, R ids db db' → R ids' db' db'' →
      R (ids ++ ids') db db'')
    (move : α → Eff World DomainError Unit) (id : α → κ) (good : α → Bool) (l : List α) (db₀ : Store)
    (hmove : ∀ a ∈ l, ∀ ids w, R ids db₀ w.db →
      R (if good a then [id a] else []) w.db (move a w).2.db)
    {ids : List κ} {w : World} (h : R ids db₀ w.db) :
    R (ids ++ (l.filter good).map id) db₀ (GraphQL.bestEffort move l w).2.db := by
  induction l generalizing ids w with
  | nil =>
    rw [List.filter_nil, List.map_nil, List.append_nil]
    exact h
  | cons a l ih =>
    have hrest := ih (fun b hb => hmove b (by simp [hb])) (htrans h (hmove a (by simp) ids w h))
    rw [List.append_assoc] at hrest
    rw [List.filter_cons]
    cases hgood : good a with
    | true =>
      rw [hgood] at hrest
      exact hrest
    | false =>
      rw [hgood] at hrest
      exact hrest

end

/-! ## Calls that fail -/

namespace GraphQL

open Sql

/-- The calls that a deletion makes to the backend. -/
inductive BackendCall where
  | getAllowedOus
  | listUsers
  | updateUser (u : UserId)
  | listGroups
  | updateGroup (g : GroupId)
  | setSystemConfig
deriving DecidableEq

variable {S : Suite}

def failing {σ : Type} (fails : BackendCall → Option DomainError) (h : Services S σ) :
    Services S σ :=
  { h with
    getAllowedOus := Eff.orFails (fails .getAllowedOus) h.getAllowedOus
    listUsers := fun filters getGroups => Eff.orFails (fails .listUsers) (h.listUsers filters getGroups)
    updateUser := fun request =>
      Eff.orFails (fails (.updateUser request.userId)) (h.updateUser request)
    listGroups := fun filters => Eff.orFails (fails .listGroups) (h.listGroups filters)
    updateGroup := fun request =>
      Eff.orFails (fails (.updateGroup request.groupId)) (h.updateGroup request)
    setSystemConfig := fun key value =>
      Eff.orFails (fails .setSystemConfig) (h.setSystemConfig key value) }

variable [External]

/-- The listing of the users shows the user in the organizational unit. -/
def ShowsUserOu (nameLower : String) (db : Store) (u : UserId) : Prop :=
  ∃ users, Sql.listUsers none false db = .ok users ∧
    ∃ x ∈ users, x.user.userId = u ∧ toLowercase (currentOu x.user.attributes) = nameLower

def ShowsGroupOu (nameLower : String) (db : Store) (g : GroupId) : Prop :=
  ∃ groups, Sql.listGroups none db = .ok groups ∧
    ∃ x ∈ groups, x.id = g ∧ toLowercase (currentOu x.attributes) = nameLower

/-- The deletion of an organizational unit moves the user. -/
structure UserMovable (fails : BackendCall → Option DomainError) (nameLower : String) (db : Store)
    (u : UserId) : Prop where
  listing : fails .listUsers = none
  shown : ShowsUserOu nameLower db u
  update : fails (.updateUser u) = none
  row : (db.userAttributeSchema.find? (.new "ou")).isSome = true

/-- The deletion of an organizational unit moves the group. -/
structure GroupMovable (fails : BackendCall → Option DomainError) (nameLower : String) (db : Store)
    (g : GroupId) : Prop where
  listing : fails .listGroups = none
  shown : ShowsGroupOu nameLower db g
  update : fails (.updateGroup g) = none
  row : (db.groupAttributeSchema.find? (.new "ou")).isSome = true

variable (fails : BackendCall → Option DomainError) (setup : S.ServerSetup) (rng : S.Coins)
  (out : Outside) (nameLower : String)

theorem failing_updateUser_moved (ou : String) {schema : Schema} {u : UserId} {w : World}
    (hschema : getSchema w.db = .ok schema) (hu : (w.db.users.find? u).isSome = true) :
    MovedUsers ou (if fails (.updateUser u) = none ∧
        (w.db.userAttributeSchema.find? (.new "ou")).isSome = true then [u] else []) w.db
      ((failing fails (sqlServices S setup rng out)).updateUser (moveUser ou u) w).2.db := by
  have hcall : (failing fails (sqlServices S setup rng out)).updateUser (moveUser ou u) =
      Eff.orFails (fails (.updateUser u)) ((sqlServices S setup rng out).updateUser (moveUser ou u)) :=
    rfl
  rw [hcall]
  cases hfail : fails (.updateUser u) with
  | some e =>
    rw [if_neg (fun h => nomatch h.1)]
    exact .refl ou w.db
  | none =>
    simp only [true_and]
    exact updateUser_moved setup rng out ou hschema hu

theorem failing_updateGroup_moved (ou : String) {schema : Schema} {g : GroupId} {w : World}
    (hschema : getSchema w.db = .ok schema) (hg : (w.db.groups.find? g).isSome = true) :
    MovedGroups ou (if fails (.updateGroup g) = none ∧
        (w.db.groupAttributeSchema.find? (.new "ou")).isSome = true then [g] else []) w.db
      ((failing fails (sqlServices S setup rng out)).updateGroup (moveGroup ou g) w).2.db := by
  have hcall : (failing fails (sqlServices S setup rng out)).updateGroup (moveGroup ou g) =
      Eff.orFails (fails (.updateGroup g)) ((sqlServices S setup rng out).updateGroup (moveGroup ou g)) :=
    rfl
  rw [hcall]
  cases hfail : fails (.updateGroup g) with
  | some e =>
    rw [if_neg (fun h => nomatch h.1)]
    exact .refl ou w.db
  | none =>
    simp only [true_and]
    exact updateGroup_moved setup rng out ou hschema hg

theorem reassignUsers_moved (w : World) :
    ∃ ids, MovedUsers "people" ids w.db
        (reassignUsers (failing fails (sqlServices S setup rng out)) nameLower w).2.db ∧
      ∀ u, u ∈ ids ↔ UserMovable fails nameLower w.db u := by
  have hlist : (failing fails (sqlServices S setup rng out)).listUsers none false w =
      Eff.orFails (fails .listUsers) (fun w => (Sql.listUsers none false w.db, w)) w := rfl
  unfold reassignUsers
  rw [Eff.bind_run, Eff.attempt, hlist]
  cases hfail : fails .listUsers with
  | some e =>
    refine ⟨[], .refl _ w.db, fun u => iff_of_false List.not_mem_nil fun hm => ?_⟩
    cases hfail.symm.trans hm.listing
  | none =>
    unfold Eff.orFails
    cases husers : Sql.listUsers none false w.db with
    | error e =>
      dsimp only
      rw [husers]
      refine ⟨[], .refl _ w.db, fun u => iff_of_false List.not_mem_nil fun hm => ?_⟩
      obtain ⟨users, husers', -⟩ := hm.shown
      cases husers.symm.trans husers'
    | ok users =>
      dsimp only
      rw [husers]
      have hmoved := bestEffort_moved MovedUsers.trans
        (fun x : UserAndGroups => (failing fails (sqlServices S setup rng out)).updateUser
          (moveUser "people" x.user.userId)) (fun x => x.user.userId)
        (fun x => decide (fails (.updateUser x.user.userId) = none ∧
          (w.db.userAttributeSchema.find? (.new "ou")).isSome = true))
        (users.filter fun x => toLowercase (currentOu x.user.attributes) = nameLower)
        w.db (fun x hx ids w' h => ?_) (MovedUsers.refl "people" w.db)
      · refine ⟨_, hmoved, fun u => ?_⟩
        simp only [List.nil_append, List.mem_map, List.mem_filter, decide_eq_true_eq]
        constructor
        · rintro ⟨x, ⟨⟨hx, hou⟩, hupdate, hrow⟩, rfl⟩
          exact ⟨hfail, ⟨users, husers, x, hx, rfl, hou⟩, hupdate, hrow⟩
        · rintro ⟨-, ⟨users', husers', x, hx, rfl, hou⟩, hupdate, hrow⟩
          cases Except.ok.inj (husers.symm.trans husers')
          exact ⟨x, ⟨⟨hx, hou⟩, hupdate, hrow⟩, rfl⟩
      · obtain ⟨cond, schema, -, hschema, hmem, -⟩ := mem_listUsers_rows husers
        obtain ⟨row, hmem, rows, -, -, hread⟩ := hmem x (List.mem_of_mem_filter hx)
        have hexists : (w'.db.users.find? x.user.userId).isSome = true := by
          rw [h.users, readUser_userId hread]
          exact Lib.Table.isSome_find?_of_mem hmem
        have hone := failing_updateUser_moved fails setup rng out "people"
          (h.getSchema_eq.trans hschema) hexists
        simpa only [decide_eq_true_eq, h.userAttributeSchema] using hone

theorem reassignGroups_moved (w : World) :
    ∃ ids, MovedGroups "groups" ids w.db
        (reassignGroups (failing fails (sqlServices S setup rng out)) nameLower w).2.db ∧
      ∀ g, g ∈ ids ↔ GroupMovable fails nameLower w.db g := by
  have hlist : (failing fails (sqlServices S setup rng out)).listGroups none w =
      Eff.orFails (fails .listGroups) (fun w => (Sql.listGroups none w.db, w)) w := rfl
  unfold reassignGroups
  rw [Eff.bind_run, Eff.attempt, hlist]
  cases hfail : fails .listGroups with
  | some e =>
    refine ⟨[], .refl _ w.db, fun g => iff_of_false List.not_mem_nil fun hm => ?_⟩
    cases hfail.symm.trans hm.listing
  | none =>
    unfold Eff.orFails
    cases hgroups : Sql.listGroups none w.db with
    | error e =>
      dsimp only
      rw [hgroups]
      refine ⟨[], .refl _ w.db, fun g => iff_of_false List.not_mem_nil fun hm => ?_⟩
      obtain ⟨groups, hgroups', -⟩ := hm.shown
      cases hgroups.symm.trans hgroups'
    | ok groups =>
      dsimp only
      rw [hgroups]
      have hmoved := bestEffort_moved MovedGroups.trans
        (fun x : Group => (failing fails (sqlServices S setup rng out)).updateGroup
          (moveGroup "groups" x.id)) (fun x => x.id)
        (fun x => decide (fails (.updateGroup x.id) = none ∧
          (w.db.groupAttributeSchema.find? (.new "ou")).isSome = true))
        (groups.filter fun x => toLowercase (currentOu x.attributes) = nameLower)
        w.db (fun x hx ids w' h => ?_) (MovedGroups.refl "groups" w.db)
      · refine ⟨_, hmoved, fun g => ?_⟩
        simp only [List.nil_append, List.mem_map, List.mem_filter, decide_eq_true_eq]
        constructor
        · rintro ⟨x, ⟨⟨hx, hou⟩, hupdate, hrow⟩, rfl⟩
          exact ⟨hfail, ⟨groups, hgroups, x, hx, rfl, hou⟩, hupdate, hrow⟩
        · rintro ⟨-, ⟨groups', hgroups', x, hx, rfl, hou⟩, hupdate, hrow⟩
          cases Except.ok.inj (hgroups.symm.trans hgroups')
          exact ⟨x, ⟨⟨hx, hou⟩, hupdate, hrow⟩, rfl⟩
      · obtain ⟨schema, hschema, hmem, -⟩ := mem_listGroups_rows hgroups
        obtain ⟨row, hmem, rows, -, hid, -⟩ := hmem x (List.mem_of_mem_filter hx)
        have hexists : (w'.db.groups.find? x.id).isSome = true := by
          rw [h.groups, hid]
          exact Lib.Table.isSome_find?_of_mem hmem
        have hone := failing_updateGroup_moved fails setup rng out "groups"
          (h.getSchema_eq.trans hschema) hexists
        simpa only [decide_eq_true_eq, h.groupAttributeSchema] using hone

theorem ShowsGroupOu.of_movedUsers {ou : String} {ids : List UserId} {db db' : Store} {g : GroupId}
    (hmoved : MovedUsers ou ids db db') :
    ShowsGroupOu nameLower db' g ↔ ShowsGroupOu nameLower db g := by
  have hshown {db db' : Store} (hgroups : db'.groups = db.groups)
      (hattrs : db'.groupAttributes = db.groupAttributes) (hschema : getSchema db' = getSchema db)
      (h : ShowsGroupOu nameLower db g) : ShowsGroupOu nameLower db' g := by
    obtain ⟨groups, hlist, x, hx, rfl, hou⟩ := h
    obtain ⟨groups', hlist', hmem⟩ := listGroups_congr hgroups hattrs hschema hlist
    obtain ⟨x', hx', heq⟩ := hmem x hx
    have hid : (withoutMembers x').id = (withoutMembers x).id := congrArg Group.id heq
    have hattributes : (withoutMembers x').attributes = (withoutMembers x).attributes :=
      congrArg Group.attributes heq
    exact ⟨groups', hlist', x', hx', hid, (congrArg (fun a => toLowercase (currentOu a)) hattributes).trans hou⟩
  have hschema := hmoved.getSchema_eq
  obtain ⟨users, attrs, rfl⟩ := hmoved.rest
  exact ⟨hshown rfl rfl hschema.symm, hshown rfl rfl hschema⟩

end GraphQL
end Klldap
