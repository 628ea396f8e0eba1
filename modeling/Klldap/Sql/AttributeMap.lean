import Klldap.Backend
import Klldap.Sql.RoundTrip
import Klldap.Sql.Writes

/-!
# Klldap.Sql.AttributeMap: an update as an override of a map

The attributes of a user are a map from canonical names to values. An update removes names from it and
overrides it with the inserted values. The inserted names are resolved in the schema of the database, the
removed ones in the built-in schema only, so an alias of a custom attribute is not resolved there.
-/

namespace Klldap
namespace Sql

open Lib (Bytes Eff except_bind_ok)
open Lib.Bincode (utf8)

def attributeMap (db : Store) (u : UserId) (n : AttributeName) : Option Bytes :=
  (db.userAttributes.find? (u, n)).map UserAttributeRow.value

section

variable [External]

/-- A map without the removed names, overridden by the inserted values, all under canonical names. -/
def overridden (canonical : AttributeName → AttributeName) (inserted : List Attribute)
    (removed : List AttributeName) (old : AttributeName → Option Bytes) (n : AttributeName) :
    Option Bytes :=
  match inserted.find? fun a => canonical a.name = n with
  | some a => some (attributeValueToDbBytes a.value)
  | none => if n ∈ removed.map canonical then none else old n

omit [External] in
theorem find?_reverse_of_nodup {α κ : Type} [DecidableEq κ] {key : α → κ} {l : List α}
    (h : (l.map key).Nodup) (k : κ) :
    (l.reverse.find? fun a => key a = k) = l.find? fun a => key a = k := by
  have hrev : (l.reverse.map key).Nodup := by
    rw [List.map_reverse]
    exact List.nodup_reverse.mpr h
  cases hfind : l.find? fun a => key a = k with
  | none =>
    rw [List.find?_eq_none] at hfind ⊢
    exact fun a ha => hfind a (List.mem_reverse.mp ha)
  | some a =>
    have hkey : key a = k := by simpa using List.find?_some hfind
    rw [← hkey]
    exact Lib.Table.find?_of_mem (t := ⟨l.reverse, hrev⟩)
      (List.mem_reverse.mpr (List.mem_of_find?_eq_some hfind))

theorem mem_removes {u : UserId} {insertAttributes : List Attribute}
    {deleteAttributes : List AttributeName} {schema : Schema} {changes : AttributeChanges}
    (h : computeUserAttributeChanges u insertAttributes deleteAttributes schema = .ok changes)
    (n : AttributeName) :
    n ∈ changes.removes ↔
      (∃ given ∈ deleteAttributes, canonicalUserAttributeName given.asStr = n) ∧
        ∀ a ∈ insertAttributes, storedName schema.userAttributes a.name ≠ n := by
  have hupdates := (computeUserAttributeChanges_ok h).1
  obtain ⟨updates, -, h⟩ := except_bind_ok.mp h
  rw [← Except.ok.inj h] at hupdates ⊢
  have hupdates : updates = insertAttributes.map (attributeRow schema u) := hupdates
  simp only [List.mem_filter, List.mem_map, hupdates]
  refine and_congr_right fun _ => ?_
  rw [Bool.not_eq_true', List.any_map, List.any_eq_false]
  exact forall₂_congr fun a _ => not_congr decide_eq_true_iff

theorem attributeMap_updated {db : Store} {request : UpdateUserRequest} {schema : Schema}
    {changes : AttributeChanges}
    (hchanges : computeUserAttributeChanges request.userId request.insertAttributes
      request.deleteAttributes schema = .ok changes)
    (hnodup : (request.insertAttributes.map fun a => storedName schema.userAttributes a.name).Nodup)
    (users) (v : UserId) (n : AttributeName) :
    attributeMap { db with
        users := users
        userAttributes := updatedUserAttributes request.userId changes db.userAttributes } v n =
      if v = request.userId then
        match request.insertAttributes.find? fun a => storedName schema.userAttributes a.name = n with
        | some a => some (attributeValueToDbBytes a.value)
        | none => if n ∈ changes.removes then none else attributeMap db v n
      else attributeMap db v n := by
  have hupdates := (computeUserAttributeChanges_ok hchanges).1
  unfold attributeMap updatedUserAttributes
  rw [hupdates, Lib.Table.find?_upsertAll_owned _ request.insertAttributes
    (f := attributeRow schema request.userId) (fun a => storedName schema.userAttributes a.name)
    (fun _ => rfl) v, Lib.Table.find?_delete_owned (u := request.userId)
    (q := fun name => changes.removes.contains name) _ (fun _ => rfl) v,
    find?_reverse_of_nodup hnodup]
  by_cases hv : v = request.userId
  · rw [if_pos hv, if_pos hv]
    cases request.insertAttributes.find? fun a => storedName schema.userAttributes a.name = n with
    | some a => rfl
    | none =>
      by_cases hn : n ∈ changes.removes
      · simp [hv, hn]
      · simp [hn]
  · rw [if_neg hv, if_neg hv, if_neg fun h => hv h.1]

theorem storedName_of_builtin {db : Store} {schema : Schema} (hschema : getSchema db = .ok schema)
    {n : AttributeName} {a : AttributeSchema}
    (h : getByNameOrAlias PublicSchema.userAttributes n.asStr = some a) :
    storedName schema.userAttributes n = canonicalUserAttributeName n.asStr := by
  obtain ⟨rest, hrest⟩ := getSchema_userAttributes hschema
  have hbuiltin : canonicalUserAttributeName n.asStr = .new a.name := by
    unfold canonicalUserAttributeName
    rw [show getByNameOrAlias PublicSchema.get.userAttributes n.asStr = some a from h]
  rw [hbuiltin, storedName, hrest, getByNameOrAlias_append h]

theorem stored_of_removed {db : Store} {schema : Schema} (hschema : getSchema db = .ok schema)
    {n given : AttributeName} (hn : storedName schema.userAttributes n = n)
    (h : canonicalUserAttributeName given.asStr = n) : storedName schema.userAttributes given = n := by
  cases hfind : getByNameOrAlias PublicSchema.userAttributes given.asStr with
  | some a => rw [storedName_of_builtin hschema hfind, h]
  | none =>
    have hself : canonicalUserAttributeName given.asStr = given := by
      unfold canonicalUserAttributeName
      rw [show getByNameOrAlias PublicSchema.get.userAttributes given.asStr = none from hfind]
      exact AttributeName.new_asStr given
    rw [hself] at h
    rw [h, hn]

/-- Every removed name reaches the row that it stands for, if the user has one and the request does not
insert it anyway. -/
def RemovalsReach (schema : Schema) (request : UpdateUserRequest) (db : Store) : Prop :=
  ∀ given ∈ request.deleteAttributes,
    let n := storedName schema.userAttributes given
    (attributeMap db request.userId n).isSome = true →
      (∀ a ∈ request.insertAttributes, storedName schema.userAttributes a.name ≠ n) →
        ∃ given' ∈ request.deleteAttributes, canonicalUserAttributeName given'.asStr = n

theorem updateUser_isOk (out : Outside) (request : UpdateUserRequest) (w : World) :
    (updateUser out request w).1.isOk =
      ((updateUserWithTransaction out.now request).transaction w.db).1.isOk := by
  unfold updateUser
  rw [Eff.bind_run, onDb, Eff.zoom]
  cases (updateUserWithTransaction out.now request).transaction w.db with
  | mk r db' =>
    cases r with
    | error e => rfl
    | ok kerb =>
      dsimp only
      split <;> rfl

/-- An update that succeeds changes the attributes of its user only. On a database whose rows stand under
canonical names it overrides the map exactly if the removed names reach their rows. One that fails leaves
the database as it was. -/
theorem updateUser_map_iff (out : Outside) (request : UpdateUserRequest) (w w' : World) :
    (∀ schema, getSchema w.db = .ok schema →
      (∀ r ∈ w.db.userAttributes.rows,
        storedName schema.userAttributes r.attributeName = r.attributeName) →
      (request.insertAttributes.map fun a => storedName schema.userAttributes a.name).Nodup →
      updateUser out request w = (.ok (), w') →
        (∀ v, v ≠ request.userId → attributeMap w'.db v = attributeMap w.db v) ∧
        (attributeMap w'.db request.userId = overridden (storedName schema.userAttributes)
            request.insertAttributes request.deleteAttributes (attributeMap w.db request.userId) ↔
          RemovalsReach schema request w.db)) ∧
    ∀ e, updateUser out request w = (.error e, w') → w'.db = w.db := by
  have hdb := updateUser_db out request w
  have hok := updateUser_isOk out request w
  refine ⟨fun schema hschema hrows hnodup h => ?_, fun e h => ?_⟩
  · rw [h] at hdb hok
    obtain ⟨kerb, htx⟩ := Lib.exists_of_isOk hok.symm
    have hrun : updateUserWithTransaction out.now request w.db = (.ok kerb, w'.db) :=
      Eff.transaction_ok (Prod.ext htx hdb.symm)
    obtain ⟨schema', changes, hschema', hchanges, -, -, -, -, hw'⟩ :=
      updateUserWithTransaction_ok.mp hrun
    rw [hschema] at hschema'
    cases hschema'
    rw [hw']
    constructor
    · intro v hv
      funext n
      rw [attributeMap_updated hchanges hnodup, if_neg hv]
    · rw [funext_iff]
      simp only [attributeMap_updated hchanges hnodup, if_true, overridden]
      constructor
      · intro hall given hgiven n hsome hfree
        have hn := hall n
        have hnone : (request.insertAttributes.find?
            fun a => storedName schema.userAttributes a.name = n) = none :=
          List.find?_eq_none.mpr fun a ha => by simpa using hfree a ha
        rw [hnone] at hn
        have hgone : n ∈ request.deleteAttributes.map (storedName schema.userAttributes) :=
          List.mem_map.mpr ⟨given, hgiven, rfl⟩
        simp only [if_pos hgone] at hn
        by_cases hmem : n ∈ changes.removes
        · exact ((mem_removes hchanges n).mp hmem).1
        · rw [if_neg hmem] at hn
          rw [hn] at hsome
          cases hsome
      · intro hreach n
        cases hfind : request.insertAttributes.find?
            fun a => storedName schema.userAttributes a.name = n with
        | some a => rfl
        | none =>
          have hfree : ∀ a ∈ request.insertAttributes, storedName schema.userAttributes a.name ≠ n :=
            fun a ha => by simpa using List.find?_eq_none.mp hfind a ha
          cases hold : attributeMap w.db request.userId n with
          | none => simp
          | some value =>
            have hcanonical : storedName schema.userAttributes n = n := by
              obtain ⟨r, hr, -⟩ := Option.map_eq_some_iff.mp hold
              have hkey := Lib.Table.key_of_find? hr
              have hname : r.attributeName = n := congrArg Prod.snd hkey
              rw [← hname]
              exact hrows r (Lib.Table.mem_of_find? hr)
            have hiff : n ∈ changes.removes ↔
                n ∈ request.deleteAttributes.map (storedName schema.userAttributes) := by
              rw [mem_removes hchanges, List.mem_map]
              constructor
              · rintro ⟨⟨given, hgiven, heq⟩, -⟩
                exact ⟨given, hgiven, stored_of_removed hschema hcanonical heq⟩
              · rintro ⟨given, hgiven, rfl⟩
                refine ⟨hreach given hgiven ?_ hfree, hfree⟩
                rw [hold]
                rfl
            simp only [hiff]
  · rw [h] at hdb hok
    rcases Eff.transaction_cases (updateUserWithTransaction out.now request) w.db with
      hsame | ⟨kerb, hrun⟩
    · rw [hdb, hsame]
    · unfold Eff.transaction at hok
      rw [hrun] at hok
      cases hok

end

/-! ## An alias of a custom attribute -/

section Samples

open Codecs
open Plain (world outside)

/-- A directory with a custom attribute `badge`, also called `tag`, and a user who has one. -/
def badgeStore : Store :=
  (createUser 0 ⟨.new "bob", ⟨"bob@example.com"⟩, none, [⟨.new "badge", .string (.singleton "7")⟩]⟩
    { Store.empty with
      userAttributeSchema :=
        ⟨[⟨.new "ou", .string, false, true, false, true, true, "[]"⟩,
          ⟨.new "badge", .string, false, true, true, false, false, External.stringsToJson ["tag"]⟩],
          by decide⟩ }).2

def removal (name : String) : UpdateUserRequest := ⟨.new "bob", none, none, [.new name], []⟩

/-- Removing the badge by its name: the request overrides the map. -/
theorem badge_removed_by_name :
    ∃ schema w', getSchema badgeStore = .ok schema ∧
      updateUser outside (removal "badge") (world badgeStore) = (.ok (), w') ∧
      attributeMap w'.db (.new "bob") = overridden (storedName schema.userAttributes) []
        [.new "badge"] (attributeMap badgeStore (.new "bob")) := by
  obtain ⟨hschema, hupdate, hrows⟩ : (getSchema badgeStore).isOk = true ∧
      (updateUser outside (removal "badge") (world badgeStore)).1.isOk = true ∧
      (getSchema badgeStore).map (fun schema =>
        (storedName schema.userAttributes (.new "badge"), badgeStore.userAttributes.rows.all fun r =>
          storedName schema.userAttributes r.attributeName = r.attributeName)) =
        .ok (canonicalUserAttributeName (AttributeName.new "badge").asStr, true) := by
    decide +kernel
  obtain ⟨schema, hschema⟩ := Lib.exists_of_isOk hschema
  obtain ⟨u, hupdate⟩ := Lib.exists_of_isOk hupdate
  rw [hschema] at hrows
  obtain ⟨hbadge, hall⟩ := Prod.mk.inj (Except.ok.inj hrows)
  have hcanonical : ∀ r ∈ badgeStore.userAttributes.rows,
      storedName schema.userAttributes r.attributeName = r.attributeName := fun r hr =>
    of_decide_eq_true (List.all_eq_true.mp hall r hr)
  have hreach : RemovalsReach schema (removal "badge") badgeStore := by
    intro given hgiven n hstored hinserted
    obtain rfl := List.mem_singleton.mp hgiven
    exact ⟨_, hgiven, hbadge.symm⟩
  refine ⟨schema, _, hschema, Prod.ext hupdate rfl, ?_⟩
  exact ((updateUser_map_iff outside (removal "badge") (world badgeStore) _).1 schema hschema hcanonical
    List.nodup_nil (Prod.ext hupdate rfl)).2.mpr hreach

/-- Removing it by its alias succeeds and removes nothing. -/
theorem badge_not_removed_by_alias :
    let after := updateUser outside (removal "tag") (world badgeStore)
    (getSchema badgeStore).map (fun schema =>
        (storedName schema.userAttributes (.new "tag"), badgeStore.userAttributes.rows.all fun r =>
          storedName schema.userAttributes r.attributeName = r.attributeName)) =
      .ok (.new "badge", true) ∧
    after.1.isOk = true ∧ attributeMap after.2.db (.new "bob") (.new "badge") = some (utf8 "7") := by
  decide +kernel

end Samples

end Sql
end Klldap
