import Klldap.Interface
import Klldap.Sql.Writes
import Klldap.Sql.RoundTrip

/-!
# Klldap.GraphQL.Ous: the list of organizational units

The allowed organizational units are one JSON text in the system configuration. Two mutations read
the list, change it and write it back; names are compared in lower case.
-/

namespace Klldap
namespace GraphQL

open Lib (Eff)
open Lib.Eff (Frames Keeps)
open Lib.Text (splitOnce trim)
open Opaque (Suite)

section

variable [External]

/-! ## Lists of names -/

/-- The list has the name, in some letter case. -/
def HasOu (ous : List String) (name : String) : Prop :=
  ∃ o ∈ ous, toLowercase o = toLowercase name

/-- One or two levels, each a valid name. -/
def ValidOu (name : String) : Prop :=
  match splitOnce '\\' name with
  | none => isValidOuName name = true
  | some (primary, secondary) => isValidOuName primary = true ∧ isValidOuName secondary = true

structure WellFormedOus (ous : List String) : Prop where
  nodup : (ous.map toLowercase).Nodup
  parents : ∀ o ∈ ous, ∀ primary secondary, splitOnce '\\' o = some (primary, secondary) →
    HasOu ous primary
  valid : ∀ o ∈ ous, ValidOu o
  people : "people" ∈ ous
  groups : "groups" ∈ ous

theorem any_hasOu {ous : List String} {name : String} :
    (ous.any fun o => toLowercase o = toLowercase name) = true ↔ HasOu ous name := by
  simp [HasOu]

theorem HasOu.mono {ous ous' : List String} {name : String} (h : HasOu ous name)
    (hsub : ∀ o ∈ ous, o ∈ ous') : HasOu ous' name := by
  obtain ⟨o, ho, heq⟩ := h
  exact ⟨o, hsub o ho, heq⟩

theorem checkNewOu_ok {name : String} {levels : String × Option String}
    (h : checkNewOu name = .ok levels) :
    ValidOu name ∧ ∀ primary secondary, splitOnce '\\' name = some (primary, secondary) →
      levels = (primary, some secondary) := by
  unfold checkNewOu at h
  unfold ValidOu
  split at h
  · cases h
  · cases hsplit : splitOnce '\\' name with
    | none =>
      simp only [hsplit, Option.any_none, Bool.false_eq_true, if_false] at h
      split at h
      · cases h
      · rename_i hvalid
        exact ⟨by simpa using hvalid, fun _ _ h => nomatch h⟩
    | some parts =>
      obtain ⟨primary, secondary⟩ := parts
      simp only [hsplit, Option.any_some] at h
      split at h
      · cases h
      · rename_i hprimary
        split at h
        · cases h
        · rename_i hsecondary
          simp only [Bool.or_eq_true, decide_eq_true_eq, Bool.not_eq_true', not_or,
            Bool.not_eq_false] at hprimary hsecondary
          refine ⟨⟨hprimary, hsecondary.2⟩, fun p s hps => ?_⟩
          cases hps
          exact (Except.ok.inj h).symm

theorem WellFormedOus.insert {ous ous' : List String} (h : WellFormedOus ous) {name : String}
    {levels : String × Option String} (hcheck : checkNewOu name = .ok levels)
    (hnew : ¬ HasOu ous name) (hparent : levels.2.isSome = true → HasOu ous levels.1)
    (hperm : ous'.Perm (ous ++ [name])) : WellFormedOus ous' := by
  obtain ⟨hvalid, hlevels⟩ := checkNewOu_ok hcheck
  have hmem (o : String) : o ∈ ous' ↔ o ∈ ous ∨ o = name := by
    rw [hperm.mem_iff, List.mem_append, List.mem_singleton]
  have hsub : ∀ o ∈ ous, o ∈ ous' := fun o ho => (hmem o).mpr (.inl ho)
  refine ⟨?_, fun o ho primary secondary hsplit => ?_, fun o ho => ?_, hsub _ h.people,
    hsub _ h.groups⟩
  · rw [(hperm.map toLowercase).nodup_iff, List.map_append, List.nodup_append]
    refine ⟨h.nodup, by simp, fun a ha b hb heq => ?_⟩
    obtain ⟨o, ho, rfl⟩ := List.mem_map.mp ha
    rw [List.map_singleton, List.mem_singleton] at hb
    exact hnew ⟨o, ho, heq.trans hb⟩
  · rcases (hmem o).mp ho with ho | rfl
    · exact (h.parents o ho primary secondary hsplit).mono hsub
    · rw [hlevels primary secondary hsplit] at hparent
      exact (hparent rfl).mono hsub
  · rcases (hmem o).mp ho with ho | rfl
    · exact h.valid o ho
    · exact hvalid

theorem WellFormedOus.erase {ous : List String} (h : WellFormedOus ous) {nameLower : String}
    (hpeople : toLowercase "people" ≠ nameLower) (hgroups : toLowercase "groups" ≠ nameLower)
    (hchildren : ∀ o ∈ ous, ∀ primary secondary, splitOnce '\\' o = some (primary, secondary) →
      toLowercase primary ≠ nameLower) :
    WellFormedOus (ous.filter fun o => toLowercase o ≠ nameLower) := by
  have hmem (o : String) : o ∈ ous.filter (fun o => toLowercase o ≠ nameLower) ↔
      o ∈ ous ∧ toLowercase o ≠ nameLower := by
    rw [List.mem_filter, decide_eq_true_eq]
  refine ⟨h.nodup.sublist (List.filter_sublist.map _), fun o ho primary secondary hsplit => ?_,
    fun o ho => h.valid o ((hmem o).mp ho).1, (hmem _).mpr ⟨h.people, hpeople⟩,
    (hmem _).mpr ⟨h.groups, hgroups⟩⟩
  have ho := ((hmem o).mp ho).1
  obtain ⟨parent, hparent, heq⟩ := h.parents o ho primary secondary hsplit
  exact ⟨parent, (hmem parent).mpr ⟨hparent, heq ▸ hchildren o ho primary secondary hsplit⟩, heq⟩

/-! ## The two mutations -/

def withAllowedOus (ous : List String) (db : Store) : Store :=
  { db with systemConfig := db.systemConfig.upsert ⟨"allowedous", External.stringsToJson ous⟩ }

theorem getAllowedOus_withAllowedOus
    (hjson : ∀ l, External.jsonToStrings (External.stringsToJson l) = some l) (ous : List String)
    (db : Store) : Sql.getAllowedOus (withAllowedOus ous db) = ous := by
  unfold Sql.getAllowedOus withAllowedOus
  dsimp only
  rw [Lib.Table.find?_upsert, if_pos rfl, Option.map_some, Option.getD_some]
  rw [hjson, Option.getD_some]

theorem getAllowedOus_congr {db db' : Store} (h : db'.systemConfig = db.systemConfig) :
    Sql.getAllowedOus db' = Sql.getAllowedOus db := by
  unfold Sql.getAllowedOus
  rw [h]

variable {S : Suite} (setup : S.ServerSetup) (rng : S.Coins) (out : Outside)

omit [External] in
theorem admin_run {σ α : Type} (v : ValidationResults) (h : Services S σ) (message : String)
    (f : Services S σ → Field σ α) (s : σ) :
    (orUnauthorized message (getAdminHandler h v) >>= f) s =
      if v.isAdmin then f h s else (.error (.error message none), s) := by
  unfold getAdminHandler
  split
  · rfl
  · rfl

theorem loadAllowedOus_run {α : Type} (f : List String → Field World α) (w : World) :
    (context "Failed to load allowedous" (sqlServices S setup rng out).getAllowedOus >>= f) w =
      f (Sql.getAllowedOus w.db) w := rfl

/-- The world that a creation leaves: the old one, or the list with the new name. -/
inductive CreatesOu (name : String) (w : World) : World → Prop
  | refused : CreatesOu name w w
  | added {levels : String × Option String} (hcheck : checkNewOu name = .ok levels)
      (hnew : ¬ HasOu (Sql.getAllowedOus w.db) name)
      (hparent : levels.2.isSome = true → HasOu (Sql.getAllowedOus w.db) levels.1) :
      CreatesOu name w { w with
        db := withAllowedOus (Sql.orderBy id (Sql.getAllowedOus w.db ++ [name])) w.db }

theorem createOu_outcome (v : ValidationResults) (name : String) (w : World) :
    CreatesOu name w (createOu ⟨sqlServices S setup rng out, v⟩ name w).2 := by
  have : Std.Refl (CreatesOu name) := ⟨fun _ => .refused⟩
  refine within_of_admin (R := CreatesOu name) (fun w => ?_) w
  cases hcheck : checkNewOu name with
  | error e => exact .refused
  | ok levels =>
    rw [Eff.bind_run, Eff.lift_run]
    dsimp only
    rw [loadAllowedOus_run]
    split
    · exact .refused
    · rename_i hnew
      split
      · exact .refused
      · rename_i hparent
        refine .added hcheck (fun h => hnew (any_hasOu.mpr h)) fun hsome => ?_
        simpa [hsome, HasOu] using hparent

omit [External] in
theorem bestEffort_fst {σ β : Type} (f : β → Eff σ DomainError Unit) (l : List β) (s : σ) :
    (bestEffort f l s).1 = .ok () := by
  induction l generalizing s with
  | nil => rfl
  | cons b l ih => exact ih (f b s).2

def reassignUsers {σ : Type} (h : Services S σ) (nameLower : String) : Field σ Unit := do
  match ← Eff.attempt (h.listUsers none false) with
  | .ok users =>
    bestEffort (fun u => h.updateUser ⟨u.user.userId, none, none, [], [ouAttribute "people"]⟩)
      (users.filter fun u => toLowercase (currentOu u.user.attributes) = nameLower)
  | .error (_ : DomainError) => pure ()

def reassignGroups {σ : Type} (h : Services S σ) (nameLower : String) : Field σ Unit := do
  match ← Eff.attempt (h.listGroups none) with
  | .ok groups =>
    bestEffort (fun g => h.updateGroup ⟨g.id, none, [], [ouAttribute "groups"]⟩)
      (groups.filter fun g => toLowercase (currentOu g.attributes) = nameLower)
  | .error (_ : DomainError) => pure ()

theorem reassignOu_run {σ : Type} (h : Services S σ) (nameLower : String) (s : σ) :
    reassignOu h nameLower s =
      reassignGroups h nameLower (reassignUsers h nameLower s).2 := by
  unfold reassignOu reassignUsers
  rw [Eff.bind_run, Eff.bind_run, Eff.attempt]
  cases (h.listUsers none false s).1 with
  | error e => rfl
  | ok users =>
    dsimp only
    rw [Eff.bind_run]
    cases hmoved : bestEffort (fun u => h.updateUser
        ⟨u.user.userId, none, none, [], [ouAttribute "people"]⟩)
        (users.filter fun u => toLowercase (currentOu u.user.attributes) = nameLower)
        (h.listUsers none false s).2 with
    | mk r s' =>
      have hok := congrArg Prod.fst hmoved
      rw [bestEffort_fst] at hok
      subst hok
      rfl

theorem reassignOu_fst {σ : Type} (h : Services S σ) (nameLower : String) (s : σ) :
    (reassignOu h nameLower s).1 = .ok () := by
  rw [reassignOu_run]
  unfold reassignGroups
  rw [Eff.bind_run, Eff.attempt]
  cases (h.listGroups none (reassignUsers h nameLower s).2).1 with
  | ok groups => exact bestEffort_fst _ _ _
  | error e => rfl

/-- The world that a deletion leaves: the old one, or what the move of users and groups leaves with
the name taken from the list. -/
inductive DeletesOu (nameLower : String) (moved w : World) : World → Prop
  | refused : DeletesOu nameLower moved w w
  | removed (hpeople : nameLower ≠ "people") (hgroups : nameLower ≠ "groups")
      (hchildren : ∀ o ∈ Sql.getAllowedOus w.db, ∀ primary secondary,
        splitOnce '\\' o = some (primary, secondary) → toLowercase primary ≠ nameLower) :
      DeletesOu nameLower moved w { moved with
        db := withAllowedOus
          ((Sql.getAllowedOus w.db).filter fun o => toLowercase o ≠ nameLower) moved.db }

theorem deleteOu_outcome (v : ValidationResults) (name : String) (w : World) :
    DeletesOu (toLowercase (trim name))
      (reassignOu (sqlServices S setup rng out) (toLowercase (trim name)) w).2 w
      (deleteOu ⟨sqlServices S setup rng out, v⟩ name w).2 := by
  have : Std.Refl fun w => DeletesOu (toLowercase (trim name))
      (reassignOu (sqlServices S setup rng out) (toLowercase (trim name)) w).2 w :=
    ⟨fun _ => .refused⟩
  refine within_of_admin (R := fun w => DeletesOu (toLowercase (trim name))
    (reassignOu (sqlServices S setup rng out) (toLowercase (trim name)) w).2 w) (fun w => ?_) w
  by_cases hbuiltin : ["people", "groups", "all"].contains (toLowercase (trim name)) = true
  · rw [if_pos hbuiltin]
    exact .refused
  rw [if_neg hbuiltin, loadAllowedOus_run]
  split
  · exact .refused
  · rename_i hchildren
    rw [Eff.bind_run]
    cases hmoved : reassignOu (sqlServices S setup rng out) (toLowercase (trim name)) w with
    | mk r moved =>
      have hok := reassignOu_fst (sqlServices S setup rng out) (toLowercase (trim name)) w
      rw [hmoved] at hok
      subst hok
      simp only [List.contains_eq_mem, List.mem_cons, List.not_mem_nil, or_false,
        decide_eq_true_eq, not_or] at hbuiltin
      refine .removed hbuiltin.1 hbuiltin.2.1 fun o ho primary secondary hsplit heq => hchildren ?_
      exact List.any_eq_true.mpr ⟨o, ho, by simp [hsplit, heq]⟩

theorem updateUser_systemConfig (request : UpdateUserRequest) (w : World) :
    ((sqlServices S setup rng out).updateUser request w).2.db.systemConfig = w.db.systemConfig := by
  change (Sql.updateUser out request w).2.db.systemConfig = _
  rw [Sql.updateUser_db]
  rcases Eff.transaction_cases (Sql.updateUserWithTransaction out.now request) w.db with h | ⟨kerb, h⟩
  · rw [h]
  · obtain ⟨schema, changes, -, -, -, -, -, -, hdb⟩ := Sql.updateUserWithTransaction_ok.mp h
    rw [hdb]

theorem updateGroup_systemConfig (request : UpdateGroupRequest) (w : World) :
    ((sqlServices S setup rng out).updateGroup request w).2.db.systemConfig =
      w.db.systemConfig := by
  change (Sql.updateGroup out.now request w.db).2.systemConfig = _
  rcases Sql.updateGroup_atomic out.now request w.db with h | ⟨_, h⟩
  · rw [h]
  · obtain ⟨schema, removes, -, -, -, -, -, hdb⟩ :=
      Sql.updateGroupWithTransaction_ok.mp (Sql.updateGroup_ok h)
    rw [hdb]

inductive OuRequest where
  | createOu (name : String)
  | deleteOu (name : String)

/-- A request with who makes it and what the outside answers meanwhile. -/
structure OuInput (S : Suite) where
  out : Outside
  rng : S.Coins
  v : ValidationResults
  request : OuRequest

def ouStep (w : World) (i : OuInput S) : Bool × World :=
  match i.request with
  | .createOu name => answered (createOu ⟨sqlServices S setup i.rng i.out, i.v⟩ name) w
  | .deleteOu name => answered (deleteOu ⟨sqlServices S setup i.rng i.out, i.v⟩ name) w

theorem ouStep_wellFormed
    (hjson : ∀ l, External.jsonToStrings (External.stringsToJson l) = some l) {w : World}
    (h : WellFormedOus (Sql.getAllowedOus w.db)) (i : OuInput S) :
    WellFormedOus (Sql.getAllowedOus (ouStep setup w i).2.db) := by
  obtain ⟨out, rng, v, request⟩ := i
  cases request with
  | createOu name =>
    change WellFormedOus (Sql.getAllowedOus (createOu ⟨sqlServices S setup rng out, v⟩ name w).2.db)
    have houtcome := createOu_outcome setup rng out v name w
    generalize (createOu ⟨sqlServices S setup rng out, v⟩ name w).2 = w' at houtcome ⊢
    cases houtcome with
    | refused => exact h
    | added hcheck hnew hparent =>
      rw [getAllowedOus_withAllowedOus hjson]
      exact h.insert hcheck hnew hparent (List.perm_insertionSort _ _)
  | deleteOu name =>
    change WellFormedOus (Sql.getAllowedOus (deleteOu ⟨sqlServices S setup rng out, v⟩ name w).2.db)
    have houtcome := deleteOu_outcome setup rng out v name w
    generalize (deleteOu ⟨sqlServices S setup rng out, v⟩ name w).2 = w' at houtcome ⊢
    cases houtcome with
    | refused => exact h
    | removed hpeople hgroups hchildren =>
      rw [getAllowedOus_withAllowedOus hjson]
      exact h.erase hpeople.symm hgroups.symm hchildren

/-- Through every sequence of creations and deletions, whoever asks for them, the list stays well
formed: the first level of a name may differ from its own entry in letter case. -/
theorem wellFormedOus_run
    (hjson : ∀ l, External.jsonToStrings (External.stringsToJson l) = some l) {init : World}
    (h₀ : WellFormedOus (Sql.getAllowedOus init.db))
    {h : List (Lib.Event World (OuInput S) Bool)} {w : World}
    (hr : Lib.Run (ouStep setup) (fun _ _ _ => True) init h w) :
    WellFormedOus (Sql.getAllowedOus w.db) :=
  hr.invariant (P := fun _ w => WellFormedOus (Sql.getAllowedOus w.db)) h₀
    fun _ _ i hw _ => ouStep_wellFormed setup hjson hw i

end

section Samples

open Codecs
open Plain (world outside)

def ouInput (request : OuRequest) : OuInput Opaque.plainSuite :=
  ⟨outside, (), ⟨UserId.new "admin", .admin⟩, request⟩

def builtinOus : World :=
  world { Store.empty with
    systemConfig := ⟨[⟨"allowedous", External.stringsToJson ["groups", "people"]⟩], by decide⟩ }

def afterOus (requests : List OuRequest) : World :=
  (requests.map ouInput).foldl (fun w i => (ouStep () w i).2) builtinOus

theorem getAllowedOus_builtinOus : Sql.getAllowedOus builtinOus.db = ["groups", "people"] := by
  decide +kernel

theorem builtinOus_wellFormed : WellFormedOus (Sql.getAllowedOus builtinOus.db) := by
  rw [getAllowedOus_builtinOus]
  have hsplit : ∀ o ∈ ["groups", "people"], splitOnce '\\' o = none := by decide
  refine ⟨by decide, fun o ho _ _ h => ?_, fun o ho => ?_, by decide, by decide⟩
  · rw [hsplit o ho] at h
    cases h
  · unfold ValidOu
    rw [hsplit o ho]
    revert o
    decide

theorem afterOus_run (requests : List OuRequest) :
    ∃ h, Lib.Run (ouStep (S := Opaque.plainSuite) ()) (fun _ _ _ => True) builtinOus h
      (afterOus requests) :=
  Lib.Run.nil.extend _ fun _ _ _ _ => trivial

/-- A first level is created, a second one under it, and both are deleted again. -/
theorem wellFormedOus_run_sales :
    Sql.getAllowedOus (afterOus [.createOu "Sales", .createOu "Sales\\east",
      .deleteOu "sales", .deleteOu " SALES\\East"]).db = ["Sales", "groups", "people"] ∧
    WellFormedOus (Sql.getAllowedOus (afterOus [.createOu "Sales", .createOu "Sales\\east",
      .deleteOu "sales", .deleteOu " SALES\\East"]).db) := by
  refine ⟨by decide +kernel, ?_⟩
  obtain ⟨h, hr⟩ := afterOus_run [.createOu "Sales", .createOu "Sales\\east",
    .deleteOu "sales", .deleteOu " SALES\\East"]
  exact wellFormedOus_run () Codecs.lawful.strings builtinOus_wellFormed hr

/-- The first level of a name need not be in the list as it is written. -/
theorem primary_in_other_case :
    WellFormedOus (Sql.getAllowedOus builtinOus.db) ∧
    (∃ h, Lib.Run (ouStep (S := Opaque.plainSuite) ()) (fun _ _ _ => True) builtinOus h
      (afterOus [.createOu "Sales", .createOu "sales\\east"])) ∧
    ¬ ∀ o ∈ Sql.getAllowedOus (afterOus [.createOu "Sales", .createOu "sales\\east"]).db,
      ∀ primary secondary, splitOnce '\\' o = some (primary, secondary) →
        primary ∈ Sql.getAllowedOus (afterOus [.createOu "Sales", .createOu "sales\\east"]).db := by
  refine ⟨builtinOus_wellFormed, afterOus_run _, fun hall => ?_⟩
  have hous : Sql.getAllowedOus (afterOus [.createOu "Sales", .createOu "sales\\east"]).db =
      ["Sales", "groups", "people", "sales\\east"] := by decide +kernel
  rw [hous] at hall
  have hmem := hall "sales\\east" (by decide) "sales" "east" (by decide)
  revert hmem
  decide

end Samples

end GraphQL
end Klldap
