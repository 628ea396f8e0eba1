import Klldap.Lib.Effect
import Mathlib.Data.List.Sort

/-!
# Klldap.Sql.Migrations: upgrading the database

`init_table` of `sql_tables.rs` and `migrate_from_version` of `sql_migrations.rs`. At every start the
recorded version is read, and each later step runs in a transaction of its own that also records its
version. The steps themselves are parameters (`Migrations`): any function of the store and of what it
sees of the outside, which may fail. An upgrade from an unversioned database runs outside any
transaction.
-/

namespace Klldap
namespace Sql

open Lib (Eff)

/-! ## The driver -/

def lastSchemaVersion : Int := 12

/-- The steps, which see the store `S` and an input `I` from outside. -/
structure Migrations (S I : Type) where
  /-- What is left is left even after a failure. -/
  upgradeToV1 : I → S → Except String Unit × S
  /-- `migrate_to_v2` to `migrate_to_v12`. -/
  migrateTo : Int → I → S → Except String S

/-- The recorded version and everything else. `applied` is history that the database does not keep:
the steps that were committed. -/
structure Database (S I : Type) where
  version : Option Int
  store : S
  applied : List (Int × I)
deriving DecidableEq

/-- What happens around one step: the errors of the statements of the driver, and what the step
sees. -/
structure Attempt (I : Type) where
  begins : Option String
  input : I
  records : Option String
  commits : Option String

/-- What happens during one start. -/
structure Start (I : Type) where
  upgrade : I
  attempts : Int → Attempt I

section

variable {S I : Type} (m : Migrations S I)

/-- `for migration in 2..=last_version`, with the test of the loop. -/
def pending (version lastVersion : Int) : List Int :=
  ((List.range (lastVersion - 1).toNat).map fun n : Nat => (n : Int) + 2).filter
    fun k => version < k && k ≤ lastVersion

def migrate (attempt : Attempt I) (migration : Int) : Eff (Database S I) String Unit :=
  Eff.orFails attempt.begins (Eff.transaction do
    let store ← Eff.query fun db => m.migrateTo migration attempt.input db.store
    Eff.writes fun db => { db with store := store, applied := db.applied ++ [(migration, attempt.input)] }
    Eff.orFails attempt.records (Eff.writes fun db => { db with version := some migration })
    Eff.orFails attempt.commits (pure ()))

def migrateFromVersion (version lastVersion : Int) (attempts : Int → Attempt I) :
    Eff (Database S I) String Unit :=
  if version = lastVersion then pure ()
  else if lastVersion < version then Eff.fail "DB version downgrading is not supported"
  else Eff.each (fun k => migrate m (attempts k) k) (pending version lastVersion)

def upgradeToV1 (i : I) : Eff (Database S I) String Unit := fun db =>
  match m.upgradeToV1 i db.store with
  | (.ok _, store) => (.ok (), { db with version := some 1, store := store })
  | (.error e, store) => (.error e, { db with store := store })

def initTable (start : Start I) : Eff (Database S I) String Unit := do
  let version ← Eff.reads Database.version
  match version with
  | some version => migrateFromVersion m version lastSchemaVersion start.attempts
  | none =>
    upgradeToV1 m start.upgrade
    migrateFromVersion m 1 lastSchemaVersion start.attempts

def afterStarts (starts : List (Start I)) (db : Database S I) : Database S I :=
  starts.foldl (fun db start => (initTable m start db).2) db

end

/-! ## Pending steps -/

theorem mem_pending {v l k : Int} : k ∈ pending v l ↔ 2 ≤ k ∧ v < k ∧ k ≤ l := by
  simp only [pending, List.mem_filter, List.mem_map, List.mem_range, Bool.and_eq_true,
    decide_eq_true_eq]
  constructor
  · rintro ⟨⟨n, hn, rfl⟩, hv, hl⟩
    omega
  · rintro ⟨htwo, hv, hl⟩
    exact ⟨⟨(k - 2).toNat, by omega, by omega⟩, hv, hl⟩

theorem pending_pairwise (v l : Int) : (pending v l).Pairwise (· < ·) := by
  refine List.Pairwise.filter _ (List.pairwise_map.mpr ?_)
  exact List.pairwise_lt_range.imp fun h => by omega

theorem pending_eq_nil {v l : Int} (h : l ≤ v) : pending v l = [] := by
  rw [List.eq_nil_iff_forall_not_mem]
  intro k hk
  have := mem_pending.mp hk
  omega

theorem pending_cons {v l k : Int} {ks : List Int} (h : pending v l = k :: ks) :
    v < k ∧ k ≤ l ∧ ks = pending k l ∧ ∀ k', k ≤ k' → pending v k' = k :: pending k k' := by
  have hk : 2 ≤ k ∧ v < k ∧ k ≤ l := mem_pending.mp (h ▸ List.mem_cons_self)
  have hsorted := pending_pairwise v l
  rw [h, List.pairwise_cons] at hsorted
  obtain ⟨hfirst, hrest⟩ := hsorted
  have hleast {x : Int} (htwo : 2 ≤ x) (hv : v < x) : k ≤ x := by
    by_cases hl : x ≤ l
    · have hx : x ∈ k :: ks := h ▸ mem_pending.mpr ⟨htwo, hv, hl⟩
      rcases List.mem_cons.mp hx with rfl | hx
      · exact le_rfl
      · exact (hfirst x hx).le
    · omega
  refine ⟨hk.2.1, hk.2.2, ?_, fun k' hk' => ?_⟩
  · refine hrest.eq_of_mem_iff (pending_pairwise k l) fun x => ?_
    rw [mem_pending]
    constructor
    · intro hx
      have hmem := mem_pending.mp (h ▸ List.mem_cons_of_mem k hx)
      exact ⟨hmem.1, hfirst x hx, hmem.2.2⟩
    · rintro ⟨htwo, hgt, hl⟩
      have hx : x ∈ k :: ks := h ▸ mem_pending.mpr ⟨htwo, hk.2.1.trans hgt, hl⟩
      exact (List.mem_cons.mp hx).resolve_left hgt.ne'
  · refine (pending_pairwise v k').eq_of_mem_iff
      (List.pairwise_cons.mpr ⟨fun x hx => (mem_pending.mp hx).2.1, pending_pairwise k k'⟩) fun x => ?_
    rw [List.mem_cons, mem_pending, mem_pending]
    constructor
    · rintro ⟨htwo, hv, hl⟩
      have := hleast htwo hv
      omega
    · rintro (rfl | ⟨htwo, hgt, hl⟩)
      · omega
      · omega

theorem pending_append {v k l : Int} (hv : v ≤ k) (hl : k ≤ l) :
    pending v k ++ pending k l = pending v l := by
  refine List.Pairwise.eq_of_mem_iff (r := (· < ·)) (List.pairwise_append.mpr
    ⟨pending_pairwise v k, pending_pairwise k l, fun x hx y hy => ?_⟩) (pending_pairwise v l)
    fun x => ?_
  · have := mem_pending.mp hx
    have := mem_pending.mp hy
    omega
  · rw [List.mem_append, mem_pending, mem_pending, mem_pending]
    omega

theorem pending_inj {v k k' : Int} (hk : v ≤ k ∧ (k = v ∨ 2 ≤ k)) (hk' : v ≤ k' ∧ (k' = v ∨ 2 ≤ k'))
    (h : pending v k = pending v k') : k = k' := by
  have hle {a b : Int} (ha : v ≤ a) (hb : v ≤ b ∧ (b = v ∨ 2 ≤ b)) (hab : pending v a = pending v b) :
      b ≤ a := by
    by_contra hlt
    have hmem : b ∈ pending v a := hab ▸ mem_pending.mpr ⟨by omega, by omega, le_rfl⟩
    have := mem_pending.mp hmem
    omega
  exact le_antisymm (hle hk'.1 hk h.symm) (hle hk.1 hk' h)

/-! ## One start -/

section

variable {S I : Type}

/-- The steps of the list, one after the other, lead from one store to another. -/
inductive Replays (m : Migrations S I) : S → List (Int × I) → S → Prop
  | nil (s : S) : Replays m s [] s
  | cons {s s₁ s₂ : S} {k : Int} {i : I} {l : List (Int × I)} (first : m.migrateTo k i s = .ok s₁)
      (rest : Replays m s₁ l s₂) : Replays m s ((k, i) :: l) s₂

variable {m : Migrations S I}

theorem Replays.append {s s₁ s₂ : S} {l l' : List (Int × I)} (h : Replays m s l s₁)
    (h' : Replays m s₁ l' s₂) : Replays m s (l ++ l') s₂ := by
  induction h with
  | nil s => exact h'
  | cons first rest ih => exact .cons first (ih h')

theorem Replays.of_nil {s s' : S} (h : Replays m s [] s') : s' = s := by
  cases h
  rfl

/-- From version `v` to version `k` by exactly the steps between them. -/
structure Advances (m : Migrations S I) (v k : Int) (db db' : Database S I) : Prop where
  version : db'.version = some k
  le : v ≤ k
  within : k = v ∨ 2 ≤ k ∧ k ≤ lastSchemaVersion
  steps : ∃ l, db'.applied = db.applied ++ l ∧ l.map Prod.fst = pending v k ∧
    Replays m db.store l db'.store

theorem Advances.refl {v : Int} {db : Database S I} (h : db.version = some v) :
    Advances m v v db db where
  version := h
  le := le_rfl
  within := .inl rfl
  steps := ⟨[], (List.append_nil _).symm, (pending_eq_nil le_rfl).symm, .nil _⟩

theorem Advances.eq_of_same {v : Int} {db db' : Database S I} (hv : db.version = some v)
    (h : Advances m v v db db') : db' = db := by
  obtain ⟨l, happlied, hl, hreplays⟩ := h.steps
  rw [pending_eq_nil le_rfl, List.map_eq_nil_iff] at hl
  subst hl
  have hversion : db'.version = db.version := h.version.trans hv.symm
  have hstore : db'.store = db.store := hreplays.of_nil
  rw [List.append_nil] at happlied
  cases db
  cases db'
  simp_all only

theorem Advances.trans {v k k' : Int} {db db' db'' : Database S I} (h : Advances m v k db db')
    (h' : Advances m k k' db' db'') : Advances m v k' db db'' where
  version := h'.version
  le := h.le.trans h'.le
  within := by
    have := h.within
    have := h'.within
    omega
  steps := by
    obtain ⟨l, happlied, hl, hreplays⟩ := h.steps
    obtain ⟨l', happlied', hl', hreplays'⟩ := h'.steps
    refine ⟨l ++ l', ?_, ?_, hreplays.append hreplays'⟩
    · rw [happlied', happlied, List.append_assoc]
    · rw [List.map_append, hl, hl', pending_append h.le h'.le]

theorem migrate_ok {attempt : Attempt I} {k : Int} {db db' : Database S I} :
    migrate m attempt k db = (.ok (), db') ↔
      attempt.begins = none ∧ attempt.records = none ∧ attempt.commits = none ∧
      ∃ s, m.migrateTo k attempt.input db.store = .ok s ∧
        db' = ⟨some k, s, db.applied ++ [(k, attempt.input)]⟩ := by
  unfold migrate Eff.transaction
  cases hbegins : attempt.begins with
  | some e => simp [Eff.orFails]
  | none =>
    cases hstep : m.migrateTo k attempt.input db.store with
    | error e => simp [Eff.orFails, Eff.bind_run, hstep]
    | ok s =>
      cases hrecords : attempt.records with
      | some e => simp [Eff.orFails, Eff.bind_run, hstep]
      | none =>
        cases hcommits : attempt.commits with
        | some e => simp [Eff.orFails, Eff.bind_run, hstep]
        | none => simp [Eff.orFails, Eff.bind_run, hstep, eq_comm]

theorem migrate_error {attempt : Attempt I} {k : Int} {db db' : Database S I} {e : String}
    (h : migrate m attempt k db = (.error e, db')) : db' = db := by
  have hatomic : Eff.Atomic (migrate m attempt k) := by
    unfold migrate
    cases attempt.begins with
    | some e => exact fun db => .inl rfl
    | none => exact Eff.Atomic.transaction _
  rcases hatomic db with hkept | ⟨u, hok⟩
  · rwa [h] at hkept
  · rw [h] at hok
    cases hok

/-- Wherever the loop stops, the version has advanced by what was committed. The induction is on the
steps that are left. -/
theorem each_advances (attempts : Int → Attempt I) {ks : List Int} {v : Int} {db : Database S I}
    (hks : pending v lastSchemaVersion = ks) (hv : db.version = some v) :
    ∃ k, Advances m v k db (Eff.each (fun k => migrate m (attempts k) k) ks db).2 := by
  induction ks generalizing v db with
  | nil => exact ⟨v, .refl hv⟩
  | cons k ks ih =>
    obtain ⟨hlt, hle, hrest, hsplit⟩ := pending_cons hks
    have htwo : 2 ≤ k := (mem_pending.mp (hks ▸ List.mem_cons_self)).1
    rw [Eff.each, Eff.bind_run]
    cases hrun : migrate m (attempts k) k db with
    | mk r db₁ =>
      cases r with
      | error e =>
        obtain rfl := migrate_error hrun
        exact ⟨v, .refl hv⟩
      | ok u =>
        obtain ⟨-, -, -, s, hstep, rfl⟩ := migrate_ok.mp hrun
        obtain ⟨k', hadvances⟩ := ih hrest.symm (rfl : Database.version ⟨some k, s, _⟩ = some k)
        refine ⟨k', Advances.trans ⟨rfl, hlt.le, .inr ⟨htwo, hle⟩, [(k, (attempts k).input)], rfl, ?_,
          .cons hstep (.nil _)⟩ hadvances⟩
        rw [hsplit k le_rfl, pending_eq_nil le_rfl]
        rfl

theorem migrateFromVersion_advances (attempts : Int → Attempt I) {v : Int} {db : Database S I}
    (hv : db.version = some v) :
    ∃ k, Advances m v k db (migrateFromVersion m v lastSchemaVersion attempts db).2 := by
  unfold migrateFromVersion
  split_ifs
  · exact ⟨v, .refl hv⟩
  · exact ⟨v, .refl hv⟩
  · exact each_advances attempts rfl hv

theorem initTable_some (start : Start I) {v : Int} {db : Database S I} (hv : db.version = some v) :
    initTable m start db = migrateFromVersion m v lastSchemaVersion start.attempts db := by
  unfold initTable
  rw [Eff.bind_run, Eff.reads_run, hv]

theorem initTable_none (start : Start I) {db : Database S I} (hv : db.version = none) :
    (∃ s, (initTable m start db).2 = { db with store := s }) ∨
    ∃ s k, m.upgradeToV1 start.upgrade db.store = (.ok (), s) ∧
      Advances m 1 k { db with version := some 1, store := s } (initTable m start db).2 := by
  unfold initTable
  rw [Eff.bind_run, Eff.reads_run, hv]
  dsimp only
  rw [Eff.bind_run, upgradeToV1]
  cases hup : m.upgradeToV1 start.upgrade db.store with
  | mk r s =>
    cases r with
    | error e => exact .inl ⟨s, by rw [← hv]⟩
    | ok u =>
      obtain ⟨k, hadvances⟩ := migrateFromVersion_advances (m := m) start.attempts
        (rfl : Database.version { db with version := some 1, store := s } = some 1)
      exact .inr ⟨s, k, rfl, hadvances⟩

theorem each_completes (attempts : Int → Attempt I) {ks : List Int} {v : Int} {db db' : Database S I}
    (hks : pending v lastSchemaVersion = ks) (hle : v ≤ lastSchemaVersion) (hv : db.version = some v)
    (h : Eff.each (fun k => migrate m (attempts k) k) ks db = (.ok (), db')) :
    db'.version = some lastSchemaVersion := by
  induction ks generalizing v db with
  | nil =>
    obtain rfl : v = lastSchemaVersion := by
      by_contra hne
      have hlast : lastSchemaVersion ∈ pending v lastSchemaVersion :=
        mem_pending.mpr ⟨by decide, lt_of_le_of_ne hle hne, le_rfl⟩
      rw [hks] at hlast
      cases hlast
    rw [← hv]
    exact congrArg Database.version (congrArg Prod.snd h).symm
  | cons k ks ih =>
    obtain ⟨-, hk, hrest, -⟩ := pending_cons hks
    obtain ⟨u, db₁, hfirst, hloop⟩ := Eff.bind_ok.mp h
    obtain ⟨-, -, -, s, -, rfl⟩ := migrate_ok.mp hfirst
    exact ih hrest.symm hk rfl hloop

theorem initTable_completes {start : Start I} {db db' : Database S I}
    (h : initTable m start db = (.ok (), db')) : db'.version = some lastSchemaVersion := by
  have hfrom {v : Int} {db : Database S I} (hv : db.version = some v)
      (h : migrateFromVersion m v lastSchemaVersion start.attempts db = (.ok (), db')) :
      db'.version = some lastSchemaVersion := by
    unfold migrateFromVersion at h
    split_ifs at h with heq hgt
    · rw [← heq, ← hv]
      exact congrArg Database.version (congrArg Prod.snd h).symm
    · cases congrArg Prod.fst h
    · exact each_completes start.attempts rfl (not_lt.mp hgt) hv h
  cases hv : db.version with
  | some v => exact hfrom hv (initTable_some start hv ▸ h)
  | none =>
    unfold initTable at h
    rw [Eff.bind_run, Eff.reads_run, hv] at h
    obtain ⟨u, db₁, hup, hrest⟩ := Eff.bind_ok.mp h
    refine hfrom ?_ hrest
    unfold upgradeToV1 at hup
    split at hup
    · cases hup
      rfl
    · cases congrArg Prod.fst hup

/-! ## Any number of starts -/

theorem afterStarts_advances (starts : List (Start I)) {v : Int} {db : Database S I}
    (hv : db.version = some v) : ∃ k, Advances m v k db (afterStarts m starts db) := by
  induction starts generalizing v db with
  | nil => exact ⟨v, .refl hv⟩
  | cons start starts ih =>
    obtain ⟨k, hfirst⟩ := migrateFromVersion_advances (m := m) start.attempts hv
    rw [← initTable_some start hv] at hfirst
    obtain ⟨k', hrest⟩ := ih hfirst.version
    exact ⟨k', hfirst.trans hrest⟩

/-- Nothing fails in the driver. -/
def Start.Uninterrupted (start : Start I) : Prop :=
  ∀ k, (start.attempts k).begins = none ∧ (start.attempts k).records = none ∧
    (start.attempts k).commits = none

/-- The steps see what they saw when they were applied. -/
def Start.Repeats (start : Start I) (applied : List (Int × I)) : Prop :=
  ∀ p ∈ applied, (start.attempts p.1).input = p.2

theorem each_replays {attempts : Int → Attempt I}
    (hclean : ∀ k, (attempts k).begins = none ∧ (attempts k).records = none ∧
      (attempts k).commits = none) {l : List (Int × I)} (hsame : ∀ p ∈ l, (attempts p.1).input = p.2)
    {db : Database S I} {s : S} (h : Replays m db.store l s) :
    ∃ version, Eff.each (fun k => migrate m (attempts k) k) (l.map Prod.fst) db =
      (.ok (), ⟨version, s, db.applied ++ l⟩) := by
  induction l generalizing db with
  | nil =>
    cases h
    exact ⟨db.version, by simp [Eff.each]⟩
  | cons p l ih =>
    cases h with
    | @cons _ s₁ _ k i _ first rest =>
      obtain ⟨hbegins, hrecords, hcommits⟩ := hclean k
      have hinput : (attempts k).input = i := hsame (k, i) List.mem_cons_self
      have hfirst : migrate m (attempts k) k db = (.ok (), ⟨some k, s₁, db.applied ++ [(k, i)]⟩) :=
        migrate_ok.mpr ⟨hbegins, hrecords, hcommits, s₁, by rwa [hinput], by rw [hinput]⟩
      have hrest' : Replays m (Database.store ⟨some k, s₁, db.applied ++ [(k, i)]⟩) l s := rest
      obtain ⟨version, hloop⟩ := ih (fun p hp => hsame p (List.mem_cons_of_mem _ hp)) hrest'
      refine ⟨version, ?_⟩
      rw [List.map_cons, Eff.each, Eff.bind_run, hfirst]
      simpa using hloop

theorem Advances.uninterrupted {v : Int} {db db' : Database S I} (hv : db.version = some v)
    (happlied : db.applied = []) (h : Advances m v lastSchemaVersion db db') {start : Start I}
    (hclean : start.Uninterrupted) (hsame : start.Repeats db'.applied) :
    initTable m start db = (.ok (), db') := by
  obtain ⟨l, hl, hsteps, hreplays⟩ := h.steps
  rw [happlied, List.nil_append] at hl
  rw [initTable_some start hv]
  unfold migrateFromVersion
  have hle := h.le
  split_ifs with heq hgt
  · subst heq
    obtain rfl := h.eq_of_same hv
    rfl
  · omega
  · obtain ⟨version, hrun⟩ := each_replays hclean (hl ▸ hsame) hreplays
    rw [hsteps, happlied, List.nil_append, ← hl] at hrun
    obtain ⟨k, hadvances⟩ := each_advances (m := m) start.attempts rfl hv
    rw [hrun] at hadvances
    obtain ⟨l', hl', hsteps', -⟩ := hadvances.steps
    rw [happlied, List.nil_append] at hl'
    have hk : k = lastSchemaVersion := by
      refine pending_inj ⟨hadvances.le, hadvances.within.imp_right And.left⟩
        ⟨h.le, h.within.imp_right And.left⟩ ?_
      rw [← hsteps', ← hsteps, ← hl', hl]
    have hversion : version = db'.version := by
      rw [h.version, ← hk]
      exact hadvances.version
    rw [hrun, hversion]

/-- What the recorded version says of a database that was found at version `v`. -/
structure Migrated (m : Migrations S I) (v : Int) (db db' : Database S I) : Prop where
  recorded : db'.version.isSome
  inOrder : (db'.applied.map Prod.fst).Pairwise (· < ·)
  version : ∀ k, db'.version = some k ↔
    v ≤ k ∧ (k = v ∨ 2 ≤ k) ∧ ∀ j, j ∈ db'.applied.map Prod.fst ↔ 2 ≤ j ∧ v < j ∧ j ≤ k
  replays : Replays m db.store db'.applied db'.store
  resumed : db'.version = some lastSchemaVersion → ∀ start : Start I, start.Uninterrupted →
    start.Repeats db'.applied → initTable m start db = (.ok (), db')
  newer : lastSchemaVersion < v → db' = db
  completed : ∀ start : Start I, (initTable m start db').1 = .ok () →
    (initTable m start db').2.version = some lastSchemaVersion

theorem Advances.migrated {v k : Int} {db db' : Database S I} (hv : db.version = some v)
    (happlied : db.applied = []) (h : Advances m v k db db') : Migrated m v db db' := by
  obtain ⟨l, hl, hsteps, hreplays⟩ := h.steps
  rw [happlied, List.nil_append] at hl
  have hpending : db'.applied.map Prod.fst = pending v k := by rw [hl, hsteps]
  refine ⟨by rw [h.version]; rfl, ?_, fun k' => ?_, hl ▸ hreplays, ?_, ?_,
    fun start hok => initTable_completes (Prod.ext hok rfl)⟩
  · rw [hpending]
    exact pending_pairwise v k
  · rw [hpending, h.version, Option.some.injEq]
    constructor
    · rintro rfl
      exact ⟨h.le, h.within.imp_right And.left, fun j => mem_pending⟩
    · rintro ⟨hle, hwithin, hmem⟩
      refine pending_inj ⟨h.le, h.within.imp_right And.left⟩ ⟨hle, hwithin⟩ ?_
      exact (pending_pairwise v k).eq_of_mem_iff (pending_pairwise v k') fun j =>
        (hmem j).trans mem_pending.symm
  · intro hlast start hclean hsame
    rw [h.version, Option.some.injEq] at hlast
    subst hlast
    exact h.uninterrupted hv happlied hclean hsame
  · intro hnewer
    have hk : k = v := by
      have := h.le
      have := h.within
      omega
    subst hk
    exact h.eq_of_same hv

theorem afterStarts_none (starts : List (Start I)) {db : Database S I} (hv : db.version = none) :
    (∃ s, afterStarts m starts db = { db with store := s }) ∨
    ∃ start ∈ starts, ∃ s s' k, m.upgradeToV1 start.upgrade s = (.ok (), s') ∧
      Advances m 1 k { db with version := some 1, store := s' } (afterStarts m starts db) := by
  induction starts generalizing db with
  | nil => exact .inl ⟨db.store, rfl⟩
  | cons start starts ih =>
    have hfold : afterStarts m (start :: starts) db = afterStarts m starts (initTable m start db).2 :=
      rfl
    rw [hfold]
    rcases initTable_none (m := m) start hv with ⟨s, hdb⟩ | ⟨s', k, hup, hfirst⟩
    · have hstill : Database.version { db with store := s } = none := hv
      rw [hdb]
      rcases ih hstill with hnone | hsome
      · exact .inl hnone
      · obtain ⟨start', hmem, hrest⟩ := hsome
        exact .inr ⟨start', List.mem_cons_of_mem _ hmem, hrest⟩
    · obtain ⟨k', hrest⟩ := afterStarts_advances (m := m) starts hfirst.version
      exact .inr ⟨start, List.mem_cons_self, db.store, s', k', hup, hfirst.trans hrest⟩

/-- After any number of starts, each of which may fail at any point: a database that was found at
version `v` is at version `k` exactly when the steps after `v` up to `k` have been applied, each once
and in order, and it holds what these steps made of it and nothing else. When the last version is
reached, one uninterrupted start would have led there too, and a database of a later version is not
written. A next start that nothing fails in ends at the last version. -/
theorem starts_migrated (m : Migrations S I) (store : S) (starts : List (Start I)) :
    (∀ v, Migrated m v ⟨some v, store, []⟩ (afterStarts m starts ⟨some v, store, []⟩)) ∧
    ((∃ s, afterStarts m starts ⟨none, store, []⟩ = ⟨none, s, []⟩) ∨
      ∃ start ∈ starts, ∃ s s', m.upgradeToV1 start.upgrade s = (.ok (), s') ∧
        Migrated m 1 ⟨some 1, s', []⟩ (afterStarts m starts ⟨none, store, []⟩)) := by
  constructor
  · intro v
    obtain ⟨k, hadvances⟩ := afterStarts_advances (m := m) starts
      (rfl : Database.version ⟨some v, store, []⟩ = some v)
    exact hadvances.migrated rfl rfl
  · rcases afterStarts_none (m := m) starts (rfl : Database.version ⟨none, store, []⟩ = none) with
      hnone | ⟨start, hmem, s, s', k, hup, hadvances⟩
    · exact .inl hnone
    · exact .inr ⟨start, hmem, s, s', hup, hadvances.migrated rfl rfl⟩

end

/-- Steps that leave their number, and a first start that fails after step 5. -/
example :
    let m : Migrations (List Int) Unit := ⟨fun _ s => (.ok (), s), fun k _ s => .ok (s ++ [k])⟩
    let first : Start Unit := ⟨(), fun k => ⟨none, (), if k = 6 then some "locked" else none, none⟩⟩
    let second : Start Unit := ⟨(), fun _ => ⟨none, (), none, none⟩⟩
    (afterStarts m [first] ⟨some 3, [], []⟩).store = [4, 5] ∧
      (afterStarts m [first, second] ⟨some 3, [], []⟩).store = [4, 5, 6, 7, 8, 9, 10, 11, 12] := by
  decide

end Sql
end Klldap
