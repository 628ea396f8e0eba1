import Klldap.CaseFolding
import Klldap.Lib.Run
import Klldap.Sql.Writes

/-!
# Klldap.Sql.LowercaseColumns: the columns that hold folded names

Emails and group names are looked up by a second column that holds them in lower case. `migrate_to_v6`
fills it with the database's `lower()`, which folds ASCII letters only; every later write folds with
`str::to_lowercase`.
-/

namespace Klldap
namespace Sql

open Lib (Eff)
open Lib.Text (asciiLower)

section

variable [External]

/-! ## The migration -/

/-- The new columns with their defaults. Version 5 does not have them, so that what a row of `db` says
about them means nothing. -/
def addLowercaseColumns (db : Store) : Store :=
  { db with
    groups := db.groups.mapRows (fun r => { r with lowercaseDisplayName := "UNSET" }) fun _ => rfl
    users := db.users.mapRows (fun r => { r with lowercaseEmail := "UNSET" }) fun _ => rfl }

def sqlLower (s : String) : String := asciiLower s

def migrateToV6 (db : Store) : Store :=
  let db := addLowercaseColumns db
  { db with
    groups := db.groups.mapRows
      (fun r => { r with lowercaseDisplayName := sqlLower r.displayName.raw }) fun _ => rfl
    users := db.users.mapRows
      (fun r => { r with lowercaseEmail := sqlLower r.email.raw }) fun _ => rfl }

/-- What look-ups and uniqueness checks rely on. -/
structure LowercaseColumns (db : Store) : Prop where
  users : ∀ r ∈ db.users.rows, r.lowercaseEmail = toLowercase r.email.raw
  groups : ∀ r ∈ db.groups.rows, r.lowercaseDisplayName = toLowercase r.displayName.raw

theorem lowercaseColumns_migrated {db : Store} :
    LowercaseColumns (migrateToV6 db) ↔
      (∀ r ∈ db.users.rows, asciiLower r.email.raw = toLowercase r.email.raw) ∧
      ∀ r ∈ db.groups.rows, asciiLower r.displayName.raw = toLowercase r.displayName.raw := by
  have husers : (migrateToV6 db).users.rows =
      db.users.rows.map fun r => { r with lowercaseEmail := asciiLower r.email.raw } := by
    simp only [migrateToV6, addLowercaseColumns, Lib.Table.mapRows, List.map_map]
    rfl
  have hgroups : (migrateToV6 db).groups.rows =
      db.groups.rows.map fun r => { r with lowercaseDisplayName := asciiLower r.displayName.raw } := by
    simp only [migrateToV6, addLowercaseColumns, Lib.Table.mapRows, List.map_map]
    rfl
  constructor
  · rintro ⟨hu, hg⟩
    rw [husers, List.forall_mem_map] at hu
    rw [hgroups, List.forall_mem_map] at hg
    exact ⟨hu, hg⟩
  · rintro ⟨hu, hg⟩
    refine ⟨?_, ?_⟩
    · rw [husers, List.forall_mem_map]
      exact hu
    · rw [hgroups, List.forall_mem_map]
      exact hg

/-! ## Writes -/

inductive WriteRequest where
  | createUser (request : CreateUserRequest)
  | updateUser (request : UpdateUserRequest)
  | createGroup (request : CreateGroupRequest)
  | updateGroup (request : UpdateGroupRequest)

def writeStep (db : Store) (i : DateTime × WriteRequest) : Except DomainError Unit × Store :=
  match i.2 with
  | .createUser request => createUser i.1 request db
  | .updateUser request =>
    let answer := (updateUserWithTransaction i.1 request).transaction db
    (answer.1.map fun _ => (), answer.2)
  | .createGroup request =>
    let answer := createGroup i.1 request db
    (answer.1.map fun _ => (), answer.2)
  | .updateGroup request => updateGroup i.1 request db

omit [External] in
theorem mem_rows_update {α κ : Type} [DecidableEq κ] {key : α → κ} {t : Lib.Table α κ key} {k : κ}
    {f : α → α} {hf : ∀ r, key (f r) = key r} {r : α} (h : r ∈ (t.update k f hf).rows) :
    ∃ r₀ ∈ t.rows, r = r₀ ∨ r = f r₀ := by
  simp only [Lib.Table.update, Lib.Table.updateWhere, Lib.Table.mapRows, List.mem_map] at h
  obtain ⟨r₀, hr₀, rfl⟩ := h
  refine ⟨r₀, hr₀, ?_⟩
  split
  · exact .inr rfl
  · exact .inl rfl

theorem lowercase_updatedUsers {now : DateTime} {request : UpdateUserRequest} {kerb : Option Bool}
    {users : Lib.Table UserRow UserId UserRow.userId}
    (h : ∀ r ∈ users.rows, r.lowercaseEmail = toLowercase r.email.raw) :
    ∀ r ∈ (updatedUsers now request kerb users).rows, r.lowercaseEmail = toLowercase r.email.raw := by
  have happly : ∀ r ∈ (users.update request.userId (UpdateUserRequest.applyTo request now)
      applyTo_userId).rows, r.lowercaseEmail = toLowercase r.email.raw := by
    intro r hr
    obtain ⟨r₀, hr₀, rfl | rfl⟩ := mem_rows_update hr
    · exact h r hr₀
    · unfold UpdateUserRequest.applyTo
      cases request.email with
      | none => exact h r₀ hr₀
      | some email => rfl
  unfold updatedUsers
  dsimp only
  split
  · intro r hr
    obtain ⟨r₀, hr₀, rfl | rfl⟩ := mem_rows_update hr
    · exact happly r hr₀
    · exact happly r₀ hr₀
  · exact happly

theorem lowercase_updatedGroups {now : DateTime} {request : UpdateGroupRequest}
    {groups : Lib.Table GroupRow GroupId GroupRow.groupId}
    (h : ∀ r ∈ groups.rows, r.lowercaseDisplayName = toLowercase r.displayName.raw) :
    ∀ r ∈ (groups.update request.groupId (updatedGroup now request) updatedGroup_groupId).rows,
      r.lowercaseDisplayName = toLowercase r.displayName.raw := by
  intro r hr
  obtain ⟨r₀, hr₀, rfl | rfl⟩ := mem_rows_update hr
  · exact h r hr₀
  · unfold updatedGroup
    cases request.displayName with
    | none => exact h r₀ hr₀
    | some name => rfl

theorem writeStep_lowercase {db : Store} (h : LowercaseColumns db) (i : DateTime × WriteRequest) :
    LowercaseColumns (writeStep db i).2 := by
  obtain ⟨now, request⟩ := i
  cases request with
  | createUser request =>
    change LowercaseColumns (createUser now request db).2
    rcases createUser_atomic now request db with heq | ⟨_, hok⟩
    · rw [heq]
      exact h
    · obtain ⟨schema, settings, attributes, users, -, -, -, -, hinsert, -, -, hdb⟩ := createUser_ok hok
      rw [hdb]
      refine ⟨fun r hr => ?_, h.groups⟩
      rw [Lib.Table.rows_insert? hinsert] at hr
      rcases List.mem_append.mp hr with hr | hr
      · exact h.users r hr
      · rw [List.mem_singleton.mp hr]
        rfl
  | updateUser request =>
    change LowercaseColumns ((updateUserWithTransaction now request).transaction db).2
    rcases Eff.transaction_cases (updateUserWithTransaction now request) db with heq | ⟨_, hok⟩
    · rw [heq]
      exact h
    · obtain ⟨schema, changes, -, -, -, -, -, -, hdb⟩ := updateUserWithTransaction_ok.mp hok
      rw [hdb]
      exact ⟨lowercase_updatedUsers h.users, h.groups⟩
  | createGroup request =>
    change LowercaseColumns (createGroup now request db).2
    rcases createGroup_atomic now request db with heq | ⟨_, hok⟩
    · rw [heq]
      exact h
    · obtain ⟨schema, settings, attributes, groups, -, -, -, -, hinsert, -, -, hdb⟩ := createGroup_ok hok
      rw [hdb]
      refine ⟨h.users, fun r hr => ?_⟩
      rw [Lib.Table.rows_insert? hinsert] at hr
      rcases List.mem_append.mp hr with hr | hr
      · exact h.groups r hr
      · rw [List.mem_singleton.mp hr]
  | updateGroup request =>
    change LowercaseColumns (updateGroup now request db).2
    rcases updateGroup_atomic now request db with heq | ⟨_, hok⟩
    · rw [heq]
      exact h
    · obtain ⟨schema, removes, -, -, -, -, -, hdb⟩ :=
        updateGroupWithTransaction_ok.mp (updateGroup_ok hok)
      rw [hdb]
      exact ⟨h.users, lowercase_updatedGroups h.groups⟩

/-- Whatever is written after the migration, the columns hold the names in lower case exactly if folding
ASCII letters was enough for every email and every group name of the old database. -/
theorem lowercaseColumns_iff (db : Store) :
    (∀ history db', Lib.Run writeStep (fun _ _ _ => True) (migrateToV6 db) history db' →
      LowercaseColumns db') ↔
    (∀ r ∈ db.users.rows, asciiLower r.email.raw = toLowercase r.email.raw) ∧
      ∀ r ∈ db.groups.rows, asciiLower r.displayName.raw = toLowercase r.displayName.raw := by
  rw [← lowercaseColumns_migrated]
  constructor
  · exact fun h => h [] _ .nil
  · intro h history db' hrun
    exact hrun.invariant (P := fun _ db => LowercaseColumns db) h fun _ _ i hdb _ =>
      writeStep_lowercase hdb i

end

section

open Greek

def alphaStore : Store :=
  { Store.empty with groups := ⟨[⟨⟨1⟩, ⟨"Α"⟩, "", 0, ⟨"uuid"⟩, 0⟩], by decide⟩ }

/-- The group is not found by its own name: the column still holds the capital. -/
theorem alpha_kept_by_migration :
    (migrateToV6 alphaStore).groups.rows.map (fun r => (r.displayName.raw, r.lowercaseDisplayName)) =
        [("Α", "Α")] ∧
      toLowercase "Α" = "α" ∧ ¬ LowercaseColumns (migrateToV6 alphaStore) := by
  have hfold : toLowercase "Α" = "α" := by decide +kernel
  refine ⟨by decide +kernel, hfold, fun h => ?_⟩
  have hcolumn := h.groups ⟨⟨1⟩, ⟨"Α"⟩, "Α", 0, ⟨"uuid"⟩, 0⟩ (by decide +kernel)
  rw [hfold] at hcolumn
  exact absurd hcolumn (by decide)

end

end Sql
end Klldap
