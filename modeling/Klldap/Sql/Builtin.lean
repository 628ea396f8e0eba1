import Klldap.Lib.Run
import Klldap.Plain
import Klldap.Sql.Roster

/-!
# Klldap.Sql.Builtin: the built-in groups

The server relies on five groups by their exact names, and on nobody being an administrator and
disabled at once. Both survive any sequence of calls of the backend, one after another.
-/

namespace Klldap

open Lib (Eff)
open Lib.Eff (Frames Keeps)
open Lib.Text

/-! ## The invariant -/

/-- The five groups are there, the lower-cased names are those of the names and are unique, and
nobody is in both `lldap_admin` and `lldap_disabled`. -/
structure Roster.Builtin [External] (r : Roster) : Prop where
  present : ∀ name ∈ builtinGroups, ∃ g ∈ r.groups, g.name.raw = name
  lower : ∀ g ∈ r.groups, g.lower = toLowercase g.name.raw
  unique : ∀ g ∈ r.groups, ∀ g' ∈ r.groups, g.lower = g'.lower → g = g'
  apart : ∀ u, ¬(r.Has u "lldap_admin" ∧ r.Has u "lldap_disabled")

namespace Roster

variable [External] {r r' : Roster}

omit [External] in
theorem isBuiltinGroup_iff {name : String} : isBuiltinGroup name = true ↔ name ∈ builtinGroups := by
  simp [isBuiltinGroup]

theorem Builtin.name_free (h : r.Builtin) {name : GroupName}
    (hfree : ∀ g ∈ r.groups, g.lower ≠ toLowercase name.raw) : name.raw ∉ builtinGroups := by
  intro hmem
  obtain ⟨g, hg, hname⟩ := h.present name.raw hmem
  exact hfree g hg (by rw [h.lower g hg, hname])

theorem Builtin.apart_of_has (h : r.Builtin)
    (hold : ∀ u name, name ∈ builtinGroups → r'.Has u name → r.Has u name) (u : UserId) :
    ¬(r'.Has u "lldap_admin" ∧ r'.Has u "lldap_disabled") := fun ⟨hadmin, hdisabled⟩ =>
  h.apart u ⟨hold u _ (by decide) hadmin, hold u _ (by decide) hdisabled⟩

theorem builtin_create (h : r.Builtin) {id : GroupId} {name : GroupName}
    (hfree : ∀ g ∈ r.groups, g.lower ≠ toLowercase name.raw) :
    Builtin { r with groups := r.groups ++ [⟨id, name, toLowercase name.raw⟩] } := by
  have hcases {g : GroupEntry} (hg : g ∈ r.groups ++ [⟨id, name, toLowercase name.raw⟩]) :
      g ∈ r.groups ∨ g = ⟨id, name, toLowercase name.raw⟩ := by simpa using hg
  constructor
  · intro b hb
    obtain ⟨g, hg, hname⟩ := h.present b hb
    exact ⟨g, List.mem_append_left _ hg, hname⟩
  · intro g hg
    rcases hcases hg with hg | rfl
    · exact h.lower g hg
    · rfl
  · intro g hg g' hg' heq
    rcases hcases hg with hg | rfl <;> rcases hcases hg' with hg' | rfl
    · exact h.unique g hg g' hg' heq
    · exact absurd heq (hfree g hg)
    · exact absurd heq.symm (hfree g' hg')
    · rfl
  · refine h.apart_of_has fun u b hb hhas => ?_
    obtain ⟨g, hg, hname, hmember⟩ := hhas
    rcases hcases hg with hg | rfl
    · exact ⟨g, hg, hname, hmember⟩
    · exact absurd (hname ▸ hb) (h.name_free hfree)

theorem builtin_rename (h : r.Builtin) {id : GroupId} {name : GroupName}
    (hcustom : ∀ g ∈ r.groups, g.id = id → isBuiltinGroup g.name.raw = false)
    (hfree : ∀ g ∈ r.groups, g.id ≠ id → g.lower ≠ toLowercase name.raw) :
    Builtin { r with groups := r.groups.map fun g =>
      if g.id = id then ⟨id, name, toLowercase name.raw⟩ else g } := by
  have hkept {g : GroupEntry} (hg : g ∈ r.groups) (hb : g.name.raw ∈ builtinGroups) : g.id ≠ id := by
    intro hid
    have hnot := hcustom g hg hid
    rw [isBuiltinGroup_iff.mpr hb] at hnot
    cases hnot
  have hnew : name.raw ∉ builtinGroups := by
    intro hmem
    obtain ⟨g, hg, hname⟩ := h.present name.raw hmem
    exact hfree g hg (hkept hg (hname ▸ hmem)) (by rw [h.lower g hg, hname])
  have hcases {g : GroupEntry} (hg : g ∈ r.groups.map fun g =>
      if g.id = id then ⟨id, name, toLowercase name.raw⟩ else g) :
      (g ∈ r.groups ∧ g.id ≠ id) ∨ g = ⟨id, name, toLowercase name.raw⟩ := by
    obtain ⟨g₀, hg₀, rfl⟩ := List.mem_map.mp hg
    by_cases hid : g₀.id = id
    · exact .inr (if_pos hid)
    · rw [if_neg hid]
      exact .inl ⟨hg₀, hid⟩
  constructor
  · intro b hb
    obtain ⟨g, hg, hname⟩ := h.present b hb
    exact ⟨g, List.mem_map.mpr ⟨g, hg, if_neg (hkept hg (hname ▸ hb))⟩, hname⟩
  · intro g hg
    rcases hcases hg with ⟨hg, -⟩ | rfl
    · exact h.lower g hg
    · rfl
  · intro g hg g' hg' heq
    rcases hcases hg with ⟨hg, hid⟩ | rfl <;> rcases hcases hg' with ⟨hg', hid'⟩ | rfl
    · exact h.unique g hg g' hg' heq
    · exact absurd heq (hfree g hg hid)
    · exact absurd heq.symm (hfree g' hg' hid')
    · rfl
  · refine h.apart_of_has fun u b hb hhas => ?_
    obtain ⟨g, hg, hname, hmember⟩ := hhas
    rcases hcases hg with ⟨hg, -⟩ | rfl
    · exact ⟨g, hg, hname, hmember⟩
    · exact absurd (hname ▸ hb) hnew

theorem builtin_members (h : r.Builtin) {members : List MembershipRow}
    (hm : ∀ m ∈ members, m ∈ r.members) : Builtin { r with members := members } where
  present := h.present
  lower := h.lower
  unique := h.unique
  apart := h.apart_of_has fun _ _ _ => Has.mono (fun _ hg => hg) hm

theorem builtin_dropGroup (h : r.Builtin) {id : GroupId}
    (hcustom : ∀ g ∈ r.groups, g.id = id → isBuiltinGroup g.name.raw = false) :
    Builtin ⟨r.groups.filter fun g => g.id ≠ id, r.members.filter fun m => m.groupId ≠ id⟩ where
  present b hb := by
    obtain ⟨g, hg, hname⟩ := h.present b hb
    refine ⟨g, List.mem_filter.mpr ⟨hg, ?_⟩, hname⟩
    simp only [ne_eq, decide_eq_true_eq]
    intro hid
    have hnot := hcustom g hg hid
    rw [isBuiltinGroup_iff.mpr (hname ▸ hb)] at hnot
    cases hnot
  lower g hg := h.lower g (List.mem_of_mem_filter hg)
  unique g hg g' hg' := h.unique g (List.mem_of_mem_filter hg) g' (List.mem_of_mem_filter hg')
  apart := h.apart_of_has fun _ _ _ =>
    Has.mono (fun _ hg => List.mem_of_mem_filter hg) fun _ hm => List.mem_of_mem_filter hm

theorem builtin_join (h : r.Builtin) {u : UserId} {g : GroupEntry}
    (hone : ∀ g' ∈ r.groups, g'.id = g.id → g' = g)
    (hadmin : g.name.raw = "lldap_admin" → ¬r.Has u "lldap_disabled")
    (hdisabled : g.name.raw = "lldap_disabled" → ¬r.Has u "lldap_admin") :
    Builtin { r with members := r.members ++ [⟨u, g.id⟩] } where
  present := h.present
  lower := h.lower
  unique := h.unique
  apart := by
    have hname {name : String} (hnamed : r.Named g.id name) : g.name.raw = name := by
      obtain ⟨g', hg', hid, rfl⟩ := hnamed
      rw [hone g' hg' hid]
    refine apart_join h.apart (fun hnamed => ⟨fun hother => ?_, hadmin (hname hnamed)⟩) fun hnamed =>
      hdisabled (hname hnamed)
    exact absurd ((hname hnamed).symm.trans (hname hother)) (by decide)

theorem Builtin.step (h : r.Builtin) {gone : UserId → Prop} (hstep : r.Step gone r') :
    r'.Builtin := by
  cases hstep with
  | same => exact h
  | create id name hid hfree => exact builtin_create h hfree
  | rename id name hcustom hfree => exact builtin_rename h hcustom hfree
  | dropGroup id hcustom => exact builtin_dropGroup h hcustom
  | dropUser u hu => exact builtin_members h fun _ hm => List.mem_of_mem_filter hm
  | join u g hg hone hadmin hdisabled => exact builtin_join h hone hadmin hdisabled
  | leave u id hlast => exact builtin_members h fun _ hm => List.mem_of_mem_filter hm

end Roster

/-- The calls that change users, groups and memberships. -/
inductive Operation where
  | createGroup (request : CreateGroupRequest)
  | updateGroup (request : UpdateGroupRequest)
  | deleteGroup (id : GroupId)
  | createUser (request : CreateUserRequest)
  | updateUser (request : UpdateUserRequest)
  | deleteUser (u : UserId)
  | addUserToGroup (u : UserId) (id : GroupId)
  | removeUserFromGroup (u : UserId) (id : GroupId)

section Runs

variable [External]

def Operation.call (h : BackendHandler World) : Operation → Backend Unit
  | .createGroup request => do
    let _ ← h.createGroup request
    pure ()
  | .updateGroup request => h.updateGroup request
  | .deleteGroup id => h.deleteGroup id
  | .createUser request => h.createUser request
  | .updateUser request => h.updateUser request
  | .deleteUser u => h.deleteUser u
  | .addUserToGroup u id => h.addUserToGroup u id
  | .removeUserFromGroup u id => h.removeUserFromGroup u id

def callStep (w : World) (i : Outside × Operation) : Except DomainError Unit × World :=
  i.2.call (sqlBackend i.1) w

theorem callStep_rosterStep (w : World) (i : Outside × Operation) :
    RosterStep (fun _ => True) w.db (callStep w i).2.db := by
  obtain ⟨out, op⟩ := i
  cases op with
  | createGroup request =>
    have hcreate : RosterStep (fun _ => True) w.db (onDb (Sql.createGroup out.now request) w).2.db :=
      onDb_step (Sql.createGroup_step out.now request) w
    unfold callStep Operation.call
    simp only [Eff.bind_run]
    split
    · rename_i heq
      exact congrArg (fun p => p.2.db) heq ▸ hcreate
    · rename_i heq
      exact congrArg (fun p => p.2.db) heq ▸ hcreate
  | updateGroup request => exact onDb_step (Sql.updateGroup_step out.now request) w
  | deleteGroup id => exact onDb_step (Sql.deleteGroup_step id) w
  | createUser request => exact (Sql.createUser_sameRoster out.now request w.db).step
  | updateUser request => exact SameRoster.step (updateUser_sameRoster out request w)
  | deleteUser u => exact deleteUserAndPrincipal_step out trivial w
  | addUserToGroup u id => exact onDb_step (Sql.addUserToGroup_step out.now u id) w
  | removeUserFromGroup u id => exact onDb_step (Sql.removeUserFromGroup_step out.now u id) w

/-- The runs of the backend: calls one after another, whatever the outside answers. -/
abbrev BackendRun (init : World) :
    List (Lib.Event World (Outside × Operation) (Except DomainError Unit)) → World → Prop :=
  Lib.Run callStep (fun _ _ _ => True) init

theorem run_builtin {init w : World} {history} (hinit : init.db.roster.Builtin)
    (run : BackendRun init history w) : w.db.roster.Builtin :=
  run.invariant (P := fun _ w => w.db.roster.Builtin) hinit fun _ w i h _ =>
    h.step (callStep_rosterStep w i)

end Runs

/-! ## Names up to letter case -/

/-- The documented behaviour of `str::to_lowercase`: character by character, but for the sigma, whose
lower case depends on what follows it. -/
structure LawfulLower [External] : Prop where
  str : ∀ s : String, 'Σ' ∉ s.toList →
    External.strLower s = String.ofList (s.toList.flatMap charToLowercase)
  sigma : External.charLower 'Σ' = ['σ']

section Names

variable [External]

omit [External] in
theorem eq_of_compareChars {cs cs' : List Char} (h : compareChars cs cs' = .eq) : cs = cs' := by
  induction cs generalizing cs' with
  | nil =>
    cases cs' with
    | nil => rfl
    | cons c' cs' => cases h
  | cons c cs ih =>
    cases cs' with
    | nil => cases h
    | cons c' cs' =>
      simp only [compareChars] at h
      split at h
      · cases h
      · split at h
        · cases h
        · have hc : c = c' := Char.toNat_inj.mp (by omega)
          rw [hc, ih h]

theorem flatMap_charToLowercase_of_ascii {cs : List Char} (h : cs.all isAscii = true) :
    cs.flatMap charToLowercase = cs.map Char.toLower := by
  induction cs with
  | nil => rfl
  | cons c cs ih =>
    rw [List.all_cons, Bool.and_eq_true] at h
    simp [charToLowercase, h.1, ih h.2]

theorem toLowercase_of_beq (hlaw : LawfulLower) {a b : GroupName}
    (hascii : b.raw.toList.all isAscii = true) (hlower : asciiLower b.raw = b.raw)
    (h : (a == b) = true) : toLowercase a.raw = b.raw := by
  have hchars : a.raw.toList.flatMap charToLowercase = b.raw.toList := by
    have heq : a.raw.toList.flatMap charToLowercase = b.raw.toList.flatMap charToLowercase :=
      eq_of_compareChars (of_decide_eq_true h)
    rw [heq, flatMap_charToLowercase_of_ascii hascii, ← toList_asciiLower, hlower]
  unfold toLowercase
  split
  · rename_i ha
    rw [← String.toList_inj, toList_asciiLower, ← hchars, flatMap_charToLowercase_of_ascii ha]
  · have hsigma : 'Σ' ∉ a.raw.toList := by
      intro hmem
      have hin : 'σ' ∈ b.raw.toList := by
        rw [← hchars]
        refine List.mem_flatMap.mpr ⟨'Σ', hmem, ?_⟩
        rw [charToLowercase, if_neg (by decide), hlaw.sigma]
        exact List.mem_singleton_self _
      have hnot := List.all_eq_true.mp hascii 'σ' hin
      exact absurd hnot (by decide)
    rw [hlaw.str _ hsigma, hchars, String.ofList_toList]

omit [External] in
theorem builtin_name_plain :
    ∀ name ∈ builtinGroups, name.toList.all isAscii = true ∧ asciiLower name = name := by
  decide

/-- From a database with the five built-in groups and nobody both an administrator and disabled:
after every run of the backend the five groups are there under their exact names, each is the only
group whose name equals its name up to letter case, and nobody is in both groups. -/
theorem builtin_groups_kept (hlaw : LawfulLower) {init w : World} {history}
    (hinit : init.db.roster.Builtin) (run : BackendRun init history w) :
    (∀ name ∈ builtinGroups, ∃ g ∈ w.db.groups.rows, g.displayName.raw = name ∧
      ∀ g' ∈ w.db.groups.rows, (g'.displayName == ⟨name⟩) = true → g' = g) ∧
    ∀ u, ¬(w.db.roster.Has u "lldap_admin" ∧ w.db.roster.Has u "lldap_disabled") := by
  have h := run_builtin hinit run
  refine ⟨fun name hname => ?_, h.apart⟩
  obtain ⟨e, he, heq⟩ := h.present name hname
  obtain ⟨g, hg, rfl⟩ := mem_groups.mp he
  refine ⟨g, hg, heq, fun g' hg' hbeq => ?_⟩
  obtain ⟨hascii, hlower⟩ := builtin_name_plain name hname
  have hg'lower : g'.entry.lower = name := by
    rw [h.lower g'.entry (mem_groups.mpr ⟨g', hg', rfl⟩)]
    exact toLowercase_of_beq hlaw hascii hlower hbeq
  have hglower : g.entry.lower = name := by
    rw [h.lower g.entry he, heq, toLowercase, if_pos hascii, hlower]
  have hentry := h.unique g'.entry (mem_groups.mpr ⟨g', hg', rfl⟩) g.entry he
    (hg'lower.trans hglower.symm)
  exact List.inj_on_of_nodup_map w.db.groups.nodup hg' hg (congrArg GroupEntry.id hentry)

end Names

namespace Lowering

def lowerChar (c : Char) : List Char := if c = 'Σ' then ['σ'] else [c]

scoped instance external : External where
  __ := Plain.external
  charLower := lowerChar
  strLower s := String.ofList (s.toList.flatMap fun c =>
    if isAscii c then [c.toLower] else lowerChar c)

theorem lawful : LawfulLower where
  str _ _ := rfl
  sigma := rfl

def fiveGroups : World := Plain.world { Store.empty with
  groups := ⟨[Plain.groupRow 1 "lldap_admin", Plain.groupRow 2 "lldap_password_manager",
    Plain.groupRow 3 "lldap_strict_readonly", Plain.groupRow 4 "lldap_disabled",
    Plain.groupRow 5 "lldap_sudohost"], by decide⟩ }

theorem fiveGroups_builtin : fiveGroups.db.roster.Builtin where
  present := by decide
  lower := by decide
  unique := by decide
  apart := by
    rintro u ⟨⟨g, -, -, hmember⟩, -⟩
    cases hmember

/-- An attempt to create a second group of administrators in other letters. -/
theorem second_admins :
    let w := (callStep fiveGroups (Plain.outside, .createGroup ⟨⟨"LLDAP_Admin"⟩, []⟩)).2
    (∀ name ∈ builtinGroups, ∃ g ∈ w.db.groups.rows, g.displayName.raw = name ∧
      ∀ g' ∈ w.db.groups.rows, (g'.displayName == ⟨name⟩) = true → g' = g) ∧
    ∀ u, ¬(w.db.roster.Has u "lldap_admin" ∧ w.db.roster.Has u "lldap_disabled") :=
  builtin_groups_kept lawful fiveGroups_builtin (.snoc _ .nil trivial)

end Lowering

end Klldap
