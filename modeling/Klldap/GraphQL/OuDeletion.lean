import Klldap.GraphQL.OuMoves

/-!
# Klldap.GraphQL.OuDeletion: what a deletion of an organizational unit leaves behind

The deletion answers success when the shorter list is saved, whatever became of the users and groups
that were in the organizational unit.
-/

namespace Klldap
namespace GraphQL

open Lib (Eff)
open Lib.Text (splitOnce trim)
open Opaque (Suite)
open Sql

section

variable [External]

/-- The organizational unit is the one stored for the user. -/
def UserIn (nameLower : String) (db : Store) (u : UserId) : Prop :=
  (db.users.find? u).isSome = true ∧
    ∃ value, userValue db u "ou" = some value ∧ toLowercase (textOr "" value) = nameLower

def GroupIn (nameLower : String) (db : Store) (g : GroupId) : Prop :=
  (db.groups.find? g).isSome = true ∧
    ∃ value, groupValue db g "ou" = some value ∧ toLowercase (textOr "" value) = nameLower

/-- The organizational unit is gone: it is not in the list, and nobody is in it. -/
structure Cleared (nameLower : String) (db : Store) : Prop where
  list : ∀ o ∈ Sql.getAllowedOus db, toLowercase o ≠ nameLower
  users : ∀ u, ¬ UserIn nameLower db u
  groups : ∀ g, ¬ GroupIn nameLower db g

/-- Everybody who is in the organizational unit is moved when it is deleted. -/
structure OuMovable (fails : BackendCall → Option DomainError) (nameLower : String) (db : Store) :
    Prop where
  users : ∀ u, UserIn nameLower db u → UserMovable fails nameLower db u
  groups : ∀ g, GroupIn nameLower db g → GroupMovable fails nameLower db g

/-- The deletion is refused. -/
inductive OuRefused (fails : BackendCall → Option DomainError) (v : ValidationResults)
    (name : String) (db : Store) : Prop
  | notAdmin (h : v.isAdmin = false)
  | builtin (h : toLowercase (trim name) ∈ ["people", "groups", "all"])
  | notLoaded (h : (fails .getAllowedOus).isSome = true)
  | hasChildren {o : String} (ho : o ∈ Sql.getAllowedOus db) {levels : String × String}
      (hlevels : splitOnce '\\' o = some levels) (h : toLowercase levels.1 = toLowercase (trim name))
  | notSaved (h : (fails .setSystemConfig).isSome = true)

section Moved

variable {ou nameLower : String} {db db' : Store}

theorem movedUsers_userIn {ids : List UserId}
    (h : MovedUsers ou ids db db') (hne : toLowercase ou ≠ nameLower) (u : UserId) :
    UserIn nameLower db' u ↔ UserIn nameLower db u ∧ u ∉ ids := by
  unfold UserIn
  rw [h.users u, h.value u]
  by_cases hu : u ∈ ids
  · simp only [hu, if_true, not_true, and_false, iff_false, not_and]
    rintro - ⟨value, hvalue, heq⟩
    rw [← Option.some.inj hvalue, textOr_utf8] at heq
    exact hne heq
  · simp only [hu, if_false, not_false_eq_true, and_true]

theorem movedGroups_groupIn {ids : List GroupId}
    (h : MovedGroups ou ids db db') (hne : toLowercase ou ≠ nameLower) (g : GroupId) :
    GroupIn nameLower db' g ↔ GroupIn nameLower db g ∧ g ∉ ids := by
  unfold GroupIn
  rw [h.groups g, h.value g]
  by_cases hg : g ∈ ids
  · simp only [hg, if_true, not_true, and_false, iff_false, not_and]
    rintro - ⟨value, hvalue, heq⟩
    rw [← Option.some.inj hvalue, textOr_utf8] at heq
    exact hne heq
  · simp only [hg, if_false, not_false_eq_true, and_true]

end Moved

/-! ## The answer -/

section

variable {S : Suite} (fails : BackendCall → Option DomainError) (setup : S.ServerSetup)
  (rng : S.Coins) (out : Outside) (v : ValidationResults) (name : String) (w : World)

theorem failing_load_run {α : Type} (f : List String → Field World α) :
    (context "Failed to load allowedous"
        (failing fails (sqlServices S setup rng out)).getAllowedOus >>= f) w =
      match fails .getAllowedOus with
      | none => f (Sql.getAllowedOus w.db) w
      | some _ => (.error (.error "Failed to load allowedous" none), w) := by
  change (context _ (Eff.orFails (fails .getAllowedOus) _) >>= f) w = _
  cases fails .getAllowedOus with
  | none => rfl
  | some e => rfl

theorem failing_save_run (ous : List String) :
    (do saveAllowedOus (failing fails (sqlServices S setup rng out)) ous
        pure .success : Field World Response) w =
      match fails .setSystemConfig with
      | none => (.ok .success, { w with db := withAllowedOus ous w.db })
      | some _ => (.error (.error "Failed to save updated OU list" none), w) := by
  change (context _ (Eff.orFails (fails .setSystemConfig) _) >>= _) w = _
  cases fails .setSystemConfig with
  | none => rfl
  | some e => rfl

def movedWorld : World :=
  (reassignOu (failing fails (sqlServices S setup rng out)) (toLowercase (trim name)) w).2

theorem deleteOu_answer :
    (OuRefused fails v name w.db ∧
      ∃ e, (deleteOu ⟨failing fails (sqlServices S setup rng out), v⟩ name w).1 = .error e) ∨
    (¬ OuRefused fails v name w.db ∧
      deleteOu ⟨failing fails (sqlServices S setup rng out), v⟩ name w =
        (.ok .success, { movedWorld fails setup rng out name w with
          db := withAllowedOus
            ((Sql.getAllowedOus w.db).filter fun o => toLowercase o ≠ toLowercase (trim name))
            (movedWorld fails setup rng out name w).db })) := by
  unfold deleteOu
  rw [admin_run]
  split
  swap
  · rename_i hadmin
    exact .inl ⟨.notAdmin (by simpa using hadmin), _, rfl⟩
  rename_i hadmin
  dsimp only
  split
  · rename_i hbuiltin
    exact .inl ⟨.builtin (by simpa using hbuiltin), _, rfl⟩
  rename_i hbuiltin
  rw [failing_load_run]
  cases hload : fails .getAllowedOus with
  | some e => exact .inl ⟨.notLoaded (by rw [hload]; rfl), _, rfl⟩
  | none =>
    dsimp only
    split
    · rename_i hchildren
      obtain ⟨o, ho, hsplit⟩ := List.any_eq_true.mp hchildren
      cases hlevels : splitOnce '\\' o with
      | none => simp [hlevels] at hsplit
      | some levels =>
        rw [hlevels] at hsplit
        exact .inl ⟨.hasChildren ho hlevels (by simpa using hsplit), _, rfl⟩
    · rename_i hchildren
      rw [Eff.bind_run]
      have hfst := reassignOu_fst (failing fails (sqlServices S setup rng out))
        (toLowercase (trim name)) w
      cases hmoved : reassignOu (failing fails (sqlServices S setup rng out))
          (toLowercase (trim name)) w with
      | mk r moved =>
        rw [hmoved] at hfst
        subst hfst
        dsimp only
        rw [failing_save_run]
        cases hsave : fails .setSystemConfig with
        | some e => exact .inl ⟨.notSaved (by rw [hsave]; rfl), _, rfl⟩
        | none =>
          refine .inr ⟨fun hrefused => ?_, ?_⟩
          · cases hrefused with
            | notAdmin h => exact nomatch h.symm.trans hadmin
            | builtin h => exact hbuiltin (by simpa using h)
            | notLoaded h =>
              rw [hload] at h
              exact nomatch h
            | hasChildren ho hlevels h =>
              exact hchildren (List.any_eq_true.mpr ⟨_, ho, by simp [hlevels, h]⟩)
            | notSaved h =>
              rw [hsave] at h
              exact nomatch h
          · unfold movedWorld
            rw [hmoved]

theorem cleared_iff
    (hjson : ∀ l, External.jsonToStrings (External.stringsToJson l) = some l)
    (hpeople : toLowercase (trim name) ≠ "people") (hgroups : toLowercase (trim name) ≠ "groups") :
    Cleared (toLowercase (trim name)) (withAllowedOus
        ((Sql.getAllowedOus w.db).filter fun o => toLowercase o ≠ toLowercase (trim name))
        (movedWorld fails setup rng out name w).db) ↔
      OuMovable fails (toLowercase (trim name)) w.db := by
  unfold movedWorld
  rw [reassignOu_run]
  generalize toLowercase (trim name) = nameLower at *
  obtain ⟨ids, hmoved, hids⟩ := reassignUsers_moved fails setup rng out nameLower w
  obtain ⟨ids', hmoved', hids'⟩ := reassignGroups_moved fails setup rng out nameLower
    (reassignUsers (failing fails (sqlServices S setup rng out)) nameLower w).2
  generalize (reassignUsers (failing fails (sqlServices S setup rng out)) nameLower w).2 = w₁
    at hmoved hmoved' hids' ⊢
  generalize (reassignGroups (failing fails (sqlServices S setup rng out)) nameLower w₁).2 = w₂
    at hmoved' ⊢
  generalize hous : ((Sql.getAllowedOus w.db).filter fun o => toLowercase o ≠ nameLower) = ous
  have husers (u : UserId) : UserIn nameLower (withAllowedOus ous w₂.db) u ↔
      UserIn nameLower w.db u ∧ ¬ UserMovable fails nameLower w.db u := by
    rw [← hids u, ← movedUsers_userIn hmoved hpeople.symm u]
    obtain ⟨_, _, hdb⟩ := hmoved'.rest
    rw [hdb]
    rfl
  have hgroups' (g : GroupId) : GroupIn nameLower (withAllowedOus ous w₂.db) g ↔
      GroupIn nameLower w.db g ∧ ¬ GroupMovable fails nameLower w.db g := by
    have hsame : GroupMovable fails nameLower w₁.db g ↔ GroupMovable fails nameLower w.db g := by
      have hshown := ShowsGroupOu.of_movedUsers nameLower (g := g) hmoved
      obtain ⟨_, _, hdb⟩ := hmoved.rest
      rw [hdb] at hshown ⊢
      exact ⟨fun h => ⟨h.listing, hshown.mp h.shown, h.update, h.row⟩,
        fun h => ⟨h.listing, hshown.mpr h.shown, h.update, h.row⟩⟩
    have hin : GroupIn nameLower w₁.db g ↔ GroupIn nameLower w.db g := by
      obtain ⟨_, _, hdb⟩ := hmoved.rest
      rw [hdb]
      rfl
    rw [← hsame, ← hids' g, ← hin, ← movedGroups_groupIn hmoved' hgroups.symm g]
    rfl
  constructor
  · rintro ⟨-, hu, hg⟩
    exact ⟨fun u h => by_contra fun hnot => hu u ((husers u).mpr ⟨h, hnot⟩),
      fun g h => by_contra fun hnot => hg g ((hgroups' g).mpr ⟨h, hnot⟩)⟩
  · rintro ⟨hu, hg⟩
    refine ⟨fun o ho => ?_, fun u h => ((husers u).mp h).2 (hu u ((husers u).mp h).1),
      fun g h => ((hgroups' g).mp h).2 (hg g ((hgroups' g).mp h).1)⟩
    rw [getAllowedOus_withAllowedOus hjson, ← hous, List.mem_filter] at ho
    exact of_decide_eq_true ho.2

/-- A deletion that answers success leaves nobody in the organizational unit exactly if it is refused
or all the calls that have to move somebody are made. -/
theorem deleteOu_clears_iff
    (hjson : ∀ l, External.jsonToStrings (External.stringsToJson l) = some l) :
    ((deleteOu ⟨failing fails (sqlServices S setup rng out), v⟩ name w).1 = .ok .success →
      Cleared (toLowercase (trim name))
        (deleteOu ⟨failing fails (sqlServices S setup rng out), v⟩ name w).2.db) ↔
    OuRefused fails v name w.db ∨ OuMovable fails (toLowercase (trim name)) w.db := by
  rcases deleteOu_answer fails setup rng out v name w with ⟨hrefused, e, hfst⟩ | ⟨haccepted, heq⟩
  · refine iff_of_true (fun h => ?_) (.inl hrefused)
    rw [hfst] at h
    exact nomatch h
  · have hbuiltin : ∀ n ∈ ["people", "groups", "all"], toLowercase (trim name) ≠ n :=
      fun n hn h => haccepted (.builtin (h ▸ hn))
    rw [heq, or_iff_right haccepted,
      ← cleared_iff fails setup rng out name w hjson (hbuiltin _ (by simp)) (hbuiltin _ (by simp))]
    exact ⟨fun h => h rfl, fun h _ => h⟩

end

end

section Samples

open Plain
open Codecs

def alice : UserId := UserId.new "alice"

def aliceInSales : World :=
  world { Store.empty with
    users := .single (userRow "alice")
    userAttributes := .single ⟨alice, .new "ou", Lib.Bincode.utf8 "sales"⟩
    userAttributeSchema := .single ⟨.new "ou", .string, false, true, false, true, true, "[]"⟩
    systemConfig :=
      ⟨[⟨"allowedous", External.stringsToJson ["groups", "people", "sales"]⟩], by decide⟩ }

def deleteSales (fails : BackendCall → Option DomainError) : Except FieldError Response × World :=
  deleteOu ⟨failing fails (sqlServices Opaque.plainSuite () () outside), ⟨UserId.new "admin", .admin⟩⟩
    "sales" aliceInSales

theorem aliceInSales_movable : OuMovable (fun _ => none) "sales" aliceInSales.db := by
  refine ⟨fun u hu => ?_, fun g hg => nomatch hg.1⟩
  obtain ⟨row, hrow⟩ := Option.isSome_iff_exists.mp hu.1
  have hmem := Lib.Table.mem_of_find? hrow
  have hkey := Lib.Table.key_of_find? hrow
  rw [List.mem_singleton.mp hmem] at hkey
  subst hkey
  have hnamed : UserNamed "ou" aliceInSales.db := ⟨by decide +kernel, by decide +kernel⟩
  have hok : (Sql.listUsers none false aliceInSales.db).isOk = true := by decide +kernel
  cases hlist : Sql.listUsers none false aliceInSales.db with
  | error e =>
    rw [hlist] at hok
    cases hok
  | ok users =>
    obtain ⟨value, hvalue, heq⟩ := hu.2
    obtain ⟨x, hx, hid, hou⟩ := listUsers_ou hnamed hlist hu.1 hvalue
    exact ⟨rfl, ⟨users, hlist, x, hx, hid, hou ▸ heq⟩, rfl, by decide +kernel⟩

/-- When no call fails, `alice` is moved. -/
theorem deleteOu_clears_iff_sales :
    (deleteSales fun _ => none).1 = .ok .success ∧
      Cleared "sales" (deleteSales fun _ => none).2.db := by
  have hsuccess : (deleteSales fun _ => none).1 = .ok .success := rfl
  have hname : toLowercase (trim "sales") = "sales" := by decide +kernel
  have hcleared := (deleteOu_clears_iff (S := Opaque.plainSuite) (fun _ => none) () () outside
    ⟨UserId.new "admin", .admin⟩ "sales" aliceInSales Codecs.lawful.strings).mpr
    (.inr (hname ▸ aliceInSales_movable)) hsuccess
  rw [hname] at hcleared
  exact ⟨hsuccess, hcleared⟩

def aliceFails (c : BackendCall) : Option DomainError :=
  if c = .updateUser alice then some (.databaseError "database is locked") else none

theorem alice_left_behind :
    (deleteSales aliceFails).1 = .ok .success ∧ ¬ Cleared "sales" (deleteSales aliceFails).2.db := by
  refine ⟨rfl, fun h => h.users alice ⟨by decide +kernel, Lib.Bincode.utf8 "sales", ?_⟩⟩
  decide +kernel

end Samples

end GraphQL
end Klldap
