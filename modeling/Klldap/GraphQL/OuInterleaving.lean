import Klldap.GraphQL.Ous
import Klldap.Lib.Interleave

/-!
# Klldap.GraphQL.OuInterleaving: organizational units created and deleted at the same time

`create_ou` and `delete_ou` load the list, make the new one in memory and save it; `delete_ou` lists
and updates users and groups in between. Every call to the backend is atomic, and requests interleave
between the calls. `OuCall.step` is the part of a request up to the end of its next call, and
`rest_run` puts the parts together to the request again.
-/

namespace Klldap
namespace GraphQL

open Lib (Eff Pool)
open Lib.Eff (Frames Keeps)
open Lib.Text (splitOnce trim)
open Opaque (Suite)

/-! ## Requests in parts -/

/-- What a request has still to do. -/
inductive OuCall where
  | createOu (v : ValidationResults) (name : String)
  /-- The list has been loaded and the checks have passed. -/
  | saveWith (name : String) (loaded : List String)
  | deleteOu (v : ValidationResults) (name : String)
  /-- The list has been loaded and the checks have passed. -/
  | listUsers (nameLower : String) (loaded : List String)
  | moveUsers (nameLower : String) (loaded : List String) (users : List UserAndGroups)
  | listGroups (nameLower : String) (loaded : List String)
  | moveGroups (nameLower : String) (loaded : List String) (groups : List Group)
  | saveWithout (nameLower : String) (loaded : List String)

/-- Requests begin at their start. -/
def OuCall.Begins : OuCall → Prop
  | .createOu _ _ | .deleteOu _ _ => True
  | _ => False

/-- What a request that answers success has done to the list. -/
inductive OuChange where
  | created (name : String)
  | deleted (nameLower : String)
deriving DecidableEq

/-- The change that a request is about to save, and the list that it has loaded. -/
def OuCall.saves : OuCall → Option (OuChange × List String)
  | .saveWith name loaded => some (.created name, loaded)
  | .saveWithout nameLower loaded => some (.deleted nameLower, loaded)
  | _ => none

section

variable [External] {S : Suite} {σ : Type}

/-- A user that is in the deleted organizational unit is moved to `people`. -/
def moveToPeople (h : Services S σ) (u : UserAndGroups) : Eff σ DomainError Unit :=
  h.updateUser ⟨u.user.userId, none, none, [], [ouAttribute "people"]⟩

def moveToGroups (h : Services S σ) (g : Group) : Eff σ DomainError Unit :=
  h.updateGroup ⟨g.id, none, [], [ouAttribute "groups"]⟩

def withoutOu (nameLower : String) (loaded : List String) : List String :=
  loaded.filter fun o => toLowercase o ≠ nameLower

def OuCall.step (h : Services S σ) : OuCall → Field σ (Option OuCall)
  | .createOu v name => do
    let handler ← orUnauthorized "Unauthorized OU creation" (getAdminHandler h v)
    let (primary, secondary) ← Eff.lift (checkNewOu name)
    let currentOus ← context "Failed to load allowedous" handler.getAllowedOus
    if currentOus.any fun existing => toLowercase existing = toLowercase name then
      fieldError ("Organizational Unit '" ++ name ++ "' already exists")
    else if secondary.isSome && !currentOus.any (fun p => toLowercase p = toLowercase primary) then
      fieldError ("Primary OU '" ++ primary ++
        "' does not exist. Create it first before adding a secondary.")
    else pure (some (.saveWith name currentOus))
  | .saveWith name loaded => do
    saveAllowedOus h (Sql.orderBy id (loaded ++ [name]))
    pure none
  | .deleteOu v name => do
    let handler ← orUnauthorized "Unauthorized OU deletion" (getAdminHandler h v)
    let nameLower := toLowercase (trim name)
    if ["people", "groups", "all"].contains nameLower then
      fieldError "Cannot delete built-in OU 'people', 'groups', or 'All'"
    else do
      let currentOus ← context "Failed to load allowedous" handler.getAllowedOus
      if currentOus.any fun ou => (splitOnce '\\' ou).any fun p => toLowercase p.1 = nameLower then
        fieldError ("Cannot delete primary OU '" ++ name ++
          "' because it still contains secondary OUs. Delete the secondary OUs first.")
      else pure (some (.listUsers nameLower currentOus))
  | .listUsers nameLower loaded => do
    match ← Eff.attempt (h.listUsers none false) with
    | .ok users => pure (some (.moveUsers nameLower loaded
        (users.filter fun u => toLowercase (currentOu u.user.attributes) = nameLower)))
    | .error (_ : DomainError) => pure (some (.listGroups nameLower loaded))
  | .moveUsers nameLower loaded [] => pure (some (.listGroups nameLower loaded))
  | .moveUsers nameLower loaded (u :: users) => do
    let _ ← Eff.attempt (moveToPeople h u)
    pure (some (.moveUsers nameLower loaded users))
  | .listGroups nameLower loaded => do
    match ← Eff.attempt (h.listGroups none) with
    | .ok groups => pure (some (.moveGroups nameLower loaded
        (groups.filter fun g => toLowercase (currentOu g.attributes) = nameLower)))
    | .error (_ : DomainError) => pure (some (.saveWithout nameLower loaded))
  | .moveGroups nameLower loaded [] => pure (some (.saveWithout nameLower loaded))
  | .moveGroups nameLower loaded (g :: groups) => do
    let _ ← Eff.attempt (moveToGroups h g)
    pure (some (.moveGroups nameLower loaded groups))
  | .saveWithout nameLower loaded => do
    saveAllowedOus h (withoutOu nameLower loaded)
    pure none

def OuCall.rest (h : Services S σ) : OuCall → Field σ Response
  | .createOu v name => GraphQL.createOu ⟨h, v⟩ name
  | .saveWith name loaded => do
    saveAllowedOus h (Sql.orderBy id (loaded ++ [name]))
    pure .success
  | .deleteOu v name => GraphQL.deleteOu ⟨h, v⟩ name
  | .listUsers nameLower loaded => do
    reassignOu h nameLower
    saveAllowedOus h (withoutOu nameLower loaded)
    pure .success
  | .moveUsers nameLower loaded users => do
    bestEffort (moveToPeople h) users
    reassignGroups h nameLower
    saveAllowedOus h (withoutOu nameLower loaded)
    pure .success
  | .listGroups nameLower loaded => do
    reassignGroups h nameLower
    saveAllowedOus h (withoutOu nameLower loaded)
    pure .success
  | .moveGroups nameLower loaded groups => do
    bestEffort (moveToGroups h) groups
    saveAllowedOus h (withoutOu nameLower loaded)
    pure .success
  | .saveWithout nameLower loaded => do
    saveAllowedOus h (withoutOu nameLower loaded)
    pure .success

omit [External] in
theorem admin_bind {α : Type} (h : Services S σ) (v : ValidationResults) (message : String)
    (f : Services S σ → Field σ α) :
    orUnauthorized message (getAdminHandler h v) >>= f =
      orUnauthorized message (getAdminHandler h v) >>= fun _ => f h := by
  unfold getAdminHandler
  split
  · rfl
  · rfl

theorem reassignOu_eq (h : Services S σ) (nameLower : String) :
    reassignOu h nameLower = (do
      reassignUsers h nameLower
      reassignGroups h nameLower) := by
  unfold reassignOu reassignUsers
  simp only [bind_assoc]
  refine bind_congr fun users => ?_
  cases users with
  | error e => rfl
  | ok users => rfl

theorem OuCall.rest_run (h : Services S σ) (c : OuCall) :
    c.rest h = (do
      match ← c.step h with
      | some c' => c'.rest h
      | none => pure .success) := by
  cases c with
  | createOu v name =>
    change GraphQL.createOu ⟨h, v⟩ name = _
    unfold step GraphQL.createOu
    simp only [bind_assoc, admin_bind]
    refine bind_congr fun _ => bind_congr fun levels => bind_congr fun loaded => ?_
    split
    · rfl
    · split
      · rfl
      · rfl
  | saveWith name loaded =>
    unfold rest step
    simp only [bind_assoc, pure_bind]
  | deleteOu v name =>
    change GraphQL.deleteOu ⟨h, v⟩ name = _
    unfold step GraphQL.deleteOu
    simp only [bind_assoc, admin_bind]
    refine bind_congr fun _ => ?_
    split
    · rfl
    · simp only [bind_assoc]
      refine bind_congr fun loaded => ?_
      split
      · rfl
      · rfl
  | listUsers nameLower loaded =>
    unfold rest step
    dsimp only
    rw [reassignOu_eq]
    unfold reassignUsers
    simp only [bind_assoc]
    refine bind_congr fun users => ?_
    cases users with
    | error e => rfl
    | ok users => rfl
  | moveUsers nameLower loaded users =>
    cases users with
    | nil => rfl
    | cons u users =>
      unfold step
      simp only [bind_assoc, pure_bind]
      rfl
  | listGroups nameLower loaded =>
    unfold rest step reassignGroups
    simp only [bind_assoc]
    refine bind_congr fun groups => ?_
    cases groups with
    | error e => rfl
    | ok groups => rfl
  | moveGroups nameLower loaded groups =>
    cases groups with
    | nil => rfl
    | cons g groups =>
      unfold step
      simp only [bind_assoc, pure_bind]
      rfl
  | saveWithout nameLower loaded =>
    unfold rest step
    simp only [bind_assoc, pure_bind]

end

section

variable [External]

def OuChange.apply : OuChange → List String → List String
  | .created name, loaded => Sql.orderBy id (loaded ++ [name])
  | .deleted nameLower, loaded => withoutOu nameLower loaded

def OuChange.lower : OuChange → String
  | .created name => toLowercase name
  | .deleted nameLower => nameLower

/-- The list shows the change: the name is there, or it is gone. -/
def OuChange.Shown : OuChange → List String → Prop
  | .created name, ous => HasOu ous name
  | .deleted nameLower, ous => ∀ o ∈ ous, toLowercase o ≠ nameLower

/-- The list shows every change but those of names that were changed again. -/
def Reflects (ous : List String) (changes : List OuChange) : Prop :=
  ∀ before c after, changes = before ++ c :: after → (∀ d ∈ after, d.lower ≠ c.lower) → c.Shown ous

theorem OuChange.shown_apply (c : OuChange) (loaded : List String) : c.Shown (c.apply loaded) := by
  cases c with
  | created name => exact ⟨name, by simp [apply, Sql.orderBy], rfl⟩
  | deleted nameLower =>
    intro o ho
    exact of_decide_eq_true (List.mem_filter.mp ho).2

theorem OuChange.mem_apply (c : OuChange) {loaded : List String} {o : String}
    (hne : toLowercase o ≠ c.lower) : o ∈ c.apply loaded ↔ o ∈ loaded := by
  cases c with
  | created name =>
    have hname : o ≠ name := fun h => hne (congrArg toLowercase h)
    simp [apply, Sql.orderBy, hname]
  | deleted nameLower =>
    change o ∈ List.filter _ _ ↔ _
    rw [List.mem_filter, and_iff_left_iff_imp]
    exact fun _ => decide_eq_true hne

theorem OuChange.Shown.apply {c d : OuChange} {ous : List String} (h : d.Shown ous)
    (hne : c.lower ≠ d.lower) : d.Shown (c.apply ous) := by
  cases d with
  | created name =>
    obtain ⟨o, ho, heq⟩ := h
    exact ⟨o, (c.mem_apply fun h => hne (h.symm.trans heq)).mpr ho, heq⟩
  | deleted nameLower =>
    intro o ho heq
    exact h o ((c.mem_apply fun h => hne (h.symm.trans heq)).mp ho) heq

theorem Reflects.apply {ous : List String} {changes : List OuChange} (h : Reflects ous changes)
    (c : OuChange) : Reflects (c.apply ous) (changes ++ [c]) := by
  intro before d after heq hlast
  rcases List.eq_nil_or_concat after with rfl | ⟨after', d', rfl⟩
  · obtain ⟨-, hc⟩ := List.append_inj' heq rfl
    cases hc
    exact c.shown_apply ous
  · rw [List.concat_eq_append, ← List.cons_append, ← List.append_assoc] at heq
    obtain ⟨hchanges, hc⟩ := List.append_inj' heq rfl
    cases hc
    exact (h before d after' hchanges fun e he => hlast e (by simp [he])).apply (hlast c (by simp))

end

/-! ## Interleavings -/

section

variable [External] {S : Suite} (setup : S.ServerSetup)

/-- A part of a request saves the list, or it leaves the list alone and does not answer success. -/
inductive OuStep (c : OuCall) (w : World) : Except FieldError (Option OuCall) × World → Prop
  | goesOn {r : Except FieldError (Option OuCall)} {w' : World} (hr : r ≠ .ok none)
      (hous : Sql.getAllowedOus w'.db = Sql.getAllowedOus w.db) : OuStep c w (r, w')
  | answers {change : OuChange} {loaded : List String} (hsaves : c.saves = some (change, loaded)) :
      OuStep c w (.ok none, { w with db := withAllowedOus (change.apply loaded) w.db })

theorem OuCall.step_outcome (rng : S.Coins) (out : Outside) (c : OuCall) (w : World) :
    OuStep c w (c.step (sqlServices S setup rng out) w) := by
  have hkept {r : Except FieldError (Option OuCall)} (hr : r ≠ .ok none) : OuStep c w (r, w) :=
    .goesOn hr rfl
  cases c with
  | createOu v name =>
    unfold step
    dsimp only
    rw [admin_run]
    split
    swap
    · exact hkept nofun
    rw [Eff.bind_run, Eff.lift_run]
    cases checkNewOu name with
    | error e => exact hkept nofun
    | ok levels =>
      dsimp only
      rw [loadAllowedOus_run]
      split
      · exact hkept nofun
      · split
        · exact hkept nofun
        · exact hkept nofun
  | saveWith name loaded =>
    have hsaves : (OuCall.saveWith name loaded).saves = some (.created name, loaded) := rfl
    exact .answers hsaves
  | deleteOu v name =>
    unfold step
    dsimp only
    rw [admin_run]
    split
    swap
    · exact hkept nofun
    split
    · exact hkept nofun
    · rw [loadAllowedOus_run]
      split
      · exact hkept nofun
      · exact hkept nofun
  | listUsers nameLower loaded =>
    unfold step
    dsimp only
    change OuStep _ w ((match (Sql.listUsers none false w.db) with
      | .ok users => pure (some (.moveUsers nameLower loaded
          (users.filter fun u => toLowercase (currentOu u.user.attributes) = nameLower)))
      | .error (_ : DomainError) => pure (some (.listGroups nameLower loaded)) :
        Field World (Option OuCall)) w)
    cases Sql.listUsers none false w.db with
    | ok users => exact hkept nofun
    | error e => exact hkept nofun
  | moveUsers nameLower loaded users =>
    cases users with
    | nil => exact hkept nofun
    | cons u users =>
      exact .goesOn nofun (getAllowedOus_congr (updateUser_systemConfig setup rng out _ w))
  | listGroups nameLower loaded =>
    unfold step
    dsimp only
    change OuStep _ w ((match (Sql.listGroups none w.db) with
      | .ok groups => pure (some (.moveGroups nameLower loaded
          (groups.filter fun g => toLowercase (currentOu g.attributes) = nameLower)))
      | .error (_ : DomainError) => pure (some (.saveWithout nameLower loaded)) :
        Field World (Option OuCall)) w)
    cases Sql.listGroups none w.db with
    | ok groups => exact hkept nofun
    | error e => exact hkept nofun
  | moveGroups nameLower loaded groups =>
    cases groups with
    | nil => exact hkept nofun
    | cons g groups =>
      exact .goesOn nofun (getAllowedOus_congr (updateGroup_systemConfig setup rng out _ w))
  | saveWithout nameLower loaded =>
    have hsaves : (OuCall.saveWithout nameLower loaded).saves = some (.deleted nameLower, loaded) :=
      rfl
    exact .answers hsaves

/-- What the requests share, with the changes that have been answered with success, in the order in
which they were saved. -/
structure OuShared where
  world : World
  changes : List OuChange

def OuCall.advance (i : Outside × S.Coins) (c : OuCall) :
    Eff OuShared FieldError (Option OuCall) := fun s =>
  match c.step (sqlServices S setup i.2 i.1) s.world with
  | (.ok none, w) => (.ok none, ⟨w, s.changes ++ (c.saves.map Prod.fst).toList⟩)
  | (r, w) => (r, ⟨w, s.changes⟩)

abbrev OuPool := Pool OuShared OuCall

abbrev OuMove (S : Suite) := Pool.Move (Outside × S.Coins) OuCall

/-- Requests begin at their start. -/
def OuMove.Begins (m : OuMove S) : Prop := ∀ c, m = .start c → c.Begins

/-- A request that saves finds the list that it has loaded. -/
def SavesOverLoaded (p : OuPool) (m : OuMove S) : Prop :=
  ∀ k i, m = .advance k i → ∀ c, p.threads[k]? = some c → ∀ change loaded,
    c.saves = some (change, loaded) → Sql.getAllowedOus p.shared.world.db = loaded

/-- The interleavings of any requests from `init`, with a condition on the moves. -/
abbrev OuInterleaving (ok : OuPool → OuMove S → Prop) (init : World) :
    List (Lib.Event OuPool (OuMove S) Unit) → OuPool → Prop :=
  Lib.Run (Pool.move (OuCall.advance setup)) (fun _ p m => OuMove.Begins m ∧ ok p m) ⟨⟨init, []⟩, []⟩

theorem OuCall.advance_reflects
    (hjson : ∀ l, External.jsonToStrings (External.stringsToJson l) = some l)
    (i : Outside × S.Coins) (c : OuCall) {s : OuShared}
    (hloaded : ∀ change loaded, c.saves = some (change, loaded) →
      Sql.getAllowedOus s.world.db = loaded)
    (h : Reflects (Sql.getAllowedOus s.world.db) s.changes) :
    Reflects (Sql.getAllowedOus (c.advance setup i s).2.world.db) (c.advance setup i s).2.changes := by
  have hstep := c.step_outcome setup i.2 i.1 s.world
  unfold advance
  cases hrun : c.step (sqlServices S setup i.2 i.1) s.world with
  | mk r w =>
    rw [hrun] at hstep
    cases hstep with
    | goesOn hr hous =>
      rw [← hous] at h
      cases r with
      | error e => exact h
      | ok next =>
        cases next with
        | none => exact absurd rfl hr
        | some c' => exact h
    | answers hsaves =>
      dsimp only
      rw [hsaves, getAllowedOus_withAllowedOus hjson, ← hloaded _ _ hsaves]
      exact h.apply _

/-- In every interleaving in which each request saves while the list is still the one that it has
loaded, the list shows every change that has been answered with success and not been made undone by
a later one of the same name. -/
theorem ouChanges_kept
    (hjson : ∀ l, External.jsonToStrings (External.stringsToJson l) = some l) {init : World}
    {history} {p : OuPool} (run : OuInterleaving (S := S) setup SavesOverLoaded init history p) :
    Reflects (Sql.getAllowedOus p.shared.world.db) p.shared.changes := by
  refine run.invariant
    (P := fun _ p => Reflects (Sql.getAllowedOus p.shared.world.db) p.shared.changes) ?_ ?_
  · intro before c after heq
    exact absurd heq (by simp)
  · rintro _ p m hp ⟨-, hok⟩
    cases m with
    | start c => exact hp
    | advance k i =>
      change Reflects (Sql.getAllowedOus (Pool.move _ p (.advance k i)).2.shared.world.db)
        (Pool.move _ p (.advance k i)).2.shared.changes
      unfold Pool.move
      dsimp only
      split
      · exact hp
      · rename_i c hc
        exact c.advance_reflects setup hjson i (hok k i rfl c hc) hp

end

/-! ## Two creations at the same time -/

section Samples

open Codecs
open Plain (outside)

def createCall (name : String) : OuCall := .createOu ⟨UserId.new "admin", .admin⟩ name

def advanceAt (k : Nat) : OuMove Opaque.plainSuite := .advance k (outside, ())

/-- The requests after some moves, with the two built-in organizational units at first. -/
def afterOuMoves (moves : List (OuMove Opaque.plainSuite)) : OuPool :=
  moves.foldl (fun p m => (Pool.move (OuCall.advance ()) p m).2) ⟨⟨builtinOus, []⟩, []⟩

def startBoth : List (OuMove Opaque.plainSuite) :=
  [.start (createCall "sales"), .start (createCall "labs")]

/-- The moves begin a request, or make a part that saves over the list that it has loaded. -/
def ouChecked (p : OuPool) : OuMove Opaque.plainSuite → Bool
  | .start (.createOu _ _) | .start (.deleteOu _ _) => true
  | .start _ => false
  | .advance k _ => (p.threads[k]?.bind OuCall.saves).all fun s =>
    Sql.getAllowedOus p.shared.world.db = s.2

theorem begins_of_ouChecked {p : OuPool} {m : OuMove Opaque.plainSuite} (h : ouChecked p m = true) :
    OuMove.Begins m := by
  rintro c rfl
  cases c with
  | createOu | deleteOu => trivial
  | _ => cases h

theorem savesOverLoaded_of_ouChecked {p : OuPool} {m : OuMove Opaque.plainSuite}
    (h : ouChecked p m = true) : SavesOverLoaded p m := by
  rintro k i rfl c hc change loaded hsaves
  rw [ouChecked, hc, Option.bind_some, hsaves, Option.all_some] at h
  exact of_decide_eq_true h

/-- The second request loads and saves before the first one loads. -/
theorem ouChanges_kept_labs :
    let p := afterOuMoves (startBoth ++ [0, 0, 0, 0].map advanceAt)
    p.shared.changes = [.created "labs", .created "sales"] ∧
      Reflects (Sql.getAllowedOus p.shared.world.db) p.shared.changes := by
  refine ⟨by decide +kernel, ?_⟩
  have hnone : OuInterleaving (S := Opaque.plainSuite) () SavesOverLoaded builtinOus [] _ := .nil
  obtain ⟨history, hrun⟩ := hnone.extend_checked (fun _ _ _ h =>
    ⟨begins_of_ouChecked h, savesOverLoaded_of_ouChecked h⟩)
    (l := startBoth ++ [0, 0, 0, 0].map advanceAt) (by decide +kernel)
  exact ouChanges_kept () Codecs.lawful.strings hrun

/-- Both requests load before either of them saves: the first one to save is lost. -/
theorem labs_lost :
    let p := afterOuMoves (startBoth ++ [0, 1, 0, 0].map advanceAt)
    (∃ history, OuInterleaving (S := Opaque.plainSuite) () (fun _ _ => True) builtinOus history p) ∧
      p.threads.isEmpty = true ∧ p.shared.changes = [.created "labs", .created "sales"] ∧
      ¬ Reflects (Sql.getAllowedOus p.shared.world.db) p.shared.changes := by
  refine ⟨?_, by decide +kernel, by decide +kernel, fun h => ?_⟩
  · refine Lib.Run.nil.extend _ fun m hm _ _ => ⟨?_, trivial⟩
    rintro c rfl
    simp only [startBoth, List.map, List.cons_append, List.nil_append, List.mem_cons,
      Pool.Move.start.injEq, advanceAt, reduceCtorEq, List.not_mem_nil, or_false] at hm
    rcases hm with rfl | rfl
    · trivial
    · trivial
  · have hchanges : (afterOuMoves (startBoth ++ [0, 1, 0, 0].map advanceAt)).shared.changes =
        [] ++ .created "labs" :: [.created "sales"] := by decide +kernel
    have hshown : HasOu _ "labs" := h [] (.created "labs") [.created "sales"] hchanges
      (by decide +kernel)
    revert hshown
    unfold HasOu
    decide +kernel

end Samples

end GraphQL
end Klldap
