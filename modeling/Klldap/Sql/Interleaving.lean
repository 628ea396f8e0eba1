import Klldap.Administrators
import Klldap.Lib.Interleave

/-!
# Klldap.Sql.Interleaving: memberships changed at the same time

`add_user_to_group` reads the groups of the user, reads the group, and then inserts the membership
in a transaction; `remove_user_from_group` is one transaction. A query and a transaction are atomic,
and calls interleave between them. `MembershipCall.step` is one such piece of a call, and
`runFor_checkUser` puts the pieces together to the call again.
-/

namespace Klldap

open Lib (Eff Pool)
open Lib.Eff (Frames Keeps)

/-! ## Calls in pieces -/

/-- What a call has still to do. -/
inductive MembershipCall where
  /-- `add_user_to_group` at its start. -/
  | checkUser (u : UserId) (g : GroupId)
  /-- The groups of the user have been read. -/
  | checkGroup (u : UserId) (g : GroupId) (userGroups : List GroupDetails)
  /-- The checks have passed. -/
  | insert (u : UserId) (g : GroupId)
  | remove (u : UserId) (g : GroupId)

section Pieces

variable [External]

def conflicting (target : GroupDetails) (userGroups : List GroupDetails) : Bool :=
  (target.displayName.raw = "lldap_admin" &&
      userGroups.any fun g => g.displayName == ⟨"lldap_disabled"⟩) ||
    (target.displayName.raw = "lldap_disabled" &&
      userGroups.any fun g => g.displayName == ⟨"lldap_admin"⟩)

def MembershipCall.step (now : DateTime) : MembershipCall → Db (Option MembershipCall)
  | .checkUser u g => do
    let userGroups ← Eff.query (Sql.getUserGroups u)
    pure (some (.checkGroup u g userGroups))
  | .checkGroup u g userGroups => do
    let target ← Eff.query (Sql.getGroupDetails g)
    if conflicting target userGroups then
      Eff.fail (.internalError "A user cannot be in both lldap_admin and lldap_disabled groups")
    else pure (some (.insert u g))
  | .insert u g => do
    Eff.transaction do
      Sql.insertMembership u g
      Sql.touchGroup now g
    pure none
  | .remove u g => do
    Sql.removeUserFromGroup now u g
    pure none

/-- A call that nothing interrupts, for at most `n` pieces. -/
def MembershipCall.runFor (now : DateTime) : Nat → MembershipCall → Db Unit
  | 0, _ => pure ()
  | n + 1, call => do
    match ← call.step now with
    | none => pure ()
    | some rest => runFor now n rest

theorem addUserToGroup_eq (now : DateTime) (u : UserId) (g : GroupId) :
    Sql.addUserToGroup now u g = (do
      let userGroups ← Eff.query (Sql.getUserGroups u)
      let target ← Eff.query (Sql.getGroupDetails g)
      if conflicting target userGroups then
        Eff.fail (.internalError "A user cannot be in both lldap_admin and lldap_disabled groups")
      else Eff.transaction do
        Sql.insertMembership u g
        Sql.touchGroup now g) := rfl

theorem runFor_checkUser (now : DateTime) (u : UserId) (g : GroupId) :
    (MembershipCall.checkUser u g).runFor now 3 = Sql.addUserToGroup now u g := by
  funext db
  rw [addUserToGroup_eq]
  simp only [MembershipCall.runFor, MembershipCall.step, Eff.bind_run, Eff.query_run]
  rcases Sql.getUserGroups u db with e | userGroups
  · rfl
  simp only [Eff.pure_run, Eff.bind_run, Eff.query_run]
  rcases Sql.getGroupDetails g db with e | target
  · rfl
  by_cases hconflict : conflicting target userGroups = true
  · simp only [hconflict, if_true, Eff.fail_run]
  · simp only [hconflict, if_false, Eff.pure_run, Eff.bind_run, Bool.false_eq_true]
    rcases Eff.transaction (do Sql.insertMembership u g; Sql.touchGroup now g) db with
      ⟨_ | _, _⟩ <;> rfl

theorem runFor_remove (now : DateTime) (u : UserId) (g : GroupId) :
    (MembershipCall.remove u g).runFor now 1 = Sql.removeUserFromGroup now u g := by
  funext db
  simp only [MembershipCall.runFor, MembershipCall.step, Eff.bind_run]
  rcases Sql.removeUserFromGroup now u g db with ⟨_ | _, _⟩ <;> rfl

end Pieces

/-- Nobody is in both groups. -/
def Roster.Apart (r : Roster) : Prop := ∀ u, ¬(r.Has u "lldap_admin" ∧ r.Has u "lldap_disabled")

def MembershipCall.adds : MembershipCall → Option (UserId × GroupId)
  | .checkUser u g | .checkGroup u g _ | .insert u g => some (u, g)
  | .remove _ _ => none

/-- One of the groups is that of the administrators and the other that of the disabled users. -/
def Roster.Opposed (r : Roster) (g g' : GroupId) : Prop :=
  r.Named g "lldap_admin" ∧ r.Named g' "lldap_disabled" ∨
    r.Named g "lldap_disabled" ∧ r.Named g' "lldap_admin"

/-- Two calls that do not add one user to opposed groups. -/
def Compatible (r : Roster) (c c' : MembershipCall) : Prop :=
  ∀ u g g', c.adds = some (u, g) → c'.adds = some (u, g') → ¬r.Opposed g g'

/-- The user is not in the group that is opposed to `g`. -/
def Roster.Clear (r : Roster) (u : UserId) (g : GroupId) : Prop :=
  (r.Named g "lldap_admin" → ¬r.Has u "lldap_disabled") ∧
    (r.Named g "lldap_disabled" → ¬r.Has u "lldap_admin")

/-- The roster after a piece: as before, with one member more, or with fewer. -/
inductive PieceOf (r : Roster) : MembershipCall → Roster → Prop
  | same (c : MembershipCall) : PieceOf r c r
  | insert (u : UserId) (g : GroupId) :
      PieceOf r (.insert u g) { r with members := r.members ++ [⟨u, g⟩] }
  | remove (u : UserId) (g : GroupId)
      (hlast : r.Named g "lldap_admin" →
        1 < (r.members.filter fun m => m.groupId = g).length) :
      PieceOf r (.remove u g)
        { r with members := r.members.filter fun m => !(m.userId = u && m.groupId = g) }

section Pieces

variable {r r' : Roster} {c c' : MembershipCall}

theorem PieceOf.groups (h : PieceOf r c r') : r'.groups = r.groups := by
  cases h <;> rfl

theorem PieceOf.named (h : PieceOf r c r') {g : GroupId} {name : String} :
    r'.Named g name ↔ r.Named g name := by
  unfold Roster.Named
  rw [h.groups]

theorem PieceOf.has (h : PieceOf r c r') {u : UserId} {name : String} (hhas : r'.Has u name) :
    r.Has u name ∨ ∃ g, c = .insert u g ∧ r.Named g name := by
  cases h with
  | same => exact .inl hhas
  | insert u' g =>
    rcases hhas.of_join with hold | ⟨rfl, hnamed⟩
    · exact .inl hold
    · exact .inr ⟨g, rfl, hnamed⟩
  | remove u' g hlast =>
    exact .inl hhas.of_filter

theorem PieceOf.not_has (h : PieceOf r c r') (hc : Compatible r c c') {u : UserId} {g : GroupId}
    (hadds : c'.adds = some (u, g)) {name : String} (hopposed : ∀ g', r.Named g' name → r.Opposed g' g)
    (hnot : ¬r.Has u name) : ¬r'.Has u name := by
  intro hhas
  rcases h.has hhas with hold | ⟨g', rfl, hnamed⟩
  · exact hnot hold
  · exact hc u g' g rfl hadds (hopposed g' hnamed)

end Pieces

section Assertions

variable [External]

/-- What a call may rely on: if its checks have passed, or are to pass on what it has read, the user
is not in the opposed group. -/
def MembershipCall.Asserts (r : Roster) : MembershipCall → Prop
  | .checkGroup u g userGroups =>
    (r.Named g "lldap_admin" →
      (userGroups.any fun g => g.displayName == ⟨"lldap_disabled"⟩) = false →
        ¬r.Has u "lldap_disabled") ∧
    (r.Named g "lldap_disabled" →
      (userGroups.any fun g => g.displayName == ⟨"lldap_admin"⟩) = false →
        ¬r.Has u "lldap_admin")
  | .insert u g => r.Clear u g
  | _ => True

theorem MembershipCall.step_pieceOf (now : DateTime) (c : MembershipCall) (db : Store) :
    PieceOf db.roster c (c.step now db).2.roster := by
  cases c with
  | checkUser u g =>
    have hkeeps : Keeps ((MembershipCall.checkUser u g).step now) :=
      Frames.bind (Keeps.query _) fun _ => Keeps.pure _
    rw [← hkeeps db]
    exact .same _
  | checkGroup u g userGroups =>
    have hkeeps : Keeps ((MembershipCall.checkGroup u g userGroups).step now) :=
      Frames.bind (Keeps.query _) fun _ => Frames.ite (Keeps.fail _) (Keeps.pure _)
    rw [← hkeeps db]
    exact .same _
  | insert u g =>
    have hstep : ((MembershipCall.insert u g).step now db).2 =
        (Eff.transaction (do Sql.insertMembership u g; Sql.touchGroup now g) db).2 := by
      simp only [MembershipCall.step, Eff.bind_run]
      split <;> simp_all
    rw [hstep]
    rcases Sql.insertMembership_transaction_roster now u g db with hsame | hroster
    · rw [hsame]
      exact .same _
    · rw [hroster]
      exact .insert u g
  | remove u g =>
    have hstep : ((MembershipCall.remove u g).step now db).2 =
        (Sql.removeUserFromGroup now u g db).2 := by
      simp only [MembershipCall.step, Eff.bind_run]
      split <;> simp_all
    rw [hstep]
    rcases Sql.removeUserFromGroup_roster now u g db with hsame | ⟨hlast, hroster⟩
    · rw [hsame]
      exact .same _
    · rw [hroster]
      exact .remove u g hlast

variable {r r' : Roster} {c c' : MembershipCall}

theorem PieceOf.asserts (h : PieceOf r c r') (hc : Compatible r c c') (hc' : c'.Asserts r) :
    c'.Asserts r' := by
  cases c' with
  | checkUser u g => trivial
  | checkGroup u g userGroups =>
    refine ⟨fun hadmin hread => ?_, fun hdisabled hread => ?_⟩
    · have hadmin := h.named.mp hadmin
      exact h.not_has hc rfl (fun _ hnamed => .inr ⟨hnamed, hadmin⟩) (hc'.1 hadmin hread)
    · have hdisabled := h.named.mp hdisabled
      exact h.not_has hc rfl (fun _ hnamed => .inl ⟨hnamed, hdisabled⟩) (hc'.2 hdisabled hread)
  | insert u g =>
    refine ⟨fun hadmin => ?_, fun hdisabled => ?_⟩
    · have hadmin := h.named.mp hadmin
      exact h.not_has hc rfl (fun _ hnamed => .inr ⟨hnamed, hadmin⟩) (hc'.1 hadmin)
    · have hdisabled := h.named.mp hdisabled
      exact h.not_has hc rfl (fun _ hnamed => .inl ⟨hnamed, hdisabled⟩) (hc'.2 hdisabled)
  | remove u g => trivial

theorem PieceOf.apart {db : Store} (h : PieceOf db.roster c r') (hc : c.Asserts db.roster)
    (hapart : db.roster.Apart) : r'.Apart := by
  cases h with
  | same => exact hapart
  | insert u g =>
    refine Roster.apart_join hapart (fun hadmin => ⟨fun hdisabled => ?_, hc.1 hadmin⟩) hc.2
    obtain ⟨e, he, hid, hname⟩ := hadmin
    obtain ⟨e', he', hid', hname'⟩ := hdisabled
    rw [entry_of_id he he' (hid'.trans hid.symm), hname] at hname'
    exact absurd hname' (by decide)
  | remove u g hlast =>
    exact fun u' ⟨ha, hd⟩ => hapart u' ⟨ha.of_filter, hd.of_filter⟩

theorem PieceOf.hasAdmin {db : Store} (h : PieceOf db.roster c r') (hadmin : db.roster.HasAdmin) :
    r'.HasAdmin := by
  cases h with
  | same => exact hadmin
  | insert u g =>
    obtain ⟨u', e, he, hname, hmember⟩ := hadmin
    exact ⟨u', e, he, hname, List.mem_append_left _ hmember⟩
  | remove u g hlast =>
    have hstep : db.roster.Step (fun _ => False) _ :=
      .leave u g fun e he hid hname => hlast ⟨e, he, hid, hname⟩
    exact hstep.hasAdmin (nodup_members db) hadmin fun _ => False.elim

/-- Which calls go on after a piece. -/
inductive GoesOn (db : Store) : MembershipCall → MembershipCall → Prop
  | user {u : UserId} {g : GroupId} {userGroups : List GroupDetails}
      (hgroups : Sql.getUserGroups u db = .ok userGroups) :
      GoesOn db (.checkUser u g) (.checkGroup u g userGroups)
  | group {u : UserId} {g : GroupId} {userGroups : List GroupDetails} {target : GroupDetails}
      (htarget : Sql.getGroupDetails g db = .ok target)
      (hfree : conflicting target userGroups = false) :
      GoesOn db (.checkGroup u g userGroups) (.insert u g)

theorem MembershipCall.step_goesOn (now : DateTime) {db : Store}
    (hleft : Pool.left (c.step now db).1 = some c') : GoesOn db c c' := by
  cases c with
  | checkUser u g =>
    simp only [MembershipCall.step, Eff.bind_run, Eff.query_run] at hleft
    rcases hgroups : Sql.getUserGroups u db with e | userGroups
    · rw [hgroups] at hleft
      cases hleft
    · rw [hgroups] at hleft
      obtain rfl := Option.some.inj hleft
      exact .user hgroups
  | checkGroup u g userGroups =>
    simp only [MembershipCall.step, Eff.bind_run, Eff.query_run] at hleft
    rcases htarget : Sql.getGroupDetails g db with e | target
    · rw [htarget] at hleft
      cases hleft
    · simp only [htarget] at hleft
      cases hconflict : conflicting target userGroups with
      | true =>
        rw [hconflict] at hleft
        cases hleft
      | false =>
        rw [hconflict] at hleft
        obtain rfl := Option.some.inj hleft
        exact .group htarget hconflict
  | insert u g =>
    simp only [MembershipCall.step, Eff.bind_run] at hleft
    split at hleft <;> cases hleft
  | remove u g =>
    simp only [MembershipCall.step, Eff.bind_run] at hleft
    split at hleft <;> cases hleft

theorem GoesOn.asserts {db : Store} (h : GoesOn db c c') (hc : c.Asserts db.roster) :
    c'.Asserts db.roster := by
  cases h with
  | user hgroups =>
    rw [MembershipCall.Asserts, Sql.getUserGroups_ok hgroups]
    refine ⟨fun _ hread hhas => ?_, fun _ hread hhas => ?_⟩
    · exact absurd (Sql.any_of_has hhas) (by rw [hread]; decide)
    · exact absurd (Sql.any_of_has hhas) (by rw [hread]; decide)
  | group htarget hfree =>
    refine ⟨fun hadmin => hc.1 hadmin ?_, fun hdisabled => hc.2 hdisabled ?_⟩
    · have hname := Sql.getGroupDetails_named htarget hadmin
      simpa [conflicting, hname] using hfree
    · have hname := Sql.getGroupDetails_named htarget hdisabled
      simpa [conflicting, hname] using hfree

theorem GoesOn.adds {db : Store} (h : GoesOn db c c') : c'.adds = c.adds := by
  cases h <;> rfl

theorem GoesOn.sameRoster {db : Store} (h : GoesOn db c c') (hp : PieceOf r c r') : r' = r := by
  cases h <;> cases hp <;> rfl

end Assertions

/-! ## Runs -/

theorem Roster.Opposed.symm {r : Roster} {g g' : GroupId} (h : r.Opposed g g') :
    r.Opposed g' g := by
  rcases h with ⟨hg, hg'⟩ | ⟨hg, hg'⟩
  · exact .inr ⟨hg', hg⟩
  · exact .inl ⟨hg', hg⟩

theorem Compatible.symm {r : Roster} {c c' : MembershipCall} (h : Compatible r c c') :
    Compatible r c' c := fun u g g' hg hg' hopposed => h u g' g hg' hg hopposed.symm

theorem Compatible.of_groups {r r' : Roster} (hgroups : r'.groups = r.groups)
    {c c' : MembershipCall} (h : Compatible r c c') : Compatible r' c c' := by
  unfold Compatible Roster.Opposed Roster.Named at h ⊢
  rw [hgroups]
  exact h

/-- A call at its start. -/
def MembershipCall.Begins : MembershipCall → Prop
  | .checkUser _ _ | .remove _ _ => True
  | _ => False

section Runs

variable [External]

theorem membershipCalls_sound (r₀ : Roster) :
    Pool.Sound MembershipCall.step (fun _ _ _ => True) (fun db => db.roster.groups = r₀.groups ∧ db.roster.Apart)
      (fun db c => c.Asserts db.roster) (Compatible r₀) where
  symm _ _ h := h.symm
  invariant now c db _ hI hc :=
    have hpiece := c.step_pieceOf now db
    ⟨hpiece.groups.trans hI.1, hpiece.apart hc hI.2⟩
  own now c db c' _ _ hc hleft := by
    have hgo := c.step_goesOn now hleft
    rw [hgo.sameRoster (c.step_pieceOf now db)]
    exact hgo.asserts hc
  others now c db c' _ hI _ hcompat hc' :=
    (c.step_pieceOf now db).asserts (hcompat.of_groups hI.1) hc'
  related now c db c' c'' _ _ _ _ hleft hcompat := by
    intro u g g' hadds
    rw [(c.step_goesOn now hleft).adds] at hadds
    exact hcompat u g g' hadds

abbrev CallMove := Pool.Move DateTime MembershipCall

/-- Calls begin at their start. -/
def CallMove.Begins (m : CallMove) : Prop := ∀ c, m = .start c → c.Begins

/-- No addition begins while one of the same user to the opposed group is in flight. -/
def NoOverlap (p : Pool Store MembershipCall) (m : CallMove) : Prop :=
  ∀ c, m = .start c → ∀ c' ∈ p.threads, Compatible p.shared.roster c c'

/-- The interleavings of any calls from `init`, with a condition on the moves. -/
abbrev Interleaving (ok : Pool Store MembershipCall → CallMove → Prop) (init : Store) :
    List (Lib.Event (Pool Store MembershipCall) CallMove Unit) →
      Pool Store MembershipCall → Prop :=
  Lib.Run (Pool.move MembershipCall.step) (fun _ p m => m.Begins ∧ ok p m) ⟨init, []⟩

theorem interleaving_hasAdmin {ok : Pool Store MembershipCall → CallMove → Prop} {init : Store}
    {history} {p : Pool Store MembershipCall} (hadmin : init.roster.HasAdmin)
    (run : Interleaving ok init history p) : p.shared.roster.HasAdmin := by
  refine run.invariant (P := fun _ p => p.shared.roster.HasAdmin) hadmin fun _ p m hp _ => ?_
  cases m with
  | start c => exact hp
  | advance k now =>
    simp only [Pool.move]
    split
    · exact hp
    · rename_i c _
      exact (c.step_pieceOf now p.shared).hasAdmin hp

/-- In every interleaving in which no addition of a user to one of the two groups begins while one to
the other is in flight, nobody gets into both; and in every such interleaving the removals leave an
administrator. -/
theorem memberships_apart {init : Store} {history} {p : Pool Store MembershipCall}
    (hapart : init.roster.Apart) (run : Interleaving NoOverlap init history p) :
    p.shared.roster.Apart ∧ (init.roster.HasAdmin → p.shared.roster.HasAdmin) := by
  refine ⟨?_, fun hadmin => interleaving_hasAdmin hadmin run⟩
  have hinit : Pool.Holds (fun db => db.roster.groups = init.roster.groups ∧ db.roster.Apart)
      (fun db c => c.Asserts db.roster) (Compatible init.roster)
      (⟨init, []⟩ : Pool Store MembershipCall) :=
    ⟨⟨rfl, hapart⟩, nofun, .nil⟩
  refine (Pool.invariant (membershipCalls_sound init.roster) hinit ?_ (fun _ _ _ _ _ _ _ => trivial)
    run).shared.2
  rintro _ p c hp ⟨hbegins, hok⟩
  constructor
  · have hc := hbegins c rfl
    cases c with
    | checkUser u g => trivial
    | remove u g => trivial
    | checkGroup u g userGroups => exact hc.elim
    | insert u g => exact hc.elim
  · exact fun c' hc' => (hok c rfl c' hc').of_groups hp.shared.1.symm

end Runs

section Samples

open Plain

def aliceAlone : Store :=
  { Store.empty with
    users := Lib.Table.empty.upsert (userRow "alice")
    groups := (Lib.Table.empty.upsert (groupRow 1 "lldap_admin")).upsert
      (groupRow 2 "lldap_disabled") }

theorem aliceAlone_apart : aliceAlone.roster.Apart := by
  rintro u ⟨⟨g, -, -, hmember⟩, -⟩
  cases hmember

def addAlice (g : Int) : MembershipCall := .checkUser (UserId.new "alice") ⟨g⟩

def afterMoves (moves : List CallMove) : Pool Store MembershipCall :=
  moves.foldl (fun p m => (Pool.move MembershipCall.step p m).2) ⟨aliceAlone, []⟩

def uninterrupted (c : MembershipCall) : List CallMove :=
  [.start c, .advance 0 1, .advance 0 1, .advance 0 1]

/-- `alice` is added to the administrators before somebody tries to add `alice` to the disabled
users. -/
theorem additions_in_turn :
    let p := afterMoves (uninterrupted (addAlice 1) ++ [.start (addAlice 2)])
    p.shared.roster.Apart ∧ (aliceAlone.roster.HasAdmin → p.shared.roster.HasAdmin) := by
  have hadvance (p : Pool Store MembershipCall) :
      CallMove.Begins (.advance 0 1) ∧ NoOverlap p (.advance 0 1) := ⟨nofun, nofun⟩
  have hnone : Interleaving NoOverlap aliceAlone [] ⟨aliceAlone, []⟩ := .nil
  have hstarted := hnone.snoc (.start (addAlice 1))
    ⟨by rintro _ ⟨⟩; trivial, by rintro _ ⟨⟩ _ ⟨⟩⟩
  have hfirst := ((hstarted.snoc (.advance 0 1) (hadvance _)).snoc (.advance 0 1)
    (hadvance _)).snoc (.advance 0 1) (hadvance _)
  have hended : (afterMoves (uninterrupted (addAlice 1))).threads = [] := by
    rw [← List.isEmpty_iff]
    decide +kernel
  refine memberships_apart aliceAlone_apart (.snoc (.start (addAlice 2)) hfirst ⟨?_, ?_⟩)
  · rintro _ ⟨⟩
    trivial
  · rintro _ ⟨⟩ c' hc'
    exact absurd hc' (hended ▸ List.not_mem_nil)

def overlapping : List CallMove :=
  [.start (addAlice 1), .start (addAlice 2), .advance 0 1, .advance 1 1, .advance 0 1, .advance 1 1,
    .advance 0 1, .advance 0 1]

/-- Two additions of `alice` that overlap: `alice` ends up in both groups. -/
theorem overlapping_additions :
    ∃ history p, Interleaving (fun _ _ => True) aliceAlone history p ∧ ¬p.shared.roster.Apart := by
  have hbegins : ∀ m ∈ overlapping, m.Begins := by
    simp [overlapping, CallMove.Begins, addAlice, MembershipCall.Begins]
  obtain ⟨history, run⟩ := (Lib.Run.nil : Interleaving (fun _ _ => True) aliceAlone [] _).extend
    overlapping fun m hm _ _ => ⟨hbegins m hm, trivial⟩
  refine ⟨history, _, run, fun hapart => hapart (UserId.new "alice") ⟨?_, ?_⟩⟩
  · exact ⟨(groupRow 1 "lldap_admin").entry, by decide +kernel, rfl, by decide +kernel⟩
  · exact ⟨(groupRow 2 "lldap_disabled").entry, by decide +kernel, rfl, by decide +kernel⟩

end Samples

end Klldap
