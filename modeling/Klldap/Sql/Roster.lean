import Klldap.Backend

/-!
# Klldap.Sql.Roster: who is in which group

The roster is what the rules about built-in groups look at: the id, the name and the lower-cased name
of every group, and the memberships. `Roster.Step` says once what a call of the backend can do to it,
with the checks that the call has made; the invariants are derived from that.
-/

namespace Klldap

open Lib (Eff Table except_bind_ok)
open Lib.Eff (Frames Keeps)

/-! ## The roster -/

structure GroupEntry where
  id : GroupId
  name : GroupName
  lower : String
deriving DecidableEq

def GroupRow.entry (r : GroupRow) : GroupEntry :=
  ⟨r.groupId, r.displayName, r.lowercaseDisplayName⟩

structure Roster where
  groups : List GroupEntry
  members : List MembershipRow

def Store.roster (db : Store) : Roster := ⟨db.groups.rows.map GroupRow.entry, db.memberships.rows⟩

/-- `u` is a member of a group of exactly this name. -/
def Roster.Has (r : Roster) (u : UserId) (name : String) : Prop :=
  ∃ g ∈ r.groups, g.name.raw = name ∧ (⟨u, g.id⟩ : MembershipRow) ∈ r.members

/-- What a call of the backend does to the roster, and what it has checked before; `gone` are the
users that it may delete. -/
inductive Roster.Step [External] (gone : UserId → Prop) (r : Roster) : Roster → Prop
  | same : Step gone r r
  | create (id : GroupId) (name : GroupName) (hid : ∀ g ∈ r.groups, g.id ≠ id)
      (hfree : ∀ g ∈ r.groups, g.lower ≠ toLowercase name.raw) :
      Step gone r { r with groups := r.groups ++ [⟨id, name, toLowercase name.raw⟩] }
  | rename (id : GroupId) (name : GroupName)
      (hcustom : ∀ g ∈ r.groups, g.id = id → isBuiltinGroup g.name.raw = false)
      (hfree : ∀ g ∈ r.groups, g.id ≠ id → g.lower ≠ toLowercase name.raw) :
      Step gone r { r with groups := r.groups.map fun g =>
        if g.id = id then ⟨id, name, toLowercase name.raw⟩ else g }
  | dropGroup (id : GroupId)
      (hcustom : ∀ g ∈ r.groups, g.id = id → isBuiltinGroup g.name.raw = false) :
      Step gone r ⟨r.groups.filter fun g => g.id ≠ id, r.members.filter fun m => m.groupId ≠ id⟩
  | dropUser (u : UserId) (hu : gone u) :
      Step gone r { r with members := r.members.filter fun m => m.userId ≠ u }
  | join (u : UserId) (g : GroupEntry) (hg : g ∈ r.groups)
      (hone : ∀ g' ∈ r.groups, g'.id = g.id → g' = g)
      (hadmin : g.name.raw = "lldap_admin" → ¬r.Has u "lldap_disabled")
      (hdisabled : g.name.raw = "lldap_disabled" → ¬r.Has u "lldap_admin") :
      Step gone r { r with members := r.members ++ [⟨u, g.id⟩] }
  | leave (u : UserId) (id : GroupId)
      (hlast : ∀ g ∈ r.groups, g.id = id → g.name.raw = "lldap_admin" →
        1 < (r.members.filter fun m => m.groupId = id).length) :
      Step gone r { r with members := r.members.filter fun m => !(m.userId = u && m.groupId = id) }

/-- The group with this id has exactly this name. -/
def Roster.Named (r : Roster) (id : GroupId) (name : String) : Prop :=
  ∃ g ∈ r.groups, g.id = id ∧ g.name.raw = name

theorem Roster.Has.of_join {r : Roster} {u u' : UserId} {id : GroupId} {name : String}
    (h : Roster.Has { r with members := r.members ++ [⟨u, id⟩] } u' name) :
    r.Has u' name ∨ u' = u ∧ r.Named id name := by
  obtain ⟨g, hg, hname, hmember⟩ := h
  rcases List.mem_append.mp hmember with hold | hnew
  · exact .inl ⟨g, hg, hname, hold⟩
  · obtain ⟨rfl, hid⟩ : u' = u ∧ g.id = id := by simpa using hnew
    exact .inr ⟨rfl, g, hg, hid, hname⟩

theorem Roster.apart_join {r : Roster} {u : UserId} {id : GroupId}
    (hapart : ∀ u, ¬(r.Has u "lldap_admin" ∧ r.Has u "lldap_disabled"))
    (hadmin : r.Named id "lldap_admin" → ¬r.Named id "lldap_disabled" ∧ ¬r.Has u "lldap_disabled")
    (hdisabled : r.Named id "lldap_disabled" → ¬r.Has u "lldap_admin") (u' : UserId) :
    ¬(Roster.Has { r with members := r.members ++ [⟨u, id⟩] } u' "lldap_admin" ∧
      Roster.Has { r with members := r.members ++ [⟨u, id⟩] } u' "lldap_disabled") := by
  rintro ⟨hhasAdmin, hhasDisabled⟩
  rcases hhasAdmin.of_join with ha | ⟨hu, ha⟩ <;> rcases hhasDisabled.of_join with hd | ⟨hu', hd⟩
  · exact hapart u' ⟨ha, hd⟩
  · exact hdisabled hd (hu' ▸ ha)
  · exact (hadmin ha).2 (hu ▸ hd)
  · exact (hadmin ha).1 hd

theorem Roster.Has.mono {r r' : Roster} {u : UserId} {name : String}
    (hg : ∀ g ∈ r'.groups, g ∈ r.groups) (hm : ∀ m ∈ r'.members, m ∈ r.members)
    (h : r'.Has u name) : r.Has u name := by
  obtain ⟨g, hmem, hname, hmember⟩ := h
  exact ⟨g, hg g hmem, hname, hm _ hmember⟩

theorem Roster.Has.of_filter {r : Roster} {u : UserId} {name : String} {p : MembershipRow → Bool}
    (h : Roster.Has { r with members := r.members.filter p } u name) : r.Has u name := by
  obtain ⟨g, hg, hname, hmember⟩ := h
  exact ⟨g, hg, hname, List.mem_of_mem_filter hmember⟩

def SameRoster (db db' : Store) : Prop := db'.roster = db.roster

/-- One step of the roster. -/
def RosterStep [External] (gone : UserId → Prop) (db db' : Store) : Prop :=
  db.roster.Step gone db'.roster

instance : Std.Refl SameRoster where
  refl _ := rfl

instance : IsTrans Store SameRoster where
  trans _ _ _ hab hbc := hbc.trans hab

theorem SameRoster.of_eq {db db' : Store} (hg : db'.groups = db.groups)
    (hm : db'.memberships = db.memberships) : SameRoster db db' := by
  unfold SameRoster Store.roster
  rw [hg, hm]

section Rules

variable [External] {gone : UserId → Prop} {db db' : Store}

theorem SameRoster.step (h : SameRoster db db') : RosterStep gone db db' := by
  unfold RosterStep
  rw [h]
  exact .same

theorem RosterStep.after {db₁ : Store} (h : SameRoster db db₁) (hs : RosterStep gone db₁ db') :
    RosterStep gone db db' := by
  unfold RosterStep at hs ⊢
  rw [h] at hs
  exact hs

theorem RosterStep.before {db₁ : Store} (hs : RosterStep gone db db₁) (h : SameRoster db₁ db') :
    RosterStep gone db db' := by
  unfold RosterStep at hs ⊢
  rw [h]
  exact hs

theorem same_bind_step {α β : Type} {m : Db α} {f : α → Db β} (hm : Frames SameRoster m)
    (hf : ∀ a, Frames (RosterStep gone) (f a)) : Frames (RosterStep gone) (m >>= f) :=
  hm.bind_comp hf (fun _ _ h => h.step) fun _ _ _ => RosterStep.after

theorem step_bind_same {α β : Type} {m : Db α} {f : α → Db β} (hm : Frames (RosterStep gone) m)
    (hf : ∀ a, Frames SameRoster (f a)) : Frames (RosterStep gone) (m >>= f) :=
  hm.bind_comp hf (fun _ _ h => h) fun _ _ _ => RosterStep.before

theorem step_of_same {α : Type} {m : Db α} (h : Frames SameRoster m) : Frames (RosterStep gone) m :=
  h.mono fun _ _ h => h.step

theorem transaction_step {α : Type} {m : Db α} (h : Frames (RosterStep gone) m) :
    Frames (RosterStep gone) m.transaction := by
  intro db
  rcases Lib.Eff.transaction_cases m db with heq | ⟨a, ha⟩
  · rw [heq]
    exact .same
  · have hm := h db
    rw [ha] at hm
    exact hm

end Rules

section Entries

variable {db : Store} {g : GroupEntry} {u : UserId}

theorem mem_groups : g ∈ db.roster.groups ↔ ∃ r ∈ db.groups.rows, r.entry = g := by
  simp [Store.roster]

theorem isMember_iff {id : GroupId} :
    db.isMember u id = true ↔ (⟨u, id⟩ : MembershipRow) ∈ db.roster.members := by
  unfold Store.isMember Store.roster
  constructor
  · intro h
    obtain ⟨m, hm⟩ := Option.isSome_iff_exists.mp h
    have hkey := Table.key_of_find? hm
    have hmem := Table.mem_of_find? hm
    obtain ⟨mu, mg⟩ := m
    cases hkey
    exact hmem
  · intro h
    exact Option.isSome_iff_exists.mpr ⟨_, Table.find?_of_mem h⟩

theorem entry_of_id {g' : GroupEntry} (hg : g ∈ db.roster.groups) (hg' : g' ∈ db.roster.groups)
    (hid : g'.id = g.id) : g' = g := by
  obtain ⟨r, hr, rfl⟩ := mem_groups.mp hg
  obtain ⟨r', hr', rfl⟩ := mem_groups.mp hg'
  rw [List.inj_on_of_nodup_map db.groups.nodup hr' hr hid]

theorem entry_of_find {id : GroupId} {r : GroupRow} (hr : db.groups.find? id = some r)
    (hg : g ∈ db.roster.groups) (hid : g.id = id) : g = r.entry := by
  refine entry_of_id (mem_groups.mpr ⟨r, Table.mem_of_find? hr, rfl⟩) hg ?_
  exact hid.trans (Table.key_of_find? hr).symm

end Entries

namespace Sql

variable [External] {gone : UserId → Prop}

theorem getGroupDetails_ok {id : GroupId} {db : Store} {details : GroupDetails}
    (h : getGroupDetails id db = .ok details) :
    ∃ r, db.groups.find? id = some r ∧ details.displayName = r.displayName := by
  unfold getGroupDetails at h
  split at h
  · cases h
  · rename_i r hr
    obtain ⟨schema, -, h⟩ := except_bind_ok.mp h
    obtain ⟨attributes, -, h⟩ := except_bind_ok.mp h
    cases h
    exact ⟨r, hr, rfl⟩

omit [External] in
theorem roster_deleteUser (u : UserId) (db : Store) :
    (db.deleteUser u).roster =
      { db.roster with members := db.roster.members.filter fun m => m.userId ≠ u } := by
  simp [Store.roster, Store.deleteUser, Table.delete]

omit [External] in
theorem roster_deleteGroup (g : GroupId) (db : Store) :
    (db.deleteGroup g).roster =
      ⟨db.roster.groups.filter fun e => e.id ≠ g, db.roster.members.filter fun m => m.groupId ≠ g⟩ := by
  simp only [Store.roster, Store.deleteGroup, Table.delete, List.filter_map, ne_eq, decide_not]
  rfl

theorem deleteUser_step {u : UserId} (hu : gone u) : Frames (RosterStep gone) (deleteUser u) := by
  refine same_bind_step (Keeps.reads _).frames fun row => ?_
  cases row with
  | none => exact step_of_same (Keeps.fail _).frames
  | some row =>
    refine Frames.writes fun db => ?_
    unfold RosterStep
    rw [roster_deleteUser]
    exact .dropUser u hu

theorem deleteGroup_step (g : GroupId) : Frames (RosterStep gone) (deleteGroup g) := by
  intro db
  rcases hd : getGroupDetails g db with e | details
  · have hfail : (deleteGroup g db).2 = db := by
      simp [deleteGroup, Eff.bind_run, hd]
    rw [hfail]
    exact .same
  · obtain ⟨r, hr, hname⟩ := getGroupDetails_ok hd
    by_cases hb : isBuiltinGroup details.displayName.raw = true
    · have hfail : (deleteGroup g db).2 = db := by
        simp [deleteGroup, Eff.bind_run, hd, hb]
      rw [hfail]
      exact .same
    · have hdel : (deleteGroup g db).2 = db.deleteGroup g := by
        simp [deleteGroup, Eff.bind_run, hd, hb]
      unfold RosterStep
      rw [hdel, roster_deleteGroup]
      refine .dropGroup g fun e he hid => ?_
      rw [entry_of_find hr he hid]
      simpa [GroupRow.entry, ← hname] using hb

/-! ## Creating and renaming -/

omit [External] in
theorem upsertGroupAttribute_sameRoster (row : GroupAttributeRow) :
    Frames SameRoster (upsertGroupAttribute row) :=
  (Keeps.reads _).frames.bind fun _ =>
    Frames.ite (Frames.writes fun _ => .of_eq rfl rfl) (Keeps.fail _).frames

omit [External] in
theorem insertGroupAttribute_sameRoster (row : GroupAttributeRow) :
    Frames SameRoster (insertGroupAttribute row) := by
  refine (Keeps.reads _).frames.bind fun taken => ?_
  split
  · exact (Keeps.fail _).frames.bind fun _ => upsertGroupAttribute_sameRoster row
  · exact upsertGroupAttribute_sameRoster row

theorem not_groupNameTaken {db : Store} {self : Option GroupId} {name : GroupName}
    (h : groupNameTaken db self name = false) {g : GroupEntry} (hg : g ∈ db.roster.groups)
    (hself : some g.id ≠ self) : g.lower ≠ toLowercase name.raw := by
  obtain ⟨r, hr, rfl⟩ := mem_groups.mp hg
  unfold groupNameTaken at h
  rw [List.any_eq_false] at h
  have hrow := h r hr
  intro hlower
  simp only [GroupRow.entry] at hself hlower
  simp [hself, hlower] at hrow

theorem insertGroup_step (now : DateTime) (name : GroupName) :
    Frames (RosterStep gone) (insertGroup now name) := by
  intro db
  unfold insertGroup
  simp only [Eff.bind_run, Eff.reads_run, id]
  split
  · exact .same
  · rename_i hfree
    simp only [Bool.or_eq_true, not_or, Bool.not_eq_true] at hfree
    obtain ⟨id, hid⟩ : ∃ id : GroupId,
        id = ⟨(db.groups.rows.map fun g => g.groupId.val).foldl max db.groupSequence + 1⟩ := ⟨_, rfl⟩
    rw [← hid]
    by_cases hnew : id ∈ db.groups.rows.map GroupRow.groupId
    · simp only [Table.insert?, hnew, dite_true]
      exact .same
    · simp only [Table.insert?, hnew, dite_false, RosterStep, Store.roster, Eff.bind_run,
        Eff.writes_run, Eff.pure_run, Table.append, List.map_append, List.map_cons, List.map_nil]
      refine .create id name (fun g hg heq => ?_) fun g hg => ?_
      · obtain ⟨r, hr, rfl⟩ := mem_groups.mp hg
        exact hnew (List.mem_map.mpr ⟨r, hr, heq⟩)
      · exact not_groupNameTaken hfree.1 hg (fun h => by cases h)

theorem insertGroup_attributes_step (now : DateTime) (name : GroupName)
    (rowsOf : GroupId → Except DomainError (List GroupAttributeRow)) :
    Frames (RosterStep gone) (do
      let groupId ← insertGroup now name
      let rows ← Eff.lift (rowsOf groupId)
      Eff.each insertGroupAttribute rows
      pure groupId) := by
  refine step_bind_same (insertGroup_step now name) fun groupId => ?_
  refine (Keeps.lift _).frames.bind fun rows => ?_
  exact (Frames.each fun row _ => insertGroupAttribute_sameRoster row).bind fun _ =>
    (Keeps.pure _).frames

theorem createGroup_step (now : DateTime) (request : CreateGroupRequest) :
    Frames (RosterStep gone) (createGroup now request) := by
  refine same_bind_step (Keeps.reads _).frames fun allowedOus => transaction_step ?_
  refine same_bind_step (Keeps.query _).frames fun schema => ?_
  refine same_bind_step (Keeps.query _).frames fun settings => ?_
  refine same_bind_step (Keeps.query _).frames fun _ => ?_
  dsimp only
  split
  · exact same_bind_step (Keeps.query _).frames fun _ => insertGroup_attributes_step now _ _
  · exact insertGroup_attributes_step now _ _

omit [External] in
theorem roster_updateGroup (db : Store) (id : GroupId) (f : GroupRow → GroupRow)
    (hf : ∀ r, (f r).groupId = r.groupId) (e : GroupEntry → GroupEntry)
    (he : ∀ r, (f r).entry = e r.entry) :
    ({ db with groups := db.groups.update id f hf } : Store).roster =
      { db.roster with groups := db.roster.groups.map fun g => if g.id = id then e g else g } := by
  simp only [Store.roster, Table.update, Table.updateWhere, Table.mapRows, List.map_map]
  congr 1
  refine List.map_congr_left fun r _ => ?_
  have hid : r.entry.id = r.groupId := rfl
  simp only [Function.comp_apply, hid, decide_eq_true_eq]
  split
  · exact he r
  · rfl

omit [External] in
theorem touchGroup_sameRoster (now : DateTime) (g : GroupId) :
    Frames SameRoster (touchGroup now g) := by
  refine Frames.reads_option (Keeps.fail _).frames fun row => ?_
  refine Frames.writes fun db => ?_
  unfold SameRoster
  rw [roster_updateGroup db g (fun r => { r with modifiedDate := now }) (fun _ => rfl) id
    fun _ => rfl]
  simp

def UpdateGroupRequest.entryOf (request : UpdateGroupRequest) (g : GroupEntry) : GroupEntry where
  id := g.id
  name := request.displayName.getD g.name
  lower := (request.displayName.map fun n => toLowercase n.raw).getD g.lower

theorem roster_entryOf (now : DateTime) (request : UpdateGroupRequest) {db db' : Store}
    (h : updateGroupRow request.groupId
      (fun r =>
        { r with
          displayName := request.displayName.getD r.displayName
          lowercaseDisplayName :=
            (request.displayName.map fun n => toLowercase n.raw).getD r.lowercaseDisplayName
          modifiedDate := now })
      (fun _ => rfl) db = (.ok (), db')) :
    db'.roster = { db.roster with groups := db.roster.groups.map fun g =>
      if g.id = request.groupId then UpdateGroupRequest.entryOf request g else g } := by
  obtain ⟨row, db₁, hfound, hwrite⟩ := Eff.bind_ok.mp h
  cases row with
  | none => cases hwrite
  | some row =>
    have hdb : db = db₁ := congrArg Prod.snd hfound
    subst hdb
    cases hwrite
    exact roster_updateGroup db request.groupId _ _ _ fun _ => rfl

theorem updateGroupWithTransaction_roster {now : DateTime} {request : UpdateGroupRequest}
    {db db' : Store} (h : updateGroupWithTransaction now request db = (.ok (), db')) :
    db'.roster = { db.roster with groups := db.roster.groups.map fun g =>
      if g.id = request.groupId then UpdateGroupRequest.entryOf request g else g } ∧
    ∀ name, request.displayName = some name → ∀ g ∈ db.roster.groups, g.id ≠ request.groupId →
      g.lower ≠ toLowercase name.raw := by
  obtain ⟨⟨⟩, db₁, hrow, hrest⟩ := Eff.bind_ok.mp h
  have hroster := roster_entryOf now request hrow
  obtain ⟨taken, db₂, htaken, hchecked⟩ := Eff.bind_ok.mp hrest
  cases htaken
  split at hchecked
  · cases hchecked
  · rename_i hfree
    obtain ⟨schema, db₃, hschema, hrest⟩ := Eff.bind_ok.mp hchecked
    have h₃ : db₁ = db₃ := congrArg Prod.snd hschema
    obtain ⟨⟨⟩, db₄, hnumbers, hrest⟩ := Eff.bind_ok.mp hrest
    have h₄ : db₃ = db₄ := congrArg Prod.snd hnumbers
    obtain ⟨removes, db₅, hremoves, hrest⟩ := Eff.bind_ok.mp hrest
    have h₅ : db₄ = db₅ := congrArg Prod.snd hremoves
    subst h₃ h₄ h₅
    obtain ⟨⟨⟩, db₆, hwrite, hupserts⟩ := Eff.bind_ok.mp hrest
    cases hwrite
    have hsame (rows : List GroupAttributeRow) :
        Frames SameRoster (Eff.each upsertGroupAttribute rows) :=
      Frames.each fun row _ => upsertGroupAttribute_sameRoster row
    have hlast : SameRoster _ db' := congrArg Prod.snd hupserts ▸ hsame _ _
    refine ⟨hlast.trans hroster, fun name hname g hg hne => ?_⟩
    have hkept : g ∈ db₁.roster.groups := by
      rw [hroster]
      exact List.mem_map.mpr ⟨g, hg, if_neg hne⟩
    refine not_groupNameTaken (by simpa [hname] using hfree) hkept fun heq => ?_
    exact hne (Option.some.inj heq)

theorem map_entryOf_same {request : UpdateGroupRequest} (h : request.displayName = none)
    (groups : List GroupEntry) :
    (groups.map fun g =>
      if g.id = request.groupId then UpdateGroupRequest.entryOf request g else g) = groups := by
  refine (List.map_congr_left fun g _ => ?_).trans (List.map_id groups)
  simp [UpdateGroupRequest.entryOf, h]

theorem updateGroup_step (now : DateTime) (request : UpdateGroupRequest) :
    Frames (RosterStep gone) (updateGroup now request) := by
  intro db
  have htransaction (hcustom : ∀ name, request.displayName = some name →
      ∀ g ∈ db.roster.groups, g.id = request.groupId → isBuiltinGroup g.name.raw = false) :
      RosterStep gone db (Eff.transaction (updateGroupWithTransaction now request) db).2 := by
    rcases Lib.Eff.transaction_cases (updateGroupWithTransaction now request) db with
      heq | ⟨⟨⟩, hok⟩
    · rw [heq]
      exact .same
    · obtain ⟨hroster, hfree⟩ := updateGroupWithTransaction_roster hok
      unfold RosterStep
      rw [hroster]
      cases hname : request.displayName with
      | none =>
        rw [map_entryOf_same hname]
        exact .same
      | some name =>
        have hentry : (fun g : GroupEntry => if g.id = request.groupId then
            UpdateGroupRequest.entryOf request g else g) = fun g =>
              if g.id = request.groupId then ⟨request.groupId, name, toLowercase name.raw⟩ else g := by
          funext g
          split
          · rename_i hid
            simp [UpdateGroupRequest.entryOf, hname, hid]
          · rfl
        rw [hentry]
        exact .rename request.groupId name (hcustom name hname) (hfree name hname)
  unfold updateGroup
  split
  · rename_i hsome
    rcases hd : getGroupDetails request.groupId db with e | details
    · simp only [Eff.bind_run, Eff.query_run, hd]
      exact .same
    · obtain ⟨r, hr, hname⟩ := getGroupDetails_ok hd
      simp only [Eff.bind_run, Eff.query_run, hd]
      split
      · exact .same
      · rename_i hb
        refine htransaction fun name _ g hg hid => ?_
        rw [entry_of_find hr hg hid]
        simpa [GroupRow.entry, ← hname] using hb
  · rename_i hnone
    refine htransaction fun name hname => ?_
    simp [hname] at hnone

/-! ## Memberships -/

omit [External] in
theorem compareChars_self (cs : List Char) : compareChars cs cs = .eq := by
  induction cs with
  | nil => rfl
  | cons c cs ih => simp [compareChars, ih]

theorem beq_of_raw {a b : GroupName} (h : a.raw = b.raw) : (a == b) = true := by
  simp [BEq.beq, compareStrCaseInsensitive, h, compareChars_self]

omit [External] in
theorem getUserGroups_ok {u : UserId} {db : Store} {userGroups : List GroupDetails}
    (h : getUserGroups u db = .ok userGroups) :
    userGroups = (db.groupsOf u).map GroupRow.toGroupDetails := by
  unfold getUserGroups at h
  split at h
  · cases h
  · exact (Except.ok.inj h).symm

theorem getGroupDetails_named {id : GroupId} {db : Store} {details : GroupDetails} {name : String}
    (h : getGroupDetails id db = .ok details) (hnamed : db.roster.Named id name) :
    details.displayName.raw = name := by
  obtain ⟨r, hr, hname⟩ := getGroupDetails_ok h
  obtain ⟨g, hg, hid, rfl⟩ := hnamed
  rw [entry_of_find hr hg hid, hname]
  rfl

theorem any_of_has {db : Store} {u : UserId} {name : String} (h : db.roster.Has u name) :
    (((db.groupsOf u).map GroupRow.toGroupDetails).any fun g => g.displayName == ⟨name⟩) = true := by
  obtain ⟨g, hg, hname, hmember⟩ := h
  obtain ⟨r, hr, rfl⟩ := mem_groups.mp hg
  rw [List.any_map, List.any_eq_true]
  refine ⟨r, List.mem_filter.mpr ⟨hr, isMember_iff.mpr hmember⟩, ?_⟩
  exact beq_of_raw hname

omit [External] in
theorem insertMembership_roster {u : UserId} {g : GroupId} {db db' : Store}
    (h : insertMembership u g db = (.ok (), db')) :
    db'.roster = { db.roster with members := db.roster.members ++ [⟨u, g⟩] } := by
  unfold insertMembership at h
  simp only [Eff.bind_run, Eff.reads_run, id] at h
  cases hu : db.users.find? u with
  | none => simp [hu] at h
  | some row =>
    by_cases hnew : (u, g) ∈ db.memberships.rows.map fun m => (m.userId, m.groupId)
    · simp [hu, Table.insert?, hnew] at h
    · simp only [hu, Table.insert?, hnew, dite_false, Eff.writes_run, Prod.mk.injEq] at h
      rw [← h.2]
      rfl

omit [External] in
theorem insertMembership_transaction_roster (now : DateTime) (u : UserId) (id : GroupId)
    (db : Store) : SameRoster db
        (Eff.transaction (do insertMembership u id; touchGroup now id) db).2 ∨
      (Eff.transaction (do insertMembership u id; touchGroup now id) db).2.roster =
        { db.roster with members := db.roster.members ++ [⟨u, id⟩] } := by
  rcases Lib.Eff.transaction_cases (do insertMembership u id; touchGroup now id) db with
    heq | ⟨⟨⟩, hok⟩
  · rw [heq]
    exact .inl rfl
  · obtain ⟨⟨⟩, db₁, hinsert, htouch⟩ := Eff.bind_ok.mp hok
    have hsame : SameRoster db₁ _ := congrArg Prod.snd htouch ▸ touchGroup_sameRoster now id db₁
    rw [hsame, insertMembership_roster hinsert]
    exact .inr rfl

theorem addUserToGroup_step (now : DateTime) (u : UserId) (id : GroupId) :
    Frames (RosterStep gone) (addUserToGroup now u id) := by
  intro db
  unfold addUserToGroup
  rcases hgroups : getUserGroups u db with e | userGroups
  · simp only [Eff.bind_run, Eff.query_run, hgroups]
    exact .same
  rcases htarget : getGroupDetails id db with e | target
  · simp only [Eff.bind_run, Eff.query_run, hgroups, htarget]
    exact .same
  obtain ⟨r, hr, hname⟩ := getGroupDetails_ok htarget
  have hread := getUserGroups_ok hgroups
  simp only [Eff.bind_run, Eff.query_run, hgroups, htarget]
  split
  · exact .same
  · rename_i hconflict
    rcases insertMembership_transaction_roster now u id db with hsame | hroster
    · exact hsame.step
    · unfold RosterStep
      rw [hroster]
      have hid : id = r.entry.id := (Table.key_of_find? hr).symm
      have hmem : r.entry ∈ db.roster.groups := mem_groups.mpr ⟨r, Table.mem_of_find? hr, rfl⟩
      rw [hid]
      refine .join u r.entry hmem (fun g hg heq => entry_of_id hmem hg heq) ?_ ?_
      · intro hadmin hhas
        refine hconflict ?_
        simp [hname, show r.displayName.raw = "lldap_admin" from hadmin, hread, any_of_has hhas]
      · intro hdisabled hhas
        refine hconflict ?_
        simp [hname, show r.displayName.raw = "lldap_disabled" from hdisabled, hread,
          any_of_has hhas]

omit [External] in
theorem removeUserFromGroup_roster (now : DateTime) (u : UserId) (id : GroupId) (db : Store) :
    SameRoster db (removeUserFromGroup now u id db).2 ∨
      (db.roster.Named id "lldap_admin" →
        1 < (db.roster.members.filter fun m => m.groupId = id).length) ∧
      (removeUserFromGroup now u id db).2.roster =
        { db.roster with
          members := db.roster.members.filter fun m => !(m.userId = u && m.groupId = id) } := by
  unfold removeUserFromGroup
  rcases Lib.Eff.transaction_cases _ db with heq | ⟨a, hok⟩
  · rw [heq]
    exact .inl rfl
  · simp only [Eff.bind_run, Eff.reads_run] at hok
    split at hok
    · cases hok
    · rename_i hguard
      split at hok
      · cases hok
      · refine .inr ⟨?_, ?_⟩
        · rintro ⟨g, hg, hid, hadmin⟩
          obtain ⟨r, hr, rfl⟩ := mem_groups.mp hg
          have hfind : db.groups.find? id = some r := by
            rw [← hid]
            exact Table.find?_of_mem hr
          have hname : r.displayName.raw = "lldap_admin" := hadmin
          simpa [hfind, hname, Store.roster] using hguard
        · have htouch := touchGroup_sameRoster now id { db with
            memberships := db.memberships.delete fun m => m.userId = u && m.groupId = id }
          exact congrArg Prod.snd hok ▸ htouch

theorem removeUserFromGroup_step (now : DateTime) (u : UserId) (id : GroupId) :
    Frames (RosterStep gone) (removeUserFromGroup now u id) := by
  intro db
  rcases removeUserFromGroup_roster now u id db with hsame | ⟨hlast, hroster⟩
  · exact hsame.step
  · unfold RosterStep
    rw [hroster]
    exact .leave u id fun g hg hid hadmin => hlast ⟨g, hg, hid, hadmin⟩

omit [External] in
theorem upsertUserAttribute_sameRoster (row : UserAttributeRow) :
    Frames SameRoster (upsertUserAttribute row) :=
  (Keeps.reads _).frames.bind fun _ =>
    Frames.ite (Frames.writes fun _ => .of_eq rfl rfl) (Keeps.fail _).frames

omit [External] in
theorem updateUserRow_sameRoster (u : UserId) (f : UserRow → UserRow)
    (hf : ∀ r, (f r).userId = r.userId) : Frames SameRoster (updateUserRow u f hf) := by
  exact Frames.reads_option (Keeps.fail _).frames fun _ => Frames.writes fun _ => .of_eq rfl rfl

theorem updateUserWithTransaction_sameRoster (now : DateTime) (request : UpdateUserRequest) :
    Frames SameRoster (updateUserWithTransaction now request) := by
  refine (Keeps.query _).frames.bind fun schema => (Keeps.lift _).frames.bind fun changes =>
    (Keeps.query _).frames.bind fun _ => Frames.bind ?_ fun _ => (Keeps.pure _).frames
  refine (updateUserRow_sameRoster _ _ _).bind fun _ => (Keeps.reads _).frames.bind fun taken => ?_
  refine Frames.ite (Keeps.fail _).frames ?_
  refine Frames.bind (Frames.writes fun _ => .of_eq rfl rfl) fun _ => ?_
  refine (Frames.each fun row _ => upsertUserAttribute_sameRoster row).bind fun _ => ?_
  exact Frames.ite (updateUserRow_sameRoster _ _ _) (Keeps.pure _).frames

omit [External] in
theorem insertUserAttribute_sameRoster (row : UserAttributeRow) :
    Frames SameRoster (insertUserAttribute row) := by
  refine (Keeps.reads _).frames.bind fun taken => ?_
  split
  · exact (Keeps.fail _).frames.bind fun _ => upsertUserAttribute_sameRoster row
  · exact upsertUserAttribute_sameRoster row

theorem insertUser_sameRoster (row : UserRow) : Frames SameRoster (insertUser row) := by
  refine (Keeps.reads _).frames.bind fun db => Frames.ite (Keeps.fail _).frames ?_
  split
  · exact (Keeps.fail _).frames
  · exact Frames.writes fun _ => .of_eq rfl rfl

theorem createUser_sameRoster (now : DateTime) (request : CreateUserRequest) :
    Frames SameRoster (createUser now request) := by
  refine (Keeps.reads _).frames.bind fun allowedOus => Frames.transaction ?_
  refine (Keeps.query _).frames.bind fun schema => (Keeps.query _).frames.bind fun settings =>
    (Keeps.query _).frames.bind fun _ => (Keeps.query _).frames.bind fun finalAttributes => ?_
  exact (insertUser_sameRoster _).bind fun _ =>
    Frames.each fun row _ => insertUserAttribute_sameRoster row

omit [External] in
theorem writes_sameRoster {f : Store → Store} (hg : ∀ db, (f db).groups = db.groups)
    (hm : ∀ db, (f db).memberships = db.memberships) :
    Frames SameRoster (Eff.writes f : Db Unit) :=
  Frames.writes fun db => .of_eq (hg db) (hm db)

theorem reassignGidNumbers_sameRoster (now : DateTime) :
    Frames SameRoster (reassignGidNumbers now) := by
  refine (Keeps.query _).frames.bind fun settings => Frames.transaction (Frames.ite ?_ ?_)
  · exact (Keeps.reads _).frames.bind fun groups => Frames.each fun _ _ =>
      (upsertGroupAttribute_sameRoster _).bind fun _ => touchGroup_sameRoster now _
  · exact writes_sameRoster (fun _ => rfl) fun _ => rfl

theorem reassignUserAttribute_sameRoster (name : String) (assign : PosixSettings → Bool)
    (order : List UserRow → List UserRow) (value : PosixSettings → Int → UserId → String)
    (now : DateTime) : Frames SameRoster (reassignUserAttribute name assign order value now) := by
  refine (Keeps.query _).frames.bind fun settings => Frames.transaction (Frames.ite ?_ ?_)
  · exact (Keeps.reads _).frames.bind fun users => Frames.each fun _ _ =>
      (upsertUserAttribute_sameRoster _).bind fun _ => updateUserRow_sameRoster _ _ _
  · exact writes_sameRoster (fun _ => rfl) fun _ => rfl

end Sql

section World

variable [External] {gone : UserId → Prop}

theorem onDb_step {α : Type} {m : Db α} (h : Frames (RosterStep gone) m)
    (w : World) : RosterStep gone w.db (onDb m w).2.db := h w.db

theorem updateUser_sameRoster (out : Outside) (request : UpdateUserRequest) :
    Frames (InvImage SameRoster World.db) (Sql.updateUser out request) := fun w => by
  unfold InvImage
  rw [Sql.updateUser_db]
  exact Frames.transaction (Sql.updateUserWithTransaction_sameRoster _ _) w.db

theorem deleteUserAndPrincipal_step (out : Outside) {u : UserId} (hu : gone u) (w : World) :
    RosterStep gone w.db (Sql.deleteUserAndPrincipal out u w).2.db := by
  have hdelete := Sql.deleteUser_step hu w.db
  show RosterStep gone w.db (Sql.deleteUser u
    (Kerberos.deleteKerberosPrincipal out u.asStr w).2.db).2
  rw [Kerberos.deleteKerberosPrincipal_db]
  exact hdelete

end World

end Klldap
