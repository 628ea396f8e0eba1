import Klldap.Server.Startup
import Klldap.Sql.Stored

/-!
# Klldap.Server.Readiness: the groups that a start leaves

A start creates the built-in groups that it does not find, and an administrator if it finds none. It
looks a group up by its lower-cased name and the server relies on the exact name later on, so a start
does what it should only if no group has a built-in name in other letters.
-/

namespace Klldap

open Lib (Eff)
open Lib.Eff (Frames Keeps)
open Opaque (Suite)

/-! ## What a start relies on -/

/-- The names and memberships as a start relies on them. A group whose lower-cased name is a built-in
one has exactly this name. -/
structure Roster.Ready [External] (r : Roster) : Prop where
  exact : ∀ g ∈ r.groups, g.lower ∈ builtinGroups → g.name.raw = g.lower
  lower : ∀ g ∈ r.groups, g.lower = toLowercase g.name.raw
  unique : ∀ g ∈ r.groups, ∀ g' ∈ r.groups, g.lower = g'.lower → g = g'
  apart : ∀ u, ¬(r.Has u "lldap_admin" ∧ r.Has u "lldap_disabled")
  referenced : r.Referenced

namespace Roster

variable [External] {r r' : Roster}

theorem toLowercase_builtin {name : String} (h : name ∈ builtinGroups) : toLowercase name = name := by
  obtain ⟨hascii, hlower⟩ := builtin_name_plain name h
  rw [toLowercase, if_pos hascii, hlower]

theorem Builtin.ready (h : r.Builtin) (hr : r.Referenced) : r.Ready where
  exact g hg hlower := by
    obtain ⟨g', hg', hname⟩ := h.present g.lower hlower
    have hlower' : g'.lower = g.lower := by
      rw [h.lower g' hg', hname, toLowercase_builtin hlower]
    rw [← h.unique g' hg' g hg hlower', hname, hlower']
  lower := h.lower
  unique := h.unique
  apart := h.apart
  referenced := hr

theorem Ready.builtin (h : r.Ready)
    (hpresent : ∀ name ∈ builtinGroups, ∃ g ∈ r.groups, g.name.raw = name) : r.Builtin :=
  ⟨hpresent, h.lower, h.unique, h.apart⟩

theorem Ready.create (h : r.Ready) {id : GroupId} {name : GroupName}
    (hname : name.raw ∈ builtinGroups) (hid : ∀ g ∈ r.groups, g.id ≠ id)
    (hfree : ∀ g ∈ r.groups, g.lower ≠ toLowercase name.raw) :
    Ready { r with groups := r.groups ++ [⟨id, name, toLowercase name.raw⟩] } := by
  have hcases {g : GroupEntry} (hg : g ∈ r.groups ++ [⟨id, name, toLowercase name.raw⟩]) :
      g ∈ r.groups ∨ g = ⟨id, name, toLowercase name.raw⟩ := by simpa using hg
  have hold {u : UserId} {b : String} (hhas : Has { r with
      groups := r.groups ++ [⟨id, name, toLowercase name.raw⟩] } u b) : r.Has u b := by
    obtain ⟨g, hg, hb, hmember⟩ := hhas
    rcases hcases hg with hg | rfl
    · exact ⟨g, hg, hb, hmember⟩
    · obtain ⟨g', hg', heq⟩ := h.referenced _ hmember
      exact absurd heq (hid g' hg')
  constructor
  · intro g hg hb
    rcases hcases hg with hg | rfl
    · exact h.exact g hg hb
    · exact (toLowercase_builtin hname).symm
  · intro g hg
    rcases hcases hg with hg | rfl
    · exact h.lower g hg
    · rfl
  · intro g hg g' hg' heq
    rcases hcases hg with hg | rfl <;> rcases hcases hg' with hg' | rfl
    · exact h.unique g hg g' hg' heq
    · exact absurd heq (hfree g hg)
    · exact absurd heq.symm (hfree g' hg')
    · rfl
  · exact fun u hboth => h.apart u ⟨hold hboth.1, hold hboth.2⟩
  · intro m hm
    obtain ⟨g, hg, heq⟩ := h.referenced m hm
    exact ⟨g, List.mem_append_left _ hg, heq⟩

theorem Step.free_of_append {gone : UserId → Prop} {e : GroupEntry} (h : r.Step gone r')
    (happend : r'.groups = r.groups ++ [e]) : ∀ g ∈ r.groups, g.lower ≠ e.lower := by
  have hlength : r'.groups.length = r.groups.length + 1 := by rw [happend]; simp
  cases h with
  | create id name hid hfree =>
    have he := List.append_cancel_left happend
    cases he
    exact hfree
  | dropGroup id hcustom =>
    have hle := List.length_filter_le (fun g : GroupEntry => decide (g.id ≠ id)) r.groups
    simp only [hlength] at hle
    omega
  | rename id name hcustom hfree => simp at hlength
  | same => simp at hlength
  | dropUser u hu => simp at hlength
  | join u g hg hone hadmin hdisabled => simp at hlength
  | leave u id hlast => simp at hlength

theorem Ready.members (h : r.Ready) {members : List MembershipRow}
    (hm : ∀ m ∈ members, m ∈ r.members) : Ready { r with members := members } where
  exact := h.exact
  lower := h.lower
  unique := h.unique
  apart u hboth := by
    have hold {name : String} (hhas : Has { r with members := members } u name) : r.Has u name := by
      obtain ⟨g, hg, hname, hmember⟩ := hhas
      exact ⟨g, hg, hname, hm _ hmember⟩
    exact h.apart u ⟨hold hboth.1, hold hboth.2⟩
  referenced m hmem := h.referenced m (hm m hmem)

theorem Ready.join (h : r.Ready) {u : UserId} {g : GroupEntry} (hg : g ∈ r.groups)
    (hone : ∀ g' ∈ r.groups, g'.id = g.id → g' = g)
    (hadmin : g.name.raw = "lldap_admin" → ¬r.Has u "lldap_disabled")
    (hdisabled : g.name.raw = "lldap_disabled" → ¬r.Has u "lldap_admin") :
    Ready { r with members := r.members ++ [⟨u, g.id⟩] } where
  exact := h.exact
  lower := h.lower
  unique := h.unique
  apart := by
    have hname {name : String} (hnamed : r.Named g.id name) : g.name.raw = name := by
      obtain ⟨g', hg', hid, rfl⟩ := hnamed
      rw [hone g' hg' hid]
    refine apart_join h.apart (fun hnamed => ⟨fun hother => ?_, hadmin (hname hnamed)⟩) fun hnamed =>
      hdisabled (hname hnamed)
    exact absurd ((hname hnamed).symm.trans (hname hother)) (by decide)
  referenced m hm := by
    rcases List.mem_append.mp hm with hm | hm
    · exact h.referenced m hm
    · exact ⟨g, hg, by rw [List.mem_singleton.mp hm]⟩

theorem Ready.step (h : r.Ready) {gone : UserId → Prop} (hstep : r.Step gone r')
    (hgroups : r'.groups = r.groups) : r'.Ready := by
  cases hstep with
  | same => exact h
  | create id name hid hfree => simp at hgroups
  | rename id name hcustom hfree =>
    dsimp only at hgroups
    rw [hgroups]
    exact h
  | dropGroup id hcustom =>
    dsimp only at hgroups
    rw [hgroups]
    exact h.members fun _ hm => List.mem_of_mem_filter hm
  | dropUser u hu => exact h.members fun _ hm => List.mem_of_mem_filter hm
  | join u g hg hone hadmin hdisabled => exact h.join hg hone hadmin hdisabled
  | leave u id hlast => exact h.members fun _ hm => List.mem_of_mem_filter hm

end Roster

namespace Server

/-! ## What a start does to the roster -/

abbrev State.roster (s : State) : Roster := s.world.db.roster

theorem onWorld_query {α : Type} {contexts : List String} {q : Store → Except DomainError α}
    {s s' : State} {a : α} (h : onWorld contexts (onDb (Eff.query q)) s = (.ok a, s')) :
    q s.world.db = .ok a ∧ s'.world = s.world := by
  have hm := onWorld_ok h
  exact ⟨congrArg Prod.fst (onDb_ok hm), ((onDb_query_keeps q).run hm).symm⟩

section Roster

variable [External] {S : Suite} {L : KeyLibrary S}

/-- What is ready stays so, and no group goes. -/
def KeepsReady (s s' : State) : Prop :=
  s.roster.Ready → s'.roster.Ready ∧ s.roster.groups ⊆ s'.roster.groups

instance : Std.Refl KeepsReady where
  refl _ h := ⟨h, List.Subset.refl _⟩

instance : IsTrans State KeepsReady where
  trans _ _ _ hab hbc h :=
    ⟨(hbc (hab h).1).1, List.Subset.trans (hab h).2 (hbc (hab h).1).2⟩

theorem KeepsReady.of_same {s s' : State} (h : SameRoster s.world.db s'.world.db) :
    KeepsReady s s' := fun hready => by
  rw [State.roster, h]
  exact ⟨hready, List.Subset.refl _⟩

theorem KeepsReady.builtin {s s' : State} (h : KeepsReady s s') (hready : s.roster.Ready)
    (hbuiltin : s.roster.Builtin) : s'.roster.Builtin := by
  obtain ⟨hready', hkept⟩ := h hready
  refine hready'.builtin fun name hname => ?_
  obtain ⟨g, hg, hn⟩ := hbuiltin.present name hname
  exact ⟨g, hkept hg, hn⟩

theorem keepsReady_of_same {α : Type} {contexts : List String} {m : Backend α}
    (h : Frames (InvImage SameRoster World.db) m) : Frames KeepsReady (onWorld contexts m) :=
  fun s => .of_same (h s.world)

theorem createGroup_roster {now : DateTime} {request : CreateGroupRequest} {db db' : Store}
    {id : GroupId} (h : Sql.createGroup now request db = (.ok id, db')) :
    (∀ g ∈ db.roster.groups, g.id ≠ id) ∧
      (∀ g ∈ db.roster.groups, g.lower ≠ toLowercase request.displayName.raw) ∧
      db'.roster = { db.roster with groups := db.roster.groups ++
        [⟨id, request.displayName, toLowercase request.displayName.raw⟩] } := by
  have hstep : RosterStep (fun _ => True) db db' := (Sql.createGroup_step now request).run h
  obtain ⟨schema, settings, attributes, groups, -, -, -, -, hgroups, -, -, rfl⟩ :=
    Sql.createGroup_ok h
  have hroster : Store.roster { db with
      groups := groups
      groupSequence := id.val
      groupAttributes :=
        db.groupAttributes.upsertAll (attributes.map (Sql.groupAttributeRow schema id)) } =
      { db.roster with groups := db.roster.groups ++
        [⟨id, request.displayName, toLowercase request.displayName.raw⟩] } := by
    simp [Store.roster, Lib.Table.rows_insert? hgroups, GroupRow.entry]
  refine ⟨fun g hg hid => ?_, ?_, hroster⟩
  · obtain ⟨row, hrow, rfl⟩ := mem_groups.mp hg
    have hnew := Lib.Table.find?_eq_none.mp (Lib.Table.find?_insert? hgroups).1
    exact hnew (List.mem_map.mpr ⟨row, hrow, hid⟩)
  · unfold RosterStep at hstep
    rw [hroster] at hstep
    exact hstep.free_of_append rfl

theorem createGroup_keepsReady {now : DateTime} {request : CreateGroupRequest}
    (hname : request.displayName.raw ∈ builtinGroups) (contexts : List String) :
    Frames KeepsReady (onWorld contexts (onDb (Sql.createGroup now request))) := by
  intro s
  rcases Sql.createGroup_atomic now request s.world.db with heq | ⟨id, hok⟩
  · refine .of_same ?_
    show SameRoster s.world.db (Sql.createGroup now request s.world.db).2
    rw [heq]
    rfl
  · intro hready
    obtain ⟨hid, hfree, hroster⟩ := createGroup_roster hok
    show (Sql.createGroup now request s.world.db).2.roster.Ready ∧
      s.roster.groups ⊆ (Sql.createGroup now request s.world.db).2.roster.groups
    rw [hroster]
    exact ⟨hready.create hname hid hfree, List.subset_append_left _ _⟩

variable {setup : S.ServerSetup} {rng : S.Coins} {out : Outside} {s s' : State}

theorem ensureGroupExists_keepsReady {name : String} (hname : name ∈ builtinGroups) :
    Frames KeepsReady (ensureGroupExists (sqlServices S setup rng out) name) :=
  ensureGroupExists_frames (keepsReady_of_same (onDb_query_keeps _).frames)
    (createGroup_keepsReady hname _)

theorem listGroups_named {name : String} (hname : name ∈ builtinGroups) {db : Store}
    (hready : db.roster.Ready) {groups : List Group}
    (hlist : Sql.listGroups (some (.displayName ⟨name⟩)) db = .ok groups) {x : Group}
    (hx : x ∈ groups) : ∃ g ∈ db.roster.groups, g.name.raw = name ∧ g.id = x.id := by
  obtain ⟨schema, -, hrows, -⟩ := Sql.mem_listGroups_rows hlist
  obtain ⟨row, hrow, -, hselected, hid, -⟩ := hrows x hx
  have hlower : row.entry.lower = name := by
    have hl : row.lowercaseDisplayName = toLowercase name := by
      simpa [Sql.groupSelected, Sql.getGroupFilterExpr] using hselected
    exact hl.trans (Roster.toLowercase_builtin hname)
  have hmem : row.entry ∈ db.roster.groups := mem_groups.mpr ⟨row, hrow, rfl⟩
  exact ⟨row.entry, hmem, (hready.exact _ hmem (hlower ▸ hname)).trans hlower, hid.symm⟩

theorem ensureGroupExists_present {name : String} (hname : name ∈ builtinGroups)
    (hready : s.roster.Ready)
    (h : ensureGroupExists (sqlServices S setup rng out) name s = (.ok (), s')) :
    s'.roster.Ready ∧ s.roster.groups ⊆ s'.roster.groups ∧ ∃ g ∈ s'.roster.groups, g.name.raw = name := by
  obtain ⟨hready', hkept⟩ := (ensureGroupExists_keepsReady hname).run h hready
  refine ⟨hready', hkept, ?_⟩
  obtain ⟨groups, s₁, hread, h⟩ := Eff.bind_ok.mp h
  obtain ⟨hlist, hw⟩ := onWorld_query hread
  dsimp only at h
  split at h
  · obtain ⟨id, s₂, hcreate, h⟩ := Eff.bind_ok.mp h
    cases h
    obtain ⟨-, -, hroster⟩ := createGroup_roster (onDb_ok (onWorld_ok hcreate))
    refine ⟨⟨id, ⟨name⟩, toLowercase name⟩, ?_, rfl⟩
    rw [State.roster, hroster]
    exact List.mem_append_right _ (List.mem_singleton_self _)
  · rename_i hsome
    cases h
    rw [State.roster, hw]
    obtain ⟨x, hx⟩ := List.exists_mem_of_ne_nil groups (by simpa using hsome)
    obtain ⟨g, hg, hn, -⟩ := listGroups_named hname hready hlist hx
    exact ⟨g, hg, hn⟩

theorem ensureBuiltinGroups_builtin (hready : s.roster.Ready)
    (h : ensureBuiltinGroups (sqlServices S setup rng out) s = (.ok (), s')) :
    s'.roster.Ready ∧ s'.roster.Builtin := by
  obtain ⟨⟨⟩, s₁, h₁, h⟩ := Eff.bind_ok.mp h
  obtain ⟨⟨⟩, s₂, h₂, h⟩ := Eff.bind_ok.mp h
  obtain ⟨⟨⟩, s₃, h₃, h⟩ := Eff.bind_ok.mp h
  obtain ⟨⟨⟩, s₄, h₄, h₅⟩ := Eff.bind_ok.mp h
  obtain ⟨r₁, -, g₁, hg₁, hn₁⟩ := ensureGroupExists_present (by decide) hready h₁
  obtain ⟨r₂, k₂, g₂, hg₂, hn₂⟩ := ensureGroupExists_present (by decide) r₁ h₂
  obtain ⟨r₃, k₃, g₃, hg₃, hn₃⟩ := ensureGroupExists_present (by decide) r₂ h₃
  obtain ⟨r₄, k₄, g₄, hg₄, hn₄⟩ := ensureGroupExists_present (by decide) r₃ h₄
  obtain ⟨r₅, k₅, hlast⟩ := ensureGroupExists_present (by decide) r₄ h₅
  refine ⟨r₅, r₅.builtin fun name hname => ?_⟩
  simp only [builtinGroups, List.mem_cons, List.not_mem_nil, or_false] at hname
  obtain rfl | rfl | rfl | rfl | rfl := hname
  · exact ⟨g₁, k₅ (k₄ (k₃ (k₂ hg₁))), hn₁⟩
  · exact ⟨g₂, k₅ (k₄ (k₃ hg₂)), hn₂⟩
  · exact ⟨g₃, k₅ (k₄ hg₃), hn₃⟩
  · exact ⟨g₄, k₅ hg₄, hn₄⟩
  · exact hlast

omit [External] in
theorem registerPassword_frames {R : World → World → Prop} [Std.Refl R] [IsTrans World R]
    {h : Services S World} (hstart : ∀ request, Frames R (h.registrationStart request))
    (hfinish : ∀ request, Frames R (h.registrationFinish request)) (u : UserId) (pass : String) :
    Frames R (registerPassword h u pass) :=
  (Keeps.lift _).frames.bind fun _ => (hstart _).bind fun _ => (Keeps.lift _).frames.bind fun _ =>
    hfinish _

theorem registerPassword_sameRoster (u : UserId) (pass : String) :
    Frames (InvImage SameRoster World.db)
      (registerPassword (sqlServices S setup rng out) u pass) :=
  registerPassword_frames (fun _ => (onDb_keeps (Keeps.lift _)).frames)
    (fun _ => onDb_within ((Http.registrationFinish_sameMembers _ _ _).mono fun _ _ h =>
      .of_eq h.groups h.memberships)) u pass

theorem addUserToGroup_sameGroups (now : DateTime) (u : UserId) (id : GroupId) :
    Frames (InvImage Eq fun db : Store => db.roster.groups) (Sql.addUserToGroup now u id) := by
  refine (Keeps.query _).frames.bind fun userGroups => (Keeps.query _).frames.bind fun target =>
    Frames.ite (Keeps.fail _).frames fun db => ?_
  rcases Sql.insertMembership_transaction_roster now u id db with h | h
  · exact (congrArg Roster.groups h).symm
  · exact (congrArg Roster.groups h).symm

theorem addUserToGroup_keepsReady (contexts : List String) (now : DateTime) (u : UserId)
    (id : GroupId) : Frames KeepsReady (onWorld contexts (onDb (Sql.addUserToGroup now u id))) := by
  intro s hready
  have hstep : RosterStep (fun _ => True) s.world.db _ := Sql.addUserToGroup_step now u id s.world.db
  have hgroups := addUserToGroup_sameGroups now u id s.world.db
  exact ⟨hready.step hstep hgroups.symm, fun g hg => (congrArg (g ∈ ·) hgroups).mp hg⟩

theorem addUserToGroup_roster {now : DateTime} {u : UserId} {id : GroupId} {db db' : Store}
    (h : Sql.addUserToGroup now u id db = (.ok (), db')) :
    db'.roster = { db.roster with members := db.roster.members ++ [⟨u, id⟩] } := by
  obtain ⟨userGroups, -, h⟩ := Eff.query_bind_ok.mp h
  obtain ⟨target, -, h⟩ := Eff.query_bind_ok.mp h
  split at h
  · cases h
  · obtain ⟨⟨⟩, db₁, hinsert, htouch⟩ := Eff.bind_ok.mp (Eff.transaction_ok h)
    have hsame := (Sql.touchGroup_sameRoster now id).run htouch
    rw [hsame, Sql.insertMembership_roster hinsert]

theorem ensureAdmin_keepsReady (config : Configuration) :
    Frames KeepsReady (ensureAdmin (sqlServices S setup rng out) config) :=
  ensureAdmin_frames (fun _ _ => keepsReady_of_same (onDb_query_keeps _).frames)
    (fun _ _ => keepsReady_of_same (onDb_query_keeps _).frames)
    (fun _ _ _ => keepsReady_of_same ((onDb_within (Sql.createUser_sameRoster _ _)).bind fun _ =>
      registerPassword_sameRoster _ _))
    (fun _ _ _ => keepsReady_of_same (registerPassword_sameRoster _ _))
    (fun _ _ _ => addUserToGroup_keepsReady _ _ _ _) config

theorem listUsers_admin {db : Store} (hready : db.roster.Ready) {users : List UserAndGroups}
    (hlist : Sql.listUsers (some (.memberOf ⟨"lldap_admin"⟩)) false db = .ok users)
    (hsome : users ≠ []) : db.roster.HasAdmin := by
  obtain ⟨x, hx⟩ := List.exists_mem_of_ne_nil users hsome
  obtain ⟨cond, schema, hcond, -, hrows, -⟩ := Sql.mem_listUsers_rows hlist
  obtain ⟨row, -, -, hholds, -⟩ := hrows x hx
  cases hcond
  obtain ⟨g, hg, hlower, hmember⟩ : ∃ g ∈ db.groups.rows,
      g.lowercaseDisplayName = toLowercase "lldap_admin" ∧
        db.isMember row.userId g.groupId = true := by
    simpa [Sql.inGroup, and_assoc] using hholds
  have hbuiltin : g.entry.lower = "lldap_admin" :=
    hlower.trans (Roster.toLowercase_builtin (by decide))
  have hmem : g.entry ∈ db.roster.groups := mem_groups.mpr ⟨g, hg, rfl⟩
  refine ⟨row.userId, g.entry, hmem, ?_, isMember_iff.mp hmember⟩
  exact (hready.exact _ hmem (by rw [hbuiltin]; decide)).trans hbuiltin

theorem createAdminUser_hasAdmin {config : Configuration} (hready : s.roster.Ready)
    (h : createAdminUser (sqlServices S setup rng out) config s = (.ok (), s')) :
    s'.roster.HasAdmin := by
  cases hpass : config.ldapUserPass with
  | none =>
    rw [createAdminUser, hpass] at h
    cases h
  | some pass =>
    rw [createAdminUser, hpass] at h
    dsimp only at h
    split at h
    · cases h
    · obtain ⟨⟨⟩, s₁, hcreate, h⟩ := Eff.bind_ok.mp h
      have hsame : SameRoster s.world.db s₁.world.db :=
        Frames.run ((onDb_within (Sql.createUser_sameRoster _ _)).bind fun _ =>
          registerPassword_sameRoster _ _) (onWorld_ok hcreate)
      obtain ⟨groups, s₂, hread, h⟩ := Eff.bind_ok.mp h
      obtain ⟨hlist, hw⟩ := onWorld_query hread
      rcases groups with _ | ⟨group, _ | ⟨other, groups⟩⟩
      · cases h
      · have hready₁ : s₁.world.db.roster.Ready := by rwa [hsame]
        obtain ⟨g, hg, hname, hid⟩ :=
          listGroups_named (by decide) hready₁ hlist (List.mem_singleton_self group)
        have hroster := addUserToGroup_roster (onDb_ok (onWorld_ok h))
        rw [hw] at hroster
        refine ⟨config.ldapUserDn, g, ?_, hname, ?_⟩
        · rw [State.roster, hroster]
          exact hg
        · rw [State.roster, hroster, hid]
          exact List.mem_append_right _ (List.mem_singleton_self _)
      · cases h

theorem ensureAdmin_hasAdmin {config : Configuration} (hready : s.roster.Ready)
    (h : ensureAdmin (sqlServices S setup rng out) config s = (.ok (), s')) :
    s'.roster.HasAdmin := by
  obtain ⟨admins, s₁, hread, hrest⟩ := Eff.bind_ok.mp h
  obtain rfl : s₁ = s := (congrArg Prod.snd hread).symm
  have hadmins : (Sql.listUsers (some (.memberOf ⟨"lldap_admin"⟩)) false s₁.world.db).mapError
      (StartError.backend []) = admins := Except.ok.inj (congrArg Prod.fst hread)
  split at hrest
  · exact createAdminUser_hasAdmin hready hrest
  · rename_i hpresent
    have hbefore : s₁.roster.HasAdmin := by
      cases hlist : Sql.listUsers (some (.memberOf ⟨"lldap_admin"⟩)) false s₁.world.db with
      | error e =>
        rw [hlist] at hadmins
        subst hadmins
        simp [Except.mapError, Except.toOption] at hpresent
      | ok users =>
        rw [hlist] at hadmins
        subst hadmins
        refine listUsers_admin hready hlist ?_
        simpa [Except.mapError, Except.toOption] using hpresent
    have hsame : SameRoster s₁.world.db s'.world.db := by
      split at hrest
      · unfold resetAdminPassword at hrest
        cases hpass : config.ldapUserPass with
        | none =>
          rw [hpass] at hrest
          cases hrest
        | some pass =>
          rw [hpass] at hrest
          exact (registerPassword_sameRoster _ _).run (onWorld_ok hrest)
      · cases hrest
        rfl
    rw [State.roster, hsame]
    exact hbefore

theorem init_keepsReady (i : StartInput S) : Frames KeepsReady (init L i) := fun s =>
  .of_same (congrArg (fun w : World => w.db.roster) (Eq.symm (init_sameWorld i s)))

theorem checkPrivateKey_keepsReady (force : Bool) (info : PrivateKeyInfo) :
    Frames KeepsReady (checkPrivateKey force info) := fun s =>
  .of_same (congrArg (fun w : World => w.db.roster) (Eq.symm (checkPrivateKey_sameWorld force info s)))

theorem runServer_keepsReady (i : StartInput S) : Frames KeepsReady (runServer L i) :=
  runServer_frames (init_keepsReady i) (checkPrivateKey_keepsReady _)
    (fun _ => ensureBuiltinGroups_frames fun _ => ensureGroupExists_keepsReady)
    fun _ => ensureAdmin_keepsReady _

theorem runServer_serves {i : StartInput S} (hready : s.roster.Ready)
    (h : runServer L i s = (.ok setup, s')) : s'.roster.Builtin ∧ s'.roster.HasAdmin := by
  obtain ⟨-, -, location, s₁, s₂, s₃, hinit, hcheck, hgroups, hadmin⟩ := runServer_ok h
  have hready₁ := ((init_keepsReady i).run hinit hready).1
  have hready₂ := ((checkPrivateKey_keepsReady _ _).run hcheck hready₁).1
  obtain ⟨hready₃, hbuiltin⟩ := ensureBuiltinGroups_builtin hready₂ hgroups
  exact ⟨((ensureAdmin_keepsReady _).run hadmin).builtin hready₃ hbuiltin,
    ensureAdmin_hasAdmin hready₃ hadmin⟩

/-- The built-in groups and the user are there. -/
def Settled (u : UserId) (w : World) : Prop :=
  w.db.roster.Builtin ∧ (w.db.users.find? u).isSome = true

/-- A settled world stays as it is. -/
def KeepsSettled (u : UserId) (s s' : State) : Prop := Settled u s.world → s'.world = s.world

instance (u : UserId) : Std.Refl (KeepsSettled u) where
  refl _ _ := rfl

instance (u : UserId) : IsTrans State (KeepsSettled u) where
  trans _ _ _ hab hbc h := (hbc (by rwa [hab h])).trans (hab h)

theorem ensureGroupExists_keepsSettled {u : UserId} {name : String} (hname : name ∈ builtinGroups) :
    Frames (KeepsSettled u) (ensureGroupExists (sqlServices S setup rng out) name) := by
  refine ensureGroupExists_frames (fun s _ => (onDb_query_keeps _ s.world).symm) fun s hsettled => ?_
  obtain ⟨g, hg, hraw⟩ := hsettled.1.present name hname
  rcases Sql.createGroup_atomic out.now ⟨⟨name⟩, [⟨.new "ou", .string (.singleton "groups")⟩]⟩
    s.world.db with heq | ⟨id, hok⟩
  · exact congrArg (fun db => { s.world with db := db }) heq
  · refine absurd ?_ ((createGroup_roster hok).2.1 g hg)
    rw [hsettled.1.lower g hg, hraw]

variable (setup rng out) in
theorem createUser_taken {request : CreateUserRequest} {w : World}
    (h : (w.db.users.find? request.userId).isSome = true) :
    ∃ e, (sqlServices S setup rng out).createUser request w = (.error e, w) := by
  show ∃ e, onDb (Sql.createUser out.now request) w = (.error e, w)
  rcases hr : Sql.createUser out.now request w.db with ⟨e | _, db'⟩
  · rcases Sql.createUser_atomic out.now request w.db with heq | ⟨_, hok⟩
    · rw [hr] at heq
      exact ⟨e, by rw [onDb, Eff.zoom, hr, heq]⟩
    · rw [hr] at hok
      cases hok
  · obtain ⟨_, _, _, _, -, -, -, -, husers, -⟩ := Sql.createUser_ok hr
    have hnone : w.db.users.find? request.userId = none := (Lib.Table.find?_insert? husers).1
    simp [hnone] at h

theorem ensureAdmin_keepsSettled {config : Configuration}
    (hreset : config.forceLdapUserPassReset.isPositive = false) :
    Frames (KeepsSettled config.ldapUserDn)
      (ensureAdmin (sqlServices S setup rng out) config) := by
  have hcreate : Frames (KeepsSettled config.ldapUserDn)
      (createAdminUser (sqlServices S setup rng out) config) := by
    unfold createAdminUser
    cases config.ldapUserPass with
    | none => exact (Keeps.fail _).frames
    | some pass =>
      have hfails {contexts : List String} {request : CreateUserRequest} {m : Backend Unit}
          {f : Unit → Start Unit} (hu : request.userId = config.ldapUserDn) :
          Frames (KeepsSettled config.ldapUserDn)
            (onWorld contexts (do (sqlServices S setup rng out).createUser request; m) >>= f) := by
        intro s hsettled
        rw [← hu] at hsettled
        obtain ⟨e, he⟩ := createUser_taken setup rng out hsettled.2
        simp only [Eff.bind_run, onWorld, Eff.mapErr, Eff.zoom, he]
        rfl
      exact Frames.ite ((Keeps.fail _).frames.bind fun _ => hfails rfl) (hfails rfl)
  refine Frames.bind (Frames.attempt fun s _ => (onDb_query_keeps _ s.world).symm) fun admins => ?_
  dsimp only
  rw [hreset]
  exact Frames.ite hcreate (Keeps.pure _).frames

theorem runServer_keepsSettled {i : StartInput S}
    (hreset : i.config.forceLdapUserPassReset.isPositive = false) :
    Frames (KeepsSettled i.config.ldapUserDn) (runServer L i) :=
  runServer_frames (fun s _ => Eq.symm (init_sameWorld i s))
    (fun _ s _ => Eq.symm (checkPrivateKey_sameWorld _ _ s))
    (fun _ => ensureBuiltinGroups_frames fun _ => ensureGroupExists_keepsSettled)
    fun _ => ensureAdmin_keepsSettled hreset

end Roster

end Server
end Klldap
