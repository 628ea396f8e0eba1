import Klldap.Confined
import Klldap.Http.Service
import Klldap.Interface
import Klldap.Sql.Roster

/-!
# Klldap.Administrators: somebody stays an administrator

The requests of GraphQL and LDAP, in any order and by anybody. Leaving the group of the
administrators is refused to its last member, and the group is neither renamed nor deleted. Deleting
a user is not checked.
-/

namespace Klldap

open Lib (Eff)
open Lib.Eff (Frames Keeps)
open Opaque (Suite)

/-! ## The last administrator -/

def Roster.HasAdmin (r : Roster) : Prop := ∃ u, r.Has u "lldap_admin"

/-- Somebody else than `u` is an administrator. -/
def Roster.OtherAdmin (r : Roster) (u : UserId) : Prop := ∃ u', u' ≠ u ∧ r.Has u' "lldap_admin"

namespace Roster

variable [External] {r r' : Roster} {gone : UserId → Prop}

omit [External] in
theorem exists_other_member (hnodup : r.members.Nodup) {u : UserId} {id : GroupId}
    (hlast : 1 < (r.members.filter fun m => m.groupId = id).length) :
    ∃ u', u' ≠ u ∧ (⟨u', id⟩ : MembershipRow) ∈ r.members := by
  by_contra hnone
  have hall : ∀ m ∈ r.members.filter fun m => m.groupId = id, m = ⟨u, id⟩ := by
    intro m hm
    obtain ⟨hmem, hid⟩ := List.mem_filter.mp hm
    obtain ⟨mu, mid⟩ := m
    obtain rfl : mid = id := by simpa using hid
    by_cases hu : mu = u
    · rw [hu]
    · exact absurd ⟨mu, hu, hmem⟩ hnone
  have hsub : (r.members.filter fun m => m.groupId = id) ⊆ [⟨u, id⟩] := fun m hm =>
    List.mem_singleton.mpr (hall m hm)
  have hle := ((hnodup.filter _).subperm hsub).length_le
  exact absurd hle (by simpa using hlast)

theorem Step.hasAdmin (hstep : r.Step gone r') (hnodup : r.members.Nodup) (h : r.HasAdmin)
    (hgone : ∀ u, gone u → r.OtherAdmin u) : r'.HasAdmin := by
  obtain ⟨u, g, hg, hname, hmember⟩ := h
  have hkept {id : GroupId}
      (hcustom : ∀ g ∈ r.groups, g.id = id → isBuiltinGroup g.name.raw = false) : g.id ≠ id := by
    intro hid
    have hnot := hcustom g hg hid
    rw [hname] at hnot
    cases hnot
  cases hstep with
  | same => exact ⟨u, g, hg, hname, hmember⟩
  | create id name hid hfree => exact ⟨u, g, List.mem_append_left _ hg, hname, hmember⟩
  | rename id name hcustom hfree =>
    exact ⟨u, g, List.mem_map.mpr ⟨g, hg, if_neg (hkept hcustom)⟩, hname, hmember⟩
  | dropGroup id hcustom =>
    refine ⟨u, g, List.mem_filter.mpr ⟨hg, ?_⟩, hname, List.mem_filter.mpr ⟨hmember, ?_⟩⟩
    · simpa using hkept hcustom
    · simpa using hkept hcustom
  | dropUser u₀ hu₀ =>
    obtain ⟨u', hne, g', hg', hname', hmember'⟩ := hgone u₀ hu₀
    exact ⟨u', g', hg', hname', List.mem_filter.mpr ⟨hmember', by simpa using hne⟩⟩
  | join u' g' hg' hone hadmin hdisabled =>
    exact ⟨u, g, hg, hname, List.mem_append_left _ hmember⟩
  | leave u₀ id hlast =>
    by_cases hid : g.id = id
    · obtain ⟨u', hne, hmember'⟩ := exists_other_member hnodup (u := u₀) (hlast g hg hid hname)
      subst hid
      exact ⟨u', g, hg, hname, List.mem_filter.mpr ⟨hmember', by simpa using fun h => absurd h hne⟩⟩
    · refine ⟨u, g, hg, hname, List.mem_filter.mpr ⟨hmember, ?_⟩⟩
      simpa using Or.inr hid

end Roster

/-- If somebody is an administrator, somebody stays one. -/
def KeepsAdmin (db db' : Store) : Prop := db.roster.HasAdmin → db'.roster.HasAdmin

instance : Std.Refl KeepsAdmin where
  refl _ h := h

instance : IsTrans Store KeepsAdmin where
  trans _ _ _ hab hbc h := hbc (hab h)

theorem nodup_members (db : Store) : db.roster.members.Nodup := db.memberships.nodup.of_map _

theorem SameRoster.keepsAdmin {db db' : Store} (h : SameRoster db db') : KeepsAdmin db db' := by
  unfold KeepsAdmin
  rw [h]
  exact id

/-! ## The writes of the backend -/

/-- Every computation of the backend that writes to the database, the deletion of a user apart, stays
in `R`. -/
structure Sql.Within [External] {S : Suite} (setup : S.ServerSetup) (R : Store → Store → Prop) :
    Prop where
  updateGroup : ∀ now request, Frames R (Sql.updateGroup now request)
  createGroup : ∀ now request, Frames R (Sql.createGroup now request)
  deleteGroup : ∀ g, Frames R (Sql.deleteGroup g)
  createUser : ∀ now request, Frames R (Sql.createUser now request)
  updateUser : ∀ now request, Frames R (Sql.updateUserWithTransaction now request).transaction
  addUserToGroup : ∀ now u g, Frames R (Sql.addUserToGroup now u g)
  removeUserFromGroup : ∀ now u g, Frames R (Sql.removeUserFromGroup now u g)
  addUserAttribute : ∀ request, Frames R (Sql.addUserAttribute request)
  addGroupAttribute : ∀ request, Frames R (Sql.addGroupAttribute request)
  deleteUserAttribute : ∀ name, Frames R (Sql.deleteUserAttribute name)
  deleteGroupAttribute : ∀ name, Frames R (Sql.deleteGroupAttribute name)
  addUserObjectClass : ∀ name, Frames R (Sql.addUserObjectClass name)
  addGroupObjectClass : ∀ name, Frames R (Sql.addGroupObjectClass name)
  deleteUserObjectClass : ∀ name, Frames R (Sql.deleteUserObjectClass name)
  deleteGroupObjectClass : ∀ name, Frames R (Sql.deleteGroupObjectClass name)
  setSystemConfig : ∀ key value, Frames R (Sql.setSystemConfig key value)
  setKrbPrincipalName : ∀ now u name, Frames R (Sql.setKrbPrincipalName now u name)
  setPosixSettings : ∀ settings, Frames R (Sql.setPosixSettings settings)
  reassignGidNumbers : ∀ now, Frames R (Sql.reassignGidNumbers now)
  reassignUserAttribute : ∀ name assign order value now,
    Frames R (Sql.reassignUserAttribute name assign order value now)
  registrationFinish : ∀ now request, Frames R (Opaque.registrationFinish S setup now request)

section Calls

variable [External] {S : Suite} {setup : S.ServerSetup} {R : Store → Store → Prop}

omit [External] in
theorem onDb_within {ε α : Type} {m : Eff Store ε α} (h : Frames R m) :
    Frames (InvImage R World.db) (onDb m) := fun w => h w.db

theorem Sql.Within.services [Std.Refl R] (hR : Sql.Within setup R) (rng : S.Coins) (out : Outside) :
    (sqlServices S setup rng out).Within (InvImage R World.db) where
  getSchema := (onDb_query_keeps _).frames
  listUsers _ _ := (onDb_query_keeps _).frames
  listGroups _ := (onDb_query_keeps _).frames
  getGroupDetails _ := (onDb_query_keeps _).frames
  updateGroup _ := onDb_within (hR.updateGroup _ _)
  createGroup _ := onDb_within (hR.createGroup _ _)
  deleteGroup _ := onDb_within (hR.deleteGroup _)
  getUserDetails _ := (onDb_query_keeps _).frames
  createUser _ := onDb_within (hR.createUser _ _)
  updateUser request w := by
    have hframes := hR.updateUser out.now request w.db
    rw [← Sql.updateUser_db] at hframes
    exact hframes
  addUserToGroup _ _ := onDb_within (hR.addUserToGroup _ _ _)
  removeUserFromGroup _ _ := onDb_within (hR.removeUserFromGroup _ _ _)
  getUserGroups _ := (onDb_query_keeps _).frames
  addUserAttribute _ := onDb_within (hR.addUserAttribute _)
  addGroupAttribute _ := onDb_within (hR.addGroupAttribute _)
  deleteUserAttribute _ := onDb_within (hR.deleteUserAttribute _)
  deleteGroupAttribute _ := onDb_within (hR.deleteGroupAttribute _)
  addUserObjectClass _ := onDb_within (hR.addUserObjectClass _)
  addGroupObjectClass _ := onDb_within (hR.addGroupObjectClass _)
  deleteUserObjectClass _ := onDb_within (hR.deleteUserObjectClass _)
  deleteGroupObjectClass _ := onDb_within (hR.deleteGroupObjectClass _)
  getAllowedOus := (onDb_keeps (Keeps.reads _)).frames
  setSystemConfig _ _ := onDb_within (hR.setSystemConfig _ _)
  ensureKerberosPrincipalConsistency _ _ := onDb_within (hR.setKrbPrincipalName _ _ _)
  setPosixSettings _ := onDb_within (hR.setPosixSettings _)
  reassignGidNumbers := onDb_within (hR.reassignGidNumbers _)
  reassignUserUidNumbers := onDb_within (hR.reassignUserAttribute _ _ _ _ _)
  reassignUserGidNumbers := onDb_within (hR.reassignUserAttribute _ _ _ _ _)
  reassignUserHomedirectories := onDb_within (hR.reassignUserAttribute _ _ _ _ _)
  reassignUserLoginshells := onDb_within (hR.reassignUserAttribute _ _ _ _ _)
  bind _ _ := (onDb_query_keeps _).frames
  registrationStart _ := (onDb_keeps (Keeps.lift _)).frames
  registrationFinish _ := onDb_within (hR.registrationFinish _ _)
  syncKerberosPrincipal _ _ := (Kerberos.syncKerberosPrincipal_keepsDb _ _).frames
  deleteKerberosPrincipal _ := (Kerberos.deleteKerberosPrincipal_keepsDb _).frames
  exportKeytabForKeycloak _ := (Kerberos.exportKeytabForKeycloak_keepsDb _).frames
  saveKeycloakConfig _ := (Kerberos.saveKeycloakConfig_keepsDb _).frames
  testConnection _ := (Keeps.lift _).frames
  setupRealm _ := (Kerberos.setupRealm_keepsDb _).frames

theorem RosterStep.keepsAdmin {db db' : Store} (h : RosterStep (fun _ => False) db db') :
    KeepsAdmin db db' := fun hadmin =>
  h.hasAdmin (nodup_members db) hadmin fun _ => False.elim

theorem Sql.within_of_rosterStep {gone : UserId → Prop}
    (hstep : ∀ db db', RosterStep gone db db' → R db db') : Sql.Within setup R := by
  have hsame {α : Type} {m : Db α} (h : Frames SameRoster m) : Frames R m :=
    h.mono fun _ _ h => hstep _ _ h.step
  have hwrites {f : Store → Store} (hg : ∀ db, (f db).groups = db.groups)
      (hm : ∀ db, (f db).memberships = db.memberships) : Frames R (Eff.writes f : Db Unit) :=
    hsame (Sql.writes_sameRoster hg hm)
  exact {
    updateGroup := fun _ _ => (Sql.updateGroup_step _ _).mono hstep
    createGroup := fun _ _ => (Sql.createGroup_step _ _).mono hstep
    deleteGroup := fun _ => (Sql.deleteGroup_step _).mono hstep
    createUser := fun _ _ => hsame (Sql.createUser_sameRoster _ _)
    updateUser := fun _ _ => hsame (Sql.updateUserWithTransaction_sameRoster _ _).transaction
    addUserToGroup := fun _ _ _ => (Sql.addUserToGroup_step _ _ _).mono hstep
    removeUserFromGroup := fun _ _ _ => (Sql.removeUserFromGroup_step _ _ _).mono hstep
    addUserAttribute := fun _ => hsame
      (Frames.reads_option (Keeps.fail _).frames fun _ => Frames.writes fun _ => .of_eq rfl rfl)
    addGroupAttribute := fun _ => hsame
      (Frames.reads_option (Keeps.fail _).frames fun _ => Frames.writes fun _ => .of_eq rfl rfl)
    deleteUserAttribute := fun _ => hwrites (fun _ => rfl) fun _ => rfl
    deleteGroupAttribute := fun _ => hwrites (fun _ => rfl) fun _ => rfl
    addUserObjectClass := fun _ => hsame
      (Frames.reads_option (Keeps.fail _).frames fun _ => Frames.writes fun _ => .of_eq rfl rfl)
    addGroupObjectClass := fun _ => hsame
      (Frames.reads_option (Keeps.fail _).frames fun _ => Frames.writes fun _ => .of_eq rfl rfl)
    deleteUserObjectClass := fun _ => hwrites (fun _ => rfl) fun _ => rfl
    deleteGroupObjectClass := fun _ => hwrites (fun _ => rfl) fun _ => rfl
    setSystemConfig := fun _ _ => hwrites (fun _ => rfl) fun _ => rfl
    setKrbPrincipalName := fun _ _ _ => hsame (Sql.updateUserRow_sameRoster _ _ _)
    setPosixSettings := fun _ => hwrites (fun _ => rfl) fun _ => rfl
    reassignGidNumbers := fun _ => hsame (Sql.reassignGidNumbers_sameRoster _)
    reassignUserAttribute := fun _ _ _ _ _ =>
      hsame (Sql.reassignUserAttribute_sameRoster _ _ _ _ _)
    registrationFinish := fun _ _ => hsame
      ((Http.registrationFinish_sameMembers _ _ _).mono fun _ _ h => .of_eq h.groups h.memberships) }

theorem sqlServices_within (S : Suite) (setup : S.ServerSetup) (rng : S.Coins) (out : Outside) :
    (sqlServices S setup rng out).Within (InvImage KeepsAdmin World.db) :=
  (Sql.within_of_rosterStep fun _ _ h => h.keepsAdmin).services rng out

end Calls

/-! ## Runs -/

/-- A request of either interface, with who makes it. -/
inductive Request where
  | graphql (v : ValidationResults) (m : GraphQL.Mutation)
  | ldap (userInfo : Option ValidationResults) (op : Ldap.LdapOp)

/-- A request with the random bits and the outside that it sees. -/
structure RequestInput (S : Suite) where
  out : Outside
  rng : S.Coins
  request : Request

inductive RequestAnswer where
  | graphql (r : Except GraphQL.FieldError GraphQL.Response)
  | ldap (r : Except String (Option (List Ldap.LdapOp) × Option ValidationResults))

/-- The user that a request asks to delete, if who makes it may. A mutation does not delete the user
who makes it; a `Delete` does. -/
def Request.deletes (ldapInfo : Ldap.LdapInfo) : Request → Option UserId
  | .graphql v (.deleteUser userId) =>
    if v.isAdmin && v.user ≠ UserId.new userId then some (UserId.new userId) else none
  | .ldap (some v) (.delRequest dn) =>
    match Ldap.getUserOrGroupIdFromDistinguishedName dn ldapInfo.baseDn with
    | .user u => if v.isAdmin then some u else none
    | _ => none
  | _ => none

section Runs

variable [External] [Ldap.Library] {S : Suite} (setup : S.ServerSetup) (ldapInfo : Ldap.LdapInfo)

def answerRequest (w : World) (i : RequestInput S) : RequestAnswer × World :=
  let h := sqlServices S setup i.rng i.out
  match i.request with
  | .graphql v m =>
    let r := m.execute ⟨h, v⟩ w
    (.graphql r.1, r.2)
  | .ldap userInfo op =>
    let r := Ldap.handleLdapMessage h ldapInfo userInfo op w
    (.ldap r.1, r.2)

/-- The request deletes nobody who is the only administrator. -/
def SparesAdmin (ldapInfo : Ldap.LdapInfo) (w : World) (i : RequestInput S) : Prop :=
  ∀ u, i.request.deletes ldapInfo = some u → w.db.roster.OtherAdmin u

variable {setup ldapInfo}

/-- If somebody else than `u` is an administrator, somebody is one afterwards. -/
def OtherStays (u : UserId) (w w' : World) : Prop :=
  w.db.roster.OtherAdmin u → w'.db.roster.HasAdmin

omit [External] [Ldap.Library] in
theorem OtherStays.of_keepsAdmin {u : UserId} {w w' : World}
    (h : InvImage KeepsAdmin World.db w w') : OtherStays u w w' := fun ⟨u', _, hhas⟩ => h ⟨u', hhas⟩

instance {u : UserId} : Std.Refl (OtherStays u) where
  refl w := .of_keepsAdmin (refl_of KeepsAdmin w.db)

omit [External] [Ldap.Library] in
theorem keeps_bind_otherStays {u : UserId} {ε α β : Type} {m : Eff World ε α}
    {f : α → Eff World ε β} (hm : Keeps m) (hf : ∀ a, Frames (OtherStays u) (f a)) :
    Frames (OtherStays u) (m >>= f) :=
  hm.bind_comp hf (fun w _ h => h ▸ refl_of (OtherStays u) w) fun _ _ _ h => by
    rw [h]
    exact id

omit [External] [Ldap.Library] in
theorem otherStays_bind {u : UserId} {ε α β : Type} {m : Eff World ε α} {f : α → Eff World ε β}
    (hm : Frames (OtherStays u) m) (hf : ∀ a, Frames (InvImage KeepsAdmin World.db) (f a)) :
    Frames (OtherStays u) (m >>= f) :=
  hm.bind_comp hf (fun _ _ h => h) fun _ _ _ h hkeep hother => hkeep (h hother)

omit [Ldap.Library] in
theorem sqlServices_deleteUser_otherStays (rng : S.Coins) (out : Outside) (u : UserId) :
    Frames (OtherStays u) ((sqlServices S setup rng out).deleteUser u) := by
  intro w hother
  obtain ⟨u', hne, hhas⟩ := hother
  have hstep : RosterStep (· = u) w.db (Sql.deleteUserAndPrincipal out u w).2.db := by
    refine deleteUserAndPrincipal_step out ?_ w
    rfl
  refine hstep.hasAdmin (nodup_members w.db) ⟨u', hhas⟩ ?_
  rintro _ rfl
  exact ⟨u', hne, hhas⟩

omit [Ldap.Library] in
theorem graphql_deleteUser_otherStays (rng : S.Coins) (out : Outside) (v : ValidationResults)
    (userId : String) : Frames (OtherStays (UserId.new userId))
      (GraphQL.deleteUser ⟨sqlServices S setup rng out, v⟩ userId) := by
  refine GraphQL.within_of_admin ?_
  dsimp only
  split
  · exact fun w => refl_of (OtherStays _) w
  · exact otherStays_bind (sqlServices_deleteUser_otherStays rng out _).mapErr fun _ =>
      (Keeps.pure _).frames

omit [External] [Ldap.Library] in
theorem graphql_deleteUser_keeps {h : Services S World} {v : ValidationResults} {userId : String}
    (hnot : ¬(v.isAdmin && v.user ≠ UserId.new userId) = true) :
    Keeps (GraphQL.deleteUser ⟨h, v⟩ userId) := by
  by_cases hadmin : v.permission = .admin
  · have hself : v.user = UserId.new userId := by
      simpa [ValidationResults.isAdmin, hadmin] using hnot
    refine GraphQL.within_of_admin ?_
    dsimp only
    rw [if_pos hself]
    exact Keeps.fail _
  · unfold GraphQL.deleteUser
    rw [getAdminHandler_eq_none hadmin]
    exact Keeps.fail _

theorem ldap_deleteUser_otherStays (rng : S.Coins) (out : Outside) (u : UserId) :
    Frames (OtherStays u) (Ldap.deleteUser (sqlServices S setup rng out) u) := by
  have hw := sqlServices_within S setup rng out
  refine keeps_bind_otherStays (Frames.mapErr (onDb_query_keeps _)) fun _ => ?_
  refine otherStays_bind (sqlServices_deleteUser_otherStays rng out u).mapErr fun _ => ?_
  exact (hw.deleteKerberosPrincipal _).attempt.bind fun _ => (Keeps.pure _).frames

theorem ldap_delete_otherStays (rng : S.Coins) (out : Outside)
    (userInfo : Option ValidationResults) {dn : String} {u : UserId}
    (hdn : Ldap.getUserOrGroupIdFromDistinguishedName dn ldapInfo.baseDn = .user u) :
    Frames (OtherStays u) (Ldap.handleLdapMessage (sqlServices S setup rng out) ldapInfo userInfo
      (.delRequest dn)) := by
  have hdelete : Frames (OtherStays u)
      (Ldap.doDelete (sqlServices S setup rng out) ldapInfo userInfo dn) := by
    refine Ldap.within_of_adminView ?_
    unfold Ldap.deleteUserOrGroup
    rw [hdn]
    exact ldap_deleteUser_otherStays rng out u
  refine otherStays_bind (otherStays_bind hdelete.attempt fun r => ?_) fun _ =>
    (Keeps.pure _).frames
  split
  · exact (Keeps.pure _).frames
  · exact (Keeps.pure _).frames
  · exact (Keeps.fail _).frames

theorem answerRequest_hasAdmin {w : World} {i : RequestInput S} (hadmin : w.db.roster.HasAdmin)
    (hspares : SparesAdmin ldapInfo w i) :
    (answerRequest setup ldapInfo w i).2.db.roster.HasAdmin := by
  obtain ⟨out, rng, request⟩ := i
  have hw := sqlServices_within S setup rng out
  cases request with
  | graphql v m =>
    by_cases hm : ∃ userId, m = .deleteUser userId
    · obtain ⟨userId, rfl⟩ := hm
      by_cases hmay : (v.isAdmin && v.user ≠ UserId.new userId) = true
      · exact graphql_deleteUser_otherStays rng out v userId w (hspares _ (if_pos hmay))
      · have hkeeps := graphql_deleteUser_keeps (h := sqlServices S setup rng out) hmay w
        exact hkeeps ▸ hadmin
    · have hframes : Frames (InvImage KeepsAdmin World.db)
          (m.execute ⟨sqlServices S setup rng out, v⟩) :=
        GraphQL.execute_within hw fun userId heq => hm ⟨userId, heq⟩
      exact hframes w hadmin
  | ldap userInfo op =>
    by_cases hop : ∃ dn u, op = .delRequest dn ∧
        Ldap.getUserOrGroupIdFromDistinguishedName dn ldapInfo.baseDn = .user u
    · obtain ⟨dn, u, rfl, hdn⟩ := hop
      by_cases hmay : ∃ v, userInfo = some v ∧ v.permission = .admin
      · obtain ⟨v, rfl, hv⟩ := hmay
        refine ldap_delete_otherStays rng out (some v) hdn w (hspares u ?_)
        simp [Request.deletes, hdn, ValidationResults.isAdmin, hv]
      · have hkeeps : Keeps (Ldap.handleLdapMessage (sqlServices S setup rng out) ldapInfo userInfo
            (.delRequest dn)) := Ldap.handleLdapMessage_keeps hmay
        exact hkeeps w ▸ hadmin
    · have hframes : Frames (InvImage KeepsAdmin World.db)
          (Ldap.handleLdapMessage (sqlServices S setup rng out) ldapInfo userInfo op) :=
        Ldap.handleLdapMessage_within hw fun dn u heq hdn => hop ⟨dn, u, heq, hdn⟩
      exact hframes w hadmin

/-- In every run of requests from a state with an administrator, none of which deletes a user who is
the only administrator at the time, there is an administrator. -/
theorem administrators_remain {init w : World} {history}
    (hadmin : init.db.roster.HasAdmin)
    (run : Lib.Run (answerRequest setup ldapInfo) (fun _ w i => SparesAdmin ldapInfo w i) init
      history w) : w.db.roster.HasAdmin :=
  run.invariant (P := fun _ w => w.db.roster.HasAdmin) hadmin fun _ _ _ h hok =>
    answerRequest_hasAdmin h hok

end Runs

section Samples

open Plain

def aliceOnly : World :=
  Plain.world { Store.empty with
    users := Lib.Table.empty.upsert (userRow "alice")
    groups := Lib.Table.empty.upsert (groupRow 1 "lldap_admin")
    memberships := Lib.Table.empty.upsert ⟨UserId.new "alice", ⟨1⟩⟩ }

theorem alice_admin : aliceOnly.db.roster.Has (UserId.new "alice") "lldap_admin" :=
  ⟨⟨⟨1⟩, ⟨"lldap_admin"⟩, "lldap_admin"⟩, by decide, rfl, by decide⟩

def aliceDeletes (name : String) : RequestInput Opaque.plainSuite :=
  ⟨outside, (), .ldap (some ⟨UserId.new "alice", .admin⟩)
    (.delRequest ("uid=" ++ name ++ ",ou=people,dc=example,dc=com"))⟩

/-- `alice` deletes `bob`, who is no administrator. -/
theorem administrators_remain_after_bob :
    (answerRequest () Plain.ldapInfo aliceOnly (aliceDeletes "bob")).2.db.roster.HasAdmin := by
  refine administrators_remain ⟨_, alice_admin⟩ (.snoc (aliceDeletes "bob") .nil ?_)
  intro u hu
  have hbob : (aliceDeletes "bob").request.deletes Plain.ldapInfo = some (UserId.new "bob") := by
    decide +kernel
  obtain rfl := Option.some.inj (hbob.symm.trans hu)
  exact ⟨UserId.new "alice", by decide, alice_admin⟩

/-- `alice` deletes `alice`, and nobody is an administrator any more. -/
theorem last_administrator_deleted :
    aliceOnly.db.roster.HasAdmin ∧
      ¬(answerRequest () Plain.ldapInfo aliceOnly (aliceDeletes "alice")).2.db.roster.HasAdmin := by
  refine ⟨⟨_, alice_admin⟩, ?_⟩
  rintro ⟨u, g, -, -, hmember⟩
  have hnone : (answerRequest () Plain.ldapInfo aliceOnly
      (aliceDeletes "alice")).2.db.memberships.rows = [] := by
    decide +kernel
  rw [Store.roster, hnone] at hmember
  cases hmember

end Samples

end Klldap
