import Klldap.Administrators
import Klldap.Sql.Builtin

/-!
# Klldap.Requests: a relation that every request stays in

`Klldap.Interface` leaves the deletion of a user to look at. A relation that this call stays in too
is one that every request of GraphQL and LDAP stays in.
-/

namespace Klldap

open Lib (Eff)
open Lib.Eff (Frames Keeps)
open Opaque (Suite)

section Closed

variable {S : Suite} {σ : Type} {R : σ → σ → Prop} [Std.Refl R] [IsTrans σ R] {h : Services S σ}

theorem GraphQL.execute_closed [External] {v : ValidationResults} (hw : h.Within R)
    (hdelete : ∀ u, Frames R (h.deleteUser u)) (m : GraphQL.Mutation) :
    Frames R (m.execute ⟨h, v⟩) := by
  by_cases hm : ∃ userId, m = .deleteUser userId
  · obtain ⟨userId, rfl⟩ := hm
    refine GraphQL.within_of_admin ?_
    dsimp only
    split
    · exact fun s => refl_of R s
    · exact (hdelete _).mapErr.bind fun _ => (Keeps.pure _).frames
  · exact GraphQL.execute_within hw fun userId heq => hm ⟨userId, heq⟩

theorem Ldap.handleLdapMessage_closed [External] [Ldap.Library] {ldapInfo : Ldap.LdapInfo}
    {userInfo : Option ValidationResults} (hw : h.Within R)
    (hdelete : ∀ u, Frames R (h.deleteUser u)) (op : Ldap.LdapOp) :
    Frames R (Ldap.handleLdapMessage h ldapInfo userInfo op) := by
  by_cases hop : ∃ dn u, op = .delRequest dn ∧
      Ldap.getUserOrGroupIdFromDistinguishedName dn ldapInfo.baseDn = .user u
  · obtain ⟨dn, u, rfl, hdn⟩ := hop
    have huser : Frames R (Ldap.deleteUser h u) :=
      (hw.getUserDetails u).mapErr.bind fun _ => (hdelete u).mapErr.bind fun _ =>
        (hw.deleteKerberosPrincipal _).attempt.bind fun _ => (Keeps.pure _).frames
    have hdo : Frames R (Ldap.doDelete h ldapInfo userInfo dn) := by
      refine Ldap.within_of_adminView ?_
      unfold Ldap.deleteUserOrGroup
      rw [hdn]
      exact huser
    exact Ldap.answer_frames (Ldap.respond_frames hdo)
  · exact Ldap.handleLdapMessage_within hw fun dn u heq hdn => hop ⟨dn, u, heq, hdn⟩

end Closed

section Backend

variable [External] {S : Suite} {setup : S.ServerSetup} {R : Store → Store → Prop}

omit [External] in
theorem deleteUserAndPrincipal_within {u : UserId} (hu : Frames R (Sql.deleteUser u)) (out : Outside) :
    Frames (InvImage R World.db) (Sql.deleteUserAndPrincipal out u) := by
  intro w
  have hframes := hu w.db
  show R w.db (Sql.deleteUser u (Kerberos.deleteKerberosPrincipal out u.asStr w).2.db).2
  rw [Kerberos.deleteKerberosPrincipal_db]
  exact hframes

theorem answerRequest_within [Ldap.Library] [Std.Refl R] [IsTrans Store R]
    (hR : Sql.Within setup R) (hdelete : ∀ u, Frames R (Sql.deleteUser u))
    (ldapInfo : Ldap.LdapInfo) (w : World) (i : RequestInput S) :
    R w.db (answerRequest setup ldapInfo w i).2.db := by
  obtain ⟨out, rng, request⟩ := i
  have hw := hR.services rng out
  have hdelete : ∀ u, Frames (InvImage R World.db) ((sqlServices S setup rng out).deleteUser u) :=
    fun u => deleteUserAndPrincipal_within (hdelete u) out
  cases request with
  | graphql v m => exact GraphQL.execute_closed hw hdelete m w
  | ldap userInfo op => exact Ldap.handleLdapMessage_closed hw hdelete op w

end Backend

/-! ## The roster -/

/-- Steps of the roster, one after another. -/
def RosterSteps [External] (db db' : Store) : Prop :=
  Relation.ReflTransGen (Roster.Step fun _ => True) db.roster db'.roster

section Roster

variable [External] {S : Suite} {setup : S.ServerSetup}

instance : Std.Refl RosterSteps where
  refl _ := .refl

instance : IsTrans Store RosterSteps where
  trans _ _ _ := Relation.ReflTransGen.trans

theorem RosterStep.steps {db db' : Store} (h : RosterStep (fun _ => True) db db') :
    RosterSteps db db' := .single h

theorem answerRequest_rosterSteps [Ldap.Library] (ldapInfo : Ldap.LdapInfo) (w : World)
    (i : RequestInput S) : RosterSteps w.db (answerRequest setup ldapInfo w i).2.db :=
  answerRequest_within (Sql.within_of_rosterStep fun _ _ h => h.steps)
    (fun _ => (Sql.deleteUser_step trivial).mono fun _ _ h => h.steps) ldapInfo w i

theorem RosterSteps.invariant {P : Roster → Prop} {db db' : Store} (h : RosterSteps db db')
    (hstep : ∀ r r', P r → r.Step (fun _ => True) r' → P r') (hP : P db.roster) : P db'.roster := by
  unfold RosterSteps at h
  generalize db'.roster = r' at h
  induction h with
  | refl => exact hP
  | tail _ hlast ih => exact hstep _ _ ih hlast

theorem RosterSteps.builtin {db db' : Store} (h : RosterSteps db db') (hb : db.roster.Builtin) :
    db'.roster.Builtin := h.invariant (fun _ _ hr hstep => hr.step hstep) hb

end Roster

/-- Every membership is one of a group that exists. -/
def Roster.Referenced (r : Roster) : Prop := ∀ m ∈ r.members, ∃ g ∈ r.groups, g.id = m.groupId

section Referenced

variable [External]

theorem Roster.Referenced.step {r r' : Roster} {gone : UserId → Prop} (h : r.Referenced)
    (hstep : r.Step gone r') : r'.Referenced := by
  cases hstep with
  | same => exact h
  | create id name hid hfree =>
    intro m hm
    obtain ⟨g, hg, heq⟩ := h m hm
    exact ⟨g, List.mem_append_left _ hg, heq⟩
  | rename id name hcustom hfree =>
    intro m hm
    obtain ⟨g, hg, heq⟩ := h m hm
    refine ⟨_, List.mem_map.mpr ⟨g, hg, rfl⟩, ?_⟩
    split
    · rename_i hid
      exact hid.symm.trans heq
    · exact heq
  | dropGroup id hcustom =>
    intro m hm
    obtain ⟨hm, hne⟩ := List.mem_filter.mp hm
    obtain ⟨g, hg, heq⟩ := h m hm
    exact ⟨g, List.mem_filter.mpr ⟨hg, by rwa [heq]⟩, heq⟩
  | dropUser u hu => exact fun m hm => h m (List.mem_of_mem_filter hm)
  | join u g hg hone hadmin hdisabled =>
    intro m hm
    rcases List.mem_append.mp hm with hm | hm
    · exact h m hm
    · exact ⟨g, hg, by rw [List.mem_singleton.mp hm]⟩
  | leave u id hlast => exact fun m hm => h m (List.mem_of_mem_filter hm)

theorem RosterSteps.referenced {db db' : Store} (h : RosterSteps db db')
    (hr : db.roster.Referenced) : db'.roster.Referenced :=
  h.invariant (fun _ _ hr hstep => hr.step hstep) hr

end Referenced

end Klldap
