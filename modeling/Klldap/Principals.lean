import Klldap.Interface
import Klldap.Lib.Run
import Klldap.Plain
import Klldap.Sql.Stored

/-!
# Klldap.Principals: users and their Kerberos principals

A user may have a principal in the KDC. The user row names it in `krb_principal_name` and the
attribute `kerberossync` says whether it is kept. Nothing but the code holds the three together.
-/

namespace Klldap

open Lib (Bytes Eff except_bind_ok)
open Lib.Eff (Frames Keeps)
open Opaque (Suite)

/-! ## Deleting a user -/

/-- If the computation fails, it leaves the directory and the principals of the KDC as they were. -/
def FailsClean {ε α : Type} (m : Eff World ε α) (w : World) : Prop :=
  ∀ e w', m w = (.error e, w') → w'.db = w.db ∧ w'.kdc = w.kdc

theorem FailsClean.of_fst {ε α : Type} {m : Eff World ε α} {w : World} (h : (m w).2 = w) :
    FailsClean m w := by
  intro e w' hrun
  rw [hrun] at h
  subst h
  exact ⟨rfl, rfl⟩

theorem failsClean_mapErr_then {ε ε' α β : Type} {m : Eff World ε α} {f : ε → ε'} {b : β}
    {w : World} : FailsClean (do let _ ← m.mapErr f; pure b) w ↔ FailsClean m w := by
  unfold FailsClean
  rw [Eff.bind_run, Eff.mapErr]
  cases m w with
  | mk r w₁ =>
    cases r with
    | ok a => simp [Except.mapError]
    | error e => simp [Except.mapError]

namespace Kerberos

variable (out : Outside)

/-- The principal that a deletion for a user gets through to the KDC with: the one that its text
names. -/
def Reaches (username principal : String) : Prop :=
  out.kadm .initHandle = none ∧
    named out (getKerberosPrincipalName out username) = some principal ∧
    out.kadm (.delete principal) = none

theorem deleteKerberosPrincipal_run {username principal : String}
    (h : Reaches out username principal) (w : World) :
    deleteKerberosPrincipal out username w =
      (.ok (), { w with kdc := w.kdc.delete fun p => p.name = principal }) := by
  obtain ⟨hinit, hname, hdelete⟩ := h
  simp [deleteKerberosPrincipal, deletePrincipal, parseName, Eff.bind_run, Eff.attempt, kadm, hinit,
    hname, hdelete]

theorem deleteKerberosPrincipal_of_not_reaches {username : String}
    (h : ∀ principal, ¬ Reaches out username principal) (w : World) :
    (deleteKerberosPrincipal out username w).2 = w := by
  cases hinit : out.kadm .initHandle with
  | some e => simp [deleteKerberosPrincipal, Eff.bind_run, Eff.attempt, kadm, hinit]
  | none =>
    cases hname : named out (getKerberosPrincipalName out username) with
    | none =>
      simp [deleteKerberosPrincipal, deletePrincipal, parseName, Eff.bind_run, Eff.attempt, kadm,
        hinit, hname]
    | some principal =>
      cases hdelete : out.kadm (.delete principal) with
      | some e =>
        simp [deleteKerberosPrincipal, deletePrincipal, parseName, Eff.bind_run, Eff.attempt, kadm,
          hinit, hname, hdelete]
      | none => exact absurd ⟨hinit, hname, hdelete⟩ (h principal)

end Kerberos

namespace Sql

variable (out : Outside) (pool : Option DomainError)

/-- `delete_user` when the statement may not get through to the database: `pool` is the error that
it then ends with. -/
def deleteUserOver (userId : UserId) : Backend Unit := do
  let _ ← Eff.attempt (Kerberos.deleteKerberosPrincipal out userId.asStr)
  match pool with
  | some e => Eff.fail e
  | none => onDb (deleteUser userId)

theorem deleteUserOver_none : deleteUserOver out none = deleteUserAndPrincipal out := rfl

/-- The deletion is sure to succeed, or there is no principal that it can delete. -/
def DeletesSafely (userId : UserId) (w : World) : Prop :=
  pool = none ∧ (w.db.users.find? userId).isSome = true ∨
    ∀ principal, Kerberos.Reaches out userId.asStr principal → w.kdc.find? principal = none

theorem deleteUserOver_run (userId : UserId) (w : World) :
    deleteUserOver out pool userId w =
      (match pool with
        | some e => Eff.fail e
        | none => onDb (deleteUser userId) : Backend Unit)
        (Kerberos.deleteKerberosPrincipal out userId.asStr w).2 := rfl

theorem deleteUser_isSome {userId : UserId} {db : Store}
    (h : (db.users.find? userId).isSome = true) :
    deleteUser userId db = (.ok (), Store.deleteUser userId db) := by
  obtain ⟨row, hrow⟩ := Option.isSome_iff_exists.mp h
  simp [deleteUser, Eff.bind_run, hrow]

theorem deleteUser_isNone {userId : UserId} {db : Store} (h : db.users.find? userId = none) :
    deleteUser userId db =
      (.error (.entityNotFound ("No such user: '" ++ userId.asStr ++ "'")), db) := by
  simp [deleteUser, Eff.bind_run, h]

theorem deleteUserOver_error {userId : UserId} {w w' : World} {e : DomainError}
    (h : deleteUserOver out pool userId w = (.error e, w')) :
    w' = (Kerberos.deleteKerberosPrincipal out userId.asStr w).2 := by
  rw [deleteUserOver_run] at h
  cases pool with
  | some e' =>
    cases h
    rfl
  | none =>
    cases hf : w.db.users.find? userId with
    | some row =>
      have hsome : ((Kerberos.deleteKerberosPrincipal out userId.asStr w).2.db.users.find?
          userId).isSome = true := by
        rw [Kerberos.deleteKerberosPrincipal_db, hf]
        rfl
      simp [onDb, Eff.zoom, deleteUser_isSome hsome] at h
    | none =>
      have hnone : (Kerberos.deleteKerberosPrincipal out userId.asStr w).2.db.users.find?
          userId = none := by
        rw [Kerberos.deleteKerberosPrincipal_db, hf]
      simp only [onDb, Eff.zoom, deleteUser_isNone hnone, Prod.mk.injEq] at h
      exact h.2.symm

theorem deleteUserOver_fails {userId : UserId} {w : World}
    (h : ¬ (pool = none ∧ (w.db.users.find? userId).isSome = true)) :
    ∃ e, deleteUserOver out pool userId w =
      (.error e, (Kerberos.deleteKerberosPrincipal out userId.asStr w).2) := by
  rw [deleteUserOver_run]
  cases pool with
  | some e => exact ⟨e, rfl⟩
  | none =>
    have hnone : (Kerberos.deleteKerberosPrincipal out userId.asStr w).2.db.users.find?
        userId = none := by
      rw [Kerberos.deleteKerberosPrincipal_db]
      simpa using h
    refine ⟨.entityNotFound ("No such user: '" ++ userId.asStr ++ "'"), ?_⟩
    simp only [onDb, Eff.zoom, deleteUser_isNone hnone]

theorem deleteUserOver_succeeds {userId : UserId} {w : World} (hpool : pool = none)
    (huser : (w.db.users.find? userId).isSome = true) :
    (deleteUserOver out pool userId w).1 = .ok () := by
  rw [deleteUserOver_run, hpool]
  have hsome : ((Kerberos.deleteKerberosPrincipal out userId.asStr w).2.db.users.find?
      userId).isSome = true := by
    rw [Kerberos.deleteKerberosPrincipal_db, huser]
  simp only [onDb, Eff.zoom, deleteUser_isSome hsome]

theorem deleteUserOver_failsClean (userId : UserId) (w : World) :
    FailsClean (deleteUserOver out pool userId) w ↔ DeletesSafely out pool userId w := by
  constructor
  · intro hclean
    by_cases hsure : pool = none ∧ (w.db.users.find? userId).isSome = true
    · exact .inl hsure
    refine .inr fun principal hreach => Lib.Table.find?_eq_none.mpr ?_
    intro hmem
    obtain ⟨e, he⟩ := deleteUserOver_fails out pool hsure
    have hkdc := (hclean e _ he).2
    rw [Kerberos.deleteKerberosPrincipal_run out hreach] at hkdc
    obtain ⟨p, hp, hname⟩ := List.mem_map.mp hmem
    have := Lib.Table.delete_eq_self.mp hkdc p hp
    simp [hname] at this
  · intro hsafe e w' hrun
    rcases hsafe with ⟨hpool, huser⟩ | hnone
    · have hok := deleteUserOver_succeeds out pool hpool huser
      rw [hrun] at hok
      cases hok
    · rw [deleteUserOver_error out pool hrun]
      refine ⟨Kerberos.deleteKerberosPrincipal_db out _ w, ?_⟩
      by_cases hreach : ∃ principal, Kerberos.Reaches out userId.asStr principal
      · obtain ⟨principal, hreach⟩ := hreach
        rw [Kerberos.deleteKerberosPrincipal_run out hreach]
        refine Lib.Table.delete_eq_self.mpr fun p hp => ?_
        have hne : p.name ≠ principal := fun hname =>
          Lib.Table.find?_eq_none.mp (hnone principal hreach) (List.mem_map.mpr ⟨p, hp, hname⟩)
        simp [hne]
      · rw [Kerberos.deleteKerberosPrincipal_of_not_reaches out (not_exists.mp hreach)]

end Sql

section

variable [External]

/-- The server's backend, with a database that may be out of reach for a deletion. -/
def servicesOver (S : Suite) (setup : S.ServerSetup) (rng : S.Coins) (out : Outside)
    (pool : Option DomainError) : Services S World :=
  { sqlServices S setup rng out with deleteUser := Sql.deleteUserOver out pool }

/-- A deletion that fails leaves the directory and the KDC alone exactly if it could not fail or had
no principal to delete; so does the mutation, or it is refused before it gets that far. -/
theorem deleteUser_failsClean_iff (S : Suite) (setup : S.ServerSetup) (rng : S.Coins)
    (out : Outside) (pool : Option DomainError) (w : World) :
    (∀ userId, FailsClean (Sql.deleteUserOver out pool userId) w ↔
      Sql.DeletesSafely out pool userId w) ∧
    ∀ (v : ValidationResults) (userId : String),
      FailsClean (GraphQL.deleteUser ⟨servicesOver S setup rng out pool, v⟩ userId) w ↔
        v.permission ≠ .admin ∨ v.user = UserId.new userId ∨
          Sql.DeletesSafely out pool (UserId.new userId) w := by
  refine ⟨fun userId => Sql.deleteUserOver_failsClean out pool userId w, fun v userId => ?_⟩
  rw [← Sql.deleteUserOver_failsClean]
  by_cases hadmin : v.permission = .admin
  · have hview : getAdminHandler (servicesOver S setup rng out pool) v =
        some (servicesOver S setup rng out pool) := by
      simp [getAdminHandler, ValidationResults.isAdmin, hadmin]
    by_cases hself : v.user = UserId.new userId
    · have hrun : (GraphQL.deleteUser ⟨servicesOver S setup rng out pool, v⟩ userId w).2 = w := by
        simp [GraphQL.deleteUser, hview, GraphQL.orUnauthorized, GraphQL.fieldError, hself,
          Eff.bind_run]
      exact iff_of_true (.of_fst hrun) (.inr (.inl hself))
    · have hrun : GraphQL.deleteUser ⟨servicesOver S setup rng out pool, v⟩ userId w =
          (do
            let _ ← (Sql.deleteUserOver out pool (UserId.new userId)).mapErr fun e =>
              GraphQL.FieldError.error "User deletion failed" (some e.display)
            pure GraphQL.Response.success : GraphQL.Field World GraphQL.Response) w := by
        simp only [GraphQL.deleteUser, hview, GraphQL.orUnauthorized, hself, Eff.bind_run,
          GraphQL.withDetails, Eff.pure_run, if_false]
        rfl
      simp only [hadmin, hself, ne_eq, not_true_eq_false, false_or]
      rw [← failsClean_mapErr_then (f := fun e : DomainError =>
        GraphQL.FieldError.error "User deletion failed" (some e.display))
        (b := GraphQL.Response.success)]
      unfold FailsClean
      rw [hrun]
  · have hrun : (GraphQL.deleteUser ⟨servicesOver S setup rng out pool, v⟩ userId w).2 = w := by
      simp [GraphQL.deleteUser, getAdminHandler_eq_none hadmin, GraphQL.orUnauthorized,
        Eff.bind_run]
    exact iff_of_true (.of_fst hrun) (.inl hadmin)

end

/-- A directory without users, beside a KDC that has a principal of its own. -/
def serviceAccount : World :=
  { Plain.world .empty with
    kdc := ⟨[⟨"backup@EXAMPLE.COM", .random 0⟩], List.nodup_singleton _⟩ }

/-- Deleting a user that does not exist is an error, and the principal of that name is gone. The
name may be written with a backslash that the Kerberos library drops. -/
theorem deleteUser_serviceAccount :
    ((Sql.deleteUserAndPrincipal Plain.outside (UserId.new "backup") serviceAccount).1 =
        .error (.entityNotFound "No such user: 'backup'") ∧
      ¬ FailsClean (Sql.deleteUserAndPrincipal Plain.outside (UserId.new "backup"))
        serviceAccount) ∧
    (Sql.deleteUserAndPrincipal Plain.outside (UserId.new "ba\\ckup") serviceAccount).1 =
        .error (.entityNotFound "No such user: 'ba\\ckup'") ∧
      ¬ FailsClean (Sql.deleteUserAndPrincipal Plain.outside (UserId.new "ba\\ckup"))
        serviceAccount := by
  have hgone : ∀ name ∈ ["backup", "ba\\ckup"],
      Sql.deleteUserAndPrincipal Plain.outside (UserId.new name) serviceAccount =
        (.error (.entityNotFound ("No such user: '" ++ name ++ "'")), Plain.world .empty) := by
    decide
  have hunclean : ∀ name ∈ ["backup", "ba\\ckup"],
      ¬ FailsClean (Sql.deleteUserAndPrincipal Plain.outside (UserId.new name)) serviceAccount := by
    intro name hname hclean
    have hkdc := (hclean _ _ (hgone name hname)).2
    revert hkdc
    decide
  exact ⟨⟨congrArg Prod.fst (hgone _ (by simp)), hunclean _ (by simp)⟩,
    congrArg Prod.fst (hgone _ (by simp)), hunclean _ (by simp)⟩

namespace Sql

open Lib.Text

def kerberossync : AttributeSchema :=
  PublicSchema.hardcoded "kerberossync" ["kerberos_sync", "kerberosSync"] .integer true false false

theorem kerberossync_mem : kerberossync ∈ PublicSchema.userAttributes := by decide

theorem kerberossync_name :
    "kerberossync" ∈ PublicSchema.userAttributes.map AttributeSchema.name := by decide

def storedInteger (value : Bytes) : Int := (parseI64 (textOr "0" value)).getD 0

def storedKerberossync (db : Store) (u : UserId) : Option Int :=
  (userValue db u "kerberossync").map storedInteger

/-- A principal is named for users only whose `kerberossync` is 1. -/
def PrincipalsSynced (db : Store) : Prop :=
  ∀ r ∈ db.users.rows, r.krbPrincipalName.getD "" ≠ "" → storedKerberossync db r.userId = some 1

/-- `kerberossync` goes by one name, and a principal is named for users only for whom it is 1. -/
structure Synced (db : Store) : Prop where
  named : UserNamed "kerberossync" db
  principals : PrincipalsSynced db

variable [External]

/-- An update leaves the principal and `kerberossync` in step: no principal is named before it, or
it switches `kerberossync` off under exactly that name, or it leaves a 1. -/
def LeavesSynced (request : UpdateUserRequest) (db : Store) : Prop :=
  (∀ r, db.users.find? request.userId = some r → r.krbPrincipalName.getD "" = "") ∨
  ((request.insertAttributes.filter fun a => a.name.asStr = "kerberossync").map
    fun a => kerbSyncOf a.value).getLast? = some false ∨
  match givenUser "kerberossync" request.insertAttributes with
  | some a => storedInteger (attributeValueToDbBytes a.value) = 1
  | none => ∀ name ∈ request.deleteAttributes,
      canonicalUserAttributeName name.asStr ≠ .new "kerberossync"

variable {db db' : Store}

omit [External] in
theorem principalsSynced_iff : PrincipalsSynced db ↔ ∀ u r, db.users.find? u = some r →
    r.krbPrincipalName.getD "" ≠ "" → storedKerberossync db u = some 1 := by
  constructor
  · intro h u r hr hp
    have := h r (Lib.Table.mem_of_find? hr) hp
    rwa [Lib.Table.key_of_find? hr] at this
  · intro h r hr hp
    exact h r.userId r (Lib.Table.find?_of_mem hr) hp

omit [External] in
theorem Synced.users (h : Synced db) {users : Lib.Table UserRow UserId UserRow.userId}
    (husers : ∀ u r', users.find? u = some r' → r'.krbPrincipalName.getD "" ≠ "" →
      storedKerberossync db u = some 1 ∨
        ∃ r, db.users.find? u = some r ∧ r.krbPrincipalName = r'.krbPrincipalName) :
    Synced { db with users := users } := by
  refine ⟨⟨h.named.schema, h.named.rows⟩, principalsSynced_iff.mpr fun u r' hr' hp => ?_⟩
  rcases husers u r' hr' hp with hsync | ⟨r, hr, hsame⟩
  · exact hsync
  · exact principalsSynced_iff.mp h.principals u r hr (hsame ▸ hp)

omit [External] in
theorem Synced.setKrbPrincipalName (h : Synced db) (now : DateTime) (u : UserId)
    (principal : Option String) (hsync : principal ≠ none → storedKerberossync db u = some 1) :
    Synced (Sql.setKrbPrincipalName now u principal db).2 := by
  unfold Sql.setKrbPrincipalName updateUserRow
  rw [Eff.bind_run, Eff.reads_run]
  dsimp only
  cases db.users.find? u with
  | none => exact h
  | some row =>
    refine h.users fun v r' hr' hp => ?_
    rw [Lib.Table.find?_update] at hr'
    split at hr'
    · rename_i hv
      obtain ⟨r, -, rfl⟩ := Option.map_eq_some_iff.mp hr'
      refine .inl (hv ▸ hsync ?_)
      rintro rfl
      exact hp rfl
    · exact .inr ⟨r', hr', rfl⟩

omit [External] in
theorem Synced.setPasswordFile (h : Synced db) (u : UserId) (file : Bytes) (now : DateTime) :
    Synced (Opaque.setPasswordFile u file now db) := by
  refine h.users fun v r' hr' hp => .inr ?_
  rw [Lib.Table.find?_update] at hr'
  split at hr'
  · obtain ⟨r, hr, rfl⟩ := Option.map_eq_some_iff.mp hr'
    exact ⟨r, hr, rfl⟩
  · exact ⟨r', hr', rfl⟩

theorem createUser_synced {now : DateTime} {request : CreateUserRequest} (hs : Synced db)
    (h : createUser now request db = (.ok (), db')) : Synced db' := by
  obtain ⟨schema, settings, attributes, users, hschema, -, -, -, husers, hrows, -, rfl⟩ :=
    createUser_ok h
  obtain ⟨-, hfind⟩ := Lib.Table.find?_insert? husers
  refine ⟨hs.named.upsertAll _ (fun _ hr => hr) fun r hr => (hrows r hr).1,
    principalsSynced_iff.mpr fun u r hr hp => ?_⟩
  rw [hfind] at hr
  split at hr
  · cases hr
    exact absurd rfl hp
  · rename_i hne
    have hne : u ≠ request.userId := Ne.symm hne
    unfold storedKerberossync
    rw [userValue_created hschema kerberossync_name, if_neg hne]
    exact principalsSynced_iff.mp hs.principals u r hr hp

section Update

variable {now : DateTime} {request : UpdateUserRequest}

theorem updatedUsers_principal {kerb : Option Bool}
    {users : Lib.Table UserRow UserId UserRow.userId} {u : UserId} {r' : UserRow}
    (h : (updatedUsers now request kerb users).find? u = some r')
    (hp : r'.krbPrincipalName.getD "" ≠ "") :
    ∃ r, users.find? u = some r ∧ r.krbPrincipalName = r'.krbPrincipalName ∧
      (u = request.userId → kerb ≠ some false) := by
  have happlied {r₁ : UserRow}
      (h₁ : (users.update request.userId (UpdateUserRequest.applyTo request now)
        applyTo_userId).find? u = some r₁) :
      ∃ r, users.find? u = some r ∧ r.krbPrincipalName = r₁.krbPrincipalName := by
    rw [Lib.Table.find?_update] at h₁
    split at h₁
    · obtain ⟨r, hr, rfl⟩ := Option.map_eq_some_iff.mp h₁
      exact ⟨r, hr, rfl⟩
    · exact ⟨r₁, h₁, rfl⟩
  unfold updatedUsers at h
  dsimp only at h
  split at h
  · rw [Lib.Table.find?_update] at h
    split at h
    · obtain ⟨r₁, -, rfl⟩ := Option.map_eq_some_iff.mp h
      exact absurd rfl hp
    · rename_i hu
      obtain ⟨r, hr, hsame⟩ := happlied h
      exact ⟨r, hr, hsame, fun heq => absurd heq hu⟩
  · rename_i hkerb
    obtain ⟨r, hr, hsame⟩ := happlied h
    exact ⟨r, hr, hsame, fun _ => hkerb⟩

theorem updateUserWithTransaction_synced {kerb : Option Bool} (hs : Synced db)
    (hleaves : LeavesSynced request db)
    (h : updateUserWithTransaction now request db = (.ok kerb, db')) : Synced db' := by
  obtain ⟨schema, changes, hschema, hchanges, -, -, hkeys, -, rfl⟩ :=
    updateUserWithTransaction_ok.mp h
  obtain ⟨-, hremoves, hkerb⟩ := computeUserAttributeChanges_ok hchanges
  refine ⟨hs.named.upsertAll _ (fun _ hr => List.mem_of_mem_filter hr)
    fun r hr => (hkeys r hr).2, principalsSynced_iff.mpr fun u r' hr' hp => ?_⟩
  obtain ⟨r, hr, hsame, hon⟩ := updatedUsers_principal hr' hp
  have hbefore := principalsSynced_iff.mp hs.principals u r hr (hsame ▸ hp)
  unfold storedKerberossync at hbefore ⊢
  rw [userValue_updated hschema hchanges kerberossync_name]
  by_cases hu : u = request.userId
  · rw [if_pos hu]
    rcases hleaves with hnone | hoff | hgiven
    · exact absurd (hnone r (hu ▸ hr)) (hsame ▸ hp)
    · exact absurd (hkerb.trans hoff) (hon hu)
    · cases hsync : givenUser "kerberossync" request.insertAttributes with
      | some a =>
        rw [hsync] at hgiven
        exact congrArg some hgiven
      | none =>
        rw [hsync] at hgiven
        have hkept : ¬ changes.removes.contains (.new "kerberossync") = true := by
          intro hmem
          obtain ⟨given, hmem, heq⟩ := hremoves _ (List.contains_iff_mem.mp hmem)
          exact hgiven given hmem heq.symm
        exact (congrArg (Option.map storedInteger) (if_neg hkept)).trans hbefore
  · rw [if_neg hu]
    exact hbefore

end Update

theorem getUserDetails_kerberossync {u : UserId} {user : User} (hs : Synced db)
    (h : getUserDetails u db = .ok user) {a : Attribute} (ha : a ∈ user.attributes)
    (hname : a.name = .new "kerberossync") :
    ∃ i, storedKerberossync db u = some i ∧ a.value = .integer (.singleton i) := by
  obtain ⟨value, hvalue, rfl⟩ := (getUserDetails_value (b := kerberossync) rfl hs.named
    kerberossync_mem (by decide) h).mp ⟨ha, hname⟩
  exact ⟨storedInteger value, congrArg (Option.map storedInteger) hvalue, rfl⟩

end Sql

open Sql (Synced PrincipalsSynced LeavesSynced storedKerberossync)

/-- What is in step stays in step. -/
def KeepsSynced (db db' : Store) : Prop := Synced db → Synced db'

instance : Std.Refl KeepsSynced where
  refl _ h := h

instance : IsTrans Store KeepsSynced where
  trans _ _ _ hab hbc h := hbc (hab h)

section Requests

variable [External] {S : Suite} (setup : S.ServerSetup) (rng : S.Coins) (out : Outside)

theorem createUser_keepsSynced (request : CreateUserRequest) :
    Frames (InvImage KeepsSynced World.db) ((sqlServices S setup rng out).createUser request) :=
  Frames.zoom_part ((Sql.createUser_atomic _ _).frames fun _ _ _ h hs => Sql.createUser_synced hs h)
    fun _ _ => rfl

theorem updateUser_synced {request : UpdateUserRequest} {w : World}
    (hleaves : LeavesSynced request w.db) (hs : Synced w.db) :
    Synced ((sqlServices S setup rng out).updateUser request w).2.db := by
  have hdb := Sql.updateUser_db out request w
  refine Eq.mpr (congrArg Synced hdb) ?_
  rcases Eff.transaction_cases (Sql.updateUserWithTransaction out.now request) w.db with
    hsame | ⟨kerb, hok⟩
  · rw [hsame]
    exact hs
  · exact Sql.updateUserWithTransaction_synced hs hleaves hok

omit [External] in
theorem registrationFinish_keepsSynced (request : Opaque.ClientRegistrationFinishRequest S) :
    Frames KeepsSynced (Opaque.registrationFinish S setup out.now request) := by
  refine (Keeps.lift _).frames.bind fun u => ?_
  exact Frames.reads_option (Keeps.fail _).frames fun _ => Frames.writes fun _ hs =>
    hs.setPasswordFile _ _ _

theorem sqlServices_passwords :
    (sqlServices S setup rng out).PasswordWithin (InvImage KeepsSynced World.db) where
  getSchema := (onDb_query_keeps _).frames
  getUserDetails _ := (onDb_query_keeps _).frames
  getUserGroups _ := (onDb_query_keeps _).frames
  registrationStart _ := ((Keeps.lift _).zoom fun _ => rfl).frames
  registrationFinish _ := (registrationFinish_keepsSynced setup out _).zoom_part fun _ _ => rfl
  syncKerberosPrincipal _ _ := (Kerberos.syncKerberosPrincipal_keepsDb _ _).frames

theorem ensure_synced {w : World} {u : UserId} {enabled : Bool} (hs : Synced w.db)
    (hsync : enabled = true → storedKerberossync w.db u = some 1) :
    Synced ((sqlServices S setup rng out).ensureKerberosPrincipalConsistency u enabled w).2.db := by
  refine hs.setKrbPrincipalName out.now u _ fun hne => hsync ?_
  cases enabled with
  | true => rfl
  | false => exact absurd rfl hne

theorem extractKerberosSync_stored {db : Store} {u : UserId} {user : User} {schema : Schema}
    (hs : Synced db) (huser : Sql.getUserDetails u db = .ok user)
    (hschema : Sql.getSchema db = .ok schema)
    (h : GraphQL.extractKerberosSync schema user.attributes = true) :
    storedKerberossync db u = some 1 := by
  have hcanonical : GraphQL.canonicalName schema.userAttributes "kerberossync" = "kerberossync" := by
    obtain ⟨rest, hrest⟩ := Sql.getSchema_userAttributes hschema
    unfold GraphQL.canonicalName resolveCanonicalName
    rw [hrest, getByNameOrAlias_append (a := Sql.kerberossync) (by decide)]
    rfl
  unfold GraphQL.extractKerberosSync at h
  rw [hcanonical] at h
  dsimp only at h
  cases hfind : user.attributes.find? fun a => a.name.asStr = "kerberossync" with
  | none =>
    rw [hfind] at h
    cases h
  | some a =>
    have hfound : a.name.asStr = "kerberossync" := by simpa using List.find?_some hfind
    have hname : a.name = .new "kerberossync" := by rw [← AttributeName.new_asStr a.name, hfound]
    obtain ⟨i, hi, hvalue⟩ := Sql.getUserDetails_kerberossync hs huser
      (List.mem_of_find?_eq_some hfind) hname
    rw [hfind] at h
    simp only [hvalue, decide_eq_true_eq] at h
    rw [hi, h]

theorem syncEnabled_stored {db : Store} {u : UserId} {user : User} (hs : Synced db)
    (huser : Sql.getUserDetails u db = .ok user) (h : Ldap.syncEnabled user = true) :
    storedKerberossync db u = some 1 := by
  obtain ⟨a, ha, h⟩ := List.any_eq_true.mp h
  obtain ⟨hname, hvalue⟩ := Bool.and_eq_true_iff.mp h
  have hname : a.name = .new "kerberossync" := by
    rw [← AttributeName.new_asStr a.name, of_decide_eq_true hname]
  obtain ⟨i, hi, hi'⟩ := Sql.getUserDetails_kerberossync hs huser ha hname
  have hvalue := of_decide_eq_true hvalue
  rw [hi'] at hvalue
  cases hvalue
  exact hi

theorem syncThenEnsure_keepsSynced {β : Type} (u : UserId)
    {f g : DomainError → GraphQL.FieldError} {m : Bool → GraphQL.Field World β}
    (hm : ∀ enabled, KeepsDb (m enabled)) (answer : GraphQL.Response) :
    Frames (InvImage KeepsSynced World.db) (do
      let user ← ((sqlServices S setup rng out).getUserDetails u).mapErr f
      let schema ← (sqlServices S setup rng out).getSchema.mapErr g
      let _ ← m (GraphQL.extractKerberosSync schema user.attributes)
      let _ ← Eff.attempt ((sqlServices S setup rng out).ensureKerberosPrincipalConsistency u
        (GraphQL.extractKerberosSync schema user.attributes))
      pure answer : GraphQL.Field World GraphQL.Response) := by
  intro w hs
  refine Eq.mpr (congrArg (fun w => Synced (World.db w)) (query_bind_snd _ _ _ w)) ?_
  cases huser : Sql.getUserDetails u w.db with
  | error e => exact hs
  | ok user =>
    refine Eq.mpr (congrArg (fun w => Synced (World.db w)) (query_bind_snd _ _ _ w)) ?_
    cases hschema : Sql.getSchema w.db with
    | error e => exact hs
    | ok schema =>
      have hsync := extractKerberosSync_stored hs huser hschema
      have hdb : w.db = (m (GraphQL.extractKerberosSync schema user.attributes) w).2.db := hm _ w
      dsimp only
      rw [Eff.bind_run]
      cases h : m (GraphQL.extractKerberosSync schema user.attributes) w with
      | mk r w₁ =>
        rw [h] at hdb
        cases r with
        | error e => exact hdb ▸ hs
        | ok a => exact ensure_synced setup rng out (hdb ▸ hs) (hdb ▸ hsync)

theorem syncIfEnabled_keepsDb (enabled : Bool) (userId password : String) :
    KeepsDb ((sqlServices S setup rng out).syncKerberosIfEnabled enabled userId password) :=
  Frames.ite (Kerberos.syncKerberosPrincipal_keepsDb _ _) (Keeps.pure _).frames

theorem setUserPassword_keepsSynced (v : ValidationResults) (userId password : String) :
    Frames (InvImage KeepsSynced World.db)
      (GraphQL.setUserPassword ⟨sqlServices S setup rng out, v⟩ userId password) := by
  refine GraphQL.within_of_writeable
    ((GraphQL.registerPassword_within (sqlServices_passwords setup rng out) _ _).bind fun _ => ?_)
  exact syncThenEnsure_keepsSynced setup rng out _
    (fun enabled => (syncIfEnabled_keepsDb setup rng out enabled userId password).attempt) _

theorem syncKerberosPassword_keepsSynced (v : ValidationResults)
    (userId encryptedPassword : String) :
    Frames (InvImage KeepsSynced World.db)
      (GraphQL.syncKerberosPassword ⟨sqlServices S setup rng out, v⟩ userId encryptedPassword) := by
  refine GraphQL.within_of_writeable ((Keeps.lift _).frames.mapErr.bind fun plain => ?_)
  exact syncThenEnsure_keepsSynced setup rng out _
    (fun enabled => (syncIfEnabled_keepsDb setup rng out enabled userId plain).mapErr) _

variable [Ldap.Library]

/-- An update that has nothing to do with `kerberossync`. -/
def Unrelated (update : UpdateUserRequest) : Prop :=
  (∀ a ∈ update.insertAttributes,
    Sql.canonicalUserAttributeName a.name.asStr ≠ .new "kerberossync") ∧
  ∀ name ∈ update.deleteAttributes, Sql.canonicalUserAttributeName name.asStr ≠ .new "kerberossync"

omit [Ldap.Library] in
theorem Unrelated.leavesSynced {update : UpdateUserRequest} (h : Unrelated update) (db : Store) :
    LeavesSynced update db := by
  refine .inr (.inr ?_)
  have hnone : Sql.givenUser "kerberossync" update.insertAttributes = none :=
    Sql.lastGiven_eq_none.mpr h.1
  rw [hnone]
  exact h.2

def profileNames : List String := ["first_name", "last_name", "avatar", "sshpublickey"]

omit [Ldap.Library] [External] in
theorem profileNames_unrelated : ∀ n ∈ profileNames,
    Sql.canonicalUserAttributeName (AttributeName.new n).asStr ≠ .new "kerberossync" := by
  decide +kernel

omit [Ldap.Library] [External] in
theorem unrelated_insert {u : UserId} {a : Attribute} {n : String} (hname : a.name = .new n)
    (hn : n ∈ profileNames) : Unrelated { Ldap.noUpdate u with insertAttributes := [a] } := by
  refine ⟨fun a' ha' => ?_, fun _ h => nomatch h⟩
  rw [List.mem_singleton.mp ha', hname]
  exact profileNames_unrelated n hn

omit [Ldap.Library] [External] in
theorem unrelated_delete {u : UserId} {n : String} (hn : n ∈ profileNames) :
    Unrelated { Ldap.noUpdate u with deleteAttributes := [.new n] } := by
  refine ⟨(fun _ h => nomatch h), fun name hname => ?_⟩
  rw [List.mem_singleton.mp hname]
  exact profileNames_unrelated n hn

omit [Ldap.Library] [External] in
theorem unrelated_row {u : UserId} (email : Option Email) (displayName : Option String) :
    Unrelated { Ldap.noUpdate u with email := email, displayName := displayName } :=
  ⟨(fun _ h => nomatch h), (fun _ h => nomatch h)⟩

theorem unrelated_typed {u : UserId} {name what : String} {typ : AttributeType} {isList : Bool}
    {vals : List String} {update : UpdateUserRequest}
    (hn : name ∈ profileNames)
    (h : (Ldap.typedAttribute name what typ isList vals).map (fun a =>
      { Ldap.noUpdate u with insertAttributes := [a] }) = .ok update) : Unrelated update := by
  obtain ⟨a, ha, rfl⟩ := Lib.except_map_ok.mp h
  exact unrelated_insert (Ldap.typedAttribute_name ha) hn

theorem setAttribute_unrelated {u : UserId} {atype : String} {vals : List String}
    {update : UpdateUserRequest} (h : Ldap.setAttribute u atype vals = some (.ok update)) :
    Unrelated update := by
  unfold Ldap.setAttribute at h
  split at h
  · exact unrelated_typed (by simp [profileNames]) (Option.some.inj h)
  split at h
  · exact unrelated_typed (by simp [profileNames]) (Option.some.inj h)
  split at h
  · rw [← Except.ok.inj (Option.some.inj h)]
    exact unrelated_row none _
  split at h
  · rw [← Except.ok.inj (Option.some.inj h)]
    exact unrelated_row _ none
  split at h
  · exact unrelated_typed (by simp [profileNames]) (Option.some.inj h)
  · cases h

theorem setKeys_unrelated {u : UserId} {keys : List String} {update : UpdateUserRequest}
    (h : Ldap.setKeys u keys = .ok update) : Unrelated update :=
  unrelated_typed (by simp [profileNames]) h

theorem replaceUpdate_unrelated {u : UserId} {atype : String} {vals : List String}
    {update : UpdateUserRequest} (h : Ldap.replaceUpdate u atype vals = .ok update) :
    Unrelated update := by
  unfold Ldap.replaceUpdate at h
  dsimp only at h
  split at h
  · cases h
  split at h
  · rename_i result hset
    rw [h] at hset
    exact setAttribute_unrelated hset
  split at h
  · exact setKeys_unrelated h
  split at h
  · cases h
  · cases h

section

variable {σ : Type} {readable : Services S σ} {u : UserId} {update : UpdateUserRequest}

theorem addUpdate_unrelated {atype : String} {vals : List String}
    (h : Eff.Returns (Ldap.addUpdate readable u atype vals) update) : Unrelated update := by
  unfold Ldap.addUpdate at h
  dsimp only at h
  split at h
  · cases Ldap.returns_liftLdap h
  split at h
  · obtain ⟨user, -, h⟩ := Ldap.returns_bind h
    exact setKeys_unrelated (Ldap.returns_liftLdap h)
  split at h
  · rename_i result hset
    rw [Ldap.returns_liftLdap h] at hset
    exact setAttribute_unrelated hset
  · exact (Ldap.not_returns_failWith h).elim

theorem deleteUpdate_unrelated {atype : String} {vals : List String}
    (h : Eff.Returns (Ldap.deleteUpdate readable u atype vals) update) : Unrelated update := by
  unfold Ldap.deleteUpdate at h
  dsimp only at h
  split at h
  · split at h
    · rw [Ldap.returns_pure h]
      exact unrelated_delete (by simp [profileNames])
    · obtain ⟨user, -, h⟩ := Ldap.returns_bind h
      split at h
      · rw [Ldap.returns_pure h]
        exact unrelated_delete (by simp [profileNames])
      · exact setKeys_unrelated (Ldap.returns_liftLdap h)
  split at h
  · rw [Ldap.returns_pure h]
    exact unrelated_delete (by simp [profileNames])
  split at h
  · rw [Ldap.returns_pure h]
    exact unrelated_delete (by simp [profileNames])
  split at h
  · rw [Ldap.returns_pure h]
    exact unrelated_delete (by simp [profileNames])
  · exact (Ldap.not_returns_failWith h).elim

theorem profileUpdate_unrelated {change : Ldap.LdapModify}
    (h : Eff.Returns (Ldap.profileUpdate readable u change) update) : Unrelated update := by
  unfold Ldap.profileUpdate at h
  dsimp only at h
  split at h
  · exact (Ldap.not_returns_failWith h).elim
  split at h
  · exact replaceUpdate_unrelated (Ldap.returns_liftLdap h)
  · exact addUpdate_unrelated h
  · exact deleteUpdate_unrelated h

end

theorem handleModifyRequest_keepsSynced (info : Ldap.LdapInfo) (v : ValidationResults)
    (request : Ldap.LdapModifyRequest) :
    Frames (InvImage KeepsSynced World.db)
      (Ldap.handleModifyRequest (sqlServices S setup rng out) info v request) := by
  unfold Ldap.handleModifyRequest
  split
  · exact (Keeps.fail _).frames
  · refine (Frames.each fun change _ => ?_).bind fun _ => (Keeps.pure _).frames
    exact Ldap.modifyStep_frames (sqlServices_passwords setup rng out) _ _ _
      fun update hreturns w hs =>
        updateUser_synced setup rng out ((profileUpdate_unrelated hreturns).leavesSynced w.db) hs

omit [External] [Ldap.Library] in
theorem recover_snd {σ α : Type} (m : Eff σ DomainError α) (default : α) (s : σ) :
    (Ldap.recover m default s).2 = (m s).2 := by
  unfold Ldap.recover
  rw [Eff.bind_run, Eff.attempt]
  cases (m s).1 with
  | ok a => rfl
  | error e => cases e <;> rfl

omit [Ldap.Library] in
theorem syncAfterModification_keepsSynced (v : ValidationResults) (uid : UserId)
    (password : String) :
    Frames (InvImage KeepsSynced World.db)
      (Ldap.syncAfterModification (sqlServices S setup rng out) v uid password) := by
  refine Ldap.within_of_readable fun w hs => ?_
  refine Eq.mpr (congrArg (fun w => Synced (World.db w)) (query_bind_snd _ _ _ w)) ?_
  cases huser : Sql.getUserDetails uid w.db with
  | error e => exact hs
  | ok user =>
    dsimp only
    split
    · rename_i hsync
      have hdb : w.db = (Kerberos.syncKerberosPrincipal out uid.asStr password w).2.db :=
        Kerberos.syncKerberosPrincipal_keepsDb _ _ w
      refine Eq.mpr (congrArg (fun w => Synced (World.db w)) (recover_snd _ _ _)) ?_
      have hstored := syncEnabled_stored hs huser hsync
      rw [hdb] at hs hstored
      exact ensure_synced setup rng out hs fun _ => hstored
    · exact hs

theorem doPasswordModification_keepsSynced (info : Ldap.LdapInfo) (v : ValidationResults)
    (request : Ldap.LdapPasswordModifyRequest) :
    Frames (InvImage KeepsSynced World.db)
      (Ldap.doPasswordModification info (sqlServices S setup rng out) v request) := by
  have hwithin := sqlServices_passwords setup rng out
  unfold Ldap.doPasswordModification
  split
  · split
    · exact (Keeps.fail _).frames
    · rename_i uid _
      refine Ldap.within_of_readable ((hwithin.getUserGroups uid).mapErr.bind fun groups => ?_)
      refine Frames.ite (Keeps.fail _).frames
        ((Ldap.changePassword_within hwithin _ _).mapErr.bind fun _ => ?_)
      exact (syncAfterModification_keepsSynced setup rng out v uid _).bind fun _ =>
        (Keeps.pure _).frames
  · exact (Keeps.fail _).frames

end Requests

/-- The requests that create users, change their attributes and change their passwords: the calls of
the backend, the two mutations, and the two ways of LDAP. -/
inductive AccountRequest where
  | createUser (request : CreateUserRequest)
  | updateUser (request : UpdateUserRequest)
  | setUserPassword (v : ValidationResults) (userId password : String)
  | syncKerberosPassword (v : ValidationResults) (userId encryptedPassword : String)
  | modify (v : ValidationResults) (request : Ldap.LdapModifyRequest)
  | passwordModify (v : ValidationResults) (request : Ldap.LdapPasswordModifyRequest)

/-- A request with what the outside answers while it runs. -/
structure AccountInput (S : Suite) where
  out : Outside
  rng : S.Coins
  request : AccountRequest

section Runs

variable [External] [Ldap.Library] {S : Suite} (setup : S.ServerSetup) (info : Ldap.LdapInfo)

def accountStep (w : World) (i : AccountInput S) : Bool × World :=
  let h := sqlServices S setup i.rng i.out
  match i.request with
  | .createUser request => answered (h.createUser request) w
  | .updateUser request => answered (h.updateUser request) w
  | .setUserPassword v userId password =>
    answered (GraphQL.setUserPassword ⟨h, v⟩ userId password) w
  | .syncKerberosPassword v userId encryptedPassword =>
    answered (GraphQL.syncKerberosPassword ⟨h, v⟩ userId encryptedPassword) w
  | .modify v request => answered (Ldap.handleModifyRequest h info v request) w
  | .passwordModify v request => answered (Ldap.doPasswordModification info h v request) w

/-- Updates leave the principal and `kerberossync` in step; the other requests may be any. -/
def AccountOk (w : World) (i : AccountInput S) : Prop :=
  ∀ request, i.request = .updateUser request → LeavesSynced request w.db

theorem accountStep_synced {w : World} {i : AccountInput S} (hs : Synced w.db)
    (hok : AccountOk w i) : Synced (accountStep setup info w i).2.db := by
  obtain ⟨out, rng, request⟩ := i
  unfold accountStep answered
  cases request with
  | createUser request => exact createUser_keepsSynced setup rng out request w hs
  | updateUser request => exact updateUser_synced setup rng out (hok request rfl) hs
  | setUserPassword v userId password =>
    exact setUserPassword_keepsSynced setup rng out v userId password w hs
  | syncKerberosPassword v userId encrypted =>
    exact syncKerberosPassword_keepsSynced setup rng out v userId encrypted w hs
  | modify v request =>
    dsimp only
    exact handleModifyRequest_keepsSynced setup rng out info v request w hs
  | passwordModify v request =>
    exact doPasswordModification_keepsSynced setup rng out info v request w hs

/-- In every run whose updates leave the principal and `kerberossync` in step, a principal is named
for users only whose `kerberossync` is 1. -/
theorem principals_synced {init : World} (h₀ : Synced init.db)
    {h : List (Lib.Event World (AccountInput S) Bool)} {w : World}
    (hr : Lib.Run (accountStep setup info) (fun _ w i => AccountOk w i) init h w) :
    PrincipalsSynced w.db :=
  (hr.invariant (P := fun _ w => Synced w.db) h₀ fun _ _ _ hs hok =>
    accountStep_synced setup info hs hok).principals

end Runs

/-! ## Removing `kerberossync` -/

section Samples

open Plain

instance : DecidablePred PrincipalsSynced := fun db =>
  inferInstanceAs (Decidable (∀ r ∈ db.users.rows, r.krbPrincipalName.getD "" ≠ "" →
    storedKerberossync db r.userId = some 1))

/-- A database without users whose schema has the attributes of the sample. -/
def noUsers : World :=
  world { Store.empty with
    userAttributeSchema := ⟨[⟨.new "kerberossync", .integer, false, true, false, true, false, "[]"⟩,
      ⟨.new "ou", .string, false, true, false, true, true, "[]"⟩], by decide⟩ }

def accountInput (request : AccountRequest) : AccountInput Opaque.plainSuite :=
  ⟨outside, (), request⟩

def createAlice : AccountInput Opaque.plainSuite :=
  accountInput (.createUser ⟨UserId.new "alice", ⟨"alice@example.com"⟩, none,
    [⟨.new "kerberossync", .integer (.singleton 1)⟩]⟩)

def setAlicePassword : AccountInput Opaque.plainSuite :=
  accountInput (.setUserPassword ⟨UserId.new "admin", .admin⟩ "alice" "secret")

def switchSyncOff : AccountInput Opaque.plainSuite :=
  accountInput (.updateUser ⟨UserId.new "alice", none, none, [],
    [⟨.new "kerberossync", .integer (.singleton 0)⟩]⟩)

def removeSync : AccountInput Opaque.plainSuite :=
  accountInput (.updateUser ⟨UserId.new "alice", none, none, [.new "kerberossync"], []⟩)

def afterRequests (inputs : List (AccountInput Opaque.plainSuite)) : World :=
  inputs.foldl (fun w i => (accountStep () ldapInfo w i).2) noUsers

theorem noUsers_synced : Synced noUsers.db :=
  ⟨⟨by decide +kernel, (fun _ hr => nomatch hr)⟩, (fun _ hr => nomatch hr)⟩

/-- A principal is named when the password is set, and stays as long as it should. -/
theorem principals_synced_alice :
    ((afterRequests [createAlice, setAlicePassword]).db.users.rows.map
      UserRow.krbPrincipalName) = [some "alice@EXAMPLE.COM"] ∧
    PrincipalsSynced (afterRequests [createAlice, setAlicePassword, switchSyncOff]).db := by
  refine ⟨by decide +kernel, ?_⟩
  have hok : ∀ i ∈ [createAlice, setAlicePassword, switchSyncOff],
      ∀ (h : List (Lib.Event World (AccountInput Opaque.plainSuite) Bool)) w, AccountOk w i := by
    intro i hi _ w request hrequest
    simp only [List.mem_cons, List.not_mem_nil, or_false] at hi
    rcases hi with rfl | rfl | rfl
    · cases hrequest
    · cases hrequest
    · cases hrequest
      exact .inr (.inl (by decide))
  have hnil : Lib.Run (accountStep (S := Opaque.plainSuite) () ldapInfo) (fun _ w i => AccountOk w i) noUsers [] noUsers :=
    .nil
  obtain ⟨h, hr⟩ := hnil.extend _ hok
  unfold afterRequests
  exact principals_synced () ldapInfo noUsers_synced hr

/-- Without the attribute the principal is still named. -/
theorem principal_without_kerberossync :
    Synced noUsers.db ∧
    (∃ h, Lib.Run (accountStep (S := Opaque.plainSuite) () ldapInfo) (fun _ _ _ => True) noUsers h
      (afterRequests [createAlice, setAlicePassword, removeSync])) ∧
    ¬ PrincipalsSynced (afterRequests [createAlice, setAlicePassword, removeSync]).db :=
  ⟨noUsers_synced, Lib.Run.nil.extend _ fun _ _ _ _ => trivial, by decide +kernel⟩

end Samples

end Klldap
