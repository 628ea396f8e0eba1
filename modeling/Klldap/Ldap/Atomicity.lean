import Klldap.Ldap.Handler
import Klldap.Principals
import Klldap.Sql.AttributeMap
import Klldap.Sql.Calm
import Klldap.World

/-!
# Klldap.Ldap.Atomicity: modify requests that fail

A modify request makes one change after the other, each in a transaction of its own, and stops at the
first that fails. The changes before it stay.
-/

namespace Klldap

open Lib (Eff except_bind_ok except_mapError_ok)
open Lib.Text
open Opaque (Suite)

namespace Ldap

/-- Some user was modified at the given time. -/
def Touched (now : DateTime) (db : Store) : Prop := ∃ r ∈ db.users.rows, r.modifiedDate = now

/-- A step that fails and changes nothing, or succeeds and marks a user as modified now. -/
def Commits {ε α : Type} (now : DateTime) (m : Eff World ε α) : Prop :=
  ∀ w, ((m w).1.isOk = false ∧ (m w).2 = w) ∨ ((m w).1.isOk = true ∧ Touched now (m w).2.db)

section

variable {ε ε' α β : Type} {now : DateTime}

theorem Commits.fail (e : ε) : Commits now (Eff.fail e : Eff World ε α) := fun _ => .inl ⟨rfl, rfl⟩

theorem Commits.mapErr {m : Eff World ε α} (h : Commits now m) (f : ε → ε') : Commits now (m.mapErr f) := by
  intro w
  unfold Eff.mapErr
  rcases h w with ⟨herr, hw⟩ | ⟨hok, ht⟩
  · refine .inl ⟨?_, hw⟩
    revert herr
    cases (m w).1 <;> exact id
  · refine .inr ⟨?_, ht⟩
    revert hok
    cases (m w).1 <;> exact id

theorem Commits.after {m : Eff World ε α} {f : α → Eff World ε β} (hm : Eff.Keeps m)
    (hf : ∀ a, Commits now (f a)) : Commits now (m >>= f) := by
  intro w
  have hw : w = (m w).2 := hm w
  rw [Eff.bind_run]
  cases hrun : m w with
  | mk r w' =>
    rw [hrun] at hw
    subst hw
    cases r with
    | ok a => exact hf a w
    | error e => exact .inl ⟨rfl, rfl⟩

theorem Commits.before {m : Eff World ε α} {f : α → Eff World ε β} (hm : Commits now m)
    (hf : ∀ a w, (f a w).1.isOk = true ∧ (f a w).2.db = w.db) : Commits now (m >>= f) := by
  intro w
  have hcases := hm w
  rw [Eff.bind_run]
  cases hrun : m w with
  | mk r w' =>
    rw [hrun] at hcases
    cases r with
    | ok a =>
      rcases hcases with ⟨herr, -⟩ | ⟨-, ht⟩
      · cases herr
      · obtain ⟨hok, hdb⟩ := hf a w'
        refine .inr ⟨hok, ?_⟩
        show Touched now (f a w').2.db
        rw [hdb]
        exact ht
    | error e =>
      rcases hcases with ⟨-, hw⟩ | ⟨hok, -⟩
      · exact .inl ⟨rfl, hw⟩
      · cases hok

theorem each_touched {f : α → Eff World ε Unit} (hf : ∀ a, Commits now (f a)) (l : List α) {w : World}
    (h : Touched now w.db) : Touched now (Eff.each f l w).2.db := by
  induction l generalizing w with
  | nil => exact h
  | cons a l ih =>
    rw [Eff.each, Eff.bind_run]
    have hcases := hf a w
    cases hrun : f a w with
    | mk r w' =>
      rw [hrun] at hcases
      cases r with
      | error e =>
        rcases hcases with ⟨-, hw⟩ | ⟨hok, -⟩
        · show Touched now w'.db
          have hw : w' = w := hw
          rw [hw]
          exact h
        · cases hok
      | ok _ =>
        rcases hcases with ⟨herr, -⟩ | ⟨-, ht⟩
        · cases herr
        · exact ih ht

theorem each_atomic {f : α → Eff World ε Unit} (hf : ∀ a, Commits now (f a)) {l : List α} {w : World}
    (herr : (Eff.each f l w).1.isOk = false) :
    ((∀ a, l.head? = some a → (f a w).1.isOk = false) → (Eff.each f l w).2 = w) ∧
      (¬Touched now w.db → (Eff.each f l w).2 = w →
        ∀ a, l.head? = some a → (f a w).1.isOk = false) := by
  cases l with
  | nil => cases herr
  | cons a l =>
    have hcases := hf a w
    simp only [List.head?_cons, Option.some.injEq, forall_eq']
    rw [Eff.each, Eff.bind_run] at herr ⊢
    cases hrun : f a w with
    | mk r w' =>
      rw [hrun] at hcases
      cases r with
      | error e =>
        rcases hcases with ⟨-, hw⟩ | ⟨hok, -⟩
        · exact ⟨fun _ => hw, fun _ _ => rfl⟩
        · cases hok
      | ok _ =>
        rcases hcases with ⟨herr, -⟩ | ⟨-, ht⟩
        · cases herr
        · refine ⟨fun h => (by cases h), fun hclock hsame => absurd ?_ hclock⟩
          have hlater := each_touched hf l ht
          have hsame : (Eff.each f l w').2 = w := hsame
          rw [hsame] at hlater
          exact hlater

end

/-! ## The changes -/

section

variable [External] {S : Suite} (setup : S.ServerSetup) (rng : S.Coins) (out : Outside)

omit [External] in
theorem touched_update {now : DateTime} {u : UserId} {f : UserRow → UserRow}
    {hf : ∀ r, (f r).userId = r.userId} {t : Lib.Table UserRow UserId UserRow.userId}
    (hu : (t.find? u).isSome = true) (hnow : ∀ r, (f r).modifiedDate = now) :
    ∃ r ∈ (t.update u f hf).rows, r.modifiedDate = now := by
  obtain ⟨row, hrow⟩ := Option.isSome_iff_exists.mp hu
  have hfind : (t.update u f hf).find? u = some (f row) := by
    rw [Lib.Table.find?_update]
    simp [hrow]
  exact ⟨f row, Lib.Table.mem_of_find? hfind, hnow row⟩

omit [External] in
theorem commits_onDb {ε α : Type} {now : DateTime} {m : Eff Store ε α}
    (h : ∀ db, ((m db).1.isOk = false ∧ (m db).2 = db) ∨ ((m db).1.isOk = true ∧ Touched now (m db).2)) :
    Commits now (onDb m) := by
  intro w
  rcases h w.db with ⟨herr, hdb⟩ | ⟨hok, ht⟩
  · refine .inl ⟨herr, ?_⟩
    show { w with db := (m w.db).2 } = w
    rw [hdb]
  · exact .inr ⟨hok, ht⟩

theorem touched_updatedUsers {now : DateTime} {request : UpdateUserRequest} (kerb : Option Bool)
    {t : Lib.Table UserRow UserId UserRow.userId} (hu : (t.find? request.userId).isSome = true) :
    ∃ r ∈ (Sql.updatedUsers now request kerb t).rows, r.modifiedDate = now := by
  unfold Sql.updatedUsers
  dsimp only
  split
  · refine touched_update ?_ fun _ => rfl
    rw [Lib.Table.isSome_find?_update _ _ _ _ Sql.applyTo_userId]
    exact hu
  · exact touched_update hu fun _ => rfl

theorem updateUser_commits (request : UpdateUserRequest) :
    Commits out.now (Sql.updateUser out request) := by
  refine Commits.before (commits_onDb fun db => ?_) fun kerb w => ?_
  · unfold Eff.transaction
    cases hrun : Sql.updateUserWithTransaction out.now request db with
    | mk r db' =>
      cases r with
      | error e => exact .inl ⟨rfl, rfl⟩
      | ok kerb =>
        obtain ⟨schema, changes, -, -, -, hfits, -, -, rfl⟩ := Sql.updateUserWithTransaction_ok.mp hrun
        exact .inr ⟨rfl, touched_updatedUsers _ hfits.user⟩
  · split
    · refine ⟨rfl, ?_⟩
      exact Kerberos.deleteKerberosPrincipal_db out request.userId.asStr w
    · exact ⟨rfl, rfl⟩

omit [External] in
theorem registrationFinish_commits (request : Opaque.ClientRegistrationFinishRequest S) :
    Commits out.now (onDb (Opaque.registrationFinish S setup out.now request)) := by
  refine commits_onDb fun db => ?_
  cases hrun : Opaque.registrationFinish S setup out.now request db with
  | mk r db' =>
    cases r with
    | ok _ =>
      obtain ⟨u, -, hu, rfl⟩ := Opaque.registrationFinish_ok.mp hrun
      refine .inr ⟨rfl, ?_⟩
      exact @touched_update out.now u (fun r =>
        { r with
          passwordHash := some (S.serializeRegistration (S.getPasswordFile request.registrationUpload))
          passwordModifiedDate := out.now
          modifiedDate := out.now }) (fun _ => rfl) db.users hu fun _ => rfl
    | error e =>
      refine .inl ⟨rfl, ?_⟩
      unfold Opaque.registrationFinish at hrun
      rw [Eff.bind_run, Eff.lift_run] at hrun
      cases htarget : Opaque.registrationTarget S setup request.serverData with
      | error e' =>
        rw [htarget] at hrun
        exact (Prod.mk.inj hrun).2.symm
      | ok u =>
        rw [htarget] at hrun
        dsimp only at hrun
        rw [Eff.bind_run, Eff.reads_run] at hrun
        cases hrow : db.users.find? u with
        | none =>
          rw [hrow] at hrun
          exact (Prod.mk.inj hrun).2.symm
        | some row =>
          rw [hrow] at hrun
          cases (Prod.mk.inj hrun).1

variable [Library]

omit [Library] in
theorem syncAfterReplace_ok (userId : UserId) (value : Lib.Bytes) (w : World) :
    (syncAfterReplace (sqlServices S setup rng out) (sqlServices S setup rng out) userId value w).1.isOk =
        true ∧
      (syncAfterReplace (sqlServices S setup rng out) (sqlServices S setup rng out) userId value w).2.db =
        w.db := by
  unfold syncAfterReplace
  cases Lib.Bincode.ofUtf8? value with
  | none => exact ⟨rfl, rfl⟩
  | some plainPass =>
    have hread : ((sqlServices S setup rng out).getUserDetails userId).attempt w =
        ((.ok (Sql.getUserDetails userId w.db), w) : Except Failure _ × World) := rfl
    dsimp only
    rw [Eff.bind_run, hread]
    cases huser : Sql.getUserDetails userId w.db with
    | error e =>
      cases e with
      | panicked msg => exact absurd rfl (Sql.getUserDetails_calm huser msg)
      | _ => exact ⟨rfl, rfl⟩
    | ok user =>
      refine ⟨rfl, ?_⟩
      exact (syncIfEnabled_keepsDb setup rng out (syncEnabled user) userId.asStr plainPass w).symm

theorem modifyPassword_commits (userId : UserId) (credentials : ValidationResults) (userIsAdmin : Bool)
    (change : LdapModify) :
    Commits out.now (modifyPassword (sqlServices S setup rng out) (sqlServices S setup rng out) userId
      credentials userIsAdmin change) := by
  unfold modifyPassword
  split
  · exact Commits.fail _
  split
  · exact Commits.fail _
  split
  · refine Commits.before (Commits.mapErr ?_ _) fun _ w => ?_
    · unfold changePassword
      refine Commits.after (Eff.Keeps.lift _) fun start => ?_
      refine Commits.after (fun _ => rfl) fun response => ?_
      refine Commits.after (Eff.Keeps.lift _) fun upload => ?_
      exact (registrationFinish_commits setup out _).mapErr _
    · exact syncAfterReplace_ok setup rng out userId _ w
  · exact Commits.fail _

theorem profileUpdate_frames {σ : Type} {h : Services S σ} {R : σ → σ → Prop} [Std.Refl R] [IsTrans σ R]
    {userId : UserId} (hread : Eff.Frames R (h.getUserDetails userId)) (change : LdapModify) :
    Eff.Frames R (profileUpdate h userId change) := by
  have huser : Eff.Frames R (currentUser h userId) := hread.mapErr
  refine Eff.Frames.ite (Eff.Keeps.fail _).frames ?_
  split
  · exact (Eff.Keeps.lift _).frames
  · refine Eff.Frames.ite (Eff.Keeps.lift _).frames (Eff.Frames.ite ?_ ?_)
    · exact huser.bind fun _ => (Eff.Keeps.lift _).frames
    · split
      · exact (Eff.Keeps.lift _).frames
      · exact (Eff.Keeps.fail _).frames
  · refine Eff.Frames.ite (Eff.Frames.ite (Eff.Keeps.pure _).frames ?_)
      (Eff.Frames.ite (Eff.Keeps.pure _).frames (Eff.Frames.ite (Eff.Keeps.pure _).frames
        (Eff.Frames.ite (Eff.Keeps.pure _).frames (Eff.Keeps.fail _).frames)))
    exact huser.bind fun _ => Eff.Frames.ite (Eff.Keeps.pure _).frames (Eff.Keeps.lift _).frames

theorem modifyProfile_commits (userId : UserId) (credentials : ValidationResults) (userIsAdmin : Bool)
    (change : LdapModify) :
    Commits out.now (modifyProfile (sqlServices S setup rng out) (sqlServices S setup rng out) userId
      credentials userIsAdmin change) := by
  unfold modifyProfile
  split
  · exact Commits.fail _
  · have hread : Eff.Frames Eq ((sqlServices S setup rng out).getUserDetails userId) :=
      onDb_query_keeps (Sql.getUserDetails userId)
    refine Commits.after (profileUpdate_frames hread change) fun update => ?_
    exact (updateUser_commits out update).mapErr _

omit [External] [Library] in
theorem commits_refused {α β : Type} {now : DateTime} {message : String} {view : Option α}
    {f : α → Eff World Failure β} (hf : ∀ h, view = some h → Commits now (f h)) :
    Commits now (orRefused message view >>= f) := by
  cases view with
  | none => exact Commits.fail _
  | some h => exact hf h rfl

theorem modifyStep_commits (uid : UserId) (credentials : ValidationResults) (change : LdapModify) :
    Commits out.now (modifyStep (sqlServices S setup rng out) uid credentials change) := by
  unfold modifyStep
  refine commits_refused fun readable hreadable => commits_refused fun writeable hwriteable => ?_
  have hr : readable = sqlServices S setup rng out := by
    unfold getReadableHandler at hreadable
    split at hreadable <;> cases hreadable
    rfl
  have hw : writeable = sqlServices S setup rng out := by
    unfold getWriteableHandler at hwriteable
    split at hwriteable <;> cases hwriteable
    rfl
  subst hr hw
  refine Commits.after (onDb_query_keeps (Sql.getUserGroups uid)) fun groups => ?_
  unfold handleModifyChange
  split
  · exact modifyPassword_commits setup rng out uid credentials _ change
  · exact modifyProfile_commits setup rng out uid credentials _ change

end

/-! ## Changes that are made -/

section

variable [External] [Library]

/-- The update of a user that a change of another attribute than the password amounts to. The values
are those that are texts. -/
inductive UpdateOf (db : Store) (uid : UserId) (change : LdapModify) : UpdateUserRequest → Prop
  | set {update : UpdateUserRequest} (hop : change.operation ≠ .delete)
      (hvals : textsOf change.modification.vals ≠ [])
      (h : setAttribute uid (asciiLower change.modification.atype)
        (textsOf change.modification.vals) = some (.ok update)) : UpdateOf db uid change update
  | replaceKeys {update : UpdateUserRequest} (hop : change.operation = .replace)
      (hname : isSshPublicKey (asciiLower change.modification.atype) = true)
      (hvals : textsOf change.modification.vals ≠ [])
      (h : setKeys uid (textsOf change.modification.vals) = .ok update) :
      UpdateOf db uid change update
  | addKeys {user : User} {update : UpdateUserRequest} (hop : change.operation = .add)
      (hname : isSshPublicKey (asciiLower change.modification.atype) = true)
      (hvals : textsOf change.modification.vals ≠ []) (huser : Sql.getUserDetails uid db = .ok user)
      (h : setKeys uid (addMissing (keysOf user) (textsOf change.modification.vals)) = .ok update) :
      UpdateOf db uid change update
  | deleteAllKeys (hop : change.operation = .delete)
      (hname : isSshPublicKey (asciiLower change.modification.atype) = true)
      (hvals : textsOf change.modification.vals = []) : UpdateOf db uid change (deleteKeys uid)
  | deleteSomeKeys {user : User} {update : UpdateUserRequest} (hop : change.operation = .delete)
      (hname : isSshPublicKey (asciiLower change.modification.atype) = true)
      (hvals : textsOf change.modification.vals ≠ []) (huser : Sql.getUserDetails uid db = .ok user)
      (h : (if ((keysOf user).filter fun key =>
          !(textsOf change.modification.vals).contains key).isEmpty
        then .ok (deleteKeys uid)
        else setKeys uid ((keysOf user).filter fun key =>
          !(textsOf change.modification.vals).contains key)) = .ok update) :
      UpdateOf db uid change update
  | deleteName {names : List String} {stored : String} (hop : change.operation = .delete)
      (hknown : (names, stored) ∈ [(["givenname", "given_name"], "first_name"),
        (["sn", "surname"], "last_name"), (["avatar", "jpegphoto", "jpeg_photo"], "avatar")])
      (hname : asciiLower change.modification.atype ∈ names) :
      UpdateOf db uid change { noUpdate uid with deleteAttributes := [.new stored] }

/-- The database takes the update: its attributes can be written, their numbers pass the check, the
user is stored and nobody else has the email. -/
def TakesUpdate (update : UpdateUserRequest) (db : Store) : Prop :=
  ∃ schema changes, Sql.getSchema db = .ok schema ∧
    Sql.computeUserAttributeChanges update.userId update.insertAttributes update.deleteAttributes
      schema = .ok changes ∧
    (∀ row ∈ changes.updates, Sql.checkUserNumber db row = .ok ()) ∧ Sql.UpdateFits update db ∧
    ∀ row ∈ changes.updates, Sql.HasUserKeys row db

omit [External] [Library] in
/-- The registration of a password goes through: the libraries play their parts and the blob names a
stored user. -/
def Registers (S : Suite) (setup : S.ServerSetup) (rng : S.Coins) (uid : UserId)
    (password : Lib.Bytes) (db : Store) : Prop :=
  ∃ state message start upload u,
    S.clientStartRegistration password rng = .ok (state, message) ∧
    Opaque.registrationStart S setup rng ⟨uid, message⟩ db = (.ok start, db) ∧
    S.clientFinishRegistration state password start.registrationResponse rng = .ok upload ∧
    Opaque.registrationTarget S setup start.serverData = .ok u ∧ (db.users.find? u).isSome = true

/-- The change is made for the session, by its rights, the type and the values of the change, and the
stored rows. -/
structure Accepted (S : Suite) (setup : S.ServerSetup) (rng : S.Coins) (uid : UserId)
    (credentials : ValidationResults) (change : LdapModify) (db : Store) : Prop where
  rights : credentials.canWrite uid = true
  user : (db.users.find? uid).isSome = true
  fits : if isPasswordChange change then
      change.operation = .replace ∧
        ∃ value, change.modification.vals = [value] ∧ Registers S setup rng uid value db
    else ∃ update, UpdateOf db uid change update ∧ TakesUpdate update db

omit [External] [Library] in
theorem bind_isOk {σ ε α β : Type} {m : Eff σ ε α} {f : α → Eff σ ε β} {s : σ} :
    ((m >>= f) s).1.isOk = true ↔ ∃ a s', m s = (.ok a, s') ∧ (f a s').1.isOk = true := by
  rw [Eff.bind_run]
  cases m s with
  | mk r s' => cases r <;> simp [Except.isOk, Except.toBool]

omit [External] [Library] in
theorem mapErr_isOk {σ ε ε' α : Type} {m : Eff σ ε α} {f : ε → ε'} {s : σ} :
    (m.mapErr f s).1.isOk = (m s).1.isOk := by
  unfold Eff.mapErr
  cases (m s).1 <;> rfl

theorem setAttribute_key {uid : UserId} {name : String} {vals : List String}
    (h : isSshPublicKey name = true) : setAttribute uid name vals = none := by
  have hname : name ∈ ["sshpublickey", "ssh_public_key"] := by simpa [isSshPublicKey] using h
  simp only [List.mem_cons, List.not_mem_nil, or_false] at hname
  rcases hname with rfl | rfl <;> rfl

omit [External] [Library] in
theorem isProtectedName_key {name : String} (h : isSshPublicKey name = true) :
    ¬isProtectedName name = true := by
  have hname : name ∈ ["sshpublickey", "ssh_public_key"] := by simpa [isSshPublicKey] using h
  simp only [List.mem_cons, List.not_mem_nil, or_false] at hname
  rcases hname with rfl | rfl <;> decide

omit [External] [Library] in
theorem deletable_name {names : List String} {stored name : String}
    (hknown : (names, stored) ∈ [(["givenname", "given_name"], "first_name"),
      (["sn", "surname"], "last_name"), (["avatar", "jpegphoto", "jpeg_photo"], "avatar")])
    (hname : name ∈ names) : ¬isSshPublicKey name = true ∧ ¬isProtectedName name = true := by
  have hall : ∀ p ∈ [(["givenname", "given_name"], "first_name"), (["sn", "surname"], "last_name"),
      (["avatar", "jpegphoto", "jpeg_photo"], "avatar")], ∀ n ∈ p.1,
        ¬isSshPublicKey n = true ∧ ¬isProtectedName n = true := by decide
  exact hall _ hknown name hname

section

variable {S : Suite} {setup : S.ServerSetup} {rng : S.Coins} {out : Outside} {uid : UserId}
  {change : LdapModify} {w : World} {update : UpdateUserRequest}

omit [External] [Library] in
theorem liftLdap_fst {α : Type} {r : LdapResult α} {a : α} :
    (liftLdap r w).1 = .ok a ↔ r = .ok a := except_mapError_ok

omit [Library] in
theorem currentUser_bind_ok {f : User → LdapResult UpdateUserRequest} :
    ((currentUser (sqlServices S setup rng out) uid >>= fun user => liftLdap (f user)) w).1 =
        .ok update ↔
      ∃ user, Sql.getUserDetails uid w.db = .ok user ∧ f user = .ok update := by
  have hrun : currentUser (sqlServices S setup rng out) uid w =
      ((Sql.getUserDetails uid w.db).mapError _, w) := rfl
  rw [Eff.bind_run, hrun]
  cases Sql.getUserDetails uid w.db with
  | error e => simp [Except.mapError]
  | ok user => simp [Except.mapError, liftLdap_fst]

theorem replaceUpdate_ok {atype : String} {vals : List String} :
    replaceUpdate uid atype vals = .ok update ↔ vals ≠ [] ∧
      (setAttribute uid (asciiLower atype) vals = some (.ok update) ∨
        isSshPublicKey (asciiLower atype) = true ∧ setKeys uid vals = .ok update) := by
  unfold replaceUpdate
  by_cases hvals : vals = []
  · simp [hvals]
  · by_cases hkey : isSshPublicKey (asciiLower atype) = true
    · simp [hvals, hkey, setAttribute_key hkey]
    · cases hset : setAttribute uid (asciiLower atype) vals with
      | some r => simp [hvals, hkey, hset]
      | none =>
        simp only [hvals, hkey, hset, List.isEmpty_iff]
        split_ifs <;> simp

theorem addUpdate_ok {atype : String} {vals : List String} :
    (addUpdate (sqlServices S setup rng out) uid atype vals w).1 = .ok update ↔ vals ≠ [] ∧
      (setAttribute uid (asciiLower atype) vals = some (.ok update) ∨
        isSshPublicKey (asciiLower atype) = true ∧ ∃ user, Sql.getUserDetails uid w.db = .ok user ∧
          setKeys uid (addMissing (keysOf user) vals) = .ok update) := by
  unfold addUpdate
  by_cases hvals : vals = []
  · simp [hvals, liftLdap_fst]
  · by_cases hkey : isSshPublicKey (asciiLower atype) = true
    · simp [hvals, hkey, setAttribute_key hkey, currentUser_bind_ok]
    · cases hset : setAttribute uid (asciiLower atype) vals with
      | some r => simp [hvals, hkey, liftLdap_fst]
      | none => simp [hvals, hkey, failWith]

theorem deleteUpdate_keys_ok {atype : String} {vals : List String}
    (hkey : isSshPublicKey (asciiLower atype) = true) :
    (deleteUpdate (sqlServices S setup rng out) uid atype vals w).1 = .ok update ↔
      vals = [] ∧ update = deleteKeys uid ∨
      vals ≠ [] ∧ ∃ user, Sql.getUserDetails uid w.db = .ok user ∧
        (if ((keysOf user).filter fun key => !vals.contains key).isEmpty then .ok (deleteKeys uid)
          else setKeys uid ((keysOf user).filter fun key => !vals.contains key)) = .ok update := by
  by_cases hvals : vals = []
  · subst hvals
    simp only [deleteUpdate, hkey, if_true, List.isEmpty_nil, Eff.pure_run, Except.ok.injEq, true_and,
      ne_eq, not_true_eq_false, false_and, or_false]
    exact eq_comm
  · have hbody : (fun user : User =>
        if ((keysOf user).filter fun key => !vals.contains key).isEmpty then
          (pure (deleteKeys uid) : Eff World Failure UpdateUserRequest)
        else liftLdap (setKeys uid ((keysOf user).filter fun key => !vals.contains key))) =
        fun user => liftLdap
          (if ((keysOf user).filter fun key => !vals.contains key).isEmpty then .ok (deleteKeys uid)
            else setKeys uid ((keysOf user).filter fun key => !vals.contains key)) := by
      funext user
      split_ifs <;> rfl
    have hempty : ¬vals.isEmpty = true := by simpa using hvals
    unfold deleteUpdate
    dsimp only
    rw [if_pos hkey, if_neg hempty, hbody, currentUser_bind_ok]
    simp [hvals]

theorem deleteUpdate_name_ok {atype : String} {vals : List String}
    (hkey : ¬isSshPublicKey (asciiLower atype) = true) :
    (deleteUpdate (sqlServices S setup rng out) uid atype vals w).1 = .ok update ↔
      ∃ names stored, (names, stored) ∈ [(["givenname", "given_name"], "first_name"),
        (["sn", "surname"], "last_name"), (["avatar", "jpegphoto", "jpeg_photo"], "avatar")] ∧
        asciiLower atype ∈ names ∧
        update = { noUpdate uid with deleteAttributes := [.new stored] } := by
  have hrun : (deleteUpdate (sqlServices S setup rng out) uid atype vals w).1 = .ok update ↔
      (if asciiLower atype ∈ ["givenname", "given_name"] then some "first_name"
        else if asciiLower atype ∈ ["sn", "surname"] then some "last_name"
        else if asciiLower atype ∈ ["avatar", "jpegphoto", "jpeg_photo"] then some "avatar"
        else none).map (fun stored => { noUpdate uid with deleteAttributes := [.new stored] }) =
          some update := by
    unfold deleteUpdate
    dsimp only
    rw [if_neg hkey]
    simp only [List.contains_iff_mem]
    split_ifs <;> simp [failWith]
  rw [hrun]
  generalize asciiLower atype = name
  constructor
  · intro h
    obtain ⟨stored, hstored, hupdate⟩ := Option.map_eq_some_iff.mp h
    split_ifs at hstored with hfirst hlast havatar <;> cases hstored
    · exact ⟨_, _, .head _, hfirst, hupdate.symm⟩
    · exact ⟨_, _, .tail _ (.head _), hlast, hupdate.symm⟩
    · exact ⟨_, _, .tail _ (.tail _ (.head _)), havatar, hupdate.symm⟩
  · rintro ⟨names, stored, hknown, hname, rfl⟩
    simp only [List.mem_cons, Prod.mk.injEq, List.not_mem_nil, or_false] at hknown
    rcases hknown with ⟨rfl, rfl⟩ | ⟨rfl, rfl⟩ | ⟨rfl, rfl⟩
    · rw [if_pos hname]
      rfl
    · simp only [List.mem_cons, List.not_mem_nil, or_false] at hname
      rcases hname with rfl | rfl <;> rfl
    · simp only [List.mem_cons, List.not_mem_nil, or_false] at hname
      rcases hname with rfl | rfl | rfl <;> rfl

theorem profileUpdate_ok :
    (profileUpdate (sqlServices S setup rng out) uid change w).1 = .ok update ↔
      UpdateOf w.db uid change update := by
  cases hop : change.operation with
  | replace =>
    unfold profileUpdate
    rw [hop]
    have hnot : ¬change.operation = .delete := by simp [hop]
    simp only [reduceCtorEq, Bool.false_and, decide_false, if_false, liftLdap_fst, replaceUpdate_ok]
    constructor
    · rintro ⟨hvals, hset | ⟨hkey, hset⟩⟩
      · exact .set hnot hvals hset
      · exact .replaceKeys hop hkey hvals hset
    · intro h
      cases h with
      | set _ hvals hset => exact ⟨hvals, .inl hset⟩
      | replaceKeys _ hkey hvals hset => exact ⟨hvals, .inr ⟨hkey, hset⟩⟩
      | addKeys hop' => cases hop.symm.trans hop'
      | deleteAllKeys hop' => exact absurd hop' hnot
      | deleteSomeKeys hop' => exact absurd hop' hnot
      | deleteName hop' => exact absurd hop' hnot
  | add =>
    unfold profileUpdate
    rw [hop]
    have hnot : ¬change.operation = .delete := by simp [hop]
    simp only [reduceCtorEq, Bool.false_and, decide_false, if_false, addUpdate_ok]
    constructor
    · rintro ⟨hvals, hset | ⟨hkey, user, huser, hset⟩⟩
      · exact .set hnot hvals hset
      · exact .addKeys hop hkey hvals huser hset
    · intro h
      cases h with
      | set _ hvals hset => exact ⟨hvals, .inl hset⟩
      | replaceKeys hop' => cases hop.symm.trans hop'
      | addKeys _ hkey hvals huser hset => exact ⟨hvals, .inr ⟨hkey, _, huser, hset⟩⟩
      | deleteAllKeys hop' => exact absurd hop' hnot
      | deleteSomeKeys hop' => exact absurd hop' hnot
      | deleteName hop' => exact absurd hop' hnot
  | delete =>
    have hiff : (profileUpdate (sqlServices S setup rng out) uid change w).1 = .ok update ↔
        ¬isProtectedName (asciiLower change.modification.atype) = true ∧
          (deleteUpdate (sqlServices S setup rng out) uid change.modification.atype
            (textsOf change.modification.vals) w).1 = .ok update := by
      unfold profileUpdate
      by_cases hprot : isProtectedName (asciiLower change.modification.atype) = true
      · simp [hop, hprot, failWith]
      · simp [hop, hprot]
    rw [hiff]
    by_cases hkey : isSshPublicKey (asciiLower change.modification.atype) = true
    · rw [deleteUpdate_keys_ok hkey]
      constructor
      · rintro ⟨-, ⟨hvals, rfl⟩ | ⟨hvals, user, huser, hset⟩⟩
        · exact .deleteAllKeys hop hkey hvals
        · exact .deleteSomeKeys hop hkey hvals huser hset
      · intro h
        refine ⟨isProtectedName_key hkey, ?_⟩
        cases h with
        | set hop' => exact absurd hop hop'
        | replaceKeys hop' => cases hop.symm.trans hop'
        | addKeys hop' => cases hop.symm.trans hop'
        | deleteAllKeys _ _ hvals => exact .inl ⟨hvals, rfl⟩
        | deleteSomeKeys _ _ hvals huser hset => exact .inr ⟨hvals, _, huser, hset⟩
        | deleteName _ hknown hname => exact absurd hkey (deletable_name hknown hname).1
    · rw [deleteUpdate_name_ok hkey]
      constructor
      · rintro ⟨-, names, stored, hknown, hname, rfl⟩
        exact .deleteName hop hknown hname
      · intro h
        cases h with
        | set hop' => exact absurd hop hop'
        | replaceKeys hop' => cases hop.symm.trans hop'
        | addKeys hop' => cases hop.symm.trans hop'
        | deleteAllKeys _ hkey' => exact absurd hkey' hkey
        | deleteSomeKeys _ hkey' => exact absurd hkey' hkey
        | deleteName _ hknown hname =>
          exact ⟨(deletable_name hknown hname).2, _, _, hknown, hname, rfl⟩

omit [Library] in
theorem updateUser_isOk : (Sql.updateUser out update w).1.isOk = true ↔ TakesUpdate update w.db := by
  unfold Sql.updateUser
  rw [bind_isOk]
  constructor
  · rintro ⟨kerb, w', hrun, -⟩
    obtain ⟨schema, changes, hschema, hchanges, hnumbers, hfits, hrows, -, -⟩ :=
      Sql.updateUserWithTransaction_ok.mp (Eff.transaction_ok (onDb_ok hrun))
    exact ⟨schema, changes, hschema, hchanges, hnumbers, hfits, hrows⟩
  · rintro ⟨schema, changes, hschema, hchanges, hnumbers, hfits, hrows⟩
    have hrun : ∃ db', Sql.updateUserWithTransaction out.now update w.db =
        (.ok changes.kerbSyncEnabled, db') :=
      ⟨_, Sql.updateUserWithTransaction_ok.mpr
        ⟨schema, changes, hschema, hchanges, hnumbers, hfits, hrows, rfl, rfl⟩⟩
    obtain ⟨db', hrun⟩ := hrun
    refine ⟨changes.kerbSyncEnabled, { w with db := db' }, ?_, ?_⟩
    · rw [onDb, Eff.zoom, Eff.transaction, hrun]
    · split <;> rfl

theorem modifyProfile_isOk {credentials : ValidationResults} {userIsAdmin : Bool}
    (hrights : credentials.canChangePassword uid userIsAdmin = true) :
    (modifyProfile (sqlServices S setup rng out) (sqlServices S setup rng out) uid credentials
      userIsAdmin change w).1.isOk = true ↔
      ∃ update, UpdateOf w.db uid change update ∧ TakesUpdate update w.db := by
  have hkeeps : w = (profileUpdate (sqlServices S setup rng out) uid change w).2 :=
    profileUpdate_frames (h := sqlServices S setup rng out) (R := Eq)
      (show Eff.Frames Eq (onDb (Eff.query (Sql.getUserDetails uid))) from onDb_query_keeps _) change w
  unfold modifyProfile
  rw [if_neg (by simp [hrights]), bind_isOk]
  constructor
  · rintro ⟨update, w', hupdate, hok⟩
    rw [hupdate] at hkeeps
    subst hkeeps
    refine ⟨update, profileUpdate_ok.mp (congrArg Prod.fst hupdate), ?_⟩
    rw [orLdap, mapErr_isOk] at hok
    exact updateUser_isOk.mp hok
  · rintro ⟨update, hupdate, htakes⟩
    refine ⟨update, w, Prod.ext (profileUpdate_ok.mpr hupdate) hkeeps.symm, ?_⟩
    rw [orLdap, mapErr_isOk]
    exact updateUser_isOk.mpr htakes

omit [Library] in
theorem changePassword_isOk {password : Lib.Bytes} :
    (changePassword (sqlServices S setup rng out) uid password w).1.isOk = true ↔
      Registers S setup rng uid password w.db := by
  unfold changePassword
  constructor
  · intro h
    obtain ⟨⟨state, message⟩, w₁, hclient, h⟩ := bind_isOk.mp h
    obtain rfl : w = w₁ := congrArg Prod.snd hclient
    obtain ⟨start, w₂, hstart, h⟩ := bind_isOk.mp h
    have hstart := onDb_ok (Eff.mapErr_ok.mp hstart)
    obtain ⟨upload, w₃, hupload, h⟩ := bind_isOk.mp h
    obtain rfl : w₂ = w₃ := congrArg Prod.snd hupload
    have hdb : w.db = w₂.db := congrArg Prod.snd hstart
    rw [← hdb] at hstart
    rw [mapErr_isOk] at h
    have hfinish : (Opaque.registrationFinish S setup out.now ⟨start.serverData, upload⟩
        w₂.db).1.isOk = true := h
    cases hrun : Opaque.registrationFinish S setup out.now ⟨start.serverData, upload⟩ w₂.db with
    | mk r db' =>
      rw [hrun] at hfinish
      cases r with
      | error e => cases hfinish
      | ok _ =>
        obtain ⟨u, htarget, hu, -⟩ := Opaque.registrationFinish_ok.mp hrun
        rw [← hdb] at hu
        exact ⟨state, message, start, upload, u, except_mapError_ok.mp (congrArg Prod.fst hclient),
          hstart, except_mapError_ok.mp (congrArg Prod.fst hupload), htarget, hu⟩
  · rintro ⟨state, message, start, upload, u, hclient, hstart, hupload, htarget, hu⟩
    refine bind_isOk.mpr ⟨(state, message), w, Prod.ext (except_mapError_ok.mpr hclient) rfl, ?_⟩
    refine bind_isOk.mpr ⟨start, w, Eff.mapErr_ok.mpr ?_, ?_⟩
    · show onDb (Opaque.registrationStart S setup rng ⟨uid, message⟩) w = _
      rw [onDb, Eff.zoom, hstart]
    refine bind_isOk.mpr ⟨upload, w, Prod.ext (except_mapError_ok.mpr hupload) rfl, ?_⟩
    rw [mapErr_isOk]
    show (Opaque.registrationFinish S setup out.now ⟨start.serverData, upload⟩ w.db).1.isOk = true
    rw [Opaque.registrationFinish_ok.mpr ⟨u, htarget, hu, rfl⟩]
    rfl

theorem modifyPassword_isOk {credentials : ValidationResults} {userIsAdmin : Bool}
    (hrights : credentials.canChangePassword uid userIsAdmin = true) :
    (modifyPassword (sqlServices S setup rng out) (sqlServices S setup rng out) uid credentials
      userIsAdmin change w).1.isOk = true ↔ change.operation = .replace ∧
        ∃ value, change.modification.vals = [value] ∧ Registers S setup rng uid value w.db := by
  unfold modifyPassword
  by_cases hop : change.operation = .replace
  · rw [if_neg (by simp [hop]), if_neg (by simp [hrights])]
    cases hvals : change.modification.vals with
    | nil => simp [failWith, Except.isOk, Except.toBool]
    | cons value rest =>
      cases rest with
      | cons _ _ => simp [failWith, Except.isOk, Except.toBool]
      | nil =>
        simp only [hop, List.cons.injEq, and_true, true_and, exists_eq_left']
        rw [bind_isOk]
        constructor
        · rintro ⟨_, w', hchange, -⟩
          have hok : (changePassword (sqlServices S setup rng out) uid value w).1.isOk = true := by
            rw [Eff.mapErr_ok.mp hchange]
            rfl
          exact changePassword_isOk.mp hok
        · intro hregisters
          have hok : (changePassword (sqlServices S setup rng out) uid value w).1.isOk = true :=
            changePassword_isOk.mpr hregisters
          cases hrun : changePassword (sqlServices S setup rng out) uid value w with
          | mk r w' =>
            cases r with
            | error e =>
              rw [hrun] at hok
              cases hok
            | ok _ =>
              exact ⟨(), w', Eff.mapErr_ok.mpr hrun, (syncAfterReplace_ok setup rng out uid value w').1⟩
  · rw [if_pos (by simpa using hop)]
    exact iff_of_false (by simp [failWith, Except.isOk, Except.toBool]) fun h => hop h.1

theorem modifyStep_isOk {credentials : ValidationResults} :
    (modifyStep (sqlServices S setup rng out) uid credentials change w).1.isOk = true ↔
      Accepted S setup rng uid credentials change w.db := by
  unfold modifyStep
  by_cases hwrite : credentials.canWrite uid = true
  · have hrights := ValidationResults.canWrite_iff.mp hwrite
    have hread : credentials.canRead uid = true := by
      refine ValidationResults.canRead_iff.mpr (hrights.imp_left fun h => ?_)
      rw [h]
      decide
    have hchange (userIsAdmin : Bool) : credentials.canChangePassword uid userIsAdmin = true :=
      ValidationResults.canChangePassword_iff.mpr (hrights.imp_right .inr)
    have hreader : getReadableHandler (sqlServices S setup rng out) credentials uid =
        some (sqlServices S setup rng out) := if_pos hread
    have hwriter : getWriteableHandler (sqlServices S setup rng out) credentials uid =
        some (sqlServices S setup rng out) := if_pos hwrite
    have hstep (groups : List GroupDetails) : (handleModifyChange (sqlServices S setup rng out)
        (sqlServices S setup rng out) (sqlServices S setup rng out) uid credentials
        (isUserAdmin groups) change w).1.isOk = true ↔
        if isPasswordChange change then change.operation = .replace ∧
          ∃ value, change.modification.vals = [value] ∧ Registers S setup rng uid value w.db
        else ∃ update, UpdateOf w.db uid change update ∧ TakesUpdate update w.db := by
      unfold handleModifyChange
      split
      · exact modifyPassword_isOk (hchange _)
      · exact modifyProfile_isOk (hchange _)
    rw [hreader, hwriter]
    show ((orLdap .operationsError groupsError (onDb (Eff.query (Sql.getUserGroups uid))) >>=
      fun groups => handleModifyChange (sqlServices S setup rng out) (sqlServices S setup rng out)
        (sqlServices S setup rng out) uid credentials (isUserAdmin groups) change) w).1.isOk = true ↔ _
    rw [bind_isOk]
    constructor
    · rintro ⟨groups, w', hrun, hok⟩
      have hquery := Eff.mapErr_ok.mp hrun
      obtain rfl : w = w' := congrArg Prod.snd hquery
      refine ⟨hwrite, ?_, (hstep groups).mp hok⟩
      have hgroups : Sql.getUserGroups uid w.db = .ok groups := congrArg Prod.fst (onDb_ok hquery)
      cases hrow : w.db.users.find? uid with
      | none => simp [Sql.getUserGroups, hrow] at hgroups
      | some row => rfl
    · rintro ⟨-, huser, hfits⟩
      obtain ⟨row, hrow⟩ := Option.isSome_iff_exists.mp huser
      refine ⟨_, w, Eff.mapErr_ok.mpr ?_, (hstep ((w.db.groupsOf uid).map GroupRow.toGroupDetails)).mpr hfits⟩
      rw [onDb, Eff.zoom, Eff.query, Sql.getUserGroups, hrow]
  · refine iff_of_false ?_ fun h => hwrite h.rights
    have hwriter : getWriteableHandler (sqlServices S setup rng out) credentials uid = none :=
      if_neg hwrite
    rw [hwriter, bind_isOk]
    rintro ⟨_, w', -, hok⟩
    cases hok

end

variable {S : Suite} (setup : S.ServerSetup) (rng : S.Coins) (out : Outside)

/-- A modify request that is answered with an error leaves everything as it was if its DN names no user
or its first change is not one that is made. Unless some user has been modified at the very same time,
it does so only then. -/
theorem modify_atomic_iff (info : LdapInfo) (credentials : ValidationResults)
    (request : LdapModifyRequest) {w : World}
    (herr : (handleModifyRequest (sqlServices S setup rng out) info credentials request w).1.isOk =
      false) :
    ((∀ uid change,
        getUserIdFromDistinguishedName request.dn info.baseDn info.baseDnStr = .ok uid →
        request.changes.head? = some change → ¬Accepted S setup rng uid credentials change w.db) →
      (handleModifyRequest (sqlServices S setup rng out) info credentials request w).2 = w) ∧
    ((∀ r ∈ w.db.users.rows, r.modifiedDate ≠ out.now) →
      (handleModifyRequest (sqlServices S setup rng out) info credentials request w).2 = w →
      ∀ uid change,
        getUserIdFromDistinguishedName request.dn info.baseDn info.baseDnStr = .ok uid →
        request.changes.head? = some change → ¬Accepted S setup rng uid credentials change w.db) := by
  unfold handleModifyRequest at herr ⊢
  cases hdn : getUserIdFromDistinguishedName request.dn info.baseDn info.baseDnStr with
  | error e => exact ⟨fun _ => rfl, fun _ _ _ _ h => by cases h⟩
  | ok uid =>
    rw [hdn] at herr
    dsimp only at herr ⊢
    have hverdict : ((Eff.each (modifyStep (sqlServices S setup rng out) uid credentials)
        request.changes >>= fun _ => pure [makeModifyResponse .success ""]) w).1.isOk =
        (Eff.each (modifyStep (sqlServices S setup rng out) uid credentials) request.changes
          w).1.isOk ∧
      ((Eff.each (modifyStep (sqlServices S setup rng out) uid credentials)
        request.changes >>= fun _ => pure [makeModifyResponse .success ""]) w).2 =
        (Eff.each (modifyStep (sqlServices S setup rng out) uid credentials) request.changes w).2 := by
      rw [Eff.bind_run]
      cases Eff.each (modifyStep (sqlServices S setup rng out) uid credentials) request.changes w with
      | mk r w' => cases r <;> exact ⟨rfl, rfl⟩
    rw [hverdict.1] at herr
    rw [hverdict.2]
    obtain ⟨henough, honly⟩ := each_atomic (modifyStep_commits setup rng out uid credentials) herr
    have hrefused (change : LdapModify) :
        (modifyStep (sqlServices S setup rng out) uid credentials change w).1.isOk = false ↔
          ¬Accepted S setup rng uid credentials change w.db := by
      rw [← modifyStep_isOk, Bool.not_eq_true]
    simp only [hrefused] at henough honly
    refine ⟨fun h => henough fun change => h uid change rfl, fun hclock hsame uid' change huid => ?_⟩
    cases huid
    refine honly ?_ hsame change
    rintro ⟨r, hr, hnow⟩
    exact hclock r hr hnow

end

section Samples

open Plain

def onlyAlice : World := world { Store.empty with users := .single (userRow "alice") }

def replacing (atype value : String) : LdapModify := ⟨.replace, ⟨atype, [Lib.Bincode.utf8 value]⟩⟩

def aliceRequest (changes : List LdapModify) : LdapModifyRequest :=
  ⟨"uid=alice,ou=people,dc=example,dc=com", changes⟩

def modifyAlice (changes : List LdapModify) : Except Failure (List LdapOp) × World :=
  handleModifyRequest (sqlServices Opaque.plainSuite () () outside) ldapInfo ⟨.new "admin", .admin⟩
    (aliceRequest changes) onlyAlice

theorem refused_first_change :
    (modifyAlice [replacing "ou" "staff", replacing "cn" "Alice"]).1.isOk = false ∧
      (modifyAlice [replacing "ou" "staff", replacing "cn" "Alice"]).2 = onlyAlice := by
  unfold modifyAlice
  have herr : (handleModifyRequest (sqlServices Opaque.plainSuite () () outside) ldapInfo
      ⟨.new "admin", .admin⟩ (aliceRequest [replacing "ou" "staff", replacing "cn" "Alice"])
      onlyAlice).1.isOk = false := by decide +kernel
  have hatomic := modify_atomic_iff (S := Opaque.plainSuite) () () outside ldapInfo
    ⟨.new "admin", .admin⟩ (aliceRequest [replacing "ou" "staff", replacing "cn" "Alice"])
    (w := onlyAlice) herr
  refine ⟨herr, hatomic.1 fun uid change _ hfirst haccepted => ?_⟩
  cases hfirst
  obtain ⟨update, hupdate, -⟩ : ∃ update, UpdateOf onlyAlice.db uid (replacing "ou" "staff") update ∧
      TakesUpdate update onlyAlice.db := haccepted.fits
  cases hupdate with
  | set _ _ h => cases h
  | replaceKeys _ hname => cases hname
  | addKeys hop => cases hop
  | deleteAllKeys hop => cases hop
  | deleteSomeKeys hop => cases hop
  | deleteName hop => cases hop

/-- The second change is refused, but the first has been made. -/
theorem name_changed_by_refused_request :
    (modifyAlice [replacing "cn" "Alice", replacing "ou" "staff"]).1.isOk = false ∧
      onlyAlice.db.users.rows.map UserRow.displayName = [none] ∧
      (modifyAlice [replacing "cn" "Alice", replacing "ou" "staff"]).2.db.users.rows.map
        UserRow.displayName = [some "Alice"] := by
  decide +kernel

end Samples

end Ldap
end Klldap
