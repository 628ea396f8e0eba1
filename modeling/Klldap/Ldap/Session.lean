import Klldap.Ldap.Answers
import Klldap.Ldap.Handler
import Klldap.Lib.Run
import Klldap.Plain

/-!
# Klldap.Ldap.Session: what the messages of a connection may do

A connection is served against a backend whose calls are written down (`Services.logged`). Between
two messages the backend may change in any way, so each message comes with the state it finds.

* `handleLdapMessage_keeps`: a message that lacks the authority does not touch the backend at all.
* `unbound_before_success`: nobody is bound before a bind succeeds.
* `session_authority`: what a message of a run may call, from who is bound.
-/

namespace Klldap

open Lib (Eff)
open Lib.Eff (Frames Keeps ErrorsIn)
open Opaque (Suite)

/-! ## Calls of the backend -/

/-- What a call of the backend is for. Whatever is neither a read nor a login counts as a mutation. -/
inductive CallKind where
  | read | login | mutation
deriving DecidableEq

section Logged

variable {σ ε α : Type}

def logCall (kind : CallKind) (m : Eff σ ε α) : Eff (σ × List CallKind) ε α := fun s =>
  ((m s.1).1, (m s.1).2, s.2 ++ [kind])

def BackendHandler.logged (h : BackendHandler σ) : BackendHandler (σ × List CallKind) where
  getSchema := logCall .read h.getSchema
  listUsers filters getGroups := logCall .read (h.listUsers filters getGroups)
  listGroups filters := logCall .read (h.listGroups filters)
  getGroupDetails g := logCall .read (h.getGroupDetails g)
  updateGroup request := logCall .mutation (h.updateGroup request)
  createGroup request := logCall .mutation (h.createGroup request)
  deleteGroup g := logCall .mutation (h.deleteGroup g)
  getUserDetails u := logCall .read (h.getUserDetails u)
  createUser request := logCall .mutation (h.createUser request)
  updateUser request := logCall .mutation (h.updateUser request)
  deleteUser u := logCall .mutation (h.deleteUser u)
  addUserToGroup u g := logCall .mutation (h.addUserToGroup u g)
  removeUserFromGroup u g := logCall .mutation (h.removeUserFromGroup u g)
  getUserGroups u := logCall .read (h.getUserGroups u)
  addUserAttribute request := logCall .mutation (h.addUserAttribute request)
  addGroupAttribute request := logCall .mutation (h.addGroupAttribute request)
  deleteUserAttribute name := logCall .mutation (h.deleteUserAttribute name)
  deleteGroupAttribute name := logCall .mutation (h.deleteGroupAttribute name)
  addUserObjectClass name := logCall .mutation (h.addUserObjectClass name)
  addGroupObjectClass name := logCall .mutation (h.addGroupObjectClass name)
  deleteUserObjectClass name := logCall .mutation (h.deleteUserObjectClass name)
  deleteGroupObjectClass name := logCall .mutation (h.deleteGroupObjectClass name)
  getAllowedOus := logCall .read h.getAllowedOus
  setSystemConfig key value := logCall .mutation (h.setSystemConfig key value)
  ensureKerberosPrincipalConsistency u enabled :=
    logCall .mutation (h.ensureKerberosPrincipalConsistency u enabled)
  getPosixSettings := logCall .read h.getPosixSettings
  setPosixSettings settings := logCall .mutation (h.setPosixSettings settings)
  reassignGidNumbers := logCall .mutation h.reassignGidNumbers
  reassignUserUidNumbers := logCall .mutation h.reassignUserUidNumbers
  reassignUserGidNumbers := logCall .mutation h.reassignUserGidNumbers
  reassignUserHomedirectories := logCall .mutation h.reassignUserHomedirectories
  reassignUserLoginshells := logCall .mutation h.reassignUserLoginshells

def Services.logged {S : Suite} (h : Services S σ) : Services S (σ × List CallKind) where
  toBackendHandler := h.toBackendHandler.logged
  bind u password := logCall .login (h.bind u password)
  loginStart request := logCall .login (h.loginStart request)
  loginFinish request := logCall .login (h.loginFinish request)
  registrationStart request := logCall .mutation (h.registrationStart request)
  registrationFinish request := logCall .mutation (h.registrationFinish request)
  rng := h.rng
  decryptPassword := h.decryptPassword
  syncKerberosPrincipal u password := logCall .mutation (h.syncKerberosPrincipal u password)
  deleteKerberosPrincipal u := logCall .mutation (h.deleteKerberosPrincipal u)
  exportKeytabForKeycloak u := logCall .mutation (h.exportKeytabForKeycloak u)
  saveKeycloakConfig config := logCall .mutation (h.saveKeycloakConfig config)
  testConnection config := logCall .mutation (h.testConnection config)
  setupRealm realm := logCall .mutation (h.setupRealm realm)

/-- No mutation was called between the two states. -/
def NoMutation (s s' : σ × List CallKind) : Prop :=
  CallKind.mutation ∉ s.2 → CallKind.mutation ∉ s'.2

instance : Std.Refl (NoMutation (σ := σ)) where
  refl _ h := h

instance : IsTrans (σ × List CallKind) NoMutation where
  trans _ _ _ hab hbc h := hbc (hab h)

theorem logCall_noMutation {kind : CallKind} (hk : kind ≠ .mutation) (m : Eff σ ε α) :
    Frames NoMutation (logCall kind m) := by
  intro s hs
  simp [logCall, hs, hk.symm]

end Logged

namespace Ldap

section Messages

variable [External] [Library]

/-! ## Authority -/

section Authority

variable {S : Suite} {σ : Type} {h : Services S σ} {ldapInfo : LdapInfo}
  {userInfo : Option ValidationResults}

omit [External] [Library] in
theorem respond_frames {R : σ → σ → Prop} [Std.Refl R] [IsTrans σ R]
    {response : LdapResultCode → String → LdapOp} {m : Eff σ Failure (List LdapOp)}
    (hm : Frames R m) : Frames R (respond response m) := by
  refine hm.attempt.bind fun r => ?_
  split
  · exact (Keeps.pure _).frames
  · exact (Keeps.pure _).frames
  · exact (Keeps.fail _).frames

omit [External] [Library] in
theorem adminView_eq_fail (hadmin : ∀ v, userInfo = some v → v.permission ≠ .admin) :
    adminView h userInfo = failWith .insufficentAccessRights "Unauthorized write" := by
  unfold adminView
  cases userInfo with
  | none => rfl
  | some v => rw [Option.bind_some, getAdminHandler_eq_none (hadmin v rfl), orRefused]

theorem modifyStep_keeps {uid : UserId} {v : ValidationResults} (hw : v.canWrite uid = false)
    (change : LdapModify) : Keeps (modifyStep h uid v change) := by
  have hnone : getWriteableHandler h v uid = none := by simp [getWriteableHandler, hw]
  refine Frames.bind ?_ fun readable => ?_
  · unfold orRefused
    split
    · exact Keeps.pure _
    · exact Keeps.fail _
  · rw [hnone]
    exact Keeps.fail _

def modifyTarget (ldapInfo : LdapInfo) (request : LdapModifyRequest) : LdapResult UserId :=
  getUserIdFromDistinguishedName request.dn ldapInfo.baseDn ldapInfo.baseDnStr

/-- Who may make a message call the backend: for a bind nobody need be bound, and an unbind or an
unknown operation never calls it. -/
def Authorized (ldapInfo : LdapInfo) (userInfo : Option ValidationResults) : LdapOp → Prop
  | .bindRequest _ => True
  | .searchRequest _ | .compareRequest _ | .extendedRequest _ => userInfo.isSome
  | .addRequest _ | .delRequest _ => ∃ v, userInfo = some v ∧ v.permission = .admin
  | .modifyRequest request => ∃ v uid, userInfo = some v ∧
    modifyTarget ldapInfo request = .ok uid ∧ (v.permission = .admin ∨ v.user = uid)
  | _ => False

theorem doAdd_keeps (hadmin : ∀ v, userInfo = some v → v.permission ≠ .admin)
    (request : LdapAddRequest) : Keeps (doAdd h ldapInfo userInfo request) := by
  unfold doAdd
  rw [adminView_eq_fail hadmin]
  exact Keeps.fail _

theorem doDelete_keeps (hadmin : ∀ v, userInfo = some v → v.permission ≠ .admin)
    (request : String) : Keeps (doDelete h ldapInfo userInfo request) := by
  unfold doDelete
  rw [adminView_eq_fail hadmin]
  exact Keeps.fail _

theorem doModifyRequest_keeps {request : LdapModifyRequest}
    (hauth : ¬Authorized ldapInfo userInfo (.modifyRequest request)) :
    Keeps (doModifyRequest h ldapInfo userInfo request) := by
  unfold doModifyRequest
  cases userInfo with
  | none => exact Keeps.pure _
  | some v =>
    refine respond_frames ?_
    unfold handleModifyRequest
    split
    · exact Keeps.fail _
    · rename_i uid huid
      have hw : v.canWrite uid = false := by
        by_contra hw
        refine hauth ⟨v, uid, rfl, huid, ?_⟩
        exact ValidationResults.canWrite_iff.mp (by simpa using hw)
      exact Frames.bind (Frames.each fun change _ => modifyStep_keeps hw change) fun _ =>
        Keeps.pure _

theorem doExtendedRequest_unbound_keeps (request : LdapExtendedRequest) :
    Keeps (doExtendedRequest h ldapInfo none request) := by
  unfold doExtendedRequest
  refine Frames.ite ?_ (Frames.ite (Keeps.pure _) (Keeps.pure _))
  split
  · exact Keeps.pure _
  · exact Keeps.pure _

theorem doSearchOrDse_unbound_keeps (request : LdapSearchRequest) :
    Keeps (doSearchOrDse h ldapInfo none request) :=
  Frames.ite (Keeps.pure _) (Frames.ite (Keeps.pure _) (Keeps.fail _))

omit [External] [Library] in
theorem answer_frames {R : σ → σ → Prop} [Std.Refl R] [IsTrans σ R]
    {m : Eff σ String (List LdapOp)} (hm : Frames R m) :
    Frames R (handleLdapMessage.answer userInfo m) :=
  hm.bind fun _ => (Keeps.pure _).frames

theorem handleLdapMessage_keeps {op : LdapOp} (hauth : ¬Authorized ldapInfo userInfo op) :
    Keeps (handleLdapMessage h ldapInfo userInfo op) := by
  cases op with
  | bindRequest r => exact absurd trivial hauth
  | searchRequest r =>
    rw [Authorized, Option.not_isSome_iff_eq_none] at hauth
    subst hauth
    exact answer_frames (respond_frames (doSearchOrDse_unbound_keeps r))
  | unbindRequest => exact Keeps.pure _
  | modifyRequest r => exact answer_frames (doModifyRequest_keeps hauth)
  | extendedRequest r =>
    rw [Authorized, Option.not_isSome_iff_eq_none] at hauth
    subst hauth
    exact answer_frames (doExtendedRequest_unbound_keeps r)
  | addRequest r =>
    exact answer_frames (respond_frames (doAdd_keeps (fun v hv hadmin => hauth ⟨v, hv, hadmin⟩) r))
  | delRequest dn =>
    exact answer_frames
      (respond_frames (doDelete_keeps (fun v hv hadmin => hauth ⟨v, hv, hadmin⟩) dn))
  | compareRequest r =>
    rw [Authorized, Option.not_isSome_iff_eq_none] at hauth
    subst hauth
    exact answer_frames (respond_frames (Frames.bind (Keeps.fail _) fun _ => Keeps.pure _))
  | _ => exact answer_frames (Keeps.pure _)

omit [Library] in
theorem authenticate_noMutation (request : LdapBindRequest) :
    Frames NoMutation (authenticate h.logged ldapInfo request) := by
  refine Frames.bind ?_ fun userId => Frames.bind (logCall_noMutation (by decide) _).mapErr
    fun user => Frames.ite ?_ (Keeps.fail _).frames
  · refine Frames.ite (Keeps.fail _).frames ?_
    split
    · exact (Keeps.fail _).frames
    · split
      · exact (Keeps.fail _).frames
      · exact (logCall_noMutation (by decide) _).mapErr.bind fun _ => (Keeps.pure _).frames
  · have hpermissions : Frames NoMutation (getPermissionsForUser h.logged userId) :=
      (logCall_noMutation (by decide) _).bind fun _ => (Keeps.pure _).frames
    refine Frames.bind (Frames.attempt (hpermissions.bind fun _ => (Keeps.pure _).frames))
      fun r => ?_
    split
    · exact (Keeps.pure _).frames
    · exact (Keeps.fail _).frames
    · exact (Keeps.pure _).frames

theorem handleLdapMessage_bind_noMutation (request : LdapBindRequest) :
    Frames NoMutation (handleLdapMessage h.logged ldapInfo userInfo (.bindRequest request)) := by
  refine Frames.bind (Frames.bind (authenticate_noMutation request).attempt fun r => ?_) fun _ =>
    (Keeps.pure _).frames
  split
  · exact (Keeps.pure _).frames
  · exact (Keeps.pure _).frames
  · exact (Keeps.fail _).frames

end Authority

/-! ## Runs of a connection -/

/-- What a message was answered, an error being the text of a panic, and what it called. -/
structure Served where
  answer : Except String (Option (List LdapOp))
  calls : List CallKind

section Runs

variable {S : Suite} {σ : Type}

/-- A bind that was answered with success. -/
def BindSucceeded (e : Lib.Event (Option ValidationResults) (LdapOp × σ) Served) : Prop :=
  ∃ request response, e.input.1 = .bindRequest request ∧
    e.output.answer = .ok (some [.bindResponse response]) ∧ response.code = .success

variable (h : Services S σ) (ldapInfo : LdapInfo)

def serve (userInfo : Option ValidationResults) (message : LdapOp × σ) :
    Served × Option ValidationResults :=
  let r := handleLdapMessage h.logged ldapInfo userInfo message.1 (message.2, [])
  match r.1 with
  | .ok (ops, bound) => (⟨.ok ops, r.2.2⟩, bound)
  | .error msg => (⟨.error msg, r.2.2⟩, userInfo)

/-- The runs of a connection: any messages, in any states of the backend. -/
abbrev Session : List (Lib.Event (Option ValidationResults) (LdapOp × σ) Served) →
    Option ValidationResults → Prop :=
  Lib.Run (serve h ldapInfo) (fun _ _ _ => True) none

variable {h ldapInfo} {userInfo : Option ValidationResults}

theorem serve_calls (message : LdapOp × σ) :
    (serve h ldapInfo userInfo message).1.calls =
      (handleLdapMessage h.logged ldapInfo userInfo message.1 (message.2, [])).2.2 := by
  unfold serve
  dsimp only
  split <;> rfl

omit [External] [Library] in
theorem answer_bound {m : Eff σ String (List LdapOp)} {s : σ} {ops : Option (List LdapOp)}
    {bound : Option ValidationResults}
    (heq : (handleLdapMessage.answer userInfo m s).1 = .ok (ops, bound)) : bound = userInfo := by
  rcases hm : m s with ⟨r, s'⟩
  cases r with
  | error e => simp [handleLdapMessage.answer, Eff.bind_run, hm] at heq
  | ok ops' =>
    simp only [handleLdapMessage.answer, Eff.bind_run, hm] at heq
    cases heq
    rfl

omit [Library] in
theorem doBind_bound {request : LdapBindRequest} {s : σ} {response : LdapOp}
    {bound : Option ValidationResults}
    (heq : (doBind h ldapInfo userInfo request s).1 = .ok (response, bound)) :
    bound = userInfo ∨ response = .bindResponse ⟨.success, "", ""⟩ := by
  rcases ha : authenticate h ldapInfo request s with ⟨r, s'⟩
  rcases r with (e | msg) | v
  all_goals simp only [doBind, Eff.bind_run, Eff.attempt, ha] at heq
  · cases heq
    exact .inl rfl
  · cases heq
  · cases heq
    exact .inr rfl

theorem handleLdapMessage_bound {op : LdapOp} {s : σ} {ops : Option (List LdapOp)}
    {bound : Option ValidationResults}
    (heq : (handleLdapMessage h ldapInfo userInfo op s).1 = .ok (ops, bound)) :
    bound = userInfo ∨ bound = none ∨
      ∃ request, op = .bindRequest request ∧ ops = some [.bindResponse ⟨.success, "", ""⟩] := by
  cases op with
  | bindRequest r =>
    rcases hb : doBind h ldapInfo userInfo r s with ⟨res, s'⟩
    cases res with
    | error msg => simp [handleLdapMessage, Eff.bind_run, hb] at heq
    | ok p =>
      obtain ⟨response, bound'⟩ := p
      simp only [handleLdapMessage, Eff.bind_run, hb] at heq
      cases heq
      rcases doBind_bound (congrArg Prod.fst hb) with hsame | rfl
      · exact .inl hsame
      · exact .inr (.inr ⟨r, rfl, rfl⟩)
  | unbindRequest =>
    cases heq
    exact .inr (.inl rfl)
  | _ => exact .inl (answer_bound heq)

theorem serve_bound (message : LdapOp × σ) :
    (serve h ldapInfo userInfo message).2 = userInfo ∨
      (serve h ldapInfo userInfo message).2 = none ∨
        BindSucceeded (Lib.eventAt (serve h ldapInfo) userInfo message) := by
  unfold BindSucceeded Lib.eventAt serve
  rcases hm : handleLdapMessage h.logged ldapInfo userInfo message.1 (message.2, []) with ⟨r, s'⟩
  cases r with
  | error msg => exact .inl rfl
  | ok p =>
    obtain ⟨ops, bound⟩ := p
    rcases handleLdapMessage_bound (congrArg Prod.fst hm) with hsame | hnone | ⟨r, hop, rfl⟩
    · exact .inl hsame
    · exact .inr (.inl hnone)
    · exact .inr (.inr ⟨r, _, hop, rfl, rfl⟩)

theorem unbound_before_success {history : List (Lib.Event _ (LdapOp × σ) Served)}
    {bound : Option ValidationResults} (run : Session h ldapInfo history bound)
    (hfail : ∀ e ∈ history, ¬BindSucceeded e) : bound = none := by
  refine run.invariant (P := fun history bound =>
    (∀ e ∈ history, ¬BindSucceeded e) → bound = none) (fun _ => rfl) ?_ hfail
  intro history bound message ih _ hfail
  have hbound := ih fun e he => hfail e (by simp [he])
  rcases serve_bound message with hsame | hnone | hsucc
  · exact hsame.trans hbound
  · exact hnone
  · exact absurd hsucc (hfail _ (by simp))

theorem serve_calls_eq_nil {message : LdapOp × σ}
    (hauth : ¬Authorized ldapInfo userInfo message.1) :
    (serve h ldapInfo userInfo message).1.calls = [] := by
  rw [serve_calls]
  exact congrArg Prod.snd (handleLdapMessage_keeps hauth (message.2, [])).symm

/-- In every run of a connection: before a bind has succeeded, no message but a bind calls the
backend, and a bind mutates nothing; an `Add` or a `Delete` mutates only for an administrator, and a
`Modify` only for an administrator or for the user that it is about. -/
theorem session_authority {history before after : List (Lib.Event _ (LdapOp × σ) Served)}
    {e : Lib.Event _ (LdapOp × σ) Served} {bound : Option ValidationResults}
    (run : Session h ldapInfo history bound) (hsplit : history = before ++ e :: after) :
    ((∀ b ∈ before, ¬BindSucceeded b) →
      .mutation ∉ e.output.calls ∧
        ((∀ request, e.input.1 ≠ .bindRequest request) → e.output.calls = [])) ∧
    (∀ request, e.input.1 = .addRequest request → .mutation ∈ e.output.calls →
      ∃ v, e.pre = some v ∧ v.permission = .admin) ∧
    (∀ dn, e.input.1 = .delRequest dn → .mutation ∈ e.output.calls →
      ∃ v, e.pre = some v ∧ v.permission = .admin) ∧
    (∀ request, e.input.1 = .modifyRequest request → .mutation ∈ e.output.calls →
      ∃ v uid, e.pre = some v ∧ modifyTarget ldapInfo request = .ok uid ∧
        (v.permission = .admin ∨ v.user = uid)) := by
  obtain ⟨hbefore, -, he⟩ := run.event hsplit
  have hout : e.output = (serve h ldapInfo e.pre e.input).1 := congrArg Lib.Event.output he
  rw [hout]
  have hauth (hmut : .mutation ∈ (serve h ldapInfo e.pre e.input).1.calls) :
      Authorized ldapInfo e.pre e.input.1 := by
    by_contra hnot
    simp [serve_calls_eq_nil hnot] at hmut
  refine ⟨fun hfail => ?_, fun r hop hmut => ?_, fun dn hop hmut => ?_, fun r hop hmut => ?_⟩
  · have hnone : e.pre = none := unbound_before_success hbefore hfail
    rw [hnone]
    have hquiet (hop : ∀ r, e.input.1 ≠ .bindRequest r) :
        (serve h ldapInfo none e.input).1.calls = [] := by
      refine serve_calls_eq_nil ?_
      revert hop
      cases e.input.1 <;> simp [Authorized]
    refine ⟨?_, hquiet⟩
    by_cases hop : ∃ r, e.input.1 = .bindRequest r
    · obtain ⟨r, hop⟩ := hop
      rw [serve_calls, hop]
      exact handleLdapMessage_bind_noMutation r _ List.not_mem_nil
    · rw [hquiet fun r hr => hop ⟨r, hr⟩]
      exact List.not_mem_nil
  all_goals
    have hallowed := hauth hmut
    rw [hop] at hallowed
    exact hallowed

end Runs

end Messages

section Sample

open Plain

/-- On a new connection, a search of the whole tree calls nothing. -/
theorem first_search_calls_nothing :
    (serve (sqlServices Opaque.plainSuite () () outside) Plain.ldapInfo none
      (.searchRequest ⟨"dc=example,dc=com", .subtree, .and [], []⟩,
        Plain.world Store.empty)).1.calls = [] := by
  have run : Session (sqlServices Opaque.plainSuite () () outside) Plain.ldapInfo _ _ :=
    .snoc (.searchRequest ⟨"dc=example,dc=com", .subtree, .and [], []⟩, Plain.world Store.empty)
      .nil trivial
  exact ((session_authority run rfl).1 (by simp)).2 fun _ => nofun

end Sample

end Ldap
end Klldap
