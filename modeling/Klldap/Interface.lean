import Klldap.GraphQL.Mutation
import Klldap.Ldap.Session

/-!
# Klldap.Interface: the requests of GraphQL and LDAP as one system

A request does to the state what its calls of the backend do. `Services.Within R` says that every
call but the deletion of a user stays in a relation `R` between the states before and after it; then
every request stays in `R`, whoever makes it, and the deletion of a user is left to look at.
-/

namespace Klldap

open Lib (Eff)
open Lib.Eff (Frames Keeps)
open Opaque (Suite)

/-- Every call but `deleteUser` stays in `R`. -/
structure Services.Within {S : Suite} {σ : Type} (R : σ → σ → Prop) (h : Services S σ) : Prop where
  getSchema : Frames R h.getSchema
  listUsers : ∀ filters getGroups, Frames R (h.listUsers filters getGroups)
  listGroups : ∀ filters, Frames R (h.listGroups filters)
  getGroupDetails : ∀ g, Frames R (h.getGroupDetails g)
  updateGroup : ∀ request, Frames R (h.updateGroup request)
  createGroup : ∀ request, Frames R (h.createGroup request)
  deleteGroup : ∀ g, Frames R (h.deleteGroup g)
  getUserDetails : ∀ u, Frames R (h.getUserDetails u)
  createUser : ∀ request, Frames R (h.createUser request)
  updateUser : ∀ request, Frames R (h.updateUser request)
  addUserToGroup : ∀ u g, Frames R (h.addUserToGroup u g)
  removeUserFromGroup : ∀ u g, Frames R (h.removeUserFromGroup u g)
  getUserGroups : ∀ u, Frames R (h.getUserGroups u)
  addUserAttribute : ∀ request, Frames R (h.addUserAttribute request)
  addGroupAttribute : ∀ request, Frames R (h.addGroupAttribute request)
  deleteUserAttribute : ∀ name, Frames R (h.deleteUserAttribute name)
  deleteGroupAttribute : ∀ name, Frames R (h.deleteGroupAttribute name)
  addUserObjectClass : ∀ name, Frames R (h.addUserObjectClass name)
  addGroupObjectClass : ∀ name, Frames R (h.addGroupObjectClass name)
  deleteUserObjectClass : ∀ name, Frames R (h.deleteUserObjectClass name)
  deleteGroupObjectClass : ∀ name, Frames R (h.deleteGroupObjectClass name)
  getAllowedOus : Frames R h.getAllowedOus
  setSystemConfig : ∀ key value, Frames R (h.setSystemConfig key value)
  ensureKerberosPrincipalConsistency : ∀ u enabled,
    Frames R (h.ensureKerberosPrincipalConsistency u enabled)
  setPosixSettings : ∀ settings, Frames R (h.setPosixSettings settings)
  reassignGidNumbers : Frames R h.reassignGidNumbers
  reassignUserUidNumbers : Frames R h.reassignUserUidNumbers
  reassignUserGidNumbers : Frames R h.reassignUserGidNumbers
  reassignUserHomedirectories : Frames R h.reassignUserHomedirectories
  reassignUserLoginshells : Frames R h.reassignUserLoginshells
  bind : ∀ u password, Frames R (h.bind u password)
  registrationStart : ∀ request, Frames R (h.registrationStart request)
  registrationFinish : ∀ request, Frames R (h.registrationFinish request)
  syncKerberosPrincipal : ∀ u password, Frames R (h.syncKerberosPrincipal u password)
  deleteKerberosPrincipal : ∀ u, Frames R (h.deleteKerberosPrincipal u)
  exportKeytabForKeycloak : ∀ hostname, Frames R (h.exportKeytabForKeycloak hostname)
  saveKeycloakConfig : ∀ config, Frames R (h.saveKeycloakConfig config)
  testConnection : ∀ config, Frames R (h.testConnection config)
  setupRealm : ∀ realm, Frames R (h.setupRealm realm)

/-- Every call that a change of a password makes stays in `R`, but for what it writes of the principal
in the user row. -/
structure Services.PasswordWithin {S : Suite} {σ : Type} (R : σ → σ → Prop) (h : Services S σ) :
    Prop where
  getSchema : Frames R h.getSchema
  getUserDetails : ∀ u, Frames R (h.getUserDetails u)
  getUserGroups : ∀ u, Frames R (h.getUserGroups u)
  registrationStart : ∀ request, Frames R (h.registrationStart request)
  registrationFinish : ∀ request, Frames R (h.registrationFinish request)
  syncKerberosPrincipal : ∀ u password, Frames R (h.syncKerberosPrincipal u password)

section

variable {S : Suite} {σ : Type} {R : σ → σ → Prop} {h : Services S σ}

theorem Services.Within.passwords (hw : h.Within R) : h.PasswordWithin R :=
  ⟨hw.getSchema, hw.getUserDetails, hw.getUserGroups, hw.registrationStart, hw.registrationFinish,
    hw.syncKerberosPrincipal⟩

theorem Services.PasswordWithin.syncKerberosIfEnabled [Std.Refl R] (hw : h.PasswordWithin R)
    (enabled : Bool) (userId plainPassword : String) :
    Frames R (h.syncKerberosIfEnabled enabled userId plainPassword) :=
  Frames.ite (hw.syncKerberosPrincipal _ _) (Keeps.pure _).frames

end

/-! ## Mutations -/

namespace GraphQL

section

variable {S : Suite} {σ α : Type} {R : σ → σ → Prop} [Std.Refl R] {h : Services S σ}
  {v : ValidationResults} {message : String}

theorem within_of_admin {f : Services S σ → Field σ α} (hf : Frames R (f h)) :
    Frames R (orUnauthorized message (getAdminHandler h v) >>= f) := by
  unfold getAdminHandler
  split
  · exact fun s => hf s
  · exact fun s => refl_of R s

theorem within_of_writeable {u : UserId} {f : Services S σ → Field σ α} (hf : Frames R (f h)) :
    Frames R (orUnauthorized message (getWriteableHandler h v u) >>= f) := by
  unfold getWriteableHandler
  split
  · exact fun s => hf s
  · exact fun s => refl_of R s

end

section

variable [External] {S : Suite} {σ : Type} {R : σ → σ → Prop} [Std.Refl R] [IsTrans σ R]
  {ctx : Context S σ}

theorem createUser_within (hw : ctx.handler.Within R) (user : CreateUserInput) :
    Frames R (createUser ctx user) := by
  refine within_of_admin (hw.getSchema.mapErr.bind fun schema => ?_)
  refine (Keeps.lift _).frames.bind fun unpacked => ?_
  split
  · exact (Keeps.fail _).frames
  · exact (hw.createUser _).mapErr.bind fun _ =>
      (hw.getUserDetails _).mapErr.bind fun _ => (Keeps.pure _).frames

omit [External] in
theorem registerPassword_within {h : Services S σ} (hw : h.PasswordWithin R) (target : UserId)
    (password : String) : Frames R (registerPassword h target password) :=
  (Keeps.lift _).frames.mapErr.bind fun _ => (hw.registrationStart _).mapErr.bind fun _ =>
    (Keeps.lift _).frames.mapErr.bind fun _ => (hw.registrationFinish _).mapErr

theorem setUserPassword_within (hw : ctx.handler.Within R) (userId password : String) :
    Frames R (setUserPassword ctx userId password) := by
  refine within_of_writeable ((registerPassword_within hw.passwords _ _).bind fun _ => ?_)
  refine (hw.getUserDetails _).mapErr.bind fun user => hw.getSchema.mapErr.bind fun schema => ?_
  refine (hw.passwords.syncKerberosIfEnabled _ _ _).attempt.bind fun _ => ?_
  exact (hw.ensureKerberosPrincipalConsistency _ _).attempt.bind fun _ => (Keeps.pure _).frames

theorem createGroupWithDetails_within (hw : ctx.handler.Within R) (request : CreateGroupInput) :
    Frames R (createGroupWithDetails ctx request) := by
  refine within_of_admin (hw.getSchema.mapErr.bind fun schema => ?_)
  refine (Keeps.lift _).frames.bind fun attributes => ?_
  exact (hw.createGroup _).mapErr.bind fun _ => (hw.getGroupDetails _).mapErr.bind fun _ =>
    (Keeps.pure _).frames

theorem updateUser_within (hw : ctx.handler.Within R) (user : UpdateUserInput) :
    Frames R (updateUser ctx user) :=
  within_of_writeable (hw.getSchema.mapErr.bind fun _ => (Keeps.lift _).frames.bind fun _ =>
    (hw.updateUser _).mapErr.bind fun _ => (Keeps.pure _).frames)

omit [External] in
theorem refuseBuiltin_within {h : Services S σ} (hw : h.Within R) (verb : String) (g : GroupId) :
    Frames R (refuseBuiltin verb h g) := by
  refine (hw.getGroupDetails g).attempt.bind fun details => ?_
  cases details with
  | ok details => exact Frames.ite (Keeps.fail _).frames (Keeps.pure _).frames
  | error e => exact (Keeps.pure _).frames

theorem updateGroup_within (hw : ctx.handler.Within R) (group : UpdateGroupInput) :
    Frames R (updateGroup ctx group) := by
  refine within_of_admin ((Keeps.lift _).frames.bind fun displayName => ?_)
  have hrest : Frames R (do
      let schema ← orFail ctx.handler.getSchema
      let insertAttributes ← Eff.lift
        (((group.insertAttributes.getD []).filter fun a => a.name ≠ "displayname").mapM fun a =>
          deserializeAttribute schema.groupAttributes a true)
      orFail (ctx.handler.updateGroup {
        groupId := ⟨group.id⟩
        displayName := displayName.map GroupName.mk
        deleteAttributes := ((group.removeAttributes.getD []).filter fun a =>
          a ≠ "displayname").map AttributeName.new
        insertAttributes := insertAttributes })
      pure .success : Field σ Response) :=
    hw.getSchema.mapErr.bind fun _ => (Keeps.lift _).frames.bind fun _ =>
      (hw.updateGroup _).mapErr.bind fun _ => (Keeps.pure _).frames
  dsimp only
  split
  · exact (refuseBuiltin_within hw _ _).bind fun _ => hrest
  · exact hrest

omit [External] in
theorem checkAdminRemoval_within (hw : ctx.handler.Within R) (target : UserId) (g : GroupId) :
    Frames R (checkAdminRemoval ctx ctx.handler target g) := by
  refine (hw.listUsers _ _).attempt.bind fun members => ?_
  have hrest : Frames R (if ctx.validationResult.user = target then
      fieldError "Cannot remove admin rights for current user" else pure () : Field σ Unit) :=
    Frames.ite (Keeps.fail _).frames (Keeps.pure _).frames
  cases members with
  | ok members =>
    dsimp only
    split
    · exact (Keeps.fail _).frames.bind fun _ => hrest
    · exact hrest
  | error e => exact hrest

omit [External] in
theorem removeUserFromGroup_within (hw : ctx.handler.Within R) (userId : String) (groupId : Int) :
    Frames R (removeUserFromGroup ctx userId groupId) := by
  refine within_of_admin ((hw.getGroupDetails _).attempt.bind fun details => ?_)
  have hrest (groupName : String) : Frames R (do
      if groupName = "lldap_admin" then
        checkAdminRemoval ctx ctx.handler (UserId.new userId) ⟨groupId⟩
      orFail (ctx.handler.removeUserFromGroup (UserId.new userId) ⟨groupId⟩)
      pure .success : Field σ Response) := by
    have hremove : Frames R (do
        orFail (ctx.handler.removeUserFromGroup (UserId.new userId) ⟨groupId⟩)
        pure .success : Field σ Response) :=
      (hw.removeUserFromGroup _ _).mapErr.bind fun _ => (Keeps.pure _).frames
    dsimp only
    split
    · exact (checkAdminRemoval_within hw _ _).bind fun _ => hremove
    · exact hremove
  cases details with
  | ok details => exact hrest _
  | error e => exact hrest _

omit [External] in
theorem deleteGroup_within (hw : ctx.handler.Within R) (groupId : Int) :
    Frames R (deleteGroup ctx groupId) :=
  within_of_admin ((refuseBuiltin_within hw _ _).bind fun _ =>
    (hw.deleteGroup _).mapErr.bind fun _ => (Keeps.pure _).frames)

theorem createOu_within (hw : ctx.handler.Within R) (name : String) :
    Frames R (createOu ctx name) := by
  refine within_of_admin ((Keeps.lift _).frames.bind fun levels => ?_)
  refine hw.getAllowedOus.mapErr.bind fun currentOus => Frames.ite (Keeps.fail _).frames ?_
  refine Frames.ite (Keeps.fail _).frames ?_
  exact (hw.setSystemConfig _ _).mapErr.bind fun _ => (Keeps.pure _).frames

omit [External] in
theorem bestEffort_within {β : Type} {f : β → Eff σ DomainError Unit} (hf : ∀ b, Frames R (f b))
    (l : List β) : Frames R (bestEffort f l) :=
  Frames.each fun b _ => (hf b).attempt.bind fun _ => (Keeps.pure _).frames

theorem reassignOu_frames {h : Services S σ} (hlistUsers : Frames R (h.listUsers none false))
    (hlistGroups : Frames R (h.listGroups none))
    (hupdateUser : ∀ request, Frames R (h.updateUser request))
    (hupdateGroup : ∀ request, Frames R (h.updateGroup request)) (nameLower : String) :
    Frames R (reassignOu h nameLower) := by
  refine hlistUsers.attempt.bind fun users => ?_
  rcases users with e | users
  on_goal 2 => refine (bestEffort_within (fun _ => hupdateUser _) _).bind fun _ => ?_
  all_goals
    refine hlistGroups.attempt.bind fun groups => ?_
    cases groups with
    | ok groups => exact bestEffort_within (fun _ => hupdateGroup _) _
    | error e => exact (Keeps.pure _).frames

theorem reassignOu_within {h : Services S σ} (hw : h.Within R) (nameLower : String) :
    Frames R (reassignOu h nameLower) :=
  reassignOu_frames (hw.listUsers _ _) (hw.listGroups _) hw.updateUser hw.updateGroup nameLower

theorem deleteOu_within (hw : ctx.handler.Within R) (name : String) :
    Frames R (deleteOu ctx name) := by
  refine within_of_admin (Frames.ite (Keeps.fail _).frames ?_)
  refine hw.getAllowedOus.mapErr.bind fun currentOus => Frames.ite (Keeps.fail _).frames ?_
  exact (reassignOu_within hw _).bind fun _ => (hw.setSystemConfig _ _).mapErr.bind fun _ =>
    (Keeps.pure _).frames

theorem changeUserOu_within (hw : ctx.handler.Within R) (userIds : List String) (newOu : String) :
    Frames R (changeUserOu ctx userIds newOu) := by
  refine within_of_admin (Frames.ite (Keeps.fail _).frames ?_)
  exact (Frames.each fun _ _ => (hw.updateUser _).mapErr).bind fun _ => (Keeps.pure _).frames

theorem changeGroupOu_within (hw : ctx.handler.Within R) (groupIds : List Int) (newOu : String) :
    Frames R (changeGroupOu ctx groupIds newOu) := by
  refine within_of_admin (Frames.ite (Keeps.fail _).frames ?_)
  exact (Frames.each fun _ _ => (hw.updateGroup _).mapErr).bind fun _ => (Keeps.pure _).frames

omit [External] in
theorem adminCall_within {unauthorized : String} {call : Services S σ → Eff σ DomainError Unit}
    (hcall : Frames R (call ctx.handler)) : Frames R (adminCall ctx unauthorized call) :=
  within_of_admin (hcall.mapErr.bind fun _ => (Keeps.pure _).frames)

omit [External] in
theorem posixCall_within {unauthorized failure done : String}
    {call : Services S σ → Eff σ DomainError Unit} (hcall : Frames R (call ctx.handler)) :
    Frames R (posixCall ctx unauthorized failure done call) :=
  within_of_admin (hcall.mapErr.bind fun _ => (Keeps.pure _).frames)

theorem syncKerberosPassword_within (hw : ctx.handler.Within R) (userId encrypted : String) :
    Frames R (syncKerberosPassword ctx userId encrypted) := by
  refine within_of_writeable ((Keeps.lift _).frames.mapErr.bind fun plainPassword => ?_)
  refine (hw.getUserDetails _).mapErr.bind fun user => hw.getSchema.mapErr.bind fun schema => ?_
  refine (hw.passwords.syncKerberosIfEnabled _ _ _).mapErr.bind fun _ => ?_
  exact (hw.ensureKerberosPrincipalConsistency _ _).attempt.bind fun _ => (Keeps.pure _).frames

omit [External] in
theorem schemaCall_within (hw : ctx.handler.Within R) {message : String}
    {check : Schema → Except FieldError Unit} (call : Services S σ → Eff σ DomainError Unit)
    (hcall : Frames R (call ctx.handler)) :
    Frames R (do
      let handler ← orUnauthorized message (getAdminHandler ctx.handler ctx.validationResult)
      let schema ← orFail handler.getSchema
      Eff.lift (check schema)
      orFail (call handler)
      pure .success : Field σ Response) :=
  within_of_admin (hw.getSchema.mapErr.bind fun _ => (Keeps.lift _).frames.bind fun _ =>
    hcall.mapErr.bind fun _ => (Keeps.pure _).frames)

theorem execute_within (hw : ctx.handler.Within R) {m : Mutation}
    (hm : ∀ userId, m ≠ .deleteUser userId) : Frames R (m.execute ctx) := by
  cases m with
  | createUser user => exact createUser_within hw user
  | setUserPassword userId password => exact setUserPassword_within hw userId password
  | createGroup group => exact createGroupWithDetails_within hw group
  | createGroupWithDetails request => exact createGroupWithDetails_within hw request
  | updateUser user => exact updateUser_within hw user
  | updateGroup group => exact updateGroup_within hw group
  | addUserToGroup userId groupId =>
    exact within_of_admin ((hw.addUserToGroup _ _).mapErr.bind fun _ => (Keeps.pure _).frames)
  | removeUserFromGroup userId groupId => exact removeUserFromGroup_within hw userId groupId
  | deleteUser userId => exact absurd rfl (hm userId)
  | deleteGroup groupId => exact deleteGroup_within hw groupId
  | createOu name => exact createOu_within hw name
  | deleteOu name => exact deleteOu_within hw name
  | changeUserOu userIds newOu => exact changeUserOu_within hw userIds newOu
  | changeGroupOu groupIds newOu => exact changeGroupOu_within hw groupIds newOu
  | addUserAttribute name typ isList isVisible isEditable =>
    exact schemaCall_within hw (fun h => h.addUserAttribute _) (hw.addUserAttribute _)
  | addGroupAttribute name typ isList isVisible isEditable =>
    exact schemaCall_within hw (fun h => h.addGroupAttribute _) (hw.addGroupAttribute _)
  | deleteUserAttribute name =>
    exact schemaCall_within hw (fun h => h.deleteUserAttribute _) (hw.deleteUserAttribute _)
  | deleteGroupAttribute name =>
    exact schemaCall_within hw (fun h => h.deleteGroupAttribute _)
      (hw.deleteGroupAttribute _)
  | addUserObjectClass name => exact adminCall_within (hw.addUserObjectClass _)
  | addGroupObjectClass name => exact adminCall_within (hw.addGroupObjectClass _)
  | deleteUserObjectClass name => exact adminCall_within (hw.deleteUserObjectClass _)
  | deleteGroupObjectClass name => exact adminCall_within (hw.deleteGroupObjectClass _)
  | syncKerberosPassword userId encrypted => exact syncKerberosPassword_within hw userId encrypted
  | exportKeytabForKeycloak hostname =>
    refine (hw.exportKeytabForKeycloak _).attempt.bind fun answer => ?_
    cases answer <;> exact (Keeps.pure _).frames
  | testKeycloakConnection input =>
    refine (hw.testConnection _).attempt.bind fun answer => ?_
    cases answer <;> exact (Keeps.pure _).frames
  | saveKeycloakConfig config =>
    refine (hw.saveKeycloakConfig _).attempt.bind fun answer => ?_
    cases answer <;> exact (Keeps.pure _).frames
  | pushRealmToKeycloak input =>
    exact (hw.setupRealm _).mapErr.bind fun _ => (Keeps.pure _).frames
  | setPosixSettings settings =>
    exact (Keeps.lift _).frames.bind fun _ => posixCall_within (hw.setPosixSettings _)
  | reassignUserUidNumbers => exact posixCall_within hw.reassignUserUidNumbers
  | reassignUserGidNumbers => exact posixCall_within hw.reassignUserGidNumbers
  | reassignUserHomedirectories => exact posixCall_within hw.reassignUserHomedirectories
  | reassignUserLoginshells => exact posixCall_within hw.reassignUserLoginshells
  | reassignGidNumbers => exact posixCall_within hw.reassignGidNumbers

end

end GraphQL

namespace Ldap

section

variable {σ ε α β : Type}

theorem returns_bind {m : Eff σ ε α} {f : α → Eff σ ε β} {b : β}
    (h : Eff.Returns (m >>= f) b) : ∃ a, Eff.Returns m a ∧ Eff.Returns (f a) b := by
  obtain ⟨s, s', h⟩ := h
  obtain ⟨a, s₁, hm, hf⟩ := Eff.bind_ok.mp h
  exact ⟨a, ⟨s, s₁, hm⟩, ⟨s₁, s', hf⟩⟩

theorem returns_pure {a b : α} (h : Eff.Returns (pure a : Eff σ ε α) b) : b = a := by
  obtain ⟨s, s', h⟩ := h
  cases h
  rfl

theorem returns_liftLdap {r : LdapResult α} {a : α}
    (h : Eff.Returns (liftLdap r : Eff σ Failure α) a) : r = .ok a := by
  obtain ⟨s, s', h⟩ := h
  exact Lib.except_mapError_ok.mp (congrArg Prod.fst h)

theorem not_returns_failWith {code : LdapResultCode} {message : String} {a : α}
    (h : Eff.Returns (failWith code message : Eff σ Failure α) a) : False := by
  obtain ⟨s, s', h⟩ := h
  cases h

end

section

variable {S : Suite} {σ α : Type} {R : σ → σ → Prop} [Std.Refl R] {h : Services S σ}
  {v : ValidationResults} {u : UserId}

theorem recover_within [IsTrans σ R] {m : Eff σ DomainError α} (hm : Frames R m) (default : α) :
    Frames R (recover m default) := by
  refine hm.attempt.bind fun r => ?_
  split
  · exact (Keeps.pure _).frames
  · exact (Keeps.fail _).frames
  · exact (Keeps.pure _).frames

theorem within_of_readable {f : Services S σ → Eff σ Failure α} (hf : Frames R (f h)) :
    Frames R (expectView (getReadableHandler h v u) >>= f) := by
  unfold getReadableHandler
  split
  · exact fun s => hf s
  · exact fun s => refl_of R s

theorem within_of_refused {message : String} {view : Option (Services S σ)}
    (hview : ∀ h', view = some h' → h' = h) {f : Services S σ → Eff σ Failure α}
    (hf : Frames R (f h)) : Frames R (orRefused message view >>= f) := by
  cases hv : view with
  | none => exact fun s => refl_of R s
  | some h' =>
    obtain rfl := hview h' hv
    exact fun s => hf s

end

section

variable [External] [Library] {S : Suite} {σ : Type} {R : σ → σ → Prop} [Std.Refl R] [IsTrans σ R]
  {h : Services S σ} {ldapInfo : LdapInfo} {userInfo : Option ValidationResults}

omit [Library] in
theorem authenticate_within (hw : h.Within R) (request : LdapBindRequest) :
    Frames R (authenticate h ldapInfo request) := by
  have hbind : Frames R (bindUser ldapInfo h request) := by
    refine Frames.ite (Keeps.fail _).frames ?_
    split
    · exact (Keeps.fail _).frames
    · split
      · exact (Keeps.fail _).frames
      · exact (hw.bind _ _).mapErr.bind fun _ => (Keeps.pure _).frames
  have hpermissions (u : UserId) : Frames R (getPermissionsForUser h u) :=
    (hw.getUserGroups u).bind fun _ => (Keeps.pure _).frames
  refine hbind.bind fun userId => (hw.getUserDetails userId).mapErr.bind fun user => ?_
  refine Frames.ite (recover_within ?_ _) (Keeps.fail _).frames
  exact (hpermissions userId).bind fun _ => (Keeps.pure _).frames

omit [Library] in
theorem doBind_within (hw : h.Within R) (request : LdapBindRequest) :
    Frames R (doBind h ldapInfo userInfo request) := by
  refine (authenticate_within hw request).attempt.bind fun r => ?_
  split
  · exact (Keeps.pure _).frames
  · exact (Keeps.pure _).frames
  · exact (Keeps.fail _).frames

section

variable {backend : UserRestrictedLister S σ} {request : LdapSearchRequest}

theorem getUserList_within (hw : backend.handler.Within R) (filter : LdapFilter) (groups : Bool)
    (base : String) :
    Frames R (getUserList ldapInfo PublicSchema.get backend.listUsers filter groups base) :=
  (Keeps.lift _).frames.bind fun _ => (hw.listUsers _ _).mapErr

theorem getGroupsList_within (hw : backend.handler.Within R) (filter : LdapFilter)
    (base : String) :
    Frames R (getGroupsList ldapInfo PublicSchema.get backend.listGroups filter base) :=
  (Keeps.lift _).frames.bind fun _ => (hw.listGroups _).mapErr

theorem foundUsers_within (hw : backend.handler.Within R) :
    Frames R (foundUsers backend ldapInfo request) :=
  (getUserList_within hw _ _ _).bind fun _ => (Keeps.lift _).frames

theorem foundGroups_within (hw : backend.handler.Within R) :
    Frames R (foundGroups backend ldapInfo request) :=
  (getGroupsList_within hw _ _).bind fun _ => (Keeps.lift _).frames

theorem doSearch_within (hw : backend.handler.Within R) (allowedOus : List String) :
    Frames R (doSearch backend ldapInfo request allowedOus) := by
  unfold doSearch
  split
  · exact (Keeps.pure _).frames
  · split
    · refine Frames.ite (Keeps.pure _).frames (Frames.ite ?_ (Keeps.pure _).frames)
      exact (foundUsers_within hw).bind fun _ => (foundGroups_within hw).bind fun _ =>
        (Keeps.pure _).frames
    · refine Frames.ite (Keeps.pure _).frames ?_
      exact (foundUsers_within hw).bind fun _ => (foundGroups_within hw).bind fun _ =>
        (Keeps.pure _).frames
    · unfold searchUser
      split
      · exact (Keeps.pure _).frames
      · refine (getUserList_within hw _ _ _).bind fun _ => Frames.ite (Keeps.fail _).frames ?_
        exact (foundUsers_within hw).bind fun _ => (Keeps.pure _).frames
    · unfold searchGroup
      split
      · exact (Keeps.pure _).frames
      · refine (getGroupsList_within hw _ _).bind fun _ => Frames.ite (Keeps.fail _).frames ?_
        exact (foundGroups_within hw).bind fun _ => (Keeps.pure _).frames
    · exact (Keeps.pure _).frames
    · exact (Keeps.pure _).frames

theorem doBoundSearch_within (hw : h.Within R) :
    Frames R (doBoundSearch h ldapInfo userInfo request) := by
  unfold doBoundSearch
  split
  · exact (Keeps.fail _).frames
  · exact (recover_within hw.getAllowedOus _).bind fun _ => doSearch_within hw _

theorem doSearchOrDse_within (hw : h.Within R) :
    Frames R (doSearchOrDse h ldapInfo userInfo request) :=
  Frames.ite (Keeps.pure _).frames (Frames.ite (Keeps.pure _).frames (doBoundSearch_within hw))

end

omit [External] [Library] in
theorem changePassword_within (hw : h.PasswordWithin R) (user : UserId) (password : Lib.Bytes) :
    Frames R (changePassword h user password) :=
  (Keeps.lift _).frames.bind fun _ => (hw.registrationStart _).mapErr.bind fun _ =>
    (Keeps.lift _).frames.bind fun _ => (hw.registrationFinish _).mapErr

theorem doPasswordModification_within (hw : h.Within R) (credentials : ValidationResults)
    (request : LdapPasswordModifyRequest) :
    Frames R (doPasswordModification ldapInfo h credentials request) := by
  unfold doPasswordModification
  split
  · split
    · exact (Keeps.fail _).frames
    · rename_i uid _
      refine within_of_readable ((hw.getUserGroups uid).mapErr.bind fun groups => ?_)
      refine Frames.ite (Keeps.fail _).frames ((changePassword_within hw.passwords _ _).mapErr.bind fun _ => ?_)
      refine Frames.bind ?_ fun _ => (Keeps.pure _).frames
      refine within_of_readable ((hw.getUserDetails uid).mapErr.bind fun user => ?_)
      refine Frames.ite ?_ (Keeps.pure _).frames
      exact (hw.syncKerberosPrincipal _ _).attempt.bind fun _ =>
        recover_within (hw.ensureKerberosPrincipalConsistency _ _) _
  · exact (Keeps.fail _).frames

theorem doExtendedRequest_within (hw : h.Within R) (request : LdapExtendedRequest) :
    Frames R (doExtendedRequest h ldapInfo userInfo request) := by
  unfold doExtendedRequest
  refine Frames.ite ?_ (Frames.ite ?_ (Keeps.pure _).frames)
  · split
    · exact (Keeps.pure _).frames
    · split
      · exact (Keeps.pure _).frames
      · exact respond_frames (doPasswordModification_within hw _ _)
  · split
    · exact (Keeps.pure _).frames
    · rename_i v
      have hlist : Frames R (getUserList ldapInfo PublicSchema.get h.listUsers
          (.equality "uid" v.user.asStr) false ldapInfo.baseDnStr) :=
        (Keeps.lift _).frames.bind fun _ => (hw.listUsers _ _).mapErr
      refine respond_frames (hlist.attempt.bind fun users => ?_)
      dsimp only
      split
      · exact (Keeps.pure _).frames
      · exact (Keeps.fail _).frames.bind fun _ => (Keeps.pure _).frames
      · exact (Keeps.pure _).frames

theorem profileUpdate_within (hw : h.PasswordWithin R) (userId : UserId) (change : LdapModify) :
    Frames R (profileUpdate h userId change) := by
  have huser : Frames R (currentUser h userId) := (hw.getUserDetails _).mapErr
  refine Frames.ite (Keeps.fail _).frames ?_
  split
  · exact (Keeps.lift _).frames
  · refine Frames.ite (Keeps.lift _).frames (Frames.ite ?_ ?_)
    · exact huser.bind fun _ => (Keeps.lift _).frames
    · split
      · exact (Keeps.lift _).frames
      · exact (Keeps.fail _).frames
  · refine Frames.ite (Frames.ite (Keeps.pure _).frames ?_) (Frames.ite (Keeps.pure _).frames
      (Frames.ite (Keeps.pure _).frames (Frames.ite (Keeps.pure _).frames (Keeps.fail _).frames)))
    exact huser.bind fun _ => Frames.ite (Keeps.pure _).frames (Keeps.lift _).frames

omit [External] in
theorem modifyPassword_within (hw : h.PasswordWithin R) (userId : UserId)
    (credentials : ValidationResults) (userIsAdmin : Bool) (change : LdapModify) :
    Frames R (modifyPassword h h userId credentials userIsAdmin change) := by
  refine Frames.ite (Keeps.fail _).frames (Frames.ite (Keeps.fail _).frames ?_)
  split
  · refine (changePassword_within hw _ _).mapErr.bind fun _ => ?_
    unfold syncAfterReplace
    split
    · exact (Keeps.pure _).frames
    · refine (hw.getUserDetails _).attempt.bind fun user => ?_
      split
      · exact (Keeps.fail _).frames
      · exact (Keeps.pure _).frames
      · exact (hw.syncKerberosIfEnabled _ _ _).attempt.bind fun _ => (Keeps.pure _).frames
  · exact (Keeps.fail _).frames

theorem modifyStep_frames (hw : h.PasswordWithin R) (uid : UserId)
    (credentials : ValidationResults) (change : LdapModify)
    (hupdate : ∀ update, Eff.Returns (profileUpdate h uid change) update →
      Frames R (h.updateUser update)) : Frames R (modifyStep h uid credentials change) := by
  have hreadable : ∀ h', getReadableHandler h credentials uid = some h' → h' = h := by
    intro h' heq
    unfold getReadableHandler at heq
    split at heq <;> cases heq
    rfl
  have hwriteable : ∀ h', getWriteableHandler h credentials uid = some h' → h' = h := by
    intro h' heq
    unfold getWriteableHandler at heq
    split at heq <;> cases heq
    rfl
  refine within_of_refused hreadable (within_of_refused hwriteable ?_)
  refine (hw.getUserGroups uid).mapErr.bind fun groups => Frames.ite ?_ ?_
  · exact modifyPassword_within hw _ _ _ _
  · refine Frames.ite (Keeps.fail _).frames ?_
    exact (profileUpdate_within hw _ _).bind_returns fun update hreturns =>
      (hupdate update hreturns).mapErr

theorem modifyStep_within (hw : h.Within R) (uid : UserId) (credentials : ValidationResults)
    (change : LdapModify) : Frames R (modifyStep h uid credentials change) :=
  modifyStep_frames hw.passwords uid credentials change fun update _ => hw.updateUser update

theorem doModifyRequest_within (hw : h.Within R) (request : LdapModifyRequest) :
    Frames R (doModifyRequest h ldapInfo userInfo request) := by
  unfold doModifyRequest
  split
  · exact (Keeps.pure _).frames
  · refine respond_frames ?_
    unfold handleModifyRequest
    split
    · exact (Keeps.fail _).frames
    · exact (Frames.each fun change _ => modifyStep_within hw _ _ change).bind fun _ =>
        (Keeps.pure _).frames

omit [External] [Library] [IsTrans σ R] in
theorem within_of_adminView {α : Type} {f : Services S σ → Eff σ Failure α}
    (hf : Frames R (f h)) : Frames R (adminView h userInfo >>= f) := by
  refine within_of_refused (fun h' heq => ?_) hf
  obtain ⟨v, -, hv⟩ := Option.bind_eq_some_iff.mp heq
  unfold getAdminHandler at hv
  split at hv <;> cases hv
  rfl

theorem doAdd_within (hw : h.Within R) (request : LdapAddRequest) :
    Frames R (doAdd h ldapInfo userInfo request) := by
  refine within_of_adminView ((Keeps.lift _).frames.bind fun dnParts => ?_)
  split
  · refine (Keeps.lift _).frames.bind fun attributes => (Keeps.lift _).frames.bind fun request =>
      (hw.createUser _).mapErr.bind fun _ => ?_
    split
    · exact (Keeps.pure _).frames
    · exact (hw.syncKerberosPrincipal _ _).attempt.bind fun _ => (Keeps.pure _).frames
  · exact (Keeps.lift _).frames.bind fun _ => (hw.createGroup _).mapErr.bind fun _ =>
      (Keeps.pure _).frames
  · exact (Keeps.lift _).frames

theorem deleteGroup_within (hw : h.Within R) (groupName : GroupName) :
    Frames R (deleteGroup h groupName) := by
  refine (hw.listGroups _).mapErr.bind fun groups => ?_
  split
  · exact (Keeps.fail _).frames
  · exact (hw.deleteGroup _).mapErr.bind fun _ => (Keeps.pure _).frames

theorem doDelete_within (hw : h.Within R) {dn : String}
    (hdn : ∀ u, getUserOrGroupIdFromDistinguishedName dn ldapInfo.baseDn ≠ .user u) :
    Frames R (doDelete h ldapInfo userInfo dn) := by
  refine within_of_adminView ?_
  unfold deleteUserOrGroup
  split
  · rename_i u heq
    exact absurd heq (hdn u)
  · exact deleteGroup_within hw _
  · exact (Keeps.lift _).frames

theorem handleLdapMessage_within (hw : h.Within R) {op : LdapOp}
    (hop : ∀ dn u, op = .delRequest dn →
      getUserOrGroupIdFromDistinguishedName dn ldapInfo.baseDn ≠ .user u) :
    Frames R (handleLdapMessage h ldapInfo userInfo op) := by
  cases op with
  | bindRequest r => exact (doBind_within hw r).bind fun _ => (Keeps.pure _).frames
  | searchRequest r => exact answer_frames (respond_frames (doSearchOrDse_within hw))
  | unbindRequest => exact (Keeps.pure _).frames
  | modifyRequest r => exact answer_frames (doModifyRequest_within hw r)
  | extendedRequest r => exact answer_frames (doExtendedRequest_within hw r)
  | addRequest r => exact answer_frames (respond_frames (doAdd_within hw r))
  | delRequest dn => exact answer_frames (respond_frames (doDelete_within hw (hop dn · rfl)))
  | compareRequest r =>
    exact answer_frames (respond_frames ((doBoundSearch_within hw).bind fun _ =>
      (Keeps.pure _).frames))
  | _ => exact answer_frames (Keeps.pure _).frames

end

end Ldap
end Klldap
