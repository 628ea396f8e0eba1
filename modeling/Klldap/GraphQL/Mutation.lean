import Klldap.GraphQL.Helpers

/-!
# Klldap.GraphQL.Mutation: the mutations

`mutation/mod.rs`: one resolver per mutation, and `Mutation.execute`, which runs any of them. A
resolver asks the context for a view of the backend and fails when its session does not get one.
What a resolver writes to the log is left out.
-/

namespace Klldap
namespace GraphQL

open Lib (Bytes Eff)
open Lib.Bincode (utf8)
open Lib.Text
open Opaque (Suite)

/-! ## Requests and answers -/

structure KeycloakInput where
  url : String
  realm : String
  adminUser : String
  adminPass : String

structure PushRealmInput extends KeycloakInput where
  lldapUrl : String
  syncUsername : String
  syncPassword : String
  enableHsts : Bool
  enableBruteForce : Bool

inductive Mutation where
  | createUser (user : CreateUserInput)
  | setUserPassword (userId password : String)
  | createGroup (group : CreateGroupInput)
  | createGroupWithDetails (request : CreateGroupInput)
  | updateUser (user : UpdateUserInput)
  | updateGroup (group : UpdateGroupInput)
  | addUserToGroup (userId : String) (groupId : Int)
  | removeUserFromGroup (userId : String) (groupId : Int)
  | deleteUser (userId : String)
  | deleteGroup (groupId : Int)
  | createOu (name : String)
  | deleteOu (name : String)
  | changeUserOu (userIds : List String) (newOu : String)
  | changeGroupOu (groupIds : List Int) (newOu : String)
  | addUserAttribute (name : String) (typ : AttributeType) (isList isVisible isEditable : Bool)
  | addGroupAttribute (name : String) (typ : AttributeType) (isList isVisible isEditable : Bool)
  | deleteUserAttribute (name : String)
  | deleteGroupAttribute (name : String)
  | addUserObjectClass (name : String)
  | addGroupObjectClass (name : String)
  | deleteUserObjectClass (name : String)
  | deleteGroupObjectClass (name : String)
  | syncKerberosPassword (userId encryptedPassword : String)
  | exportKeytabForKeycloak (hostname : String)
  | testKeycloakConnection (input : KeycloakInput)
  | saveKeycloakConfig (config : KeycloakConfig)
  | pushRealmToKeycloak (input : PushRealmInput)
  | setPosixSettings (settings : PosixSettings)
  | reassignUserUidNumbers
  | reassignUserGidNumbers
  | reassignUserHomedirectories
  | reassignUserLoginshells
  | reassignGidNumbers

inductive Response where
  | success
  | user (user : User)
  | group (group : GroupDetails)
  | flag (b : Bool)
  | keytab (ok : Bool) (path errorMsg : String)
  | message (ok : Bool) (message : String)

/-! ## Resolvers -/

abbrev Field (σ : Type) := Eff σ FieldError

structure Context (S : Suite) (σ : Type) where
  handler : Services S σ
  validationResult : ValidationResults

section

variable {S : Suite} {σ α : Type}

def orUnauthorized (message : String) (view : Option α) : Field σ α :=
  match view with
  | some h => pure h
  | none => Eff.fail (.error message none)

def orFail (m : Eff σ DomainError α) : Field σ α := m.mapErr .ofDomain

/-- `.context(message)`: the message stands in front of the error that caused it. -/
def context (message : String) {ε : Type} (m : Eff σ ε α) : Field σ α :=
  m.mapErr fun _ => .error message none

/-- `FieldError::new(message, details)` over an error of the backend. -/
def withDetails (message : String) (m : Eff σ DomainError α) : Field σ α :=
  m.mapErr fun e => .error message (some e.display)

def fieldError (message : String) : Field σ α := Eff.fail (.error message none)

variable [External] (ctx : Context S σ)

def extractKerberosSync (schema : Schema) (attrs : List Attribute) : Bool :=
  let kerbName := canonicalName schema.userAttributes "kerberossync"
  match attrs.find? fun a => a.name.asStr = kerbName with
  | none => false
  | some a =>
    match a.value with
    | .integer (.singleton i) => i = 1
    | .string (.singleton s) => s = "1" || toLowercase s = "true"
    | _ => false

def ouAttribute (ou : String) : Attribute := ⟨.new "ou", .string (.singleton ou)⟩

/-- The first value given for the `ou`, and the other attributes. -/
def splitOu (isOu : AttributeInput → Bool) (default : String) (attributes : List AttributeInput) :
    String × List AttributeInput :=
  (((attributes.find? isOu).bind fun a => a.value.head?).getD default,
    attributes.filter fun a => !isOu a)

def createUser (user : CreateUserInput) : Field σ Response := do
  let userId := UserId.new user.id
  let handler ← orUnauthorized "Unauthorized user creation"
    (getAdminHandler ctx.handler ctx.validationResult)
  let schema ← orFail handler.getSchema
  let consolidated := consolidateAttributes (user.attributes.getD []) user.firstName user.lastName
    user.avatar schema
  let (ouValue, forUnpack) := splitOu
    (fun a => resolveCanonicalName schema.userAttributes a.name = some "ou") "people" consolidated
  let unpacked ← Eff.lift (unpackAttributes forUnpack schema true)
  match (user.email.map Email.mk).or unpacked.email with
  | none => fieldError "Email is required when creating a new user"
  | some email => do
    orFail (handler.createUser {
      userId := userId
      email := email
      displayName := user.displayName.or unpacked.displayName
      attributes := unpacked.attributes ++ [ouAttribute ouValue] })
    let details ← orFail (handler.getUserDetails userId)
    pure (.user details)

/-- The four messages of the OPAQUE registration, with the server playing the client too. -/
def registerPassword (handler : Services S σ) (target : UserId) (password : String) :
    Field σ Unit := do
  let (state, message) ← context "Could not initiate password registration"
    (Eff.lift (S.clientStartRegistration (utf8 password) handler.rng))
  let start ← context "Registration start failed"
    (handler.registrationStart ⟨target, message⟩)
  let upload ← context "Error during password registration finish"
    (Eff.lift (S.clientFinishRegistration state (utf8 password) start.registrationResponse
      handler.rng))
  context "Registration finish failed" (handler.registrationFinish ⟨start.serverData, upload⟩)

def setUserPassword (userId password : String) : Field σ Response := do
  let target := UserId.new userId
  let handler ← orUnauthorized "Unauthorized password set"
    (getWriteableHandler ctx.handler ctx.validationResult target)
  registerPassword handler target password
  let user ← context "Failed to fetch user for Kerberos sync check"
    (handler.getUserDetails target)
  let schema ← orFail handler.getSchema
  let syncEnabled := extractKerberosSync schema user.attributes
  -- the principal is named by the text of the request, not by the folded user id
  let _ ← Eff.attempt (handler.syncKerberosIfEnabled syncEnabled userId password)
  let _ ← Eff.attempt (handler.ensureKerberosPrincipalConsistency target syncEnabled)
  pure .success

def createGroupWithDetails (request : CreateGroupInput) : Field σ Response := do
  let handler ← orUnauthorized "Unauthorized group creation"
    (getAdminHandler ctx.handler ctx.validationResult)
  let schema ← orFail handler.getSchema
  let (ouValue, forUnpack) := splitOu
    (fun a => canonicalName schema.groupAttributes a.name = "ou") "groups"
    (request.attributes.getD [])
  let attributes ← Eff.lift (forUnpack.mapM fun a =>
    deserializeAttribute schema.groupAttributes a true)
  let groupId ← orFail (handler.createGroup
    ⟨⟨request.displayName⟩, attributes ++ [ouAttribute ouValue]⟩)
  let details ← orFail (handler.getGroupDetails groupId)
  pure (.group details)

def updateUserRequest (schema : Schema) (isAdmin : Bool) (user : UpdateUserInput) :
    Except FieldError UpdateUserRequest := do
  let consolidated := consolidateAttributes (user.insertAttributes.getD []) user.firstName
    user.lastName user.avatar schema
  -- the `ou` is not to be edited directly
  let deleteAttributes := (user.removeAttributes.getD []).filter fun attr =>
    resolveCanonicalName schema.userAttributes attr ≠ some "ou"
  let unpacked ← unpackAttributes
    (consolidated.filter fun a => !deleteAttributes.contains a.name) schema isAdmin
  .ok {
    userId := UserId.new user.id
    email := (user.email.map Email.mk).or unpacked.email
    displayName := user.displayName.or unpacked.displayName
    deleteAttributes := (deleteAttributes.filter fun attr =>
      attr ≠ "mail" && toLowercase attr ≠ "displayname").map AttributeName.new
    insertAttributes := unpacked.attributes }

def updateUser (user : UpdateUserInput) : Field σ Response := do
  let handler ← orUnauthorized "Unauthorized user update"
    (getWriteableHandler ctx.handler ctx.validationResult (UserId.new user.id))
  let schema ← orFail handler.getSchema
  let request ← Eff.lift (updateUserRequest schema ctx.validationResult.isAdmin user)
  orFail (handler.updateUser request)
  pure .success

/-- The name that an update gives the group, by its field or by an attribute. -/
def newDisplayName (group : UpdateGroupInput) : Except FieldError (Option String) :=
  match group.displayName with
  | some name => .ok (some name)
  | none =>
    match (group.insertAttributes.getD []).find? fun a => a.name = "displayname" with
    | none => .ok none
    | some a =>
      match a.value with
      | [] => .error (.panicked "index out of bounds: the len is 0 but the index is 0")
      | v :: _ => .ok (some v)

def refuseBuiltin (verb : String) (handler : Services S σ) (groupId : GroupId) : Field σ Unit := do
  match ← Eff.attempt (handler.getGroupDetails groupId) with
  | .ok details =>
    if isBuiltinGroup details.displayName.raw then
      fieldError ("Cannot " ++ verb ++ " built-in group '" ++ details.displayName.raw ++ "'")
    else pure ()
  | .error (_ : DomainError) => pure ()

def updateGroup (group : UpdateGroupInput) : Field σ Response := do
  let handler ← orUnauthorized "Unauthorized group update"
    (getAdminHandler ctx.handler ctx.validationResult)
  let displayName ← Eff.lift (newDisplayName group)
  if displayName.isSome then refuseBuiltin "rename" handler ⟨group.id⟩
  let schema ← orFail handler.getSchema
  let insertAttributes ← Eff.lift
    (((group.insertAttributes.getD []).filter fun a => a.name ≠ "displayname").mapM fun a =>
      deserializeAttribute schema.groupAttributes a true)
  orFail (handler.updateGroup {
    groupId := ⟨group.id⟩
    displayName := displayName.map GroupName.mk
    deleteAttributes := ((group.removeAttributes.getD []).filter fun a => a ≠ "displayname").map
      AttributeName.new
    insertAttributes := insertAttributes })
  pure .success

def addUserToGroup (userId : String) (groupId : Int) : Field σ Response := do
  let handler ← orUnauthorized "Unauthorized group membership modification"
    (getAdminHandler ctx.handler ctx.validationResult)
  orFail (handler.addUserToGroup (UserId.new userId) ⟨groupId⟩)
  pure .success

def checkAdminRemoval (handler : Services S σ) (target : UserId) (groupId : GroupId) :
    Field σ Unit := do
  match ← Eff.attempt (handler.listUsers (some (.memberOfId groupId)) false) with
  | .ok members =>
    if members.length ≤ 1 then fieldError "Cannot remove the last member of lldap_admin"
    else pure ()
  | .error (_ : DomainError) => pure ()
  if ctx.validationResult.user = target then
    fieldError "Cannot remove admin rights for current user"

def removeUserFromGroup (userId : String) (groupId : Int) : Field σ Response := do
  let handler ← orUnauthorized "Unauthorized group membership modification"
    (getAdminHandler ctx.handler ctx.validationResult)
  let target := UserId.new userId
  let groupName ← do
    match ← Eff.attempt (handler.getGroupDetails ⟨groupId⟩) with
    | .ok details => pure details.displayName.raw
    | .error (_ : DomainError) => pure ""
  if groupName = "lldap_admin" then checkAdminRemoval ctx handler target ⟨groupId⟩
  orFail (handler.removeUserFromGroup target ⟨groupId⟩)
  pure .success

def deleteUser (userId : String) : Field σ Response := do
  let target := UserId.new userId
  let handler ← orUnauthorized "Unauthorized user deletion"
    (getAdminHandler ctx.handler ctx.validationResult)
  if ctx.validationResult.user = target then fieldError "Cannot delete current user"
  withDetails "User deletion failed" (handler.deleteUser target)
  pure .success

def deleteGroup (groupId : Int) : Field σ Response := do
  let handler ← orUnauthorized "Unauthorized group deletion"
    (getAdminHandler ctx.handler ctx.validationResult)
  refuseBuiltin "delete" handler ⟨groupId⟩
  orFail (handler.deleteGroup ⟨groupId⟩)
  pure .success

def isValidOuName (s : String) : Bool :=
  let cs := s.toList
  2 ≤ (utf8 s).length && (utf8 s).length ≤ 64 &&
    cs.all (fun c => c.isAlphanum || c = '-' || c = '_') &&
    ['-', '_'].all fun c => cs.head? ≠ some c && cs.getLast? ≠ some c

/-- The checks on the name of a new organizational unit; answers its levels. -/
def checkNewOu (name : String) : Except FieldError (String × Option String) :=
  if ["", "all", "people", "groups"].contains (toLowercase (trim name)) then
    anyhow "Invalid OU name (cannot be empty or built-in)"
  else
    let (primary, secondary) := match splitOnce '\\' name with
      | none => (name, none)
      | some (primary, secondary) => (primary, some secondary)
    if !isValidOuName primary then
      anyhow ("Invalid primary OU name: 2-64 characters, only a-z A-Z 0-9 - _ allowed. " ++
        "No spaces or special characters.")
    else if secondary.any fun s => trim s = "" || !isValidOuName s then
      anyhow ("Invalid secondary OU name: 2-64 characters, only a-z A-Z 0-9 - _ allowed. " ++
        "No spaces or special characters.")
    else .ok (primary, secondary)

def saveAllowedOus (handler : Services S σ) (ous : List String) : Field σ Unit :=
  context "Failed to save updated OU list"
    (handler.setSystemConfig "allowedous" (External.stringsToJson ous))

def createOu (name : String) : Field σ Response := do
  let handler ← orUnauthorized "Unauthorized OU creation"
    (getAdminHandler ctx.handler ctx.validationResult)
  let (primary, secondary) ← Eff.lift (checkNewOu name)
  let currentOus ← context "Failed to load allowedous" handler.getAllowedOus
  if currentOus.any fun existing => toLowercase existing = toLowercase name then
    fieldError ("Organizational Unit '" ++ name ++ "' already exists")
  else if secondary.isSome && !currentOus.any (fun p => toLowercase p = toLowercase primary) then
    fieldError ("Primary OU '" ++ primary ++
      "' does not exist. Create it first before adding a secondary.")
  else do
    saveAllowedOus handler (Sql.orderBy id (currentOus ++ [name]))
    pure .success

def currentOu (attributes : List Attribute) : String :=
  match attributes.find? fun a => a.name.asStr = "ou" with
  | some ⟨_, .string (.singleton s)⟩ => s
  | _ => ""

def bestEffort {β : Type} (f : β → Eff σ DomainError Unit) (l : List β) : Field σ Unit :=
  Eff.each (fun b => do
    let _ ← Eff.attempt (f b)
    pure ()) l

/-- Move the users and groups of a deleted organizational unit to the default ones. -/
def reassignOu (handler : Services S σ) (nameLower : String) : Field σ Unit := do
  match ← Eff.attempt (handler.listUsers none false) with
  | .ok users =>
    bestEffort (fun u => handler.updateUser ⟨u.user.userId, none, none, [], [ouAttribute "people"]⟩)
      (users.filter fun u => toLowercase (currentOu u.user.attributes) = nameLower)
  | .error (_ : DomainError) => pure ()
  match ← Eff.attempt (handler.listGroups none) with
  | .ok groups =>
    bestEffort (fun g => handler.updateGroup ⟨g.id, none, [], [ouAttribute "groups"]⟩)
      (groups.filter fun g => toLowercase (currentOu g.attributes) = nameLower)
  | .error (_ : DomainError) => pure ()

def deleteOu (name : String) : Field σ Response := do
  let handler ← orUnauthorized "Unauthorized OU deletion"
    (getAdminHandler ctx.handler ctx.validationResult)
  let nameLower := toLowercase (trim name)
  if ["people", "groups", "all"].contains nameLower then
    fieldError "Cannot delete built-in OU 'people', 'groups', or 'All'"
  else do
    let currentOus ← context "Failed to load allowedous" handler.getAllowedOus
    if currentOus.any fun ou => (splitOnce '\\' ou).any fun p => toLowercase p.1 = nameLower then
      fieldError ("Cannot delete primary OU '" ++ name ++
        "' because it still contains secondary OUs. Delete the secondary OUs first.")
    else do
      reassignOu handler nameLower
      saveAllowedOus handler (currentOus.filter fun o => toLowercase o ≠ nameLower)
      pure .success

def changeUserOu (userIds : List String) (newOu : String) : Field σ Response := do
  let handler ← orUnauthorized "Unauthorized OU change"
    (getAdminHandler ctx.handler ctx.validationResult)
  if toLowercase (trim newOu) = "all" then fieldError "Cannot move users to built-in OU 'All'"
  else do
    Eff.each
      (fun userId => withDetails ("Failed to change OU for user " ++ userId)
        (handler.updateUser ⟨UserId.new userId, none, none, [], [ouAttribute newOu]⟩)) userIds
    pure .success

def changeGroupOu (groupIds : List Int) (newOu : String) : Field σ Response := do
  let handler ← orUnauthorized "Unauthorized OU change"
    (getAdminHandler ctx.handler ctx.validationResult)
  if toLowercase (trim newOu) = "all" then fieldError "Cannot move groups to built-in OU 'All'"
  else do
    Eff.each
      (fun groupId => withDetails ("Failed to change OU for group " ++ toString groupId)
        (handler.updateGroup ⟨⟨groupId⟩, none, [], [ouAttribute newOu]⟩)) groupIds
    pure .success

def validateAttributeName (name : String) : Except (List Char) Unit :=
  let invalid := name.toList.filter fun c =>
    !((if isAscii c then c.isAlphanum else External.charIsAlphanumeric c) || c = '-')
  if invalid = [] then .ok () else .error invalid

/-- The checks on the name of a new attribute; `other` is the schema of the other kind of entry. -/
def checkNewAttribute (kind : String) (other : AttributeList) (name : String) :
    Except FieldError Unit :=
  if (getByNameOrAlias other name).isSome then
    anyhow ("Attribute '" ++ name ++ "' already exists in the " ++ kind ++ " schema. " ++
      "Duplicate names are not allowed across user and group attributes.")
  else
    match validateAttributeName name with
    | .ok _ => .ok ()
    | .error chars =>
      anyhow ("Cannot create attribute with invalid name. Valid characters: " ++
        "a-z, A-Z, 0-9, and dash (-). Invalid chars found: " ++ String.ofList chars)

def addUserAttribute (name : String) (typ : AttributeType) (isList isVisible isEditable : Bool) :
    Field σ Response := do
  let handler ← orUnauthorized "Unauthorized attribute creation"
    (getAdminHandler ctx.handler ctx.validationResult)
  let schema ← orFail handler.getSchema
  Eff.lift (checkNewAttribute "group" schema.groupAttributes name)
  orFail (handler.addUserAttribute ⟨.new name, typ, isList, isVisible, isEditable⟩)
  pure .success

def addGroupAttribute (name : String) (typ : AttributeType) (isList isVisible isEditable : Bool) :
    Field σ Response := do
  let handler ← orUnauthorized "Unauthorized attribute creation"
    (getAdminHandler ctx.handler ctx.validationResult)
  let schema ← orFail handler.getSchema
  Eff.lift (checkNewAttribute "user" schema.userAttributes name)
  orFail (handler.addGroupAttribute ⟨.new name, typ, isList, isVisible, isEditable⟩)
  pure .success

def checkDeletable (l : AttributeList) (name : AttributeName) : Except FieldError Unit :=
  match getByNameOrAlias l name.asStr with
  | none => anyhow ("Attribute " ++ name.asStr ++ " is not defined in the schema")
  | some a =>
    if a.isHardcoded then
      anyhow ("Permission denied: Attribute " ++ name.asStr ++ " cannot be deleted")
    else .ok ()

def deleteUserAttribute (name : String) : Field σ Response := do
  let name := AttributeName.new name
  let handler ← orUnauthorized "Unauthorized attribute deletion"
    (getAdminHandler ctx.handler ctx.validationResult)
  let schema ← orFail handler.getSchema
  Eff.lift (checkDeletable schema.userAttributes name)
  orFail (handler.deleteUserAttribute name)
  pure .success

def deleteGroupAttribute (name : String) : Field σ Response := do
  let name := AttributeName.new name
  let handler ← orUnauthorized "Unauthorized attribute deletion"
    (getAdminHandler ctx.handler ctx.validationResult)
  let schema ← orFail handler.getSchema
  Eff.lift (checkDeletable schema.groupAttributes name)
  orFail (handler.deleteGroupAttribute name)
  pure .success

/-- The mutations that only hand their argument to one call of an administrator's backend. -/
def adminCall (unauthorized : String) (call : Services S σ → Eff σ DomainError Unit) :
    Field σ Response := do
  let handler ← orUnauthorized unauthorized (getAdminHandler ctx.handler ctx.validationResult)
  orFail (call handler)
  pure .success

def addUserObjectClass (name : String) : Field σ Response :=
  adminCall ctx "Unauthorized object class addition" fun h => h.addUserObjectClass ⟨name⟩

def addGroupObjectClass (name : String) : Field σ Response :=
  adminCall ctx "Unauthorized object class addition" fun h => h.addGroupObjectClass ⟨name⟩

def deleteUserObjectClass (name : String) : Field σ Response :=
  adminCall ctx "Unauthorized object class deletion" fun h => h.deleteUserObjectClass ⟨name⟩

def deleteGroupObjectClass (name : String) : Field σ Response :=
  adminCall ctx "Unauthorized object class deletion" fun h => h.deleteGroupObjectClass ⟨name⟩

/-- An error of a library as the details of a `FieldError`. -/
def withCause {α : Type} (message : String) (m : Eff σ String α) : Field σ α :=
  m.mapErr fun e => .error message (some e)

def syncKerberosPassword (userId encryptedPassword : String) : Field σ Response := do
  let target := UserId.new userId
  let handler ← orUnauthorized "Unauthorized Kerberos sync"
    (getWriteableHandler ctx.handler ctx.validationResult target)
  let plainPassword ← withCause "Kerberos password decryption failed"
    (Eff.lift (handler.decryptPassword encryptedPassword))
  let user ← withDetails "Failed to fetch user for Kerberos sync check"
    (handler.getUserDetails target)
  let schema ← orFail handler.getSchema
  let syncEnabled := extractKerberosSync schema user.attributes
  withCause "Kerberos sync failed" (handler.syncKerberosIfEnabled syncEnabled userId plainPassword)
  let _ ← Eff.attempt (handler.ensureKerberosPrincipalConsistency target syncEnabled)
  pure (.flag true)

-- the four mutations below never look at the session

def exportKeytabForKeycloak (hostname : String) : Field σ Response := do
  match ← Eff.attempt (ctx.handler.exportKeytabForKeycloak hostname) with
  | .ok path => pure (.keytab true path "")
  | .error (e : String) => pure (.keytab false "" e)

def testKeycloakConnection (input : KeycloakInput) : Field σ Response := do
  match ← Eff.attempt (ctx.handler.testConnection ⟨input.url, input.realm, input.adminUser⟩) with
  | .ok message => pure (.message true message)
  | .error (e : String) => pure (.message false ("❌ " ++ e))

def saveKeycloakConfig (config : KeycloakConfig) : Field σ Response := do
  match ← Eff.attempt (ctx.handler.saveKeycloakConfig config) with
  | .ok _ => pure (.message true ("✅ Keycloak settings saved to /data/keycloak_config.toml " ++
      "(password remains in-memory/env only)"))
  | .error (e : String) => pure (.message false ("❌ Failed to save config: " ++ e))

def pushRealmToKeycloak (input : PushRealmInput) : Field σ Response := do
  let message ← (ctx.handler.setupRealm {
    config := ⟨input.url, input.realm, input.adminUser⟩
    lldapUrl := input.lldapUrl
    syncUsername := input.syncUsername
    syncPassword := input.syncPassword
    enableHsts := input.enableHsts
    enableBruteForce := input.enableBruteForce }).mapErr fun e => .error e none
  pure (.message true message)

def inPosixRange (n : Int) : Bool := 3000 ≤ n && n ≤ 60000

/-- The ranges of the switches that are on. They are checked before the session is. -/
def checkPosixSettings (s : PosixSettings) : Except FieldError Unit :=
  if s.userUidnumberAssign &&
      !(inPosixRange s.userUidnumberStart && inPosixRange s.userUidnumberMax) then
    anyhow "user_uidnumber must be between 3000 and 60000"
  else if s.userGidnumberAssign && !inPosixRange s.userGidnumberStart then
    anyhow "user_gidnumber_start must be between 3000 and 60000"
  else if s.groupGidnumberAssign &&
      !(inPosixRange s.groupGidnumberStart && inPosixRange s.groupGidnumberMax) then
    anyhow "group_gidnumber must be between 3000 and 60000"
  else .ok ()

/-- A POSIX mutation: one call of an administrator's backend and a text on success. -/
def posixCall (unauthorized failure done : String) (call : Services S σ → Eff σ DomainError Unit) :
    Field σ Response := do
  let handler ← orUnauthorized unauthorized (getAdminHandler ctx.handler ctx.validationResult)
  withDetails failure (call handler)
  pure (.message true done)

def setPosixSettings (settings : PosixSettings) : Field σ Response := do
  Eff.lift (checkPosixSettings settings)
  posixCall ctx "Unauthorized POSIX settings change" "Failed to save POSIX settings"
    "✅ POSIX settings saved (toggles and ranges updated)" fun h => h.setPosixSettings settings

def reassignUserUidNumbers : Field σ Response :=
  posixCall ctx "Unauthorized uidNumber reassign" "Failed to reassign user uidNumbers"
    "✅ All user uidNumbers have been reassigned" fun h => h.reassignUserUidNumbers

def reassignUserGidNumbers : Field σ Response :=
  posixCall ctx "Unauthorized gidNumber reassign" "Failed to reassign user gidNumbers"
    "✅ All user gidNumbers have been reassigned" fun h => h.reassignUserGidNumbers

def reassignUserHomedirectories : Field σ Response :=
  posixCall ctx "Unauthorized homeDirectory reassign" "Failed to reassign user homeDirectories"
    "✅ All user homeDirectories have been reassigned" fun h => h.reassignUserHomedirectories

def reassignUserLoginshells : Field σ Response :=
  posixCall ctx "Unauthorized loginShell reassign" "Failed to reassign user loginShells"
    "✅ All user loginShells have been reassigned" fun h => h.reassignUserLoginshells

def reassignGidNumbers : Field σ Response :=
  posixCall ctx "Unauthorized gidNumber reassign" "Failed to reassign gidNumbers"
    "✅ All group gidNumbers have been reassigned" fun h => h.reassignGidNumbers

def Mutation.execute : Mutation → Field σ Response
  | .createUser user => GraphQL.createUser ctx user
  | .setUserPassword userId password => GraphQL.setUserPassword ctx userId password
  | .createGroup group => GraphQL.createGroupWithDetails ctx group
  | .createGroupWithDetails request => GraphQL.createGroupWithDetails ctx request
  | .updateUser user => GraphQL.updateUser ctx user
  | .updateGroup group => GraphQL.updateGroup ctx group
  | .addUserToGroup userId groupId => GraphQL.addUserToGroup ctx userId groupId
  | .removeUserFromGroup userId groupId => GraphQL.removeUserFromGroup ctx userId groupId
  | .deleteUser userId => GraphQL.deleteUser ctx userId
  | .deleteGroup groupId => GraphQL.deleteGroup ctx groupId
  | .createOu name => GraphQL.createOu ctx name
  | .deleteOu name => GraphQL.deleteOu ctx name
  | .changeUserOu userIds newOu => GraphQL.changeUserOu ctx userIds newOu
  | .changeGroupOu groupIds newOu => GraphQL.changeGroupOu ctx groupIds newOu
  | .addUserAttribute name typ isList isVisible isEditable =>
    GraphQL.addUserAttribute ctx name typ isList isVisible isEditable
  | .addGroupAttribute name typ isList isVisible isEditable =>
    GraphQL.addGroupAttribute ctx name typ isList isVisible isEditable
  | .deleteUserAttribute name => GraphQL.deleteUserAttribute ctx name
  | .deleteGroupAttribute name => GraphQL.deleteGroupAttribute ctx name
  | .addUserObjectClass name => GraphQL.addUserObjectClass ctx name
  | .addGroupObjectClass name => GraphQL.addGroupObjectClass ctx name
  | .deleteUserObjectClass name => GraphQL.deleteUserObjectClass ctx name
  | .deleteGroupObjectClass name => GraphQL.deleteGroupObjectClass ctx name
  | .syncKerberosPassword userId encryptedPassword =>
    GraphQL.syncKerberosPassword ctx userId encryptedPassword
  | .exportKeytabForKeycloak hostname => GraphQL.exportKeytabForKeycloak ctx hostname
  | .testKeycloakConnection input => GraphQL.testKeycloakConnection ctx input
  | .saveKeycloakConfig config => GraphQL.saveKeycloakConfig ctx config
  | .pushRealmToKeycloak input => GraphQL.pushRealmToKeycloak ctx input
  | .setPosixSettings settings => GraphQL.setPosixSettings ctx settings
  | .reassignUserUidNumbers => GraphQL.reassignUserUidNumbers ctx
  | .reassignUserGidNumbers => GraphQL.reassignUserGidNumbers ctx
  | .reassignUserHomedirectories => GraphQL.reassignUserHomedirectories ctx
  | .reassignUserLoginshells => GraphQL.reassignUserLoginshells ctx
  | .reassignGidNumbers => GraphQL.reassignGidNumbers ctx

end

end GraphQL
end Klldap
