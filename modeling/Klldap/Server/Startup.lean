import Klldap.Requests

/-!
# Klldap.Server.Startup: from a configuration to a server that serves

`init` of `server/src/configuration.rs` finds the server's key, and `set_up_server` of
`server/src/main.rs` compares it with the one of the last start, creates the built-in groups that are
missing, and creates an administrator if there is none. Only then are the ports bound.

What the start finds outside the database (the files, the random key, whether the ports are free) is
an argument, `StartInput`. The tables are taken to be at the last version; `Sql.Migrations` is about
the way there.
-/

namespace Klldap

open Lib (Bytes Eff except_bind_ok)
open Lib.Bincode (utf8)
open Lib.Eff (Frames Keeps)
open Opaque (Suite)

namespace Server

/-! ## The configuration -/

/-- A setting as the three layers over the default give it. -/
structure Setting where
  file : Option String
  env : Option String
  cli : Option String

/-- `RunOpts` overrides the environment, which overrides the file. -/
def Setting.value (s : Setting) (default : String) : String :=
  ((s.cli.or s.env).or s.file).getD default

inductive ConfigLocation where
  | configFile (path : String)
  | environmentVariable (name : String)
  | commandLine
deriving DecidableEq

inductive PrivateKeyLocation where
  | keySeed (location : ConfigLocation)
  | keyFile (location : ConfigLocation) (path : String)
  | default
  | tests
deriving DecidableEq

inductive TrueFalseAlways where
  | false
  | true
  | always
deriving DecidableEq

def TrueFalseAlways.isPositive : TrueFalseAlways → Bool
  | .true | .always => Bool.true
  | .false => Bool.false

def TrueFalseAlways.isYes : TrueFalseAlways → Bool
  | .true => Bool.true
  | .false | .always => Bool.false

structure Configuration where
  configFile : String
  /-- The name that the configuration library has for the environment. -/
  environment : String
  keyFile : Setting
  keySeed : Setting
  jwtSecret : Option String
  ldapUserDn : UserId
  ldapUserEmail : String
  ldapUserPass : Option String
  forceLdapUserPassReset : TrueFalseAlways
  forceUpdatePrivateKey : Bool

def figmentDummyKeySeed : String := "__LLDAP_FIGMENT_DEFAULTS_DUMMY_SEED__"

namespace Configuration

variable (c : Configuration)

def keyFilePath : String := c.keyFile.value "server_key"

def keySeedText : String := c.keySeed.value figmentDummyKeySeed

/-- The layer of the configuration library that has a setting. The command line is not one. -/
def locationOf (s : Setting) : Option ConfigLocation :=
  if s.env.isSome then some (.environmentVariable c.environment)
  else if s.file.isSome then some (.configFile c.configFile)
  else none

def forKeySeed : PrivateKeyLocation := (c.locationOf c.keySeed).elim .default .keySeed

def forKeyFile : PrivateKeyLocation :=
  (c.locationOf c.keyFile).elim .default fun location => .keyFile location c.keyFilePath

end Configuration

/-- What the server calls of `opaque_ke`, `rand_chacha` and `sha2` for its key. -/
structure KeyLibrary (S : Suite) where
  fromSeed : Bytes → S.ServerSetup
  serialize : S.ServerSetup → Bytes
  deserialize : Bytes → Except String S.ServerSetup
  privateKey : S.ServerSetup → Bytes
  stableHash : Bytes → Bytes

structure PrivateKeyInfo where
  privateKeyHash : Bytes
  privateKeyLocation : PrivateKeyLocation
deriving DecidableEq

/-- What a server leaves behind when it stops: the files that may hold a key, what the metadata table
says of the key, and the rest of the world. -/
structure State where
  keyFiles : String → Option Bytes
  privateKeyInfo : Option PrivateKeyInfo
  world : World

/-- How the key has changed since the last start. -/
inductive KeyChange where
  | fileToSeed (newLocation : ConfigLocation) (path : String) (oldLocation : ConfigLocation)
  | defaultToSeed (newLocation : ConfigLocation)
  | fileContents (path : String)
  | otherFile (oldPath : String) (oldLocation : ConfigLocation) (newPath : String)
      (newLocation : ConfigLocation)
  | otherLocation (oldLocation newLocation : PrivateKeyLocation)
deriving DecidableEq

inductive StartError where
  | ambiguousKey (filePath : String)
  | keyFileUnread (filePath error : String)
  | keyFileCorrupt (filePath error : String)
  | keyFileUnwritten (filePath error : String)
  | jwtSecretMissing
  | tables (error : String)
  | keyUnchanged
  | keyChanged (change : KeyChange)
  /-- An error of the backend, under the contexts that were added to it, the last one first. -/
  | backend (contexts : List String) (error : DomainError)
  | restartRequired
  | binding (error : String)
  | panicked (message : String)

abbrev Start := Eff State StartError

/-- A start, with the random bits and the outside that it sees. An error of a call is the `some` of
its text; a key file whose write fails may be left with any content. -/
structure StartInput (S : Suite) where
  config : Configuration
  out : Outside
  rng : S.Coins
  randomKey : S.ServerSetup
  readKeyFile : Option String
  writeKeyFile : Option (String × Option Bytes)
  tables : Option String
  binding : Option String

/-! ## The server's key -/

section Key

variable {S : Suite} (L : KeyLibrary S)

def writeToReadonlyFile (i : StartInput S) (path : String) (buffer : Bytes) : Start Unit :=
  match i.writeKeyFile with
  | none => Eff.writes fun s => { s with keyFiles := Function.update s.keyFiles path (some buffer) }
  | some (error, content) => do
    Eff.writes fun s => { s with keyFiles := Function.update s.keyFiles path content }
    Eff.fail (.keyFileUnwritten path error)

def readKeyFile (i : StartInput S) (path : String) (bytes : Bytes) : Start S.ServerSetup :=
  match i.readKeyFile with
  | some error => Eff.fail (.keyFileUnread path error)
  | none => Eff.lift ((L.deserialize bytes).mapError (.keyFileCorrupt path))

def getServerSetup (i : StartInput S) : Start (S.ServerSetup × PrivateKeyLocation) := do
  let path := i.config.keyFilePath
  let seed := i.config.keySeedText
  let file ← Eff.reads fun s => s.keyFiles path
  if seed = figmentDummyKeySeed then pure (L.fromSeed (List.replicate 32 0), .default)
  else if seed ≠ "" then
    if file.isSome then Eff.fail (.ambiguousKey path)
    else pure (L.fromSeed (L.stableHash (utf8 seed)), i.config.forKeySeed)
  else
    match file with
    | some bytes => do
      let setup ← readKeyFile L i path bytes
      pure (setup, i.config.forKeyFile)
    | none => do
      writeToReadonlyFile i path (L.serialize i.randomKey)
      pure (i.randomKey, i.config.forKeyFile)

/-- `configuration::init`, after the layers of the configuration have been merged. -/
def init (i : StartInput S) : Start (S.ServerSetup × PrivateKeyLocation) := do
  let key ← getServerSetup L i
  if i.config.jwtSecret.isNone then Eff.fail .jwtSecretMissing
  pure key

def getPrivateKeyInfo (key : S.ServerSetup × PrivateKeyLocation) : PrivateKeyInfo :=
  ⟨L.stableHash (L.privateKey key.1), key.2⟩

/-- Whether the key is entirely new. The hashes decide; the locations only choose the message. -/
def comparePrivateKeyHashes (previous : Option PrivateKeyInfo) (info : PrivateKeyInfo) :
    Except StartError Bool :=
  match previous with
  | none => .ok true
  | some previous =>
    if previous.privateKeyHash = info.privateKeyHash then .ok false
    else
      match previous.privateKeyLocation, info.privateKeyLocation with
      | .keyFile oldLocation path, .keySeed newLocation =>
        .error (.keyChanged (.fileToSeed newLocation path oldLocation))
      | .default, .keySeed newLocation => .error (.keyChanged (.defaultToSeed newLocation))
      | .keyFile oldLocation oldPath, .keyFile newLocation newPath =>
        if oldPath = newPath then .error (.keyChanged (.fileContents oldPath))
        else .error (.keyChanged (.otherFile oldPath oldLocation newPath newLocation))
      | .tests, _ => .error (.panicked "Test keys unexpected")
      | _, .tests => .error (.panicked "Test keys unexpected")
      | oldLocation, newLocation => .error (.keyChanged (.otherLocation oldLocation newLocation))

/-- The comparison of the key with the recorded one, and the record of a new one. -/
def checkPrivateKey (forceUpdatePrivateKey : Bool) (info : PrivateKeyInfo) : Start Unit := do
  let previous ← Eff.reads State.privateKeyInfo
  let record : Start Unit := Eff.writes fun s => { s with privateKeyInfo := some info }
  match comparePrivateKeyHashes previous info with
  | .ok false => if forceUpdatePrivateKey then Eff.fail .keyUnchanged else pure ()
  | .ok true => record
  -- a panic is no error that the force could override
  | .error (.panicked message) => Eff.fail (.panicked message)
  | .error e => if forceUpdatePrivateKey then record else Eff.fail e

end Key

/-! ## Groups and administrators -/

def onWorld {α : Type} (contexts : List String) (m : Backend α) : Start α :=
  (Eff.zoom State.world (fun s w => { s with world := w }) m).mapErr (.backend contexts)

section SetUp

variable [External] {S : Suite}

def ensureGroupExists (h : Services S World) (groupName : String) : Start Unit := do
  let groups ← onWorld [] (h.listGroups (some (.displayName ⟨groupName⟩)))
  if groups.isEmpty then
    let _ ← onWorld ["while creating " ++ groupName ++ " group"]
      (h.createGroup ⟨⟨groupName⟩, [⟨.new "ou", .string (.singleton "groups")⟩]⟩)
  pure ()

/-- `register_password`: the four messages of the OPAQUE registration. -/
def registerPassword (h : Services S World) (username : UserId) (password : String) :
    Backend Unit := do
  let (state, message) ← Eff.lift
    (Opaque.protocol (S.clientStartRegistration (utf8 password) h.rng))
  let start ← h.registrationStart ⟨username, message⟩
  let upload ← Eff.lift (Opaque.protocol
    (S.clientFinishRegistration state (utf8 password) start.registrationResponse h.rng))
  h.registrationFinish ⟨start.serverData, upload⟩

def adminPasswordMissing : StartError :=
  .panicked "The LDAP admin password must be initialized. Either set the \x60ldap_user_pass\x60 config value or the \x60LLDAP_LDAP_USER_PASS\x60 environment variable. A minimum of 8 characters is recommended."

/-- What `set_up_server` adds to an error of `create_admin_user`. -/
def adminContexts : List String :=
  ["while creating the admin user", "Error setting up admin login/account: "]

def createAdminUser (h : Services S World) (config : Configuration) : Start Unit := do
  match config.ldapUserPass with
  | none => Eff.fail adminPasswordMissing
  | some pass =>
    let passLength := (utf8 pass).length
    if passLength < 8 then
      Eff.fail (.panicked ("Minimum password length is 8 characters, got " ++ toString passLength ++
        " characters"))
    onWorld (adminContexts ++ ["Error creating admin user"]) do
      h.createUser ⟨config.ldapUserDn, ⟨config.ldapUserEmail⟩, some "Administrator",
        [⟨.new "ou", .string (.singleton "people")⟩]⟩
      registerPassword h config.ldapUserDn pass
    match ← onWorld adminContexts (h.listGroups (some (.displayName ⟨"lldap_admin"⟩))) with
    | [group] =>
      onWorld (adminContexts ++ ["Error adding admin user to group"])
        (h.addUserToGroup config.ldapUserDn group.id)
    | _ => Eff.fail (.panicked "assertion failed: groups.len() == 1")

def resetAdminPassword (h : Services S World) (config : Configuration) : Start Unit :=
  match config.ldapUserPass with
  | none => Eff.fail adminPasswordMissing
  | some pass =>
    onWorld ["while resetting admin password for " ++ config.ldapUserDn.asStr]
      (registerPassword h config.ldapUserDn pass)

def ensureAdmin (h : Services S World) (config : Configuration) : Start Unit := do
  let admins ← Eff.attempt (onWorld [] (h.listUsers (some (.memberOf ⟨"lldap_admin"⟩)) false))
  -- a listing that fails counts as an empty one
  let adminPresent := admins.toOption.any fun users => !users.isEmpty
  if !adminPresent then createAdminUser h config
  else if config.forceLdapUserPassReset.isPositive then resetAdminPassword h config
  else pure ()

/-- The five calls of `ensure_group_exists`, in the order of the source. -/
def ensureBuiltinGroups (h : Services S World) : Start Unit := do
  ensureGroupExists h "lldap_admin"
  ensureGroupExists h "lldap_password_manager"
  ensureGroupExists h "lldap_strict_readonly"
  ensureGroupExists h "lldap_disabled"
  ensureGroupExists h "lldap_sudohost"

def setUpServer (L : KeyLibrary S) (i : StartInput S) (key : S.ServerSetup × PrivateKeyLocation) :
    Start Unit := do
  Eff.orFails (i.tables.map .tables) (pure ())
  checkPrivateKey i.config.forceUpdatePrivateKey (getPrivateKeyInfo L key)
  let h := sqlServices S key.1 i.rng i.out
  ensureBuiltinGroups h
  ensureAdmin h i.config
  if i.config.forceUpdatePrivateKey || i.config.forceLdapUserPassReset.isYes then
    Eff.fail .restartRequired
  Eff.orFails (i.binding.map .binding) (pure ())

/-- `run_server_command`, up to the point where the server serves with its key. -/
def runServer (L : KeyLibrary S) (i : StartInput S) : Start S.ServerSetup := do
  let key ← init L i
  setUpServer L i key
  pure key.1

end SetUp

/-! ## What a start does to the recorded key -/

/-- A recorded key stays. -/
def KeepsKeyInfo (s s' : State) : Prop :=
  ∀ info, s.privateKeyInfo = some info → s'.privateKeyInfo = some info

instance : Std.Refl KeepsKeyInfo where
  refl _ _ h := h

instance : IsTrans State KeepsKeyInfo where
  trans _ _ _ hab hbc info h := hbc info (hab info h)

/-- The computation does not reach what is recorded of the key. -/
def SameKeyInfo (s s' : State) : Prop := s'.privateKeyInfo = s.privateKeyInfo

instance : Std.Refl SameKeyInfo where
  refl _ := rfl

instance : IsTrans State SameKeyInfo where
  trans _ _ _ hab hbc := hbc.trans hab

theorem SameKeyInfo.keeps {s s' : State} (h : SameKeyInfo s s') : KeepsKeyInfo s s' :=
  fun _ hinfo => h.trans hinfo

theorem onWorld_sameKeyInfo {α : Type} (contexts : List String) (m : Backend α) :
    Frames SameKeyInfo (onWorld contexts m) := fun _ => rfl

theorem onWorld_ok {α : Type} {contexts : List String} {m : Backend α} {s s' : State} {a : α}
    (h : onWorld contexts m s = (.ok a, s')) :
    m s.world = (.ok a, s'.world) := by
  obtain ⟨w, hm, rfl⟩ := Eff.zoom_ok.mp (Eff.mapErr_ok.mp h)
  exact hm

section Key

variable {S : Suite} {L : KeyLibrary S}

theorem init_frames {R : State → State → Prop} [Std.Refl R] [IsTrans State R]
    (hfiles : ∀ s files, R s { s with keyFiles := files }) (i : StartInput S) :
    Frames R (init L i) := by
  have hwrite (path : String) (buffer : Bytes) : Frames R (writeToReadonlyFile i path buffer) := by
    unfold writeToReadonlyFile
    split
    · exact Frames.writes fun s => hfiles s _
    · exact Frames.bind (Frames.writes fun s => hfiles s _) fun _ => (Keeps.fail _).frames
  have hread (path : String) (bytes : Bytes) : Frames R (readKeyFile L i path bytes) := by
    unfold readKeyFile
    split
    · exact (Keeps.fail _).frames
    · exact (Keeps.lift _).frames
  refine Frames.bind ?_ fun key => ?_
  · refine (Keeps.reads _).frames.bind fun file => Frames.ite (Keeps.pure _).frames ?_
    refine Frames.ite (Frames.ite (Keeps.fail _).frames (Keeps.pure _).frames) ?_
    cases file with
    | some bytes => exact (hread _ bytes).bind fun _ => (Keeps.pure _).frames
    | none => exact (hwrite _ _).bind fun _ => (Keeps.pure _).frames
  · dsimp only
    split
    · exact (Keeps.fail _).frames
    · exact (Keeps.pure _).frames

theorem init_sameKeyInfo (i : StartInput S) : Frames SameKeyInfo (init L i) :=
  init_frames (fun _ _ => rfl) i

theorem init_sameWorld (i : StartInput S) : Frames (InvImage Eq State.world) (init L i) :=
  init_frames (fun _ _ => rfl) i

theorem init_unseeded {i : StartInput S} {s s' : State} {setup : S.ServerSetup}
    {location : PrivateKeyLocation} (hseed : i.config.keySeed = ⟨none, none, none⟩)
    (h : init L i s = (.ok (setup, location), s')) :
    setup = L.fromSeed (List.replicate 32 0) ∧ s' = s := by
  have hdummy : i.config.keySeedText = figmentDummyKeySeed := by
    rw [Configuration.keySeedText, hseed]
    rfl
  obtain ⟨key, s₁, hkey, h⟩ := Eff.bind_ok.mp h
  simp only [getServerSetup, hdummy, if_pos, Eff.bind_run, Eff.reads_run, Eff.pure_run,
    Prod.mk.injEq] at hkey
  obtain ⟨hkey, rfl⟩ := hkey
  cases hkey
  dsimp only at h
  split at h
  · cases h
  · cases h
    exact ⟨rfl, rfl⟩

end Key

theorem comparePrivateKeyHashes_ok {previous : Option PrivateKeyInfo} {info : PrivateKeyInfo}
    {new : Bool} (h : comparePrivateKeyHashes previous info = .ok new) :
    (previous = none ∧ new = true) ∨
      ∃ stored, previous = some stored ∧ stored.privateKeyHash = info.privateKeyHash ∧
        new = false := by
  cases previous with
  | none => exact .inl ⟨rfl, (Except.ok.inj h).symm⟩
  | some stored =>
    refine .inr ⟨stored, rfl, ?_⟩
    unfold comparePrivateKeyHashes at h
    dsimp only at h
    split at h
    · rename_i heq
      exact ⟨heq, (Except.ok.inj h).symm⟩
    · split at h
      · cases h
      · cases h
      · split at h <;> cases h
      · cases h
      · cases h
      · cases h

theorem checkPrivateKey_ok {force : Bool} {info : PrivateKeyInfo} {s s' : State}
    (h : checkPrivateKey force info s = (.ok (), s')) :
    ∃ stored, s'.privateKeyInfo = some stored ∧ stored.privateKeyHash = info.privateKeyHash := by
  obtain ⟨previous, s₁, hread, h⟩ := Eff.bind_ok.mp h
  cases hread
  cases hcompare : comparePrivateKeyHashes s.privateKeyInfo info with
  | ok new =>
    rw [hcompare] at h
    obtain ⟨-, rfl⟩ | ⟨stored, hstored, hhash, rfl⟩ := comparePrivateKeyHashes_ok hcompare
    · cases h
      exact ⟨info, rfl, rfl⟩
    · cases force <;> cases h
      exact ⟨stored, hstored, hhash⟩
  | error e =>
    rw [hcompare] at h
    cases e <;> cases force <;> cases h
    all_goals exact ⟨info, rfl, rfl⟩

theorem checkPrivateKey_sameWorld (force : Bool) (info : PrivateKeyInfo) :
    Frames (InvImage Eq State.world) (checkPrivateKey force info) := by
  intro s
  unfold checkPrivateKey
  simp only [Eff.bind_run, Eff.reads_run]
  cases comparePrivateKeyHashes s.privateKeyInfo info with
  | error e => cases e <;> cases force <;> rfl
  | ok new => cases new <;> cases force <;> rfl

theorem checkPrivateKey_keepsKeyInfo (info : PrivateKeyInfo) :
    Frames KeepsKeyInfo (checkPrivateKey false info) := by
  intro s stored hstored
  unfold checkPrivateKey
  simp only [Eff.bind_run, Eff.reads_run]
  cases hcompare : comparePrivateKeyHashes s.privateKeyInfo info with
  | error e => cases e <;> exact hstored
  | ok new =>
    obtain ⟨hnone, -⟩ | ⟨_, -, -, rfl⟩ := comparePrivateKeyHashes_ok hcompare
    · rw [hnone] at hstored
      cases hstored
    · exact hstored

section SetUp

variable [External] {S : Suite} {L : KeyLibrary S} {h : Services S World}

omit [External] in
theorem ensureGroupExists_frames {R : State → State → Prop} [Std.Refl R] [IsTrans State R]
    {groupName : String}
    (hlist : Frames R (onWorld [] (h.listGroups (some (.displayName ⟨groupName⟩)))))
    (hcreate : Frames R (onWorld ["while creating " ++ groupName ++ " group"]
      (h.createGroup ⟨⟨groupName⟩, [⟨.new "ou", .string (.singleton "groups")⟩]⟩))) :
    Frames R (ensureGroupExists h groupName) := by
  refine hlist.bind fun groups => ?_
  dsimp only
  split
  · exact hcreate.bind fun _ => (Keeps.pure _).frames
  · exact (Keeps.pure _).frames

omit [External] in
theorem ensureBuiltinGroups_frames {R : State → State → Prop} [IsTrans State R]
    (hensure : ∀ name ∈ builtinGroups, Frames R (ensureGroupExists h name)) :
    Frames R (ensureBuiltinGroups h) :=
  (hensure _ (by decide)).bind fun _ => (hensure _ (by decide)).bind fun _ =>
    (hensure _ (by decide)).bind fun _ => (hensure _ (by decide)).bind fun _ =>
      hensure _ (by decide)

omit [External] in
theorem ensureAdmin_frames {R : State → State → Prop} [Std.Refl R] [IsTrans State R]
    (hlistUsers : ∀ contexts filter, Frames R (onWorld contexts (h.listUsers filter false)))
    (hlistGroups : ∀ contexts filter, Frames R (onWorld contexts (h.listGroups filter)))
    (hcreate : ∀ contexts request pass, Frames R (onWorld contexts (do
      h.createUser request
      registerPassword h request.userId pass)))
    (hregister : ∀ contexts u pass, Frames R (onWorld contexts (registerPassword h u pass)))
    (hadd : ∀ contexts u g, Frames R (onWorld contexts (h.addUserToGroup u g)))
    (config : Configuration) : Frames R (ensureAdmin h config) := by
  refine (hlistUsers _ _).attempt.bind fun admins => Frames.ite ?_ (Frames.ite ?_ (Keeps.pure _).frames)
  · unfold createAdminUser
    split
    · exact (Keeps.fail _).frames
    · dsimp only
      split
      · exact (Keeps.fail _).frames
      · refine (hcreate _ ⟨config.ldapUserDn, _, _, _⟩ _).bind fun _ => (hlistGroups _ _).bind fun groups => ?_
        split
        · exact hadd _ _ _
        · exact (Keeps.fail _).frames
  · unfold resetAdminPassword
    split
    · exact (Keeps.fail _).frames
    · exact hregister _ _ _

omit [External] in
theorem orFails_keeps (failure : Option StartError) :
    Keeps (Eff.orFails failure (pure ()) : Start Unit) := by
  cases failure with
  | none => exact Keeps.pure _
  | some e => exact Keeps.fail _

theorem runServer_frames {R : State → State → Prop} [Std.Refl R] [IsTrans State R] {i : StartInput S}
    (hinit : Frames R (init L i))
    (hcheck : ∀ info, Frames R (checkPrivateKey i.config.forceUpdatePrivateKey info))
    (hgroups : ∀ setup, Frames R (ensureBuiltinGroups (sqlServices S setup i.rng i.out)))
    (hadmin : ∀ setup, Frames R (ensureAdmin (sqlServices S setup i.rng i.out) i.config)) :
    Frames R (runServer L i) := by
  refine hinit.bind fun key => Frames.bind ?_ fun _ => (Keeps.pure _).frames
  refine (orFails_keeps _).frames.bind fun _ => (hcheck _).bind fun _ => (hgroups _).bind fun _ =>
    (hadmin _).bind fun _ => ?_
  dsimp only
  split
  · exact (Keeps.fail _).frames
  · exact (orFails_keeps _).frames

theorem runServer_ok {i : StartInput S} {s s' : State} {setup : S.ServerSetup}
    (h : runServer L i s = (.ok setup, s')) :
    i.config.forceUpdatePrivateKey = false ∧ i.config.forceLdapUserPassReset.isYes = false ∧
      ∃ location s₁ s₂ s₃, init L i s = (.ok (setup, location), s₁) ∧
        checkPrivateKey false (getPrivateKeyInfo L (setup, location)) s₁ = (.ok (), s₂) ∧
        ensureBuiltinGroups (sqlServices S setup i.rng i.out) s₂ = (.ok (), s₃) ∧
        ensureAdmin (sqlServices S setup i.rng i.out) i.config s₃ = (.ok (), s') := by
  obtain ⟨⟨setup', location⟩, s₁, hinit, h⟩ := Eff.bind_ok.mp h
  obtain ⟨⟨⟩, s', hsetup, h⟩ := Eff.bind_ok.mp h
  cases h
  obtain ⟨⟨⟩, s₁', htables, hsetup⟩ := Eff.bind_ok.mp hsetup
  have hs₁ : s₁ = s₁' := (orFails_keeps _ s₁).trans (congrArg Prod.snd htables)
  subst hs₁
  obtain ⟨⟨⟩, s₂, hcheck, hsetup⟩ := Eff.bind_ok.mp hsetup
  obtain ⟨⟨⟩, s₃, hgroups, hsetup⟩ := Eff.bind_ok.mp hsetup
  obtain ⟨⟨⟩, s₄, hadmin, hsetup⟩ := Eff.bind_ok.mp hsetup
  dsimp only at hsetup
  split at hsetup
  · cases hsetup
  · rename_i hforce
    rw [Bool.or_eq_true, not_or, Bool.not_eq_true, Bool.not_eq_true] at hforce
    have hs₄ := (orFails_keeps _ s₄).trans (congrArg Prod.snd hsetup)
    subst hs₄
    rw [hforce.1] at hcheck
    exact ⟨hforce.1, hforce.2, location, s₁, s₂, s₃, hinit, hcheck, hgroups, hadmin⟩

omit [External] in
theorem ensureBuiltinGroups_sameKeyInfo (h : Services S World) :
    Frames SameKeyInfo (ensureBuiltinGroups h) :=
  ensureBuiltinGroups_frames fun _ _ =>
    ensureGroupExists_frames (onWorld_sameKeyInfo _ _) (onWorld_sameKeyInfo _ _)

omit [External] in
theorem ensureAdmin_sameKeyInfo (h : Services S World) (config : Configuration) :
    Frames SameKeyInfo (ensureAdmin h config) :=
  ensureAdmin_frames (fun _ _ => onWorld_sameKeyInfo _ _) (fun _ _ => onWorld_sameKeyInfo _ _)
    (fun _ _ _ => onWorld_sameKeyInfo _ _) (fun _ _ _ => onWorld_sameKeyInfo _ _)
    (fun _ _ _ => onWorld_sameKeyInfo _ _) config

def keyHash (L : KeyLibrary S) (setup : S.ServerSetup) : Bytes := L.stableHash (L.privateKey setup)

theorem runServer_key {i : StartInput S} {s s' : State} {setup : S.ServerSetup}
    (h : runServer L i s = (.ok setup, s')) :
    ∃ info, s'.privateKeyInfo = some info ∧ info.privateKeyHash = keyHash L setup := by
  obtain ⟨-, -, location, s₁, s₂, s₃, -, hcheck, hgroups, hadmin⟩ := runServer_ok h
  obtain ⟨info, hinfo, hhash⟩ := checkPrivateKey_ok hcheck
  have h₃ := (ensureBuiltinGroups_sameKeyInfo _).run hgroups
  have h₄ := (ensureAdmin_sameKeyInfo _ _).run hadmin
  exact ⟨info, h₄.trans (h₃.trans hinfo), hhash⟩

theorem runServer_keepsKeyInfo {i : StartInput S} (hforce : i.config.forceUpdatePrivateKey = false) :
    Frames KeepsKeyInfo (runServer L i) := by
  refine runServer_frames ((init_sameKeyInfo i).mono fun _ _ h => h.keeps) (fun info => ?_)
    (fun _ => (ensureBuiltinGroups_sameKeyInfo _).mono fun _ _ h => h.keeps)
    fun _ => (ensureAdmin_sameKeyInfo _ _).mono fun _ _ h => h.keeps
  rw [hforce]
  exact checkPrivateKey_keepsKeyInfo info

end SetUp

/-- A suite whose server key is a string of bytes and whose password file is the password. -/
def openSuite : Suite where
  __ := Opaque.plainSuite
  ServerSetup := Bytes
  RegistrationUpload := Bytes
  CredentialResponse := Option Bytes
  ServerRegistration := Bytes
  ClientRegistration := Bytes
  secretKey _ := some ()
  startRegistration _ _ _ := .ok ()
  getPasswordFile upload := upload
  serializeRegistration file := file
  deserializeRegistration bytes := some bytes
  startLogin _ _ file _ _ := .ok ((), file)
  clientStartRegistration password _ := .ok (password, ())
  clientFinishRegistration state _ _ _ := .ok state
  clientFinishLogin _ password response _ :=
    if response = some (utf8 password) then .ok () else .error "InvalidLoginError"

def openKeys : KeyLibrary openSuite where
  fromSeed seed := seed.take 1
  serialize := id
  deserialize := .ok
  privateKey := id
  stableHash := id

end Server
end Klldap
