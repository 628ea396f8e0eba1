import Klldap.Sql.Config

/-!
# Klldap.Opaque.Handler: passwords and the OPAQUE exchanges

`sql_opaque_handler.rs`: the simple bind, and the four calls of the OPAQUE login and registration
protocols. Between the two calls of an exchange the server keeps nothing: the start call hands its
state to the client as a sealed blob and the finish call opens the blob it is given.

The cryptographic libraries are a parameter (`Suite`). The layout of the sealed states is not: it
is the concatenation of bincode fields, and a decoder takes what it needs from the front.
-/

namespace Klldap

open Lib (Bytes Eff except_bind_ok)
open Lib.Bincode

namespace Opaque

/-- What the server calls of `opaque_ke`, `orion` and `base64`. A function that takes `Coins` is
randomised; the coins are its random bits. -/
structure Suite where
  ServerSetup : Type
  SecretKey : Type
  Coins : Type
  RegistrationRequest : Type
  RegistrationResponse : Type
  RegistrationUpload : Type
  CredentialRequest : Type
  CredentialResponse : Type
  CredentialFinalization : Type
  ServerRegistration : Type
  ServerLogin : Type
  ClientLogin : Type
  ClientRegistration : Type
  -- the AEAD and the text encoding of its output
  secretKey : ServerSetup → Option SecretKey
  aeadSeal : SecretKey → Coins → Bytes → Option Bytes
  aeadOpen : SecretKey → Bytes → Option Bytes
  base64Encode : Bytes → String
  base64Decode : String → Option Bytes
  -- the server side of OPAQUE
  startRegistration :
    ServerSetup → RegistrationRequest → UserId → Except String RegistrationResponse
  getPasswordFile : RegistrationUpload → ServerRegistration
  serializeRegistration : ServerRegistration → Bytes
  deserializeRegistration : Bytes → Option ServerRegistration
  startLogin :
    Coins → ServerSetup → Option ServerRegistration → CredentialRequest → UserId →
      Except String (ServerLogin × CredentialResponse)
  finishLogin : ServerLogin → CredentialFinalization → Except String Unit
  serializeLogin : ServerLogin → Bytes
  deserializeLogin : Bytes → Option (ServerLogin × Bytes)
  -- the client side, which the simple bind and the password changes run in the server
  clientStartRegistration : Bytes → Coins → Except String (ClientRegistration × RegistrationRequest)
  clientFinishRegistration :
    ClientRegistration → Bytes → RegistrationResponse → Coins → Except String RegistrationUpload
  clientStartLogin : String → Coins → Except String (ClientLogin × CredentialRequest)
  clientFinishLogin : ClientLogin → String → CredentialResponse → Coins → Except String Unit

variable {S : Suite}

/-! ## Messages -/

structure ClientLoginStartRequest (S : Suite) where
  username : UserId
  loginStartRequest : S.CredentialRequest

structure ServerLoginStartResponse (S : Suite) where
  serverData : String
  credentialResponse : S.CredentialResponse

structure ClientLoginFinishRequest (S : Suite) where
  serverData : String
  credentialFinalization : S.CredentialFinalization

structure ClientRegistrationStartRequest (S : Suite) where
  username : UserId
  registrationStartRequest : S.RegistrationRequest

structure ServerRegistrationStartResponse (S : Suite) where
  serverData : String
  registrationResponse : S.RegistrationResponse

structure ClientRegistrationFinishRequest (S : Suite) where
  serverData : String
  registrationUpload : S.RegistrationUpload

def encodeUserId (u : UserId) : Bytes := encodeString u.asStr

def decodeUserId (bs : Bytes) : Option (UserId × Bytes) :=
  (decodeString bs).map fun p => (UserId.new p.1, p.2)

/-- `login::ServerData`. -/
structure LoginServerData (S : Suite) where
  username : UserId
  serverLogin : S.ServerLogin

def LoginServerData.serialize (d : LoginServerData S) : Bytes :=
  encodeUserId d.username ++ S.serializeLogin d.serverLogin

-- `bincode::deserialize` drops the bytes after the last field
def LoginServerData.deserialize (bs : Bytes) : Option (LoginServerData S) := do
  let (username, rest) ← decodeUserId bs
  let (serverLogin, _) ← S.deserializeLogin rest
  some ⟨username, serverLogin⟩

/-- `registration::ServerData`. -/
structure RegistrationServerData where
  username : UserId

def RegistrationServerData.serialize (d : RegistrationServerData) : Bytes :=
  encodeUserId d.username

def RegistrationServerData.deserialize (bs : Bytes) : Option RegistrationServerData := do
  let (username, _) ← decodeUserId bs
  some ⟨username⟩

theorem decodeUserId_encodeUserId {u : UserId} (hu : Fits u.asStr) (rest : Bytes) :
    decodeUserId (encodeUserId u ++ rest) = some (u, rest) := by
  simp [decodeUserId, encodeUserId, decodeString_encodeString hu]

/-! ## The handler -/

section Handler

variable (S) (setup : S.ServerSetup)

def getOrionSecretKey : Except DomainError S.SecretKey :=
  match S.secretKey setup with
  | some key => .ok key
  | none => .error .unknownCryptoError

def sealState (rng : S.Coins) (state : Bytes) : Except DomainError String := do
  let key ← getOrionSecretKey S setup
  match S.aeadSeal key rng state with
  | some encryptedState => .ok (S.base64Encode encryptedState)
  | none => .error .unknownCryptoError

def openState (serverData : String) : Except DomainError Bytes := do
  let key ← getOrionSecretKey S setup
  match S.base64Decode serverData with
  | none => .error .base64DecodeError
  | some sealed =>
    match S.aeadOpen key sealed with
    | none => .error .unknownCryptoError
    | some state => .ok state

def protocol {α : Type} (r : Except String α) : Except DomainError α :=
  r.mapError .authenticationProtocolError

def passwordsMatch (rng : S.Coins) (passwordFileBytes : Bytes) (clearPassword : String)
    (username : UserId) : Except DomainError Unit := do
  let (clientState, clientMessage) ← protocol (S.clientStartLogin clearPassword rng)
  match S.deserializeRegistration passwordFileBytes with
  | none => .error (.authenticationProtocolError "SerializationError")
  | some passwordFile =>
    let (_, serverMessage) ←
      protocol (S.startLogin rng setup (some passwordFile) clientMessage username)
    protocol (S.clientFinishLogin clientState clearPassword serverMessage rng)

def getPasswordFileForUser (db : Store) (userId : UserId) : Option Bytes :=
  (db.users.find? userId).bind UserRow.passwordHash

/-- Membership in the group stored under the exact name `lldap_disabled`, if there is one. -/
def isUserDisabled (db : Store) (userId : UserId) : Bool :=
  match db.groups.rows.find? fun g => g.displayName.raw = "lldap_disabled" with
  | none => false
  | some group => db.isMember userId group.groupId

def accountDisabled : DomainError :=
  .authenticationError "- Account disabled. Contact administrator."

def bind (rng : S.Coins) (name : UserId) (password : String) : Db Unit := Eff.query fun db =>
  if isUserDisabled db name then .error accountDisabled
  else
    match getPasswordFileForUser db name with
    | some passwordHash =>
      match passwordsMatch S setup rng passwordHash password name with
      | .ok _ => .ok ()
      | .error _ => .error (.authenticationError ("for user \"" ++ name.asStr ++ "\""))
    | none => .error (.authenticationError ("for user \"" ++ name.asStr ++ "\""))

def passwordFile (db : Store) (userId : UserId) :
    Except DomainError (Option S.ServerRegistration) :=
  match getPasswordFileForUser db userId with
  | none => .ok none
  | some bytes =>
    match S.deserializeRegistration bytes with
    | some file => .ok (some file)
    | none => .error (.internalError ("Corrupted password file for " ++ userId.asStr))

def loginStart (rng : S.Coins) (request : ClientLoginStartRequest S) :
    Db (ServerLoginStartResponse S) := Eff.query fun db =>
  let userId := request.username
  if isUserDisabled db userId then .error accountDisabled
  else do
    -- an unknown user gets an answer too, computed from no password file
    let maybePasswordFile ← passwordFile S db userId
    let (state, message) ←
      protocol (S.startLogin rng setup maybePasswordFile request.loginStartRequest userId)
    let serverData ← sealState S setup rng (LoginServerData.serialize ⟨userId, state⟩)
    .ok ⟨serverData, message⟩

def loginFinish (request : ClientLoginFinishRequest S) : Db UserId := Eff.query fun db => do
  let state ← openState S setup request.serverData
  match LoginServerData.deserialize state with
  | none => .error .binarySerializationError
  | some (⟨username, serverLogin⟩ : LoginServerData S) =>
    if isUserDisabled db username then .error accountDisabled
    else do
      protocol (S.finishLogin serverLogin request.credentialFinalization)
      .ok username

def registrationStart (rng : S.Coins) (request : ClientRegistrationStartRequest S) :
    Db (ServerRegistrationStartResponse S) := Eff.lift do
  let message ←
    protocol (S.startRegistration setup request.registrationStartRequest request.username)
  let serverData ← sealState S setup rng (RegistrationServerData.serialize ⟨request.username⟩)
  .ok ⟨serverData, message⟩

def registrationTarget (serverData : String) : Except DomainError UserId := do
  let state ← openState S setup serverData
  match RegistrationServerData.deserialize state with
  | none => .error .binarySerializationError
  | some ⟨username⟩ => .ok username

def setPasswordFile (u : UserId) (file : Bytes) (now : DateTime) (db : Store) : Store :=
  { db with
    users := db.users.update u
      (fun r =>
        { r with passwordHash := some file, passwordModifiedDate := now, modifiedDate := now })
      fun _ => rfl }

def registrationFinish (now : DateTime) (request : ClientRegistrationFinishRequest S) :
    Db Unit := do
  let username ← Eff.lift (registrationTarget S setup request.serverData)
  let file := S.serializeRegistration (S.getPasswordFile request.registrationUpload)
  match ← Eff.reads fun db => db.users.find? username with
  | none => Eff.fail Sql.recordNotUpdated
  | some _ => Eff.writes (setPasswordFile username file now)

end Handler

/-! ## What the calls do -/

/-- The documented behaviour of the libraries. The base64 engine rejects every text that is not
the canonical encoding of the bytes it denotes. -/
structure Suite.Lawful (S : Suite) : Prop where
  open_seal : ∀ {key rng state sealed},
    S.aeadSeal key rng state = some sealed → S.aeadOpen key sealed = some state
  decode_encode : ∀ bytes, S.base64Decode (S.base64Encode bytes) = some bytes
  encode_decode : ∀ {text bytes}, S.base64Decode text = some bytes → S.base64Encode bytes = text

variable {setup : S.ServerSetup}

theorem sealState_ok {rng : S.Coins} {state : Bytes} {serverData : String} :
    sealState S setup rng state = .ok serverData ↔
      ∃ key sealed, S.secretKey setup = some key ∧ S.aeadSeal key rng state = some sealed ∧
        serverData = S.base64Encode sealed := by
  unfold sealState getOrionSecretKey
  cases hk : S.secretKey setup with
  | none => simp [Bind.bind, Except.bind]
  | some key =>
    cases hs : S.aeadSeal key rng state with
    | none => simp [Bind.bind, Except.bind, hs]
    | some sealed => simp [Bind.bind, Except.bind, hs, eq_comm]

theorem openState_ok {serverData : String} {state : Bytes} :
    openState S setup serverData = .ok state ↔
      ∃ key sealed, S.secretKey setup = some key ∧ S.base64Decode serverData = some sealed ∧
        S.aeadOpen key sealed = some state := by
  unfold openState getOrionSecretKey
  cases hk : S.secretKey setup with
  | none => simp [Bind.bind, Except.bind]
  | some key =>
    cases hd : S.base64Decode serverData with
    | none => simp [Bind.bind, Except.bind]
    | some sealed =>
      cases ho : S.aeadOpen key sealed with
      | none => simp [Bind.bind, Except.bind, ho]
      | some state' => simp [Bind.bind, Except.bind, ho]

theorem openState_of_sealState (hS : S.Lawful) {rng : S.Coins} {state : Bytes}
    {serverData : String} (h : sealState S setup rng state = .ok serverData) :
    openState S setup serverData = .ok state := by
  obtain ⟨key, sealed, hk, hs, rfl⟩ := sealState_ok.mp h
  exact openState_ok.mpr ⟨key, sealed, hk, hS.decode_encode sealed, hS.open_seal hs⟩

theorem registrationTarget_of_sealState (hS : S.Lawful) {rng : S.Coins} {u : UserId}
    (hu : Fits u.asStr) {rest : Bytes} {serverData : String}
    (h : sealState S setup rng (encodeUserId u ++ rest) = .ok serverData) :
    registrationTarget S setup serverData = .ok u := by
  simp [registrationTarget, openState_of_sealState hS h, RegistrationServerData.deserialize,
    decodeUserId_encodeUserId hu rest, Bind.bind, Except.bind]

theorem loginStart_ok {rng : S.Coins} {request : ClientLoginStartRequest S} {db db' : Store}
    {response : ServerLoginStartResponse S}
    (h : loginStart S setup rng request db = (.ok response, db')) :
    ∃ state : S.ServerLogin, sealState S setup rng (LoginServerData.serialize ⟨request.username, state⟩) =
      .ok response.serverData := by
  simp only [loginStart, Eff.query_run, Prod.mk.injEq] at h
  obtain ⟨h, -⟩ := h
  split at h
  · cases h
  · obtain ⟨file, -, h⟩ := except_bind_ok.mp h
    obtain ⟨⟨state, message⟩, -, h⟩ := except_bind_ok.mp h
    obtain ⟨serverData, hs, h⟩ := except_bind_ok.mp h
    cases h
    exact ⟨state, hs⟩

theorem registrationStart_ok {rng : S.Coins} {request : ClientRegistrationStartRequest S}
    {db db' : Store} {response : ServerRegistrationStartResponse S}
    (h : registrationStart S setup rng request db = (.ok response, db')) :
    sealState S setup rng (RegistrationServerData.serialize ⟨request.username⟩) =
      .ok response.serverData := by
  simp only [registrationStart, Eff.lift_run, Prod.mk.injEq] at h
  obtain ⟨message, -, h⟩ := except_bind_ok.mp h.1
  obtain ⟨serverData, hs, h⟩ := except_bind_ok.mp h
  cases h
  exact hs

theorem registrationTarget_of_registrationStart (hS : S.Lawful) {rng : S.Coins}
    {request : ClientRegistrationStartRequest S} {db db' : Store}
    {response : ServerRegistrationStartResponse S} (hu : Fits request.username.asStr)
    (h : registrationStart S setup rng request db = (.ok response, db')) :
    registrationTarget S setup response.serverData = .ok request.username := by
  have hseal := registrationStart_ok h
  rw [RegistrationServerData.serialize, ← List.append_nil (encodeUserId _)] at hseal
  exact registrationTarget_of_sealState hS hu hseal

theorem registrationFinish_ok {now : DateTime} {request : ClientRegistrationFinishRequest S}
    {db db' : Store} :
    registrationFinish S setup now request db = (.ok (), db') ↔
      ∃ u, registrationTarget S setup request.serverData = .ok u ∧
        (db.users.find? u).isSome ∧
        db' = setPasswordFile u
          (S.serializeRegistration (S.getPasswordFile request.registrationUpload)) now db := by
  unfold registrationFinish
  rw [Eff.bind_ok]
  constructor
  · rintro ⟨u, db₁, hu, h⟩
    simp only [Eff.lift_run, Prod.mk.injEq] at hu
    obtain ⟨hu, rfl⟩ := hu
    obtain ⟨row, db₂, hrow, h⟩ := Eff.bind_ok.mp h
    cases hrow
    cases hf : db.users.find? u with
    | none => simp [hf] at h
    | some row =>
      simp only [hf, Eff.writes_run, Prod.mk.injEq, true_and] at h
      exact ⟨u, hu, by simp [hf], h.symm⟩
  · rintro ⟨u, hu, hrow, rfl⟩
    refine ⟨u, db, by simp [hu], Eff.bind_ok.mpr ⟨db.users.find? u, db, rfl, ?_⟩⟩
    obtain ⟨row, hf⟩ := Option.isSome_iff_exists.mp hrow
    simp [hf]

end Opaque

end Klldap
