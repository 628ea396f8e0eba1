import Klldap.Lib.Effect
import Klldap.Store

/-!
# Klldap.World: the database and what lies outside it

The server writes to its database, to the Kerberos KDC through the admin library, to two files and
to a Keycloak server (`crates/kerberos`). `World` holds all of these. What the outside answers during
a request (the clock, the random bits, whether a call to the KDC or to Keycloak goes through) is an
argument of the model, `Outside`, so that a theorem about a request speaks of every answer.
-/

namespace Klldap

open Lib (Bytes Eff Table)
open Lib.Eff (Frames Keeps)
open Lib.Text

/-- The key of a principal: derived from a password, or drawn at random. -/
inductive PrincipalKey where
  | password (p : String)
  | random (seed : Nat)
deriving DecidableEq

/-- A principal of the KDC, under the name that the Kerberos library writes for it. -/
structure Principal where
  name : String
  key : PrincipalKey
deriving DecidableEq

structure KeycloakConfig where
  url : String
  realm : String
  adminUser : String
deriving DecidableEq

/-- A realm that `setup_realm` created on a Keycloak server, with the settings it was given. -/
structure KeycloakRealm where
  config : KeycloakConfig
  lldapUrl : String
  syncUsername : String
  syncPassword : String
  enableHsts : Bool
  enableBruteForce : Bool
deriving DecidableEq

structure World where
  db : Store
  kdc : Table Principal String Principal.name
  /-- The principal whose keys the exported keytab file holds. -/
  keytab : Option String
  keycloakConfig : Option KeycloakConfig
  keycloakRealms : List KeycloakRealm
deriving DecidableEq

/-- The calls to the admin library and to `kadmin.local`. -/
inductive KadmCall where
  | initHandle
  | chpass (principal : String)
  | create (principal : String)
  | delete (principal : String)
  | randkey (principal : String)
  | ktadd (principal : String)

/-- What the outside answers during one request. An error of a call is the `some` of its text. The
Kerberos library reads a text as the name of a principal with `krb5ParseName`, which may refuse it. -/
structure Outside where
  now : DateTime
  seed : Nat
  realm : String
  domain : String
  krb5ParseName : String → Option String
  kadm : KadmCall → Option String
  decryptPassword : String → Except String String
  writeConfig : Option String
  testConnection : KeycloakConfig → Except String String
  setupRealm : KeycloakRealm → Except String String

/-- A backend computation: reads and writes the world, may fail. -/
abbrev Backend := Eff World DomainError

def onDb {ε α : Type} (m : Eff Store ε α) : Eff World ε α :=
  Eff.zoom World.db (fun w db => { w with db := db }) m

theorem onDb_ok {ε α : Type} {m : Eff Store ε α} {w w' : World} {a : α}
    (h : onDb m w = (.ok a, w')) : m w.db = (.ok a, w'.db) := by
  obtain ⟨db, hm, rfl⟩ := Eff.zoom_ok.mp h
  exact hm

theorem onDb_query_keeps {ε α : Type} (q : Store → Except ε α) :
    Eff.Keeps (onDb (Eff.query q)) :=
  (Eff.Keeps.query q).zoom fun _ => rfl

theorem query_bind_snd {ε ε' α β : Type} (q : Store → Except ε α) (f : ε → ε')
    (g : α → Eff World ε' β) (w : World) :
    (((onDb (Eff.query q)).mapErr f >>= g) w).2 =
      match q w.db with
      | .ok a => (g a w).2
      | .error _ => w := by
  rw [Eff.bind_run]
  unfold Eff.mapErr onDb Eff.zoom Eff.query
  cases q w.db <;> rfl

def answered {σ ε α : Type} (m : Eff σ ε α) (s : σ) : Bool × σ := ((m s).1.isOk, (m s).2)

/-- The computation does not reach the database. -/
def KeepsDb {ε α : Type} (m : Eff World ε α) : Prop := Frames (InvImage Eq World.db) m

theorem KeepsDb.frames {ε α : Type} {m : Eff World ε α} (h : KeepsDb m) {R : Store → Store → Prop}
    [Std.Refl R] : Frames (InvImage R World.db) m :=
  h.mono fun w w' (hdb : w.db = w'.db) => by
    unfold InvImage
    rw [← hdb]
    exact refl_of R w.db

/-! ## Kerberos -/

namespace Kerberos

variable (out : Outside)

abbrev Call := Eff World String

def getKerberosPrincipalName (username : String) : String := username ++ "@" ++ out.realm

def kadm (call : KadmCall) : Call Unit :=
  match out.kadm call with
  | some e => Eff.fail e
  | none => pure ()

def setKey (principal : String) (key : PrincipalKey) : Call Unit :=
  Eff.writes fun w => { w with kdc := w.kdc.upsert ⟨principal, key⟩ }

def named (principal : String) : Option String :=
  if hasChar '\x00' principal then none else out.krb5ParseName principal

def parseName (principal : String) : Call String :=
  match named out principal with
  | none => Eff.fail "krb5_parse_name failed"
  | some name => pure name

def passwordCString (plainPassword : String) : Call Unit :=
  if hasChar '\x00' plainPassword then Eff.fail "nul byte found in provided data" else pure ()

def chpassPrincipal (principal plainPassword : String) : Call Unit := do
  let name ← parseName out principal
  passwordCString plainPassword
  kadm out (.chpass name)
  match ← Eff.reads fun w => w.kdc.find? name with
  | none => Eff.fail "Principal does not exist"
  | some _ => setKey name (.password plainPassword)

def createPrincipal (principal plainPassword : String) : Call Unit := do
  let name ← parseName out principal
  passwordCString plainPassword
  kadm out (.create name)
  match ← Eff.reads fun w => w.kdc.find? name with
  | some _ => Eff.fail "Principal or policy already exists"
  | none => setKey name (.password plainPassword)

-- deleting a principal that does not exist is a success
def deletePrincipal (principal : String) : Call Unit := do
  let name ← parseName out principal
  kadm out (.delete name)
  Eff.writes fun w => { w with kdc := w.kdc.delete fun p => p.name = name }

def deleteKerberosPrincipal (username : String) : Call Unit := do
  match ← Eff.attempt (kadm out .initHandle) with
  | .error _ => pure ()
  | .ok _ => deletePrincipal out (getKerberosPrincipalName out username)

def syncKerberosPrincipal (username plainPassword : String) : Call Unit := do
  (kadm out .initHandle).mapErr fun _ =>
    "Failed to initialize Kerberos admin handle with keytab (check keytab exists/permissions)"
  let principal := getKerberosPrincipalName out username
  match ← Eff.attempt (chpassPrincipal out principal plainPassword) with
  | .ok _ => pure ()
  | .error (_ : String) =>
    (createPrincipal out principal plainPassword).mapErr fun _ =>
      "Failed to create new Kerberos principal"

def keytabPath : String := "/data/keytab/keycloak-http.keytab"

def exportKeytabForKeycloak (hostnameInput : String) : Call String := do
  let trimmed := trim hostnameInput
  let hostname :=
    if trimmed = "" || trimmed = "keycloak" then "keycloak." ++ out.domain else trimmed
  let principal := "HTTP/" ++ hostname ++ "@" ++ out.realm
  (kadm out .initHandle).mapErr fun _ => "Failed to initialize Kerberos admin handle"
  Eff.writes fun w => { w with keytab := none }
  let name ← parseName out principal
  kadm out (.randkey name)
  setKey name (.random out.seed)
  (kadm out (.ktadd principal)).mapErr fun stderr => "kadmin.local ktadd failed: " ++ stderr
  Eff.writes fun w => { w with keytab := some principal }
  pure keytabPath

def saveKeycloakConfig (config : KeycloakConfig) : Call Unit :=
  match out.writeConfig with
  | some e => Eff.fail e
  | none => Eff.writes fun w => { w with keycloakConfig := some config }

/-- `KeycloakClient::setup_realm`: a realm is created on the server, unless a call fails. -/
def setupRealm (realm : KeycloakRealm) : Call String :=
  match out.setupRealm realm with
  | .error e => Eff.fail e
  | .ok message => do
    Eff.writes fun w => { w with keycloakRealms := w.keycloakRealms ++ [realm] }
    pure message

/-- `KeycloakClient::test_connection`: reads the realm and changes nothing. -/
def testConnection (config : KeycloakConfig) : Call String := Eff.lift (out.testConnection config)

/-! ## What the calls leave alone -/

section

variable {out : Outside}

theorem kadm_keeps (call : KadmCall) : Keeps (kadm out call) := by
  unfold kadm
  split
  · exact Keeps.fail _
  · exact Keeps.pure _

theorem parseName_keeps (principal : String) : Keeps (parseName out principal) := by
  unfold parseName
  split
  · exact Keeps.fail _
  · exact Keeps.pure _

theorem parseName_ok {principal name : String} {w w' : World}
    (h : parseName out principal w = (.ok name, w')) : named out principal = some name := by
  unfold parseName at h
  cases hname : named out principal with
  | none =>
    rw [hname] at h
    cases h
  | some n =>
    rw [hname] at h
    cases h
    rfl

theorem passwordCString_keeps (password : String) : Keeps (passwordCString password) := by
  unfold passwordCString
  split
  · exact Keeps.fail _
  · exact Keeps.pure _

theorem passwordCString_ok {password : String} {w w' : World}
    (h : passwordCString password w = (.ok (), w')) : hasChar '\x00' password = false := by
  unfold passwordCString at h
  split at h
  · cases h
  · rename_i hchar
    simpa using hchar

theorem chpassPrincipal_keepsDb (principal password : String) :
    KeepsDb (chpassPrincipal out principal password) := by
  refine (parseName_keeps _).frames.bind fun _ => (passwordCString_keeps _).frames.bind fun _ => ?_
  refine (kadm_keeps _).frames.bind fun _ => ?_
  exact Frames.reads_option (Keeps.fail _).frames fun _ => Frames.writes fun _ => rfl

theorem createPrincipal_keepsDb (principal password : String) :
    KeepsDb (createPrincipal out principal password) := by
  refine (parseName_keeps _).frames.bind fun _ => (passwordCString_keeps _).frames.bind fun _ => ?_
  refine (kadm_keeps _).frames.bind fun _ => ?_
  exact Frames.reads_option (Frames.writes fun _ => rfl) fun _ => (Keeps.fail _).frames

theorem syncKerberosPrincipal_keepsDb (username password : String) :
    KeepsDb (syncKerberosPrincipal out username password) := by
  refine (kadm_keeps _).frames.mapErr.bind fun _ => ?_
  refine (chpassPrincipal_keepsDb _ _).attempt.bind fun answer => ?_
  cases answer with
  | ok _ => exact (Keeps.pure _).frames
  | error _ => exact (createPrincipal_keepsDb _ _).mapErr

theorem deleteKerberosPrincipal_keepsDb (username : String) :
    KeepsDb (deleteKerberosPrincipal out username) := by
  refine (kadm_keeps _).frames.attempt.bind fun answer => ?_
  cases answer with
  | error _ => exact (Keeps.pure _).frames
  | ok _ =>
    refine (parseName_keeps _).frames.bind fun _ => (kadm_keeps _).frames.bind fun _ => ?_
    exact Frames.writes fun _ => rfl

theorem deleteKerberosPrincipal_db (out : Outside) (username : String) (w : World) :
    (deleteKerberosPrincipal out username w).2.db = w.db :=
  (deleteKerberosPrincipal_keepsDb username w).symm

theorem exportKeytabForKeycloak_keepsDb (hostname : String) :
    KeepsDb (exportKeytabForKeycloak out hostname) := by
  refine (kadm_keeps _).frames.mapErr.bind fun _ => ?_
  refine Frames.bind (Frames.writes fun _ => rfl) fun _ => (parseName_keeps _).frames.bind fun _ => ?_
  refine (kadm_keeps _).frames.bind fun _ => Frames.bind (Frames.writes fun _ => rfl) fun _ => ?_
  refine (kadm_keeps _).frames.mapErr.bind fun _ => ?_
  exact Frames.bind (Frames.writes fun _ => rfl) fun _ => (Keeps.pure _).frames

theorem saveKeycloakConfig_keepsDb (config : KeycloakConfig) :
    KeepsDb (saveKeycloakConfig out config) := by
  unfold saveKeycloakConfig
  split
  · exact (Keeps.fail _).frames
  · exact Frames.writes fun _ => rfl

theorem setupRealm_keepsDb (realm : KeycloakRealm) : KeepsDb (setupRealm out realm) := by
  unfold setupRealm
  split
  · exact (Keeps.fail _).frames
  · exact Frames.bind (Frames.writes fun _ => rfl) fun _ => (Keeps.pure _).frames

end

end Kerberos

end Klldap
