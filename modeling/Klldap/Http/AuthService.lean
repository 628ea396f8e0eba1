import Klldap.AccessControl

/-!
# Klldap.Http.AuthService: tokens over HTTP

`auth_service.rs` and `sql_tcp_backend_handler.rs`. A login hands out a signed JWT and a refresh
token; a refresh token or a password reset token is traded for a new JWT; a logout withdraws them.
The database keeps the hash of every token, and the server a set of the withdrawn JWTs in memory.

A request is served in one step. The signature and the hash are library functions (`TokenLib`); a
hash is kept as the signed number that the database stores. Paths and lifetimes of cookies are left
out.
-/

namespace Klldap
namespace Http

open Lib (Eff Table)
open Lib.Text
open Opaque (Suite)

/-! ## Tokens -/

structure JwtClaims where
  exp : DateTime
  iat : DateTime
  jti : String
  user : String
  groups : List String
deriving DecidableEq

/-- A signed JWT: what it says, and its text. -/
structure SignedToken where
  claims : JwtClaims
  text : String
deriving DecidableEq

inductive AlgorithmType where
  | hs256 | hs384 | hs512 | rs256 | rs384 | rs512 | es256 | es384 | es512 | ps256 | ps384 | ps512
  | none
deriving DecidableEq

def AlgorithmType.debug : AlgorithmType → String
  | hs256 => "Hs256"
  | hs384 => "Hs384"
  | hs512 => "Hs512"
  | rs256 => "Rs256"
  | rs384 => "Rs384"
  | rs512 => "Rs512"
  | es256 => "Es256"
  | es384 => "Es384"
  | es512 => "Es512"
  | ps256 => "Ps256"
  | ps384 => "Ps384"
  | ps512 => "Ps512"
  | none => "None"

/-- `default_hash` and the JWT library, under the server's key. Verification hands back the claims
and the algorithm in the header. -/
structure TokenLib where
  defaultHash : String → Int
  sign : JwtClaims → String
  verify : String → Option (JwtClaims × AlgorithmType)

def seconds (n : Int) : Int := n * 1000000000

def days (n : Int) : Int := seconds (n * 86400)

inductive TcpError where
  | domainError (e : DomainError)
  | badRequest (msg : String)
  | internalServerError (msg : String)
  | notFoundError (msg : String)
  | unauthorizedError (msg : String)
  | panicked (msg : String)
deriving DecidableEq

structure AppState where
  world : World
  jwtBlacklist : List Int

abbrev App := Eff AppState TcpError

def onWorld {ε α : Type} (m : Eff World ε α) : Eff AppState ε α :=
  Eff.zoom AppState.world (fun a w => { a with world := w }) m

def call {α : Type} (m : Eff World DomainError α) : App α := (onWorld m).mapErr .domainError

def callDb {α : Type} (m : Db α) : App α := call (onDb m)

/-- What a request draws from the random generator, and what becomes of its mail. -/
structure Draws where
  jti : String
  randomString : String
  mailError : Option String

def createRefreshToken (lib : TokenLib) (now : DateTime) (token : String) (user : UserId) :
    Db Unit := do
  let db ← Eff.reads id
  match db.users.find? user,
      db.jwtRefreshStorage.insert? ⟨lib.defaultHash token, user, now + days 30⟩ with
  | some _, some t => Eff.writes fun db => { db with jwtRefreshStorage := t }
  | _, _ => Eff.fail Sql.constraintFailed

def registerJwt (user : UserId) (jwtHash : Int) (expiryDate : DateTime) : Db Unit := do
  let db ← Eff.reads id
  match db.users.find? user, db.jwtStorage.insert? ⟨jwtHash, user, expiryDate, false⟩ with
  | some _, some t => Eff.writes fun db => { db with jwtStorage := t }
  | _, _ => Eff.fail Sql.constraintFailed

def checkToken (refreshTokenHash : Int) (user : UserId) (db : Store) : Bool :=
  (db.jwtRefreshStorage.find? refreshTokenHash).any fun r => r.userId = user

theorem jwtHash_blacklisted (r : JwtStorageRow) :
    ({ r with blacklisted := true } : JwtStorageRow).jwtHash = r.jwtHash := rfl

/-- The JWTs of a user that were valid until now; all of the user's are withdrawn. -/
def blacklistJwts (user : UserId) : Db (List Int) := do
  let valid ← Eff.reads fun db =>
    (db.jwtStorage.rows.filter fun r => r.userId = user && !r.blacklisted).map JwtStorageRow.jwtHash
  Eff.writes fun db =>
    { db with
      jwtStorage := db.jwtStorage.updateWhere (fun r => r.userId = user)
        (fun r => { r with blacklisted := true }) jwtHash_blacklisted }
  pure valid

def deleteRefreshToken (refreshTokenHash : Int) : Db Unit :=
  Eff.writes fun db =>
    { db with
      jwtRefreshStorage :=
        db.jwtRefreshStorage.delete fun r => r.refreshTokenHash = refreshTokenHash }

def startPasswordReset (now : DateTime) (token : String) (user : UserId) : Db (Option String) := do
  let db ← Eff.reads id
  match db.users.find? user with
  | none => pure none
  | some _ =>
    match db.passwordResetTokens.insert? ⟨token, user, now + seconds 600⟩ with
    | none => Eff.fail Sql.constraintFailed
    | some t => do
      Eff.writes fun db => { db with passwordResetTokens := t }
      pure (some token)

def getUserIdForPasswordResetToken (now : DateTime) (token : String) (db : Store) :
    Except DomainError UserId :=
  match (db.passwordResetTokens.find? token).filter fun r => now < r.expiryDate with
  | some r => .ok r.userId
  | none => .error (.entityNotFound "Invalid reset token")

def deletePasswordResetToken (token : String) : Db Unit := do
  match ← Eff.reads fun db => db.passwordResetTokens.find? token with
  | none => Eff.fail (.entityNotFound ("No such password reset token: '" ++ token ++ "'"))
  | some _ => Eff.writes fun db =>
    { db with passwordResetTokens := db.passwordResetTokens.delete fun r => r.token = token }

/-! ## Endpoints -/

/-- Where a request carries its refresh token. A header value that is not text is `some none`. -/
structure TokenCarrier where
  cookie : Option String
  header : Option (Option String)

inductive Response (S : Suite) where
  | done
  | loginStarted (response : Opaque.ServerLoginStartResponse S)
  | registrationStarted (response : Opaque.ServerRegistrationStartResponse S)
  | loggedIn (token : SignedToken) (refreshToken : Option String)
  | passwordReset (userId : String) (token : SignedToken)
  | loggedOut

section Endpoints

variable [External] {S : Suite} (lib : TokenLib) (h : Services S World) (now : DateTime)
  (draws : Draws)

def createJwt (user : UserId) (groups : List GroupDetails) : App SignedToken := do
  let claims : JwtClaims := {
    exp := now + days 1
    iat := now
    jti := draws.jti
    user := user.asStr
    groups := groups.map fun g => g.displayName.raw }
  let token := lib.sign claims
  -- a failure to register the token is unwrapped
  (onWorld (onDb (registerJwt user (lib.defaultHash token) claims.exp))).mapErr
    fun e => .panicked e.display
  pure ⟨claims, token⟩

def parseRefreshToken (token : String) : Except TcpError (Int × UserId) :=
  match splitOnce '+' token with
  | none => .error (.domainError (.authenticationError "Invalid refresh token"))
  | some (token, u) => .ok (lib.defaultHash token, UserId.new u)

def getRefreshToken (carrier : TokenCarrier) : Except TcpError (Int × UserId) :=
  match carrier.cookie, carrier.header with
  | some c, _ => parseRefreshToken lib c
  | none, some (some t) => parseRefreshToken lib t
  | none, some none => .error (.panicked "called Result::unwrap() on an Err value")
  | none, none => .error (.domainError (.authenticationError "Missing refresh token"))

def getRefresh (carrier : TokenCarrier) : App (Response S) := do
  let (refreshTokenHash, user) ← Eff.lift (getRefreshToken lib carrier)
  if ← callDb (Eff.reads (checkToken refreshTokenHash user)) then do
    let groups ← call (h.getUserGroups user)
    let token ← createJwt lib now draws user groups
    pure (.loggedIn token none)
  else Eff.fail (.domainError (.authenticationError "Invalid refresh token"))

def getPasswordResetStep1 (userString : String) : App (Response S) := do
  let users ← call (h.listUsers
    (some (.or [.userId (UserId.new userString), .equality .email userString])) false)
  match users with
  | [] => pure .done
  | [u] => do
    match ← callDb (startPasswordReset now draws.randomString u.user.userId) with
    | none => pure .done
    | some _ =>
      match draws.mailError with
      | none => pure .done
      | some e => Eff.fail (.internalServerError ("Could not send email: " ++ e))
  | _ => Eff.fail (.internalServerError "Ambiguous user id or email")

def getPasswordResetStep2 (token : String) : App (Response S) := do
  let userId ← (onWorld (onDb (Eff.query (getUserIdForPasswordResetToken now token)))).mapErr
    fun _ => .notFoundError "Wrong or expired reset token"
  let _ ← Eff.attempt (onWorld (onDb (deletePasswordResetToken token)))
  let jwt ← createJwt lib now draws userId []
  pure (.passwordReset userId.asStr jwt)

def getLogout (carrier : TokenCarrier) : App (Response S) := do
  let (refreshTokenHash, user) ← Eff.lift (getRefreshToken lib carrier)
  callDb (deleteRefreshToken refreshTokenHash)
  let hashes ← callDb (blacklistJwts user)
  Eff.writes fun a => { a with jwtBlacklist := hashes.foldl (fun l x => l.insert x) a.jwtBlacklist }
  pure .loggedOut

def getLoginSuccessfulResponse (name : UserId) : App (Response S) := do
  let groups ← call (h.getUserGroups name)
  callDb (createRefreshToken lib now draws.randomString name)
  let token ← createJwt lib now draws name groups
  pure (.loggedIn token (some (draws.randomString ++ "+" ++ name.asStr)))

def opaqueLoginStart (request : Opaque.ClientLoginStartRequest S) : App (Response S) := do
  let response ← call (h.loginStart request)
  pure (.loginStarted response)

def opaqueLoginFinish (request : Opaque.ClientLoginFinishRequest S) : App (Response S) := do
  let name ← call (h.loginFinish request)
  getLoginSuccessfulResponse lib h now draws name

def simpleLogin (username : UserId) (password : String) : App (Response S) := do
  call (h.bind username password)
  getLoginSuccessfulResponse lib h now draws username

def checkIfTokenIsValid (tokenStr : String) (a : AppState) : Except String ValidationResults :=
  match lib.verify tokenStr with
  | none => .error "Invalid JWT"
  | some (claims, algorithm) =>
    if claims.exp < now then .error "Expired JWT"
    else if algorithm ≠ .hs512 then
      .error ("Unsupported JWT algorithm: '" ++ algorithm.debug ++ "'. Supported ones are: ['HS512']")
    else if a.jwtBlacklist.contains (lib.defaultHash tokenStr) then .error "JWT was logged out"
    else .ok (getPermissionsFromGroups (UserId.new claims.user) (claims.groups.map GroupName.mk))

def notAuthorized : TcpError := .unauthorizedError "Not authorized to change the user's password"

def opaqueRegisterStart (bearer : Option String)
    (request : Opaque.ClientRegistrationStartRequest S) : App (Response S) := do
  let validation ← Eff.query fun a =>
    match bearer.map fun token => checkIfTokenIsValid lib now token a with
    | some (.ok v) => .ok v
    | _ => .error notAuthorized
  let groups ← call (h.getUserGroups request.username)
  let userIsAdmin := groups.any fun g => g.displayName == ⟨"lldap_admin"⟩
  if validation.canChangePassword request.username userIsAdmin then do
    let response ← call (h.registrationStart request)
    pure (.registrationStarted response)
  else Eff.fail notAuthorized

def opaqueRegisterFinish (request : Opaque.ClientRegistrationFinishRequest S) :
    App (Response S) := do
  call (h.registrationFinish request)
  pure .done

end Endpoints

def newClaims (now : DateTime) (draws : Draws) (user : UserId) (groups : List GroupDetails) :
    JwtClaims where
  exp := now + days 1
  iat := now
  jti := draws.jti
  user := user.asStr
  groups := groups.map fun g => g.displayName.raw

/-- What issuing a JWT comes to: a new row, or nothing. -/
inductive IssuesJwt (lib : TokenLib) (now : DateTime) (draws : Draws) (user : UserId)
    (groups : List GroupDetails) (a : AppState) : Except TcpError SignedToken × AppState → Prop
  | issued {table : Table JwtStorageRow Int JwtStorageRow.jwtHash}
      (huser : (a.world.db.users.find? user).isSome = true)
      (htable : a.world.db.jwtStorage.insert? ⟨lib.defaultHash (lib.sign (newClaims now draws user
        groups)), user, now + days 1, false⟩ = some table) :
      IssuesJwt lib now draws user groups a
        (.ok ⟨newClaims now draws user groups, lib.sign (newClaims now draws user groups)⟩,
          { a with world := { a.world with db := { a.world.db with jwtStorage := table } } })
  | panicked (msg : String) : IssuesJwt lib now draws user groups a (.error (.panicked msg), a)

theorem createJwt_outcome (lib : TokenLib) (now : DateTime) (draws : Draws) (user : UserId)
    (groups : List GroupDetails) (a : AppState) :
    IssuesJwt lib now draws user groups a (createJwt lib now draws user groups a) := by
  unfold createJwt
  dsimp only
  rw [Eff.bind_run, Eff.mapErr, onWorld, Eff.zoom, onDb, Eff.zoom, registerJwt]
  rw [Eff.bind_run, Eff.reads_run]
  dsimp only [id]
  cases huser : a.world.db.users.find? user with
  | none => exact .panicked _
  | some row =>
    cases htable : a.world.db.jwtStorage.insert? ⟨lib.defaultHash (lib.sign (newClaims now draws user
        groups)), user, now + days 1, false⟩ with
    | none =>
      unfold newClaims at htable
      rw [htable]
      exact .panicked _
    | some table =>
      have hissued := IssuesJwt.issued (by rw [huser]; rfl) htable
      unfold newClaims at htable
      rw [htable]
      exact hissued

end Http
end Klldap
