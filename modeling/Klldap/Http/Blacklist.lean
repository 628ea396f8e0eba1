import Klldap.Http.Refresh
import Klldap.Lib.Interleave

/-!
# Klldap.Http.Blacklist: JWTs withdrawn while others are issued

A logout selects the JWTs of the user that are not blacklisted yet, marks all JWTs of the user in the
database, and puts the selected ones into the set in memory. Every query and the write to memory are
steps of their own, and logins, refreshes and logouts interleave between them. A restart drops the
requests in flight and loads the set from the database.
-/

namespace Klldap
namespace Http

open Lib (Eff Pool)
open Lib.Eff (Frames Keeps)
open Opaque (Suite)

/-! ## Requests in pieces -/

/-- What a request has still to do. -/
inductive AuthCall (S : Suite) where
  | opaqueLoginFinish (request : Opaque.ClientLoginFinishRequest S)
  | simpleLogin (username : UserId) (password : String)
  /-- The user is let in. -/
  | loginGroups (name : UserId)
  | createRefreshToken (name : UserId) (groups : List GroupDetails)
  | createJwt (user : UserId) (groups : List GroupDetails) (refreshToken : Option String)
  | refresh (carrier : TokenCarrier)
  /-- The refresh token has been found. -/
  | refreshGroups (user : UserId)
  | logout (carrier : TokenCarrier)
  /-- The refresh token has been deleted. -/
  | selectJwts (user : UserId)
  | updateJwts (user : UserId) (selected : List Int)
  | remember (selected : List Int)

namespace AuthCall

variable {S : Suite}

/-- Requests begin at their start. -/
def Begins : AuthCall S → Prop
  | .opaqueLoginFinish _ | .simpleLogin _ _ | .refresh _ | .logout _ => True
  | _ => False

def isLogout : AuthCall S → Bool
  | .logout _ | .selectJwts _ | .updateJwts _ _ | .remember _ => true
  | _ => false

end AuthCall

/-- The clock and the random bits that a piece sees. -/
structure AuthInput (S : Suite) where
  out : Outside
  rng : S.Coins
  draws : Draws

def markJwts (user : UserId) (db : Store) : Store :=
  { db with
    jwtStorage := db.jwtStorage.updateWhere (fun r => r.userId = user)
      (fun r => { r with blacklisted := true }) jwtHash_blacklisted }

def rememberJwts (selected : List Int) (a : AppState) : AppState :=
  { a with jwtBlacklist := selected.foldl (fun l x => l.insert x) a.jwtBlacklist }

section Pieces

variable [External] {S : Suite} (lib : TokenLib) (setup : S.ServerSetup)

/-- The next step of a request, and what is to do afterwards or its answer. -/
def AuthCall.step (i : AuthInput S) : AuthCall S → App (AuthCall S ⊕ Response S)
  | .opaqueLoginFinish request => do
    let name ← call ((sqlServices S setup i.rng i.out).loginFinish request)
    pure (.inl (.loginGroups name))
  | .simpleLogin username password => do
    call ((sqlServices S setup i.rng i.out).bind username password)
    pure (.inl (.loginGroups username))
  | .loginGroups name => do
    let groups ← call ((sqlServices S setup i.rng i.out).getUserGroups name)
    pure (.inl (.createRefreshToken name groups))
  | .createRefreshToken name groups => do
    callDb (Http.createRefreshToken lib i.out.now i.draws.randomString name)
    pure (.inl (.createJwt name groups (some (i.draws.randomString ++ "+" ++ name.asStr))))
  | .createJwt user groups refreshToken => do
    let token ← Http.createJwt lib i.out.now i.draws user groups
    pure (.inr (.loggedIn token refreshToken))
  | .refresh carrier => do
    let (refreshTokenHash, user) ← Eff.lift (getRefreshToken lib carrier)
    if ← callDb (Eff.reads (checkToken refreshTokenHash user)) then
      pure (.inl (.refreshGroups user))
    else Eff.fail (.domainError (.authenticationError "Invalid refresh token"))
  | .refreshGroups user => do
    let groups ← call ((sqlServices S setup i.rng i.out).getUserGroups user)
    pure (.inl (.createJwt user groups none))
  | .logout carrier => do
    let (refreshTokenHash, user) ← Eff.lift (getRefreshToken lib carrier)
    callDb (deleteRefreshToken refreshTokenHash)
    pure (.inl (.selectJwts user))
  | .selectJwts user => do
    let selected ← callDb (Eff.reads (validJwts user))
    pure (.inl (.updateJwts user selected))
  | .updateJwts user selected => do
    callDb (Eff.writes (markJwts user))
    pure (.inl (.remember selected))
  | .remember selected => do
    Eff.writes (rememberJwts selected)
    pure (.inr .loggedOut)

/-- All that a request has still to do, when nothing interrupts it and it sees one input. -/
def AuthCall.rest (i : AuthInput S) : AuthCall S → App (Response S)
  | .opaqueLoginFinish request =>
    Http.opaqueLoginFinish lib (sqlServices S setup i.rng i.out) i.out.now i.draws request
  | .simpleLogin username password =>
    Http.simpleLogin lib (sqlServices S setup i.rng i.out) i.out.now i.draws username password
  | .loginGroups name =>
    getLoginSuccessfulResponse lib (sqlServices S setup i.rng i.out) i.out.now i.draws name
  | .createRefreshToken name groups => do
    callDb (Http.createRefreshToken lib i.out.now i.draws.randomString name)
    let token ← Http.createJwt lib i.out.now i.draws name groups
    pure (.loggedIn token (some (i.draws.randomString ++ "+" ++ name.asStr)))
  | .createJwt user groups refreshToken => do
    let token ← Http.createJwt lib i.out.now i.draws user groups
    pure (.loggedIn token refreshToken)
  | .refresh carrier =>
    getRefresh lib (sqlServices S setup i.rng i.out) i.out.now i.draws carrier
  | .refreshGroups user => do
    let groups ← call ((sqlServices S setup i.rng i.out).getUserGroups user)
    let token ← Http.createJwt lib i.out.now i.draws user groups
    pure (.loggedIn token none)
  | .logout carrier => getLogout lib carrier
  | .selectJwts user => do
    let selected ← callDb (blacklistJwts user)
    Eff.writes (rememberJwts selected)
    pure .loggedOut
  | .updateJwts user selected => do
    callDb (Eff.writes (markJwts user))
    Eff.writes (rememberJwts selected)
    pure .loggedOut
  | .remember selected => do
    Eff.writes (rememberJwts selected)
    pure .loggedOut

omit [External] in
theorem callDb_blacklistJwts (user : UserId) :
    callDb (blacklistJwts user) = (do
      let selected ← callDb (Eff.reads (validJwts user))
      callDb (Eff.writes (markJwts user))
      pure selected) := by
  funext a
  rfl

theorem AuthCall.rest_run (i : AuthInput S) (c : AuthCall S) :
    c.rest lib setup i = (do
      match ← c.step lib setup i with
      | .inl c' => c'.rest lib setup i
      | .inr response => pure response) := by
  cases c with
  | opaqueLoginFinish request =>
    unfold rest step Http.opaqueLoginFinish
    simp only [bind_assoc, pure_bind]
  | simpleLogin username password =>
    unfold rest step Http.simpleLogin
    simp only [bind_assoc, pure_bind]
  | loginGroups name =>
    unfold rest step getLoginSuccessfulResponse
    simp only [bind_assoc, pure_bind]
  | createRefreshToken name groups =>
    unfold rest step
    simp only [bind_assoc, pure_bind]
  | createJwt user groups refreshToken =>
    unfold rest step
    simp only [bind_assoc, pure_bind]
  | refresh carrier =>
    unfold rest step getRefresh
    simp only [bind_assoc]
    refine bind_congr fun token => bind_congr fun found => ?_
    split
    · rfl
    · rfl
  | refreshGroups user =>
    unfold rest step
    simp only [bind_assoc, pure_bind]
  | logout carrier =>
    unfold rest step getLogout
    simp only [bind_assoc, pure_bind]
    rfl
  | selectJwts user =>
    unfold rest step
    simp only [callDb_blacklistJwts, bind_assoc, pure_bind]
  | updateJwts user selected =>
    unfold rest step
    simp only [bind_assoc, pure_bind]
  | remember selected =>
    unfold rest step
    simp only [bind_assoc, pure_bind]

end Pieces

/-! ## What each piece does -/

/-- What the requests share, with notes: the latest time at which JWTs were cleaned up, the JWTs that
have been registered, and those that a logout which has answered found registered at its update. -/
structure AuthShared where
  app : AppState
  cleaned : DateTime
  registered : List (UserId × SignedToken)
  withdrawn : List SignedToken

namespace AuthShared

abbrev rows (s : AuthShared) : List JwtStorageRow := s.app.world.db.jwtStorage.rows

abbrev memory (s : AuthShared) : List Int := s.app.jwtBlacklist

def registeredTo (s : AuthShared) (user : UserId) : List SignedToken :=
  (s.registered.filter fun p => p.1 = user).map Prod.snd

/-- Nothing has changed but what is of no concern here. -/
structure Same (s s' : AuthShared) : Prop where
  rows : s'.rows = s.rows
  memory : s'.memory = s.memory
  cleaned : s'.cleaned = s.cleaned
  registered : s'.registered = s.registered
  withdrawn : s'.withdrawn = s.withdrawn

end AuthShared

/-- A request, with the JWTs of the user that were registered when it marked them. -/
structure AuthThread (S : Suite) where
  call : AuthCall S
  before : List SignedToken

section Threads

variable {S : Suite}

def AuthCall.noted (s : AuthShared) : AuthCall S → List SignedToken
  | .updateJwts user _ => s.registeredTo user
  | _ => []

def AuthCall.registers : AuthCall S → Response S → List (UserId × SignedToken)
  | .createJwt user _ _, .loggedIn token _ => [(user, token)]
  | _, _ => []

def AuthThread.withdraws (t : AuthThread S) : List SignedToken :=
  match t.call with
  | .remember _ => t.before
  | _ => []

variable [External] (lib : TokenLib) (setup : S.ServerSetup)

def AuthThread.advance (i : AuthInput S) (t : AuthThread S) :
    Eff AuthShared TcpError (Option (AuthThread S)) := fun s =>
  match t.call.step lib setup i s.app with
  | (.ok (.inl c), a) => (.ok (some ⟨c, t.call.noted s⟩), { s with app := a })
  | (.ok (.inr r), a) =>
    (.ok none, { s with
      app := a
      registered := s.registered ++ t.call.registers r
      withdrawn := s.withdrawn ++ t.withdraws })
  | (.error e, a) => (.error e, { s with app := a })

/-- What a piece does to the stored JWTs, to the set in memory and to the notes, and what is left of
the request. -/
inductive AuthStep (s : AuthShared) : AuthThread S → AuthShared → Option (AuthThread S) → Prop
  | quiet {t : AuthThread S} {s' : AuthShared} {next : Option (AuthThread S)} (hsame : s.Same s')
      (hcall : ∀ selected, t.call ≠ .remember selected)
      (hnext : ∀ t', next = some t' → ∀ selected, t'.call ≠ .remember selected) :
      AuthStep s t s' next
  | issued {user : UserId} {groups : List GroupDetails} {refreshToken : Option String}
      {before : List SignedToken} {token : SignedToken} {s' : AuthShared}
      (htext : token.text = lib.sign token.claims)
      (hrows : s'.rows = s.rows ++ [⟨lib.defaultHash token.text, user, token.claims.exp, false⟩])
      (hmemory : s'.memory = s.memory) (hcleaned : s'.cleaned = s.cleaned)
      (hregistered : s'.registered = s.registered ++ [(user, token)])
      (hwithdrawn : s'.withdrawn = s.withdrawn) :
      AuthStep s ⟨.createJwt user groups refreshToken, before⟩ s' none
  | updated (user : UserId) (selected : List Int) (before : List SignedToken) :
      AuthStep s ⟨.updateJwts user selected, before⟩
        { s with app := { s.app with
          world := { s.app.world with db := markJwts user s.app.world.db } } }
        (some ⟨.remember selected, s.registeredTo user⟩)
  | remembered (selected : List Int) (before : List SignedToken) :
      AuthStep s ⟨.remember selected, before⟩
        { s with app := rememberJwts selected s.app, withdrawn := s.withdrawn ++ before } none

/-- The stored JWTs and the set in memory are the same. -/
def SameJwts (a a' : AppState) : Prop :=
  a'.world.db.jwtStorage = a.world.db.jwtStorage ∧ a'.jwtBlacklist = a.jwtBlacklist

instance : Std.Refl SameJwts := ⟨fun _ => ⟨rfl, rfl⟩⟩

instance : IsTrans AppState SameJwts :=
  ⟨fun _ _ _ h h' => ⟨h'.1.trans h.1, h'.2.trans h.2⟩⟩

omit [External] in
theorem call_sameJwts {α : Type} {m : Db α}
    (h : Frames (fun db db' => db'.jwtStorage = db.jwtStorage) m) :
    Frames SameJwts (call (onDb m)) :=
  fun a => ⟨h a.world.db, rfl⟩

variable {lib setup}

theorem AuthStep.of_goesOn {i : AuthInput S} {c : AuthCall S} {before : List SignedToken}
    {s : AuthShared} {β : Type} {m : App β} {f : β → AuthCall S}
    (hstep : c.step lib setup i = (do
      let b ← m
      pure (.inl (f b))))
    (hm : Frames SameJwts m) (hc : ∀ selected, c ≠ .remember selected)
    (hf : ∀ b selected, f b ≠ .remember selected) :
    AuthStep lib s ⟨c, before⟩ (AuthThread.advance lib setup i ⟨c, before⟩ s).2
      (Pool.left (AuthThread.advance lib setup i ⟨c, before⟩ s).1) := by
  have hsame := hm s.app
  unfold AuthThread.advance
  dsimp only
  rw [hstep, Eff.bind_run]
  cases hrun : m s.app with
  | mk r a =>
    rw [hrun] at hsame
    have hquiet : s.Same { s with app := a } :=
      ⟨congrArg Lib.Table.rows hsame.1, hsame.2, rfl, rfl, rfl⟩
    cases r with
    | error e => exact .quiet hquiet hc nofun
    | ok b =>
      refine .quiet hquiet hc ?_
      rintro _ ⟨⟩
      exact hf b

variable (lib setup)

theorem AuthThread.advance_outcome (i : AuthInput S) (t : AuthThread S) (s : AuthShared) :
    AuthStep lib s t (t.advance lib setup i s).2 (Pool.left (t.advance lib setup i s).1) := by
  obtain ⟨c, before⟩ := t
  have hquery {α : Type} (f : Store → Except DomainError α) :
      Frames SameJwts (Http.call (onDb (Eff.query f))) := call_sameJwts (Keeps.query f).frames
  cases c with
  | opaqueLoginFinish request => exact .of_goesOn rfl (hquery _) nofun nofun
  | simpleLogin username password => exact .of_goesOn rfl (hquery _) nofun nofun
  | loginGroups name => exact .of_goesOn rfl (hquery _) nofun nofun
  | createRefreshToken name groups =>
    exact .of_goesOn rfl (call_sameJwts (createRefreshToken_frames fun _ _ _ => rfl)) nofun nofun
  | createJwt user groups refreshToken =>
    have hissues := createJwt_outcome lib i.out.now i.draws user groups s.app
    unfold advance AuthCall.step
    dsimp only
    rw [Eff.bind_run]
    cases hrun : Http.createJwt lib i.out.now i.draws user groups s.app with
    | mk r a =>
      rw [hrun] at hissues
      cases hissues with
      | issued huser htable =>
        exact .issued rfl (Lib.Table.rows_insert? htable) rfl rfl rfl (List.append_nil _)
      | panicked msg => exact .quiet ⟨rfl, rfl, rfl, rfl, rfl⟩ nofun nofun
  | refresh carrier =>
    have hstep : (AuthCall.refresh carrier : AuthCall S).step lib setup i = (do
        let user ← (do
          let (refreshTokenHash, user) ← Eff.lift (getRefreshToken lib carrier)
          if ← callDb (Eff.reads (checkToken refreshTokenHash user)) then pure user
          else Eff.fail (.domainError (.authenticationError "Invalid refresh token")))
        pure (.inl (.refreshGroups user))) := by
      unfold AuthCall.step
      simp only [bind_assoc]
      refine bind_congr fun token => bind_congr fun found => ?_
      split
      · rfl
      · rfl
    refine .of_goesOn hstep ?_ nofun nofun
    refine (Keeps.lift _).frames.bind fun token => ?_
    refine (call_sameJwts (Keeps.reads _).frames).bind fun found => ?_
    exact Frames.ite (Keeps.pure _).frames (Keeps.fail _).frames
  | refreshGroups user => exact .of_goesOn rfl (hquery _) nofun nofun
  | logout carrier =>
    have hstep : (AuthCall.logout carrier : AuthCall S).step lib setup i = (do
        let user ← (do
          let (refreshTokenHash, user) ← Eff.lift (getRefreshToken lib carrier)
          callDb (deleteRefreshToken refreshTokenHash)
          pure user)
        pure (.inl (.selectJwts user))) := by
      unfold AuthCall.step
      simp only [bind_assoc, pure_bind]
    refine .of_goesOn hstep ?_ nofun nofun
    have hdelete (hash : Int) : Frames SameJwts (callDb (deleteRefreshToken hash)) :=
      call_sameJwts (Frames.writes fun _ => rfl)
    refine (Keeps.lift _).frames.bind fun token => ?_
    exact (hdelete token.1).bind fun _ => (Keeps.pure _).frames
  | selectJwts user => exact .of_goesOn rfl (hquery _) nofun nofun
  | updateJwts user selected => exact .updated user selected before
  | remember selected =>
    have hadvance : AuthThread.advance lib setup i ⟨.remember selected, before⟩ s =
        (.ok none, { s with
          app := rememberJwts selected s.app
          registered := s.registered ++ []
          withdrawn := s.withdrawn ++ before }) := rfl
    rw [hadvance, List.append_nil]
    exact .remembered selected before

end Threads

/-! ## The invariant -/

namespace AuthShared

variable (lib : TokenLib) (s : AuthShared)

/-- The JWT has expired, as the cleaner has seen. -/
def Expired (token : SignedToken) : Prop := token.claims.exp < s.cleaned

/-- There is a row for the JWT. -/
def IsRow (token : SignedToken) (row : JwtStorageRow) : Prop :=
  row ∈ s.rows ∧ row.jwtHash = lib.defaultHash token.text ∧ row.expiryDate = token.claims.exp

/-- The JWT is one of the server's, and it is stored for the user unless it has expired. -/
structure Stored (user : UserId) (token : SignedToken) : Prop where
  signed : token.text = lib.sign token.claims
  row : s.Expired token ∨ ∃ row, s.IsRow lib token row ∧ row.userId = user

/-- The JWT is one of the server's, and it is marked unless it has expired. -/
structure Marked (token : SignedToken) : Prop where
  signed : token.text = lib.sign token.claims
  row : s.Expired token ∨ ∃ row, s.IsRow lib token row ∧ row.blacklisted = true

/-- Rows stay, marks too, but for what the cleaner deletes. -/
structure Evolves (s s' : AuthShared) : Prop where
  cleaned : s.cleaned ≤ s'.cleaned
  rows : ∀ row ∈ s.rows, row.expiryDate < s'.cleaned ∨ ∃ row' ∈ s'.rows, row'.jwtHash = row.jwtHash ∧
    row'.userId = row.userId ∧ row'.expiryDate = row.expiryDate ∧
    (row.blacklisted = true → row'.blacklisted = true)

variable {lib s} {s' : AuthShared} {token : SignedToken} {user : UserId}

theorem Evolves.of_rows (hcleaned : s'.cleaned = s.cleaned) (hrows : ∀ row ∈ s.rows, row ∈ s'.rows) :
    s.Evolves s' :=
  ⟨hcleaned.ge, fun row hrow => .inr ⟨row, hrows row hrow, rfl, rfl, rfl, id⟩⟩

theorem Expired.evolves (h : s.Expired token) (he : s.Evolves s') : s'.Expired token :=
  h.trans_le he.cleaned

theorem IsRow.evolves {row : JwtStorageRow} (h : s.IsRow lib token row) (he : s.Evolves s') :
    s'.Expired token ∨ ∃ row', s'.IsRow lib token row' ∧ row'.userId = row.userId ∧
      (row.blacklisted = true → row'.blacklisted = true) := by
  obtain ⟨hmem, hhash, hexp⟩ := h
  rcases he.rows row hmem with hold | ⟨row', hmem', hhash', huser, hexp', hmark⟩
  · exact .inl (hexp.symm.trans_lt hold)
  · exact .inr ⟨row', ⟨hmem', hhash'.trans hhash, hexp'.trans hexp⟩, huser, hmark⟩

theorem Stored.evolves (h : s.Stored lib user token) (he : s.Evolves s') : s'.Stored lib user token := by
  refine ⟨h.signed, ?_⟩
  rcases h.row with hexp | ⟨row, hrow, huser⟩
  · exact .inl (hexp.evolves he)
  · rcases hrow.evolves he with hexp | ⟨row', hrow', huser', -⟩
    · exact .inl hexp
    · exact .inr ⟨row', hrow', huser'.trans huser⟩

theorem Marked.evolves (h : s.Marked lib token) (he : s.Evolves s') : s'.Marked lib token := by
  refine ⟨h.signed, ?_⟩
  rcases h.row with hexp | ⟨row, hrow, hmark⟩
  · exact .inl (hexp.evolves he)
  · rcases hrow.evolves he with hexp | ⟨row', hrow', -, hmark'⟩
    · exact .inl hexp
    · exact .inr ⟨row', hrow', hmark' hmark⟩

end AuthShared

section Invariant

variable {S : Suite} (lib : TokenLib)

/-- The set in memory will have the hash once the logouts in flight have answered. -/
def Remembered (s : AuthShared) (threads : List (AuthThread S)) (hash : Int) : Prop :=
  hash ∈ s.memory ∨ ∃ t ∈ threads, ∃ selected, t.call = .remember selected ∧ hash ∈ selected

/-- What a logout that has marked the JWTs has still to see to. -/
def AuthThread.Asserts (s : AuthShared) (t : AuthThread S) : Prop :=
  ∀ selected, t.call = .remember selected → ∀ token ∈ t.before, s.Marked lib token ∧
    (s.Expired token ∨ lib.defaultHash token.text ∈ s.memory ∨ lib.defaultHash token.text ∈ selected)

structure AuthInv (p : Pool AuthShared (AuthThread S)) : Prop where
  /-- What is marked is remembered. -/
  marked : ∀ row ∈ p.shared.rows, row.blacklisted = true → Remembered p.shared p.threads row.jwtHash
  registered : ∀ r ∈ p.shared.registered, p.shared.Stored lib r.1 r.2
  threads : ∀ t ∈ p.threads, t.Asserts lib p.shared
  withdrawn : ∀ token ∈ p.shared.withdrawn, p.shared.Marked lib token ∧
    (p.shared.Expired token ∨ lib.defaultHash token.text ∈ p.shared.memory)

variable {lib} {s s' : AuthShared}

theorem AuthThread.Asserts.evolves {t : AuthThread S} (h : t.Asserts lib s) (he : s.Evolves s')
    (hmemory : ∀ hash ∈ s.memory, hash ∈ s'.memory) : t.Asserts lib s' := by
  intro selected hcall token htoken
  obtain ⟨hmarked, hseen⟩ := h selected hcall token htoken
  refine ⟨hmarked.evolves he, ?_⟩
  rcases hseen with hexp | hmem | hsel
  · exact .inl (hexp.evolves he)
  · exact .inr (.inl (hmemory _ hmem))
  · exact .inr (.inr hsel)

theorem AuthThread.asserts_of_ne {t : AuthThread S} (h : ∀ selected, t.call ≠ .remember selected) :
    t.Asserts lib s :=
  fun selected hcall => absurd hcall (h selected)

theorem withdrawn_evolves
    (h : ∀ token ∈ s.withdrawn, s.Marked lib token ∧
      (s.Expired token ∨ lib.defaultHash token.text ∈ s.memory)) (he : s.Evolves s')
    (hmemory : ∀ hash ∈ s.memory, hash ∈ s'.memory) :
    ∀ token ∈ s.withdrawn, s'.Marked lib token ∧
      (s'.Expired token ∨ lib.defaultHash token.text ∈ s'.memory) := by
  intro token htoken
  obtain ⟨hmarked, hseen⟩ := h token htoken
  exact ⟨hmarked.evolves he, hseen.imp (·.evolves he) (hmemory _)⟩

/-- A logout marks the JWTs of a user only if it has selected them or they are in the set. -/
def MarksRemembered (t : AuthThread S) (s : AuthShared) : Prop :=
  ∀ user selected, t.call = .updateJwts user selected → ∀ row ∈ s.rows, row.userId = user →
    row.jwtHash ∈ selected ∨ row.jwtHash ∈ s.memory

omit lib in
theorem Remembered.leaves {t : AuthThread S} {l₁ l₂ : List (AuthThread S)} {hash : Int}
    (h : Remembered s (l₁ ++ t :: l₂) hash) (hmemory : ∀ hash ∈ s.memory, hash ∈ s'.memory)
    (ht : ∀ selected, t.call = .remember selected → ∀ hash ∈ selected, hash ∈ s'.memory)
    (l : List (AuthThread S)) : Remembered s' (l₁ ++ l ++ l₂) hash := by
  rcases h with hmem | ⟨u, hu, selected, hcall, hsel⟩
  · exact .inl (hmemory _ hmem)
  · simp only [List.mem_append, List.mem_cons] at hu
    rcases hu with hu | rfl | hu
    · exact .inr ⟨u, by simp [hu], selected, hcall, hsel⟩
    · exact .inl (ht selected hcall hash hsel)
    · exact .inr ⟨u, by simp [hu], selected, hcall, hsel⟩

theorem mem_rememberJwts {selected : List Int} {a : AppState} {hash : Int} :
    hash ∈ (rememberJwts selected a).jwtBlacklist ↔ hash ∈ selected ∨ hash ∈ a.jwtBlacklist := by
  simp only [rememberJwts]
  generalize a.jwtBlacklist = l
  induction selected generalizing l with
  | nil => simp
  | cons x selected ih =>
    rw [List.foldl_cons, ih, List.mem_insert_iff, List.mem_cons]
    tauto

theorem mem_markJwts {user : UserId} {db : Store} {row' : JwtStorageRow} :
    row' ∈ (markJwts user db).jwtStorage.rows ↔ ∃ row ∈ db.jwtStorage.rows,
      row' = if row.userId = user then { row with blacklisted := true } else row := by
  simp only [markJwts, Lib.Table.updateWhere, Lib.Table.mapRows, List.mem_map, decide_eq_true_eq]
  exact exists_congr fun row => and_congr_right fun _ => eq_comm

theorem markJwts_evolves (s : AuthShared) (user : UserId) :
    s.Evolves { s with app := { s.app with
      world := { s.app.world with db := markJwts user s.app.world.db } } } := by
  refine ⟨le_rfl, fun row hrow => .inr ⟨_, mem_markJwts.mpr ⟨row, hrow, rfl⟩, ?_⟩⟩
  split
  · exact ⟨rfl, rfl, rfl, fun _ => rfl⟩
  · exact ⟨rfl, rfl, rfl, id⟩

theorem AuthShared.mem_registeredTo {user : UserId} {token : SignedToken} :
    token ∈ s.registeredTo user ↔ (user, token) ∈ s.registered := by
  simp [registeredTo]

theorem AuthInv.asserts_updated {user : UserId} {selected : List Int}
    {threads : List (AuthThread S)} (h : AuthInv lib ⟨s, threads⟩)
    (hok : ∀ row ∈ s.rows, row.userId = user → row.jwtHash ∈ selected ∨ row.jwtHash ∈ s.memory) :
    AuthThread.Asserts (S := S) lib
      { s with app := { s.app with
        world := { s.app.world with db := markJwts user s.app.world.db } } }
      ⟨.remember selected, s.registeredTo user⟩ := by
  rintro _ ⟨⟩ token htoken
  have hstored := h.registered _ (AuthShared.mem_registeredTo.mp htoken)
  rcases hstored.row with hexp | ⟨row, hrow, huser⟩
  · exact ⟨⟨hstored.signed, .inl hexp⟩, .inl hexp⟩
  · refine ⟨⟨hstored.signed, .inr ⟨{ row with blacklisted := true }, ⟨?_, hrow.2⟩, rfl⟩⟩, .inr ?_⟩
    · exact mem_markJwts.mpr ⟨row, hrow.1, (if_pos huser).symm⟩
    · rw [← hrow.2.1]
      exact (hok row hrow.1 huser).symm

theorem AuthStep.inv {t : AuthThread S} {next : Option (AuthThread S)} {l₁ l₂ : List (AuthThread S)}
    (hstep : AuthStep lib s t s' next) (hok : MarksRemembered t s)
    (h : AuthInv lib ⟨s, l₁ ++ t :: l₂⟩) : AuthInv lib ⟨s', l₁ ++ next.toList ++ l₂⟩ := by
  have hothers (he : s.Evolves s') (hmemory : ∀ hash ∈ s.memory, hash ∈ s'.memory)
      (hnext : ∀ t', next = some t' → t'.Asserts lib s') :
      ∀ u ∈ l₁ ++ next.toList ++ l₂, u.Asserts lib s' := by
    intro u hu
    simp only [List.mem_append, Option.mem_toList] at hu
    rcases hu with (hu | hu) | hu
    · exact (h.threads u (by simp [hu])).evolves he hmemory
    · exact hnext u hu
    · exact (h.threads u (by simp [hu])).evolves he hmemory
  cases hstep with
  | quiet hsame hcall hnext =>
    have he : s.Evolves s' := .of_rows hsame.cleaned fun row hrow => hsame.rows ▸ hrow
    have hmemory : ∀ hash ∈ s.memory, hash ∈ s'.memory := fun hash hh => hsame.memory ▸ hh
    refine ⟨fun row hrow hmark => ?_, fun r hr => ?_, ?_, fun token htoken => ?_⟩
    · exact (h.marked row (hsame.rows ▸ hrow) hmark).leaves hmemory
        (fun selected hc => absurd hc (hcall selected)) _
    · exact (h.registered r (hsame.registered ▸ hr)).evolves he
    · exact hothers he hmemory fun t' ht' => AuthThread.asserts_of_ne (hnext t' ht')
    · exact withdrawn_evolves h.withdrawn he hmemory token (hsame.withdrawn ▸ htoken)
  | @issued user groups refreshToken before token _ htext hrows hmem hcleaned hregistered
      hwithdrawn =>
    have he : s.Evolves s' := .of_rows hcleaned fun row hrow => by simp [hrows, hrow]
    have hmemory : ∀ hash ∈ s.memory, hash ∈ s'.memory := fun hash hh => hmem ▸ hh
    refine ⟨fun row hrow hmark => ?_, fun r hr => ?_, ?_, fun token htoken => ?_⟩
    · simp only [hrows, List.mem_append, List.mem_singleton] at hrow
      rcases hrow with hrow | rfl
      · exact (h.marked row hrow hmark).leaves hmemory (fun _ h => by cases h) _
      · cases hmark
    · simp only [hregistered, List.mem_append, List.mem_singleton] at hr
      rcases hr with hr | rfl
      · exact (h.registered r hr).evolves he
      · exact ⟨htext, .inr ⟨⟨lib.defaultHash token.text, user, token.claims.exp, false⟩,
          ⟨by simp [hrows], rfl, rfl⟩, rfl⟩⟩
    · exact hothers he hmemory fun _ h => by cases h
    · exact withdrawn_evolves h.withdrawn he hmemory token (hwithdrawn ▸ htoken)
  | updated user selected before =>
    have hok := hok user selected rfl
    have he := markJwts_evolves s user
    refine ⟨fun row' hrow' hmark => ?_, fun r hr => (h.registered r hr).evolves he, ?_,
      withdrawn_evolves (s := s) h.withdrawn he fun _ => id⟩
    · obtain ⟨row, hrow, rfl⟩ := mem_markJwts.mp hrow'
      by_cases huser : row.userId = user
      · rw [if_pos huser]
        rcases hok row hrow huser with hsel | hmem
        · exact .inr ⟨⟨.remember selected, s.registeredTo user⟩, by simp, selected, rfl, hsel⟩
        · exact .inl hmem
      · rw [if_neg huser] at hmark ⊢
        exact (h.marked row hrow hmark).leaves (fun _ => id) (fun _ h => by cases h) _
    · refine hothers he (fun _ => id) ?_
      rintro _ ⟨⟩
      exact h.asserts_updated hok
  | remembered selected before =>
    have he : s.Evolves { s with
        app := rememberJwts selected s.app, withdrawn := s.withdrawn ++ before } :=
      .of_rows rfl fun _ => id
    have hmemory : ∀ hash ∈ s.memory, hash ∈ (rememberJwts selected s.app).jwtBlacklist :=
      fun hash hh => mem_rememberJwts.mpr (.inr hh)
    refine ⟨fun row hrow hmark => ?_, fun r hr => (h.registered r hr).evolves he, ?_,
      fun token htoken => ?_⟩
    · refine (h.marked row hrow hmark).leaves hmemory ?_ _
      rintro _ ⟨⟩ hash hh
      exact mem_rememberJwts.mpr (.inl hh)
    · exact hothers he hmemory fun _ h => by cases h
    · rcases List.mem_append.mp htoken with htoken | htoken
      · exact withdrawn_evolves (s := s) h.withdrawn he hmemory token htoken
      · obtain ⟨hmarked, hseen⟩ := h.threads ⟨.remember selected, before⟩ (by simp) selected rfl
          token htoken
        refine ⟨hmarked.evolves he, hseen.imp (·.evolves he) fun hh => ?_⟩
        exact mem_rememberJwts.mpr hh.symm

end Invariant

/-! ## Runs -/

/-- The hashes of the JWTs that are marked, as they are loaded when the server starts. -/
def getJwtBlacklist (db : Store) : List Int :=
  (db.jwtStorage.rows.filter JwtStorageRow.blacklisted).map JwtStorageRow.jwtHash

/-- A move of the requests, a restart, or a run of the cleaner. -/
inductive AuthMove (S : Suite) where
  | requests (m : Pool.Move (AuthInput S) (AuthThread S))
  | restart
  | clean (c : Cleaning)

section Runs

variable {S : Suite}

/-- The server when it has started, with the JWTs that were registered before. -/
def AuthShared.started (w : World) (cleaned : DateTime) (registered : List (UserId × SignedToken))
    (withdrawn : List SignedToken) : AuthShared :=
  ⟨⟨w, getJwtBlacklist w.db⟩, cleaned, registered, withdrawn⟩

theorem mem_getJwtBlacklist {db : Store} {hash : Int} :
    hash ∈ getJwtBlacklist db ↔
      ∃ row ∈ db.jwtStorage.rows, row.blacklisted = true ∧ row.jwtHash = hash := by
  simp [getJwtBlacklist, and_assoc]

/-- Requests begin at their start, with nothing noted. -/
def StartsAfresh : AuthMove S → Prop
  | .requests (.start t) => t.call.Begins ∧ t.before = []
  | _ => True

/-- A logout whose turn it is marks only JWTs that it has selected or that are in the set. -/
def UpdatesRemembered (p : Pool AuthShared (AuthThread S)) : AuthMove S → Prop
  | .requests (.advance k _) => ∀ t, p.threads[k]? = some t → MarksRemembered t p.shared
  | _ => True

variable {lib : TokenLib} {p : Pool AuthShared (AuthThread S)}

theorem AuthInv.started {w : World} {cleaned : DateTime} {registered : List (UserId × SignedToken)}
    {withdrawn : List SignedToken}
    (hregistered : ∀ r ∈ registered,
      (AuthShared.started w cleaned registered withdrawn).Stored lib r.1 r.2)
    (hwithdrawn : ∀ token ∈ withdrawn,
      (AuthShared.started w cleaned registered withdrawn).Marked lib token) :
    AuthInv (S := S) lib ⟨.started w cleaned registered withdrawn, []⟩ where
  marked row hrow hmark := .inl (mem_getJwtBlacklist.mpr ⟨row, hrow, hmark, rfl⟩)
  registered := hregistered
  threads := nofun
  withdrawn token htoken := by
    refine ⟨hwithdrawn token htoken, (hwithdrawn token htoken).row.imp id ?_⟩
    rintro ⟨row, hrow, hmark⟩
    exact mem_getJwtBlacklist.mpr ⟨row, hrow.1, hmark, hrow.2.1⟩

/-- The cleaner deletes expired rows, and does nothing else to the JWTs. -/
structure Cleans (time : DateTime) (a a' : AppState) : Prop where
  memory : a'.jwtBlacklist = a.jwtBlacklist
  kept : ∀ row ∈ a.world.db.jwtStorage.rows,
    row ∈ a'.world.db.jwtStorage.rows ∨ row.expiryDate < time
  old : ∀ row ∈ a'.world.db.jwtStorage.rows, row ∈ a.world.db.jwtStorage.rows

instance (time : DateTime) : Std.Refl (Cleans time) := ⟨fun _ => ⟨rfl, fun _ => .inl, fun _ => id⟩⟩

instance (time : DateTime) : IsTrans AppState (Cleans time) where
  trans _ _ _ h h' := by
    refine ⟨h'.memory.trans h.memory, fun row hrow => ?_, fun row hrow => h.old row (h'.old row hrow)⟩
    rcases h.kept row hrow with hrow | hexp
    · exact h'.kept row hrow
    · exact .inr hexp

theorem cleanStatement_cleans {time : DateTime} {delete : Store → Store} (failure : Option DomainError)
    (h : ∀ a : AppState, Cleans time a { a with world := { a.world with db := delete a.world.db } }) :
    Frames (Cleans time) (cleanStatement failure delete) := by
  refine Frames.bind (Frames.attempt ?_) fun _ => (Keeps.pure _).frames
  cases failure with
  | none => exact h
  | some e => exact (Keeps.fail e).frames

theorem cleanupDb_cleans (c : Cleaning) : Frames (Cleans c.jwts.1) (cleanupDb c) := by
  refine (cleanStatement_cleans _ fun a => ?_).bind fun _ =>
    (cleanStatement_cleans _ fun a => ?_).bind fun _ => cleanStatement_cleans _ fun a => ?_
  · exact ⟨rfl, fun _ => .inl, fun _ => id⟩
  · refine ⟨rfl, fun row hrow => ?_, fun row hrow => List.mem_of_mem_filter hrow⟩
    by_cases hexp : row.expiryDate < c.jwts.1
    · exact .inr hexp
    · exact .inl (List.mem_filter.mpr ⟨hrow, by simp [hexp]⟩)
  · exact ⟨rfl, fun _ => .inl, fun _ => id⟩

theorem AuthInv.cleaned {c : Cleaning} (h : AuthInv lib p) :
    AuthInv lib { p with shared := { p.shared with
      app := (cleanupDb c p.shared.app).2
      cleaned := max p.shared.cleaned c.jwts.1 } } := by
  have hc := cleanupDb_cleans c p.shared.app
  have he : p.shared.Evolves { p.shared with
      app := (cleanupDb c p.shared.app).2
      cleaned := max p.shared.cleaned c.jwts.1 } := by
    refine ⟨le_max_left _ _, fun row hrow => ?_⟩
    rcases hc.kept row hrow with hrow | hexp
    · exact .inr ⟨row, hrow, rfl, rfl, rfl, id⟩
    · exact .inl (hexp.trans_le (le_max_right _ _))
  have hmemory : ∀ hash ∈ p.shared.memory, hash ∈ (cleanupDb c p.shared.app).2.jwtBlacklist :=
    fun hash hh => hc.memory ▸ hh
  refine ⟨fun row hrow hmark => ?_, fun r hr => (h.registered r hr).evolves he,
    fun t ht => (h.threads t ht).evolves he hmemory,
    withdrawn_evolves (s := p.shared) h.withdrawn he hmemory⟩
  exact (h.marked row (hc.old row hrow) hmark).imp (hmemory _) id

theorem AuthInv.start {t : AuthThread S} (h : AuthInv lib p) (ht : t.call.Begins) :
    AuthInv lib { p with threads := t :: p.threads } := by
  refine ⟨fun row hrow hmark => ?_, h.registered, fun u hu => ?_, h.withdrawn⟩
  · refine (h.marked row hrow hmark).imp id ?_
    rintro ⟨u, hu, hselected⟩
    exact ⟨u, List.mem_cons_of_mem _ hu, hselected⟩
  · rcases List.mem_cons.mp hu with rfl | hu
    · refine AuthThread.asserts_of_ne fun selected hcall => ?_
      rw [hcall] at ht
      exact ht
    · exact h.threads u hu

variable [External] (lib) (setup : S.ServerSetup)

def authStep (p : Pool AuthShared (AuthThread S)) :
    AuthMove S → Unit × Pool AuthShared (AuthThread S)
  | .requests m => Pool.move (AuthThread.advance lib setup) p m
  | .restart =>
    ((), ⟨.started p.shared.app.world p.shared.cleaned p.shared.registered p.shared.withdrawn, []⟩)
  | .clean c =>
    ((), { p with shared := { p.shared with
      app := (cleanupDb c p.shared.app).2
      cleaned := max p.shared.cleaned c.jwts.1 } })

theorem AuthInv.authStep {m : AuthMove S} (h : AuthInv lib p) (hstarts : StartsAfresh m)
    (hok : UpdatesRemembered p m) : AuthInv lib (authStep lib setup p m).2 := by
  cases m with
  | requests m =>
    cases m with
    | start t => exact h.start hstarts.1
    | advance k i =>
      change AuthInv lib (Pool.move (AuthThread.advance lib setup) p (.advance k i)).2
      rcases Pool.move_advance (AuthThread.advance lib setup) p k i with
        heq | ⟨l₁, t, l₂, hk, hsplit, heq⟩
      · rw [heq]
        exact h
      · have hat : AuthInv lib ⟨p.shared, l₁ ++ t :: l₂⟩ := hsplit ▸ h
        rw [heq]
        exact (AuthThread.advance_outcome lib setup i t p.shared).inv (hok t hk) hat
  | restart =>
    have he : p.shared.Evolves (.started p.shared.app.world p.shared.cleaned p.shared.registered
      p.shared.withdrawn) := .of_rows rfl fun _ => id
    exact .started (fun r hr => (h.registered r hr).evolves he)
      fun token htoken => (h.withdrawn token htoken).1.evolves he
  | clean c => exact h.cleaned

/-- The interleavings of any requests from a start of the server, with restarts and the cleaner and
with a condition on the moves. -/
abbrev AuthInterleaving (ok : Pool AuthShared (AuthThread S) → AuthMove S → Prop) (init : AuthShared) :
    List (Lib.Event (Pool AuthShared (AuthThread S)) (AuthMove S) Unit) →
      Pool AuthShared (AuthThread S) → Prop :=
  Lib.Run (authStep lib setup) (fun _ p m => StartsAfresh m ∧ ok p m) ⟨init, []⟩

/-- In every interleaving in which each update marks only JWTs that are selected or in the set: the
JWTs that a logout which has answered found registered at its update are rejected, and while no logout
is in flight every JWT that is marked in the database is in the set. Signing may round the date of
expiry down, since it is written in whole seconds. -/
theorem logouts_hold (hsign : ∀ claims read algorithm,
      lib.verify (lib.sign claims) = some (read, algorithm) → read.exp ≤ claims.exp)
    {w : World} {cleaned : DateTime} {registered : List (UserId × SignedToken)}
    (hregistered : ∀ r ∈ registered, (AuthShared.started w cleaned registered []).Stored lib r.1 r.2)
    {history} (run : AuthInterleaving lib setup UpdatesRemembered (.started w cleaned registered [])
      history p) :
    (∀ token ∈ p.shared.withdrawn, ∀ now, p.shared.cleaned ≤ now →
      ∃ e, checkIfTokenIsValid lib now token.text p.shared.app = .error e) ∧
    ((∀ t ∈ p.threads, t.call.isLogout = false) →
      ∀ row ∈ p.shared.rows, row.blacklisted = true → row.jwtHash ∈ p.shared.memory) := by
  have hinv : AuthInv lib p :=
    run.invariant (P := fun _ p => AuthInv lib p) (.started hregistered nofun)
      fun _ _ _ h hok => h.authStep lib setup hok.1 hok.2
  refine ⟨fun token htoken now hnow => ?_, fun hnone row hrow hmark => ?_⟩
  · obtain ⟨hmarked, hseen⟩ := hinv.withdrawn token htoken
    unfold checkIfTokenIsValid
    cases hverify : lib.verify token.text with
    | none => exact ⟨_, rfl⟩
    | some found =>
      have hread : found.1.exp ≤ token.claims.exp := hsign _ _ _ (hmarked.signed ▸ hverify)
      dsimp only
      split
      · exact ⟨_, rfl⟩
      · split
        · exact ⟨_, rfl⟩
        · rename_i hnot _
          have hmem := hseen.resolve_left fun hexp =>
            hnot (hread.trans_lt (lt_of_lt_of_le hexp hnow))
          rw [if_pos (List.contains_iff_mem.mpr hmem)]
          exact ⟨_, rfl⟩
  · rcases hinv.marked row hrow hmark with hmem | ⟨t, ht, selected, hcall, -⟩
    · exact hmem
    · have hlogout := hnone t ht
      rw [hcall] at hlogout
      cases hlogout

end Runs

/-! ## A JWT that outlives a logout -/

section Samples

open Plain

/-- Tokens that are not signed: the text of a JWT is its id, and every JWT reads as one of `bob` that
expires after the first day, unless it expires before. -/
def bobsTokens : TokenLib where
  defaultHash text := text.length
  sign claims := if days 1 ≤ claims.exp then claims.jti else ""
  verify text := if text = "" then none else some (⟨days 1, 0, text, "bob", []⟩, .hs512)

theorem bobsTokens_expiry (claims read : JwtClaims) (algorithm : AlgorithmType)
    (h : bobsTokens.verify (bobsTokens.sign claims) = some (read, algorithm)) :
    read.exp ≤ claims.exp := by
  simp only [bobsTokens] at h
  split at h
  · split at h
    · cases h
    · cases h
      assumption
  · simp at h

def bobLoggedIn : World :=
  world { Store.empty with
    users := ⟨[userRow "bob"], by decide⟩
    jwtRefreshStorage := ⟨[⟨6, UserId.new "bob", days 30⟩], by decide⟩ }

abbrev BobsMove := AuthMove Opaque.plainSuite

def bobRefreshes : BobsMove := .requests (.start ⟨.refresh ⟨some "secret+bob", none⟩, []⟩)

def bobLogsOut : BobsMove := .requests (.start ⟨.logout ⟨some "secret+bob", none⟩, []⟩)

/-- The next piece of the request at `k`, which draws `a` if it issues a JWT. -/
def authAt (k : Nat) : BobsMove := .requests (.advance k ⟨outside, (), ⟨"a", "", none⟩⟩)

def afterMoves (moves : List BobsMove) : Pool AuthShared (AuthThread Opaque.plainSuite) :=
  moves.foldl (fun p m => (authStep bobsTokens () p m).2) ⟨.started bobLoggedIn 0 [] [], []⟩

/-- The moves begin a request, and each update among them finds nothing new. -/
def authChecked (p : Pool AuthShared (AuthThread Opaque.plainSuite)) : BobsMove → Bool
  | .requests (.start ⟨.refresh _, []⟩) | .requests (.start ⟨.logout _, []⟩) => true
  | .requests (.start _) => false
  | .requests (.advance k _) =>
    match p.threads[k]? with
    | some ⟨.updateJwts user selected, _⟩ => p.shared.rows.all fun row =>
        row.userId ≠ user || selected.contains row.jwtHash || p.shared.memory.contains row.jwtHash
    | _ => true
  | .restart | .clean _ => true

theorem startsAfresh_of_checked {p : Pool AuthShared (AuthThread Opaque.plainSuite)} {m : BobsMove}
    (h : authChecked p m = true) : StartsAfresh m := by
  unfold authChecked at h
  split at h
  · exact ⟨trivial, rfl⟩
  · exact ⟨trivial, rfl⟩
  · cases h
  · trivial
  · trivial
  · trivial

theorem updatesRemembered_of_checked {p : Pool AuthShared (AuthThread Opaque.plainSuite)}
    {m : BobsMove} (h : authChecked p m = true) : UpdatesRemembered p m := by
  match m with
  | .requests (.start _) => trivial
  | .restart => trivial
  | .clean _ => trivial
  | .requests (.advance k i) =>
    rintro ⟨c, before⟩ ht user selected rfl row hrow huser
    simp only [authChecked, ht, List.all_eq_true] at h
    simpa [huser] using h row hrow

def refreshThenLogout : List BobsMove :=
  [bobRefreshes, authAt 0, authAt 0, authAt 0, bobLogsOut, authAt 0, authAt 0, authAt 0, authAt 0,
    .restart]

def jwtOfBob : SignedToken := ⟨⟨1 + days 1, 1, "a", "bob", []⟩, "a"⟩

/-- The JWT of the refresh is withdrawn. -/
theorem logouts_hold_bob :
    let p := afterMoves refreshThenLogout
    p.shared.withdrawn = [jwtOfBob] ∧ p.shared.cleaned = 0 ∧
      ∃ e, checkIfTokenIsValid bobsTokens 2 "a" p.shared.app = .error e := by
  have hwithdrawn : (afterMoves refreshThenLogout).shared.withdrawn = [jwtOfBob] := by decide +kernel
  refine ⟨hwithdrawn, by decide +kernel, ?_⟩
  have hnone : AuthInterleaving bobsTokens () UpdatesRemembered (.started bobLoggedIn 0 [] []) []
    (⟨_, []⟩ : Pool AuthShared (AuthThread Opaque.plainSuite)) := .nil
  obtain ⟨history, hrun⟩ := hnone.extend_checked (fun _ _ _ h =>
    ⟨startsAfresh_of_checked h, updatesRemembered_of_checked h⟩) (l := refreshThenLogout)
      (by decide +kernel)
  refine (logouts_hold bobsTokens () bobsTokens_expiry (fun _ hr => (List.not_mem_nil hr).elim)
    hrun).1 jwtOfBob ?_ 2 (by decide +kernel)
  exact hwithdrawn ▸ List.mem_singleton_self _

/-- The refresh checks its token before the logout deletes it, and registers its JWT after the logout
has selected the JWTs and before it marks them. -/
def logoutDuringRefresh : List BobsMove :=
  [bobRefreshes, authAt 0, bobLogsOut, authAt 0, authAt 0, authAt 1, authAt 1, authAt 0, authAt 0]

/-- Then the logout has answered and the JWT that was registered before its update is accepted: it is
marked in the database and not in the set. -/
theorem jwt_outlives_logout :
    let p := afterMoves logoutDuringRefresh
    (∃ history, AuthInterleaving bobsTokens () (fun _ _ => True) (.started bobLoggedIn 0 [] [])
      history p) ∧
    p.threads.length = 0 ∧ p.shared.withdrawn = [jwtOfBob] ∧
      (checkIfTokenIsValid bobsTokens 2 "a" p.shared.app).isOk = true ∧
      p.shared.rows = [⟨1, UserId.new "bob", 1 + days 1, true⟩] ∧ p.shared.memory = [] := by
  refine ⟨Lib.Run.nil.extend _ fun m hm _ _ => ⟨?_, trivial⟩, by decide +kernel, by decide +kernel,
    by decide +kernel, by decide +kernel, by decide +kernel⟩
  have hmoves : m = bobRefreshes ∨ m = bobLogsOut ∨ ∃ k i, m = .requests (.advance k i) := by
    revert m
    simp [logoutDuringRefresh, authAt]
  rcases hmoves with rfl | rfl | ⟨k, i, rfl⟩
  · exact ⟨trivial, rfl⟩
  · exact ⟨trivial, rfl⟩
  · trivial

end Samples

end Http
end Klldap
