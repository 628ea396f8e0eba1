import Klldap.Http.Disabled
import Klldap.Http.Logout

/-!
# Klldap.Http.Refresh: which refresh tokens are traded for a JWT

A login stores the hash of a new refresh token with a date of expiry. A refresh asks whether the hash
of the presented token is stored for the user; only the hourly cleaner looks at the date.
-/

namespace Klldap
namespace Http

open Lib (Eff Event Run eventAt)
open Lib.Eff (Frames Keeps)
open Lib.Text (splitOnce)
open Opaque (Suite)

/-! ## The cleaner -/

/-- When each statement of the cleaner runs, and its error. -/
structure Cleaning where
  refreshTokens : DateTime × Option DomainError
  jwts : DateTime × Option DomainError
  resetTokens : DateTime × Option DomainError

def cleanStatement (failure : Option DomainError) (delete : Store → Store) : App Unit := do
  let _ ← Eff.attempt (Eff.orFails failure (onWorld (onDb (Eff.writes delete))))
  pure ()

def cleanupDb (c : Cleaning) : App Unit := do
  cleanStatement c.refreshTokens.2 fun db =>
    { db with
      jwtRefreshStorage := db.jwtRefreshStorage.delete fun r => r.expiryDate < c.refreshTokens.1 }
  cleanStatement c.jwts.2 fun db =>
    { db with jwtStorage := db.jwtStorage.delete fun r => r.expiryDate < c.jwts.1 }
  cleanStatement c.resetTokens.2 fun db =>
    { db with
      passwordResetTokens := db.passwordResetTokens.delete fun r => r.expiryDate < c.resetTokens.1 }

/-! ## Runs -/

/-- A request, the cleaner, or what the rest of the server makes of the world. -/
inductive TokenInput (S : Suite) where
  | request (i : Input S)
  | clean (c : Cleaning)
  | elsewhere (w : World)

abbrev TokenEvent (S : Suite) :=
  Event AppState (TokenInput S) (Option (Except TcpError (Response S)))

section Runs

variable [External] {S : Suite} (lib : TokenLib) (setup : S.ServerSetup)

def tokenStep (a : AppState) :
    TokenInput S → Option (Except TcpError (Response S)) × AppState
  | .request i => (some (serve lib setup i a).1, (serve lib setup i a).2)
  | .clean c => (none, (cleanupDb c a).2)
  | .elsewhere w => (none, { a with world := w })

def presented (carrier : TokenCarrier) : Option (String × UserId) :=
  let text := match carrier.cookie, carrier.header with
    | some c, _ => some c
    | none, some (some t) => some t
    | none, _ => none
  (text.bind (splitOnce '+')).map fun p => (p.1, UserId.new p.2)

/-- The request is a login, and it lets `u` in. -/
def Authenticates (i : Input S) (a : AppState) (u : UserId) : Prop :=
  let h := sqlServices S setup i.rng i.out
  match i.call with
  | .opaqueLoginFinish request => (call (h.loginFinish request) a).1 = .ok u
  | .simpleLogin username password => username = u ∧ (call (h.bind username password) a).1 = .ok ()
  | _ => False

/-- At `now`, a login lets `u` in and draws the refresh token `t`. -/
def Issues (e : TokenEvent S) (t : String) (u : UserId) (now : DateTime) : Prop :=
  ∃ i, e.input = .request i ∧ Authenticates setup i e.pre u ∧ i.draws.randomString = t ∧
    i.out.now = now

/-- A logout that carries a token with this hash. -/
def LogsOutHash (e : TokenEvent S) (hash : Int) : Prop :=
  ∃ i carrier u, e.input = .request i ∧ i.call = .logout carrier ∧
    getRefreshToken lib carrier = .ok (hash, u)

/-- A logout that carries the token `t`. -/
def LogsOut (e : TokenEvent S) (t : String) : Prop :=
  ∃ i carrier u, e.input = .request i ∧ i.call = .logout carrier ∧ presented carrier = some (t, u)

omit [External] in
theorem getRefreshToken_ok {carrier : TokenCarrier} {hash : Int} {u : UserId} :
    getRefreshToken lib carrier = .ok (hash, u) ↔
      ∃ t, presented carrier = some (t, u) ∧ lib.defaultHash t = hash := by
  have hparse (text : String) : parseRefreshToken lib text = .ok (hash, u) ↔
      ∃ t, (splitOnce '+' text).map (fun p => (p.1, UserId.new p.2)) = some (t, u) ∧
        lib.defaultHash t = hash := by
    unfold parseRefreshToken
    cases splitOnce '+' text with
    | none => simp
    | some p => simp [and_comm]
  unfold getRefreshToken presented
  cases carrier.cookie with
  | some c => exact hparse c
  | none =>
    cases carrier.header with
    | none => simp
    | some header =>
      cases header with
      | none => simp
      | some text => exact hparse text

/-! ## What is stored -/

/-- Every stored refresh token was there or is one of `P`. -/
def RowsFrom (P : JwtRefreshStorageRow → Prop) (db db' : Store) : Prop :=
  ∀ row ∈ db'.jwtRefreshStorage.rows, row ∈ db.jwtRefreshStorage.rows ∨ P row

instance (P : JwtRefreshStorageRow → Prop) : Std.Refl (RowsFrom P) := ⟨fun _ _ h => .inl h⟩

instance (P : JwtRefreshStorageRow → Prop) : IsTrans Store (RowsFrom P) where
  trans _ _ _ h h' row hrow := by
    rcases h' row hrow with hrow | hP
    · exact h row hrow
    · exact .inr hP

omit [External] in
theorem RowsFrom.of_eq {P : JwtRefreshStorageRow → Prop} {db db' : Store}
    (h : db'.jwtRefreshStorage = db.jwtRefreshStorage) : RowsFrom P db db' :=
  fun _ hrow => .inl (h ▸ hrow)

omit [External] in
theorem rowsFrom_ignoresTokens (P : JwtRefreshStorageRow → Prop) : IgnoresTokens (RowsFrom P) :=
  ⟨fun _ _ => .of_eq rfl, fun _ _ => .of_eq rfl⟩

def newRow (i : Input S) (u : UserId) : JwtRefreshStorageRow :=
  ⟨lib.defaultHash i.draws.randomString, u, i.out.now + days 30⟩

theorem login_rowsFrom (i : Input S) (u : UserId) :
    Frames (OfDb (RowsFrom (· = newRow lib i u)))
      (getLoginSuccessfulResponse lib (sqlServices S setup i.rng i.out) i.out.now i.draws u) := by
  refine getLoginSuccessfulResponse_frames (rowsFrom_ignoresTokens _) i.rng i.out i.draws
    (createRefreshToken_frames fun db t ht row hrow => ?_)
  rw [Lib.Table.rows_insert? ht, List.mem_append, List.mem_singleton] at hrow
  exact hrow

theorem membership_rowsFrom (now : DateTime) (u : UserId) (g : GroupId) :
    Frames (RowsFrom fun _ => False) (Sql.addUserToGroup now u g) ∧
      Frames (RowsFrom fun _ => False) (Sql.removeUserFromGroup now u g) := by
  have htouch : Frames (RowsFrom fun _ => False) (Sql.touchGroup now g) :=
    Frames.reads_option (Keeps.fail _).frames fun _ => Frames.writes fun _ => .of_eq rfl
  have hinsert : Frames (RowsFrom fun _ => False) (Sql.insertMembership u g) := by
    refine (Keeps.reads _).frames.bind fun db => ?_
    split
    · exact Frames.writes fun _ => .of_eq rfl
    · exact (Keeps.fail _).frames
  constructor
  · refine (Keeps.query _).frames.bind fun _ => (Keeps.query _).frames.bind fun _ => ?_
    exact Frames.ite (Keeps.fail _).frames (Frames.transaction (hinsert.bind fun _ => htouch))
  · refine Frames.transaction ((Keeps.reads _).frames.bind fun db => ?_)
    refine Frames.ite (Keeps.fail _).frames (Frames.ite (Keeps.fail _).frames ?_)
    exact (Frames.writes fun _ => .of_eq rfl).bind fun _ => htouch

theorem login_rows (i : Input S) {β : Type} {m : App β} {f : β → UserId} {a : AppState}
    (hm : Keeps m) (hauth : ∀ b, (m a).1 = .ok b → Authenticates setup i a (f b))
    {row : JwtRefreshStorageRow} (hcall : ∀ carrier, i.call ≠ .logout carrier)
    (hrow : row ∈ ((m >>= fun b => getLoginSuccessfulResponse lib (sqlServices S setup i.rng i.out)
      i.out.now i.draws (f b)) a).2.world.db.jwtRefreshStorage.rows) :
    (row ∈ a.world.db.jwtRefreshStorage.rows ∧ ∀ carrier hash u, i.call = .logout carrier →
      getRefreshToken lib carrier = .ok (hash, u) → row.refreshTokenHash ≠ hash) ∨
    ∃ u, Authenticates setup i a u ∧ row = newRow lib i u := by
  have hnot : ∀ carrier hash u, i.call = .logout carrier →
      getRefreshToken lib carrier = .ok (hash, u) → row.refreshTokenHash ≠ hash :=
    fun carrier _ _ h => absurd h (hcall carrier)
  rw [Eff.bind_run] at hrow
  have hsame := hm a
  cases hrun : m a with
  | mk r a' =>
    rw [hrun] at hrow hsame
    subst hsame
    cases r with
    | error e => exact .inl ⟨hrow, hnot⟩
    | ok b =>
      rcases login_rowsFrom lib setup i (f b) _ row hrow with hrow | hnew
      · exact .inl ⟨hrow, hnot⟩
      · exact .inr ⟨f b, hauth b (by rw [hrun]), hnew⟩

theorem serve_refreshRows (i : Input S) (a : AppState) :
    ∀ row ∈ (serve lib setup i a).2.world.db.jwtRefreshStorage.rows,
      (row ∈ a.world.db.jwtRefreshStorage.rows ∧ ∀ carrier hash u, i.call = .logout carrier →
        getRefreshToken lib carrier = .ok (hash, u) → row.refreshTokenHash ≠ hash) ∨
      ∃ u, Authenticates setup i a u ∧ row = newRow lib i u := by
  have hkept (hlogout : ∀ carrier, i.call ≠ .logout carrier)
      (h : Frames (OfDb (RowsFrom fun _ => False)) (serve lib setup i)) :
      ∀ row ∈ (serve lib setup i a).2.world.db.jwtRefreshStorage.rows,
        (row ∈ a.world.db.jwtRefreshStorage.rows ∧ ∀ carrier hash u, i.call = .logout carrier →
          getRefreshToken lib carrier = .ok (hash, u) → row.refreshTokenHash ≠ hash) ∨
        ∃ u, Authenticates setup i a u ∧ row = newRow lib i u := by
    intro row hrow
    rcases h a row hrow with hrow | hfalse
    · exact .inl ⟨hrow, fun carrier _ _ hcall => absurd hcall (hlogout carrier)⟩
    · exact hfalse.elim
  have hignores := rowsFrom_ignoresTokens fun _ => False
  obtain ⟨out, rng, draws, request⟩ := i
  cases request with
  | opaqueLoginStart request =>
    exact hkept nofun ((call_query_frames _).bind fun _ => (Keeps.pure _).frames)
  | refresh carrier => exact hkept nofun (getRefresh_frames hignores _ _ _ carrier)
  | resetStep1 userString =>
    exact hkept nofun (getPasswordResetStep1_frames hignores _ _ _ userString)
  | resetStep2 token => exact hkept nofun (getPasswordResetStep2_frames hignores _ _ token)
  | registerStart bearer request =>
    exact hkept nofun (opaqueRegisterStart_frames _ _ bearer request)
  | registerFinish request =>
    refine hkept nofun ((call_frames ?_).bind fun _ => (Keeps.pure _).frames)
    exact (Keeps.lift _).frames.bind fun u => Frames.reads_option (Keeps.fail _).frames fun _ =>
      Frames.writes fun _ => .of_eq rfl
  | addUserToGroup user group =>
    exact hkept nofun ((call_frames (membership_rowsFrom _ _ _).1).bind fun _ =>
      (Keeps.pure _).frames)
  | removeUserFromGroup user group =>
    exact hkept nofun ((call_frames (membership_rowsFrom _ _ _).2).bind fun _ =>
      (Keeps.pure _).frames)
  | logout carrier =>
    intro row hrow
    change row ∈ ((getLogout lib carrier : App (Response S)) a).2.world.db.jwtRefreshStorage.rows
      at hrow
    left
    cases htoken : getRefreshToken lib carrier with
    | error e =>
      rw [getLogout_of_error htoken] at hrow
      refine ⟨hrow, ?_⟩
      rintro _ _ _ ⟨⟩ hok
      exact nomatch htoken.symm.trans hok
    | ok parsed =>
      obtain ⟨hash, u⟩ := parsed
      rw [getLogout_of_token htoken] at hrow
      obtain ⟨hrow, hne⟩ := List.mem_filter.mp hrow
      refine ⟨hrow, ?_⟩
      rintro _ _ _ ⟨⟩ hok
      cases Except.ok.inj (htoken.symm.trans hok)
      simpa using hne
  | opaqueLoginFinish request =>
    intro row hrow
    exact login_rows lib setup (⟨out, rng, draws, .opaqueLoginFinish request⟩ : Input S)
      (m := call ((sqlServices S setup rng out).loginFinish request)) (f := id) (fun _ => rfl)
      (fun _ hok => hok) nofun hrow
  | simpleLogin username password =>
    intro row hrow
    exact login_rows lib setup (⟨out, rng, draws, .simpleLogin username password⟩ : Input S)
      (m := call ((sqlServices S setup rng out).bind username password)) (f := fun _ => username)
      (fun _ => rfl) (fun _ hok => ⟨rfl, hok⟩) nofun hrow

omit [External] in
theorem cleanStatement_frames {R : Store → Store → Prop} [Std.Refl R] [IsTrans Store R]
    {failure : Option DomainError} {delete : Store → Store} (hR : ∀ db, R db (delete db)) :
    Frames (OfDb R) (cleanStatement failure delete) := by
  refine Frames.bind (Frames.attempt ?_) fun _ => (Keeps.pure _).frames
  unfold Eff.orFails
  split
  · exact onWorld_onDb_frames (Frames.writes hR)
  · exact (Keeps.fail _).frames

omit [External] in
theorem cleanupDb_rowsFrom (c : Cleaning) :
    Frames (OfDb (RowsFrom fun _ => False)) (cleanupDb c) :=
  (cleanStatement_frames fun _ _ hrow => .inl (List.mem_of_mem_filter hrow)).bind fun _ =>
    (cleanStatement_frames fun _ => .of_eq rfl).bind fun _ =>
      cleanStatement_frames fun _ => .of_eq rfl

/-- The row goes back to a login, and no logout has carried its hash since. -/
def Accounted (h : List (TokenEvent S)) (row : JwtRefreshStorageRow) : Prop :=
  ∃ h₁ e h₂ t now, h = h₁ ++ e :: h₂ ∧ Issues setup e t row.userId now ∧
    lib.defaultHash t = row.refreshTokenHash ∧ row.expiryDate = now + days 30 ∧
    ∀ e' ∈ h₂, ¬ LogsOutHash lib e' row.refreshTokenHash

theorem Accounted.snoc {h : List (TokenEvent S)} {row : JwtRefreshStorageRow}
    (hrow : Accounted lib setup h row) {e : TokenEvent S}
    (he : ¬ LogsOutHash lib e row.refreshTokenHash) : Accounted lib setup (h ++ [e]) row := by
  obtain ⟨h₁, e₀, h₂, t, now, rfl, hissues, hhash, hexpiry, hnot⟩ := hrow
  refine ⟨h₁, e₀, h₂ ++ [e], t, now, by simp, hissues, hhash, hexpiry, fun e' he' => ?_⟩
  rcases List.mem_append.mp he' with he' | he'
  · exact hnot e' he'
  · rw [List.mem_singleton.mp he']
    exact he

/-- What the rest of the server does adds no refresh tokens. -/
def AddsNoTokens (a : AppState) (i : TokenInput S) : Prop :=
  ∀ w, i = .elsewhere w → RowsFrom (fun _ => False) a.world.db w.db

theorem tokenStep_accounted {h : List (TokenEvent S)} {a : AppState} {i : TokenInput S}
    (hall : ∀ row ∈ a.world.db.jwtRefreshStorage.rows, Accounted lib setup h row)
    (hok : AddsNoTokens a i) :
    ∀ row ∈ (tokenStep lib setup a i).2.world.db.jwtRefreshStorage.rows,
      Accounted lib setup (h ++ [eventAt (tokenStep lib setup) a i]) row := by
  intro row hrow
  cases i with
  | request i =>
    rcases serve_refreshRows lib setup i a row hrow with ⟨hold, hlogout⟩ | ⟨u, hauth, rfl⟩
    · refine (hall row hold).snoc lib setup ?_
      rintro ⟨_, carrier, u, ⟨⟩, hcall, htoken⟩
      exact hlogout carrier _ u hcall htoken rfl
    · refine ⟨h, _, [], i.draws.randomString, i.out.now, rfl, ⟨i, rfl, hauth, rfl, rfl⟩, rfl, rfl,
        fun _ he => (List.not_mem_nil he).elim⟩
  | clean c =>
    refine (hall row ?_).snoc lib setup (by rintro ⟨_, _, _, ⟨⟩, _⟩)
    exact (cleanupDb_rowsFrom c a row hrow).resolve_right id
  | elsewhere w =>
    refine (hall row ?_).snoc lib setup (by rintro ⟨_, _, _, ⟨⟩, _⟩)
    exact (hok w rfl row hrow).resolve_right id

/-- At `now`, the token `t` is one that a login issued to `u`, that has not been logged out and has
not expired. -/
def Justified (h : List (TokenEvent S)) (now : DateTime) (t : String) (u : UserId) : Prop :=
  ∃ h₁ e h₂ issuedAt, h = h₁ ++ e :: h₂ ∧ Issues setup e t u issuedAt ∧ now ≤ issuedAt + days 30 ∧
    ∀ e' ∈ h₂, ¬ LogsOut e' t

/-- The hash of the token that a refresh carries is that of no other issued token, and the row that
is stored under it for the user has not expired. -/
def FindsItsToken (h : List (TokenEvent S)) (a : AppState) (i : TokenInput S) : Prop :=
  ∀ request carrier t u, i = .request request → request.call = .refresh carrier →
    presented carrier = some (t, u) →
      (∀ e ∈ h, ∀ t' u' now, Issues setup e t' u' now → lib.defaultHash t' = lib.defaultHash t →
        t' = t) ∧
      ∀ row, a.world.db.jwtRefreshStorage.find? (lib.defaultHash t) = some row → row.userId = u →
        request.out.now ≤ row.expiryDate

/-- In every run in which refreshes find their tokens, a refresh issues a JWT only for a token that a
login issued to the user, that has not been logged out and has not expired. -/
theorem refresh_justified {init : AppState} (hinit : init.world.db.jwtRefreshStorage.rows = [])
    {h : List (TokenEvent S)} {a : AppState}
    (run : Run (tokenStep lib setup)
      (fun h a i => AddsNoTokens a i ∧ FindsItsToken lib setup h a i) init h a)
    {h₁ h₂ : List (TokenEvent S)} {e : TokenEvent S} (hh : h = h₁ ++ e :: h₂) {i : Input S}
    {carrier : TokenCarrier} (hinput : e.input = .request i) (hcall : i.call = .refresh carrier)
    {r : Response S} (hr : e.output = some (.ok r)) {u : UserId} (hu : r.jwtUser = some u) :
    ∃ t, presented carrier = some (t, u) ∧ Justified setup h₁ i.out.now t u := by
  obtain ⟨run, ⟨-, hfinds⟩, heq⟩ := run.event hh
  have hall : ∀ row ∈ e.pre.world.db.jwtRefreshStorage.rows, Accounted lib setup h₁ row :=
    run.invariant (P := fun h a => ∀ row ∈ a.world.db.jwtRefreshStorage.rows,
      Accounted lib setup h row) (by rw [hinit]; nofun)
      fun _ _ _ hall hok => tokenStep_accounted lib setup hall hok.1
  have hserve : (serve lib setup i e.pre).1 = .ok r := by
    rw [heq, hinput] at hr
    exact Option.some.inj hr
  have hrefresh : getRefresh lib (sqlServices S setup i.rng i.out) i.out.now i.draws carrier e.pre =
      (.ok r, (serve lib setup i e.pre).2) := by
    rw [← hserve]
    unfold serve
    rw [hcall]
  obtain ⟨hash, htoken, hcheck⟩ := getRefresh_jwtUser hrefresh hu
  obtain ⟨t, hpresented, rfl⟩ := (getRefreshToken_ok lib).mp htoken
  refine ⟨t, hpresented, ?_⟩
  obtain ⟨hunique, hexpiry⟩ := hfinds i carrier t u hinput hcall hpresented
  obtain ⟨row, hrow, huser⟩ : ∃ row,
      e.pre.world.db.jwtRefreshStorage.find? (lib.defaultHash t) = some row ∧ row.userId = u := by
    unfold checkToken at hcheck
    cases hrow : e.pre.world.db.jwtRefreshStorage.find? (lib.defaultHash t) with
    | none =>
      rw [hrow] at hcheck
      cases hcheck
    | some row =>
      rw [hrow] at hcheck
      exact ⟨row, rfl, of_decide_eq_true hcheck⟩
  obtain ⟨g₁, e₀, g₂, t', issuedAt, rfl, hissues, hhash, hdate, hnot⟩ :=
    hall row (Lib.Table.mem_of_find? hrow)
  have hkey : row.refreshTokenHash = lib.defaultHash t := Lib.Table.key_of_find? hrow
  rw [huser] at hissues
  rw [hkey] at hhash hnot
  obtain rfl : t' = t := hunique e₀ (by simp) t' u issuedAt hissues hhash
  refine ⟨g₁, e₀, g₂, issuedAt, rfl, hissues, hdate ▸ hexpiry row hrow huser, fun e' he' => ?_⟩
  rintro ⟨i', carrier', u', hinput', hcall', hpresented'⟩
  exact hnot e' he' ⟨i', carrier', u', hinput', hcall',
    (getRefreshToken_ok lib).mpr ⟨_, hpresented', rfl⟩⟩

end Runs

/-! ## A token that has expired -/

section Samples

open Plain

def refreshAt (now : DateTime) : Input Opaque.plainSuite :=
  { refreshOfBob with out := { outside with now := now } }

def loginThenRefresh (now : DateTime) : List (TokenEvent Opaque.plainSuite) :=
  [eventAt (tokenStep plainTokens ()) bobState (.request loginOfBob),
    eventAt (tokenStep plainTokens ()) (tokenStep plainTokens () bobState (.request loginOfBob)).2
      (.request (refreshAt now))]

theorem issues_login {e : TokenEvent Opaque.plainSuite} {t : String} {u : UserId} {now : DateTime}
    (he : e.input = .request loginOfBob) (h : Issues () e t u now) : t = "secret" ∧ now = 1 := by
  obtain ⟨i, hi, -, rfl, rfl⟩ := h
  cases hi.symm.trans he
  exact ⟨rfl, rfl⟩

theorem findsItsToken_refreshAt {now : DateTime} (hnow : now ≤ 1 + days 30) :
    FindsItsToken plainTokens () [eventAt (tokenStep plainTokens ()) bobState (.request loginOfBob)]
      (tokenStep plainTokens () bobState (.request loginOfBob)).2 (.request (refreshAt now)) := by
  rintro _ _ t u ⟨⟩ ⟨⟩ hpresented
  have hsecret : presented ⟨some "secret+bob", none⟩ = some ("secret", UserId.new "bob") := by decide
  cases hsecret.symm.trans hpresented
  refine ⟨fun e he t' u' now' hissues _ => ?_, fun row hrow _ => ?_⟩
  · rw [List.mem_singleton.mp he] at hissues
    exact (issues_login rfl hissues).1
  · have hfind : (tokenStep plainTokens () bobState
        (.request loginOfBob)).2.world.db.jwtRefreshStorage.find? (plainTokens.defaultHash "secret") =
        some ⟨6, UserId.new "bob", 1 + days 30⟩ := by decide +kernel
    rw [← Option.some.inj (hfind.symm.trans hrow)]
    exact hnow

/-- A refresh on the day of the login. -/
theorem refresh_justified_bob :
    ∃ a, Run (tokenStep plainTokens ()) (fun h a i => AddsNoTokens a i ∧
        FindsItsToken plainTokens () h a i) bobState (loginThenRefresh 2) a ∧
      Justified () [eventAt (tokenStep plainTokens ()) bobState (.request loginOfBob)] 2 "secret"
        (UserId.new "bob") := by
  have hnone : Run (tokenStep (S := Opaque.plainSuite) plainTokens ()) (fun h a i =>
    AddsNoTokens a i ∧ FindsItsToken plainTokens () h a i) bobState [] bobState := .nil
  have hrun := (hnone.snoc (.request loginOfBob) ⟨nofun, by rintro _ _ _ _ ⟨⟩ ⟨⟩⟩).snoc
    (.request (refreshAt 2)) ⟨nofun, findsItsToken_refreshAt (by decide)⟩
  refine ⟨_, hrun, ?_⟩
  have hbob : ∃ t, presented ⟨some "secret+bob", none⟩ = some (t, UserId.new "bob") ∧ _ :=
    refresh_justified plainTokens () rfl hrun rfl rfl rfl rfl rfl
  obtain ⟨t, hpresented, hjustified⟩ := hbob
  cases hpresented
  exact hjustified

/-- A refresh on the day after the token expired, before the cleaner has run. -/
theorem expired_token_refreshes :
    ∃ a, Run (tokenStep plainTokens ()) (fun _ a i => AddsNoTokens a i) bobState
        (loginThenRefresh (1 + days 31)) a ∧
      (∃ r, ((loginThenRefresh (1 + days 31)).map Event.output)[1]? = some (some (.ok r)) ∧
        r.jwtUser = some (UserId.new "bob")) ∧
      ∀ t, ¬ Justified () [eventAt (tokenStep plainTokens ()) bobState (.request loginOfBob)]
        (1 + days 31) t (UserId.new "bob") := by
  have hnone : Run (tokenStep (S := Opaque.plainSuite) plainTokens ()) (fun _ a i => AddsNoTokens a i)
    bobState [] bobState := .nil
  refine ⟨_, (hnone.snoc (.request loginOfBob) nofun).snoc (.request (refreshAt (1 + days 31))) nofun,
    ⟨_, rfl, rfl⟩, ?_⟩
  rintro t ⟨h₁, e, h₂, issuedAt, hh, hissues, hnow, -⟩
  have he : e = eventAt (tokenStep plainTokens ()) bobState (.request loginOfBob) := by
    have hmem : e ∈ h₁ ++ e :: h₂ := by simp
    rw [← hh] at hmem
    exact List.mem_singleton.mp hmem
  rw [(issues_login (he ▸ rfl) hissues).2] at hnow
  revert hnow
  decide

end Samples

end Http
end Klldap
