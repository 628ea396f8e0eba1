import Klldap.Http.AuthService
import Klldap.Lib.Run

/-!
# Klldap.Http.Service: the authentication service as a state machine

The requests of `auth_service.rs` and the two changes of a membership, one step each, in any order.
A step is given the clock and the random bits it sees.
-/

namespace Klldap
namespace Http

open Lib (Eff Event Run eventAt)
open Lib.Eff (Frames Keeps)
open Opaque (Suite)

/-! ## Requests -/

inductive Call (S : Suite) where
  | opaqueLoginStart (request : Opaque.ClientLoginStartRequest S)
  | opaqueLoginFinish (request : Opaque.ClientLoginFinishRequest S)
  | simpleLogin (username : UserId) (password : String)
  | refresh (carrier : TokenCarrier)
  | logout (carrier : TokenCarrier)
  | resetStep1 (userString : String)
  | resetStep2 (token : String)
  | registerStart (bearer : Option String) (request : Opaque.ClientRegistrationStartRequest S)
  | registerFinish (request : Opaque.ClientRegistrationFinishRequest S)
  | addUserToGroup (user : UserId) (group : GroupId)
  | removeUserFromGroup (user : UserId) (group : GroupId)

/-- A request with the clock and the random bits it sees. -/
structure Input (S : Suite) where
  out : Outside
  rng : S.Coins
  draws : Draws
  call : Call S

section Step

variable [External] {S : Suite} (lib : TokenLib) (setup : S.ServerSetup)

def serve (i : Input S) : App (Response S) :=
  let h := sqlServices S setup i.rng i.out
  let now := i.out.now
  match i.call with
  | .opaqueLoginStart request => opaqueLoginStart h request
  | .opaqueLoginFinish request => opaqueLoginFinish lib h now i.draws request
  | .simpleLogin username password => simpleLogin lib h now i.draws username password
  | .refresh carrier => getRefresh lib h now i.draws carrier
  | .logout carrier => getLogout lib carrier
  | .resetStep1 userString => getPasswordResetStep1 h now i.draws userString
  | .resetStep2 token => getPasswordResetStep2 lib now i.draws token
  | .registerStart bearer request => opaqueRegisterStart lib h now bearer request
  | .registerFinish request => opaqueRegisterFinish h request
  | .addUserToGroup user group => do
    call (h.addUserToGroup user group)
    pure .done
  | .removeUserFromGroup user group => do
    call (h.removeUserFromGroup user group)
    pure .done

def step (a : AppState) (i : Input S) : Except TcpError (Response S) × AppState :=
  serve lib setup i a

end Step

abbrev History (S : Suite) := List (Event AppState (Input S) (Except TcpError (Response S)))

/-- Tokens that are not signed: the text of a JWT is its id, and the hash of a text its length. -/
def plainTokens : TokenLib where
  defaultHash text := text.length
  sign claims := claims.jti
  verify _ := none

/-! ## What the requests change -/

/-- The groups have the same ids and names. -/
def SameNames (db db' : Store) : Prop :=
  db'.groups.rows.map (fun g => (g.groupId, g.displayName)) =
    db.groups.rows.map fun g => (g.groupId, g.displayName)

/-- The groups and the memberships are the same. -/
structure SameMembers (db db' : Store) : Prop where
  groups : db'.groups = db.groups
  memberships : db'.memberships = db.memberships

/-- A relation of databases, between states of the service. -/
abbrev OfDb (R : Store → Store → Prop) : AppState → AppState → Prop :=
  InvImage (InvImage R World.db) AppState.world

instance : Std.Refl SameNames where
  refl _ := rfl

instance : IsTrans Store SameNames where
  trans _ _ _ hab hbc := hbc.trans hab

instance : Std.Refl SameMembers where
  refl _ := ⟨rfl, rfl⟩

instance : IsTrans Store SameMembers where
  trans _ _ _ hab hbc := ⟨hbc.groups.trans hab.groups, hbc.memberships.trans hab.memberships⟩

theorem SameNames.of_groups_eq {db db' : Store} (h : db'.groups = db.groups) :
    SameNames db db' := by
  unfold SameNames
  rw [h]

theorem touchGroup_sameNames (now : DateTime) (g : GroupId) :
    Frames SameNames (Sql.touchGroup now g) := by
  refine Frames.reads_option (Keeps.fail _).frames fun row => ?_
  refine Frames.writes fun db => ?_
  simp only [SameNames, Lib.Table.update, Lib.Table.updateWhere, Lib.Table.mapRows, List.map_map]
  refine List.map_congr_left fun r _ => ?_
  simp only [Function.comp_apply]
  split <;> rfl

theorem addUserToGroup_sameNames [External] (now : DateTime) (u : UserId) (g : GroupId) :
    Frames SameNames (Sql.addUserToGroup now u g) := by
  refine (Keeps.query _).frames.bind fun userGroups => (Keeps.query _).frames.bind fun target => ?_
  refine Frames.ite (Keeps.fail _).frames (Frames.transaction ?_)
  have hinsert : Frames SameNames (Sql.insertMembership u g) := by
    refine (Keeps.reads _).frames.bind fun db => ?_
    split
    · exact Frames.writes fun _ => .of_groups_eq rfl
    · exact (Keeps.fail _).frames
  exact hinsert.bind fun _ => touchGroup_sameNames now g

theorem removeUserFromGroup_sameNames (now : DateTime) (u : UserId) (g : GroupId) :
    Frames SameNames (Sql.removeUserFromGroup now u g) := by
  refine Frames.transaction ((Keeps.reads _).frames.bind fun db => ?_)
  refine Frames.ite (Keeps.fail _).frames (Frames.ite (Keeps.fail _).frames ?_)
  exact (Frames.writes fun _ => .of_groups_eq rfl).bind fun _ => touchGroup_sameNames now g

theorem registrationFinish_sameMembers {S : Suite} (setup : S.ServerSetup) (now : DateTime)
    (request : Opaque.ClientRegistrationFinishRequest S) :
    Frames SameMembers (Opaque.registrationFinish S setup now request) := by
  exact (Keeps.lift _).frames.bind fun u => Frames.reads_option (Keeps.fail _).frames fun _ =>
    Frames.writes fun _ => ⟨rfl, rfl⟩

theorem call_onDb_ok {α : Type} {m : Db α} {a a' : AppState} {x : α}
    (h : call (onDb m) a = (.ok x, a')) : m a.world.db = (.ok x, a'.world.db) := by
  obtain ⟨w, hw, rfl⟩ := Eff.zoom_ok.mp (Eff.mapErr_ok.mp h)
  exact onDb_ok hw

theorem onWorld_onDb_frames {R : Store → Store → Prop} {ε α : Type} {m : Eff Store ε α}
    (h : Frames R m) : Frames (OfDb R) (onWorld (onDb m)) :=
  (h.zoom_part fun _ _ => rfl).zoom_part fun _ _ => rfl

theorem call_frames {R : Store → Store → Prop} {α : Type} {m : Db α} (h : Frames R m) :
    Frames (OfDb R) (call (onDb m)) :=
  (onWorld_onDb_frames h).mapErr

theorem call_query_frames {R : Store → Store → Prop} [Std.Refl R] {α : Type}
    (f : Store → Except DomainError α) : Frames (OfDb R) (call (onDb (Eff.query f))) :=
  call_frames (Keeps.query f).frames

/-- The relation does not look at the token tables. -/
structure IgnoresTokens (R : Store → Store → Prop) : Prop where
  jwts : ∀ db t, R db { db with jwtStorage := t }
  resetTokens : ∀ db t, R db { db with passwordResetTokens := t }

section Frames

variable {R : Store → Store → Prop} [Std.Refl R]

theorem createRefreshToken_frames {lib : TokenLib} {now : DateTime} {token : String} {u : UserId}
    (hR : ∀ db t, db.jwtRefreshStorage.insert? ⟨lib.defaultHash token, u, now + days 30⟩ = some t →
      R db { db with jwtRefreshStorage := t }) :
    Frames R (createRefreshToken lib now token u) := by
  intro db
  unfold createRefreshToken
  rw [Eff.bind_run, Eff.reads_run]
  dsimp only [id]
  cases db.users.find? u with
  | none => exact refl_of R db
  | some row =>
    cases ht : db.jwtRefreshStorage.insert? ⟨lib.defaultHash token, u, now + days 30⟩ with
    | none => exact refl_of R db
    | some t => exact hR db t ht

theorem createJwt_frames (hR : IgnoresTokens R) (lib : TokenLib) (now : DateTime) (draws : Draws)
    (u : UserId) (groups : List GroupDetails) :
    Frames (OfDb R) (createJwt lib now draws u groups) := by
  intro a
  have hissues := createJwt_outcome lib now draws u groups a
  generalize createJwt lib now draws u groups a = r at hissues ⊢
  cases hissues with
  | issued huser htable => exact hR.jwts _ _
  | panicked msg => exact refl_of R a.world.db

variable [IsTrans Store R]

theorem startPasswordReset_frames (hR : IgnoresTokens R) (now : DateTime) (token : String)
    (u : UserId) : Frames R (startPasswordReset now token u) := by
  refine (Keeps.reads _).frames.bind fun db => ?_
  split
  · exact (Keeps.pure _).frames
  · split
    · exact (Keeps.fail _).frames
    · exact (Frames.writes fun _ => hR.resetTokens _ _).bind fun _ => (Keeps.pure _).frames

theorem deletePasswordResetToken_frames (hR : IgnoresTokens R) (token : String) :
    Frames R (deletePasswordResetToken token) :=
  Frames.reads_option (Keeps.fail _).frames fun _ => Frames.writes fun _ => hR.resetTokens _ _

variable [External] {S : Suite} {lib : TokenLib} {setup : S.ServerSetup}

theorem getLoginSuccessfulResponse_frames (hR : IgnoresTokens R) (rng : S.Coins) (out : Outside)
    (draws : Draws) {name : UserId}
    (hrefresh : Frames R (createRefreshToken lib out.now draws.randomString name)) :
    Frames (OfDb R)
      (getLoginSuccessfulResponse lib (sqlServices S setup rng out) out.now draws name) :=
  (call_query_frames _).bind fun _ => (call_frames hrefresh).bind fun _ =>
    (createJwt_frames hR _ _ _ _ _).bind fun _ => (Keeps.pure _).frames

theorem getRefresh_frames (hR : IgnoresTokens R) (rng : S.Coins) (out : Outside) (draws : Draws)
    (carrier : TokenCarrier) :
    Frames (OfDb R) (getRefresh lib (sqlServices S setup rng out) out.now draws carrier) := by
  refine (Keeps.lift _).frames.bind fun token => ?_
  refine (call_frames (Keeps.reads _).frames).bind fun found => ?_
  refine Frames.ite ?_ (Keeps.fail _).frames
  exact (call_query_frames _).bind fun _ =>
    (createJwt_frames hR _ _ _ _ _).bind fun _ => (Keeps.pure _).frames

theorem getPasswordResetStep1_frames (hR : IgnoresTokens R) (rng : S.Coins) (out : Outside)
    (draws : Draws) (userString : String) : Frames (OfDb R)
      (getPasswordResetStep1 (sqlServices S setup rng out) out.now draws userString) := by
  refine (call_query_frames _).bind fun users => ?_
  split
  · exact (Keeps.pure _).frames
  · refine (call_frames (startPasswordReset_frames hR _ _ _)).bind fun token => ?_
    split
    · exact (Keeps.pure _).frames
    · split
      · exact (Keeps.pure _).frames
      · exact (Keeps.fail _).frames
  · exact (Keeps.fail _).frames

omit [External] in
theorem getPasswordResetStep2_frames (hR : IgnoresTokens R) (now : DateTime) (draws : Draws)
    (token : String) :
    Frames (OfDb R) (getPasswordResetStep2 lib now draws token : App (Response S)) := by
  refine Frames.bind (Frames.mapErr ?_) fun u => Frames.bind (Frames.attempt ?_) fun _ => ?_
  · exact onWorld_onDb_frames (Keeps.query _).frames
  · exact onWorld_onDb_frames (deletePasswordResetToken_frames hR token)
  · exact (createJwt_frames hR _ _ _ _ _).bind fun _ => (Keeps.pure _).frames

theorem opaqueRegisterStart_frames (rng : S.Coins) (out : Outside) (bearer : Option String)
    (request : Opaque.ClientRegistrationStartRequest S) : Frames (OfDb R)
      (opaqueRegisterStart lib (sqlServices S setup rng out) out.now bearer request) := by
  refine (Keeps.query _).frames.bind fun validation => (call_query_frames _).bind fun groups => ?_
  refine Frames.ite ?_ (Keeps.fail _).frames
  exact (call_frames (Keeps.lift _).frames).bind fun _ => (Keeps.pure _).frames

end Frames

theorem sameMembers_ignoresTokens : IgnoresTokens SameMembers :=
  ⟨fun _ _ => ⟨rfl, rfl⟩, fun _ _ => ⟨rfl, rfl⟩⟩

section Step

variable [External] {S : Suite} {lib : TokenLib} {setup : S.ServerSetup}

theorem getLoginSuccessfulResponse_sameMembers (rng : S.Coins) (out : Outside) (draws : Draws)
    (name : UserId) : Frames (OfDb SameMembers)
      (getLoginSuccessfulResponse lib (sqlServices S setup rng out) out.now draws name) :=
  getLoginSuccessfulResponse_frames sameMembers_ignoresTokens rng out draws
    (createRefreshToken_frames fun _ _ _ => ⟨rfl, rfl⟩)

omit [External] in
theorem getLogout_sameMembers (carrier : TokenCarrier) :
    Frames (OfDb SameMembers) (getLogout lib carrier : App (Response S)) := by
  have hdelete : ∀ hash, Frames SameMembers (deleteRefreshToken hash) :=
    fun _ => Frames.writes fun _ => ⟨rfl, rfl⟩
  have hblacklist : ∀ u, Frames SameMembers (blacklistJwts u) := fun u =>
    (Keeps.reads _).frames.bind fun _ =>
      (Frames.writes fun _ => ⟨rfl, rfl⟩).bind fun _ => (Keeps.pure _).frames
  refine (Keeps.lift _).frames.bind fun token => (call_frames (hdelete _)).bind fun _ => ?_
  refine (call_frames (hblacklist _)).bind fun hashes => ?_
  refine Frames.bind (Frames.writes fun a => ?_) fun _ => (Keeps.pure _).frames
  exact refl_of SameMembers a.world.db

theorem serve_sameMembers (lib : TokenLib) (setup : S.ServerSetup) (i : Input S) :
    (∃ u g, i.call = .addUserToGroup u g ∨ i.call = .removeUserFromGroup u g) ∨
      Frames (OfDb SameMembers) (serve lib setup i) := by
  unfold serve
  cases i.call with
  | opaqueLoginStart request =>
    exact .inr ((call_query_frames _).bind fun _ => (Keeps.pure _).frames)
  | opaqueLoginFinish request =>
    exact .inr ((call_query_frames _).bind fun _ =>
      getLoginSuccessfulResponse_sameMembers _ _ _ _)
  | simpleLogin username password =>
    exact .inr ((call_query_frames _).bind fun _ =>
      getLoginSuccessfulResponse_sameMembers _ _ _ _)
  | refresh carrier =>
    exact .inr (getRefresh_frames sameMembers_ignoresTokens _ _ _ carrier)
  | logout carrier => exact .inr (getLogout_sameMembers carrier)
  | resetStep1 userString =>
    exact .inr (getPasswordResetStep1_frames sameMembers_ignoresTokens _ _ _ userString)
  | resetStep2 token =>
    exact .inr (getPasswordResetStep2_frames sameMembers_ignoresTokens _ _ token)
  | registerStart bearer request => exact .inr (opaqueRegisterStart_frames _ _ bearer request)
  | registerFinish request =>
    exact .inr ((call_frames (registrationFinish_sameMembers _ _ _)).bind fun _ =>
      (Keeps.pure _).frames)
  | addUserToGroup user group => exact .inl ⟨user, group, .inl rfl⟩
  | removeUserFromGroup user group => exact .inl ⟨user, group, .inr rfl⟩

theorem step_sameNames (a : AppState) (i : Input S) :
    SameNames a.world.db (step lib setup a i).2.world.db := by
  rcases serve_sameMembers lib setup i with ⟨u, g, hcall | hcall⟩ | hserve
  · have hadd : Frames (OfDb SameNames) (serve lib setup i) := by
      unfold serve
      rw [hcall]
      exact (call_frames (addUserToGroup_sameNames _ _ _)).bind fun _ => (Keeps.pure _).frames
    exact hadd a
  · have hremove : Frames (OfDb SameNames) (serve lib setup i) := by
      unfold serve
      rw [hcall]
      exact (call_frames (removeUserFromGroup_sameNames _ _ _)).bind fun _ => (Keeps.pure _).frames
    exact hremove a
  · exact .of_groups_eq (hserve a).1

end Step

end Http
end Klldap
