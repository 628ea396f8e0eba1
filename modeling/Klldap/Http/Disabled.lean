import Klldap.Http.Service
import Klldap.Plain

/-!
# Klldap.Http.Disabled: tokens for members of `lldap_disabled`

A login asks whether the user is disabled and refuses; a refresh and the second step of a password
reset do not ask, so a token that the user got earlier still buys a JWT.
-/

namespace Klldap
namespace Http

open Lib (Eff Event Run eventAt)
open Opaque (Suite isUserDisabled)

def Response.jwtUser {S : Suite} : Response S → Option UserId
  | .loggedIn token _ => some (UserId.new token.claims.user)
  | .passwordReset _ token => some (UserId.new token.claims.user)
  | _ => none

/-- Membership in a group named `lldap_disabled`. -/
def InDisabled (db : Store) (u : UserId) : Prop :=
  ∃ g ∈ db.groups.rows, g.displayName.raw = "lldap_disabled" ∧ db.isMember u g.groupId = true

instance (db : Store) (u : UserId) : Decidable (InDisabled db u) :=
  inferInstanceAs (Decidable (∃ g ∈ db.groups.rows, _ ∧ _))

/-- The unique index on group names, for this one name. -/
def OneDisabledGroup (db : Store) : Prop :=
  ∀ g ∈ db.groups.rows, ∀ g' ∈ db.groups.rows, g.displayName.raw = "lldap_disabled" →
    g'.displayName.raw = "lldap_disabled" → g.groupId = g'.groupId

/-- The request trades in a stored token of `u` for a JWT. -/
def TradesTokenOf {S : Suite} (lib : TokenLib) (a : AppState) (i : Input S) (u : UserId) : Prop :=
  match i.call with
  | .refresh carrier =>
    ∃ hash, getRefreshToken lib carrier = .ok (hash, u) ∧ checkToken hash u a.world.db = true
  | .resetStep2 token => getUserIdForPasswordResetToken i.out.now token a.world.db = .ok u
  | _ => False

/-- A JWT in the answer is for a user who was not disabled while the request was served. -/
def IssuedToEnabled {S : Suite}
    (e : Event AppState (Input S) (Except TcpError (Response S))) : Prop :=
  ∀ r u, e.output = .ok r → r.jwtUser = some u →
    ¬InDisabled e.pre.world.db u ∧ ¬InDisabled e.post.world.db u

theorem isUserDisabled_iff {db : Store} (hone : OneDisabledGroup db) (u : UserId) :
    isUserDisabled db u = true ↔ InDisabled db u := by
  unfold isUserDisabled
  cases hf : db.groups.rows.find? fun g => g.displayName.raw = "lldap_disabled" with
  | none =>
    have hnone := List.find?_eq_none.mp hf
    constructor
    · intro h
      cases h
    · rintro ⟨g, hg, hname, -⟩
      exact absurd hname (by simpa using hnone g hg)
  | some group =>
    have hgroup := List.mem_of_find?_eq_some hf
    have hname : group.displayName.raw = "lldap_disabled" := by simpa using List.find?_some hf
    constructor
    · intro h
      exact ⟨group, hgroup, hname, h⟩
    · rintro ⟨g, hg, hgname, hmember⟩
      show db.isMember u group.groupId = true
      rw [hone group hgroup g hg hname hgname]
      exact hmember

theorem SameMembers.inDisabled_iff {db db' : Store} (h : SameMembers db db') (u : UserId) :
    InDisabled db' u ↔ InDisabled db u := by
  unfold InDisabled Store.isMember
  rw [h.groups, h.memberships]

theorem OneDisabledGroup.of_sameNames {db db' : Store} (h : SameNames db db')
    (hone : OneDisabledGroup db) : OneDisabledGroup db' := by
  have hmem : ∀ x ∈ db'.groups.rows, ∃ y ∈ db.groups.rows,
      y.groupId = x.groupId ∧ y.displayName = x.displayName := by
    intro x hx
    have hpair : (x.groupId, x.displayName) ∈
        db'.groups.rows.map fun g => (g.groupId, g.displayName) :=
      List.mem_map.mpr ⟨x, hx, rfl⟩
    rw [h] at hpair
    obtain ⟨y, hy, hyx⟩ := List.mem_map.mp hpair
    exact ⟨y, hy, congrArg Prod.fst hyx, congrArg Prod.snd hyx⟩
  intro g hg g' hg' hname hname'
  obtain ⟨y, hy, hid, hn⟩ := hmem g hg
  obtain ⟨y', hy', hid', hn'⟩ := hmem g' hg'
  rw [← hid, ← hid']
  exact hone y hy y' hy' (by rw [hn]; exact hname) (by rw [hn']; exact hname')

/-! ## Who gets a JWT -/

section Issue

variable {S : Suite} {lib : TokenLib} {setup : S.ServerSetup}

theorem createJwt_user {now : DateTime} {draws : Draws} {u : UserId} {groups : List GroupDetails}
    {a a' : AppState} {token : SignedToken}
    (h : createJwt lib now draws u groups a = (.ok token, a')) :
    UserId.new token.claims.user = u := by
  obtain ⟨_, a₁, -, h⟩ := Eff.bind_ok.mp h
  cases h
  exact UserId.new_asStr u

theorem getLoginSuccessfulResponse_jwtUser {h : Services S World} {now : DateTime} {draws : Draws}
    {name : UserId} {a a' : AppState} {r : Response S}
    (hr : getLoginSuccessfulResponse lib h now draws name a = (.ok r, a')) :
    r.jwtUser = some name := by
  obtain ⟨groups, a₁, -, hr⟩ := Eff.bind_ok.mp hr
  obtain ⟨_, a₂, -, hr⟩ := Eff.bind_ok.mp hr
  obtain ⟨token, a₃, htoken, hr⟩ := Eff.bind_ok.mp hr
  cases hr
  exact congrArg some (createJwt_user htoken)

theorem bind_not_disabled {rng : S.Coins} {name : UserId} {password : String} {db db' : Store}
    (h : Opaque.bind S setup rng name password db = (.ok (), db')) :
    isUserDisabled db name = false := by
  have hok := congrArg Prod.fst h
  simp only [Opaque.bind, Eff.query_run] at hok
  split at hok
  · cases hok
  · rename_i hd
    exact Bool.eq_false_iff.mpr hd

theorem loginFinish_not_disabled {request : Opaque.ClientLoginFinishRequest S} {name : UserId}
    {db db' : Store} (h : Opaque.loginFinish S setup request db = (.ok name, db')) :
    isUserDisabled db name = false := by
  have hok := congrArg Prod.fst h
  simp only [Opaque.loginFinish, Eff.query_run] at hok
  obtain ⟨state, -, hok⟩ := Lib.except_bind_ok.mp hok
  split at hok
  · cases hok
  · split at hok
    · cases hok
    · rename_i hd
      obtain ⟨_, -, hok⟩ := Lib.except_bind_ok.mp hok
      cases hok
      exact Bool.eq_false_iff.mpr hd

theorem getRefresh_jwtUser {h : Services S World} {now : DateTime} {draws : Draws}
    {carrier : TokenCarrier} {a a' : AppState} {r : Response S} {u : UserId}
    (hr : getRefresh lib h now draws carrier a = (.ok r, a')) (hu : r.jwtUser = some u) :
    ∃ hash, getRefreshToken lib carrier = .ok (hash, u) ∧ checkToken hash u a.world.db = true := by
  obtain ⟨⟨hash, user⟩, htoken, hr⟩ := Eff.lift_bind_ok.mp hr
  obtain ⟨found, a₁, hfound, hr⟩ := Eff.bind_ok.mp hr
  have hcheck : checkToken hash user a.world.db = found := by
    simpa using congrArg Prod.fst (call_onDb_ok hfound)
  cases found with
  | false => cases hr
  | true =>
    obtain ⟨groups, a₂, -, hr⟩ := Eff.bind_ok.mp hr
    obtain ⟨token, a₃, hjwt, hr⟩ := Eff.bind_ok.mp hr
    cases hr
    have huser : UserId.new token.claims.user = u := Option.some.inj hu
    obtain rfl : user = u := (createJwt_user hjwt).symm.trans huser
    exact ⟨hash, htoken, hcheck⟩

theorem getPasswordResetStep2_jwtUser {now : DateTime} {draws : Draws} {token : String}
    {a a' : AppState} {r : Response S} {u : UserId}
    (hr : getPasswordResetStep2 lib now draws token a = (.ok r, a')) (hu : r.jwtUser = some u) :
    getUserIdForPasswordResetToken now token a.world.db = .ok u := by
  obtain ⟨user, a₁, huser, hr⟩ := Eff.bind_ok.mp hr
  obtain ⟨_, a₂, -, hr⟩ := Eff.bind_ok.mp hr
  obtain ⟨jwt, a₃, hjwt, hr⟩ := Eff.bind_ok.mp hr
  cases hr
  obtain rfl : user = u := (createJwt_user hjwt).symm.trans (Option.some.inj hu)
  obtain ⟨w, hw, -⟩ := Eff.zoom_ok.mp (Eff.mapErr_ok.mp huser)
  exact congrArg Prod.fst (onDb_ok hw)

theorem getPasswordResetStep1_jwtUser {h : Services S World} {now : DateTime} {draws : Draws}
    {userString : String} {a a' : AppState} {r : Response S}
    (hr : getPasswordResetStep1 h now draws userString a = (.ok r, a')) : r.jwtUser = none := by
  obtain ⟨users, a₁, -, hr⟩ := Eff.bind_ok.mp hr
  split at hr
  · cases hr
    rfl
  · obtain ⟨token, a₂, -, hr⟩ := Eff.bind_ok.mp hr
    cases token with
    | none =>
      cases hr
      rfl
    | some token =>
      dsimp only at hr
      cases hmail : draws.mailError with
      | none =>
        rw [hmail] at hr
        cases hr
        rfl
      | some e =>
        rw [hmail] at hr
        cases hr
  · cases hr

theorem getLogout_jwtUser {carrier : TokenCarrier} {a a' : AppState} {r : Response S}
    (hr : getLogout lib carrier a = (.ok r, a')) : r.jwtUser = none := by
  obtain ⟨token, a₁, -, hr⟩ := Eff.bind_ok.mp hr
  obtain ⟨_, a₂, -, hr⟩ := Eff.bind_ok.mp hr
  obtain ⟨hashes, a₃, -, hr⟩ := Eff.bind_ok.mp hr
  obtain ⟨_, a₄, -, hr⟩ := Eff.bind_ok.mp hr
  cases hr
  rfl

variable [External]

theorem opaqueRegisterStart_jwtUser {h : Services S World} {now : DateTime}
    {bearer : Option String} {request : Opaque.ClientRegistrationStartRequest S} {a a' : AppState}
    {r : Response S} (hr : opaqueRegisterStart lib h now bearer request a = (.ok r, a')) :
    r.jwtUser = none := by
  obtain ⟨validation, a₁, -, hr⟩ := Eff.bind_ok.mp hr
  obtain ⟨groups, a₂, -, hr⟩ := Eff.bind_ok.mp hr
  split at hr
  · obtain ⟨response, a₃, -, hr⟩ := Eff.bind_ok.mp hr
    cases hr
    rfl
  · cases hr

theorem membershipCall_jwtUser {a : AppState} {i : Input S} {r : Response S} {u : UserId}
    {g : GroupId} (hcall : i.call = .addUserToGroup u g ∨ i.call = .removeUserFromGroup u g)
    (hr : (step lib setup a i).1 = .ok r) : r.jwtUser = none := by
  obtain ⟨a', hstep⟩ : ∃ a', serve lib setup i a = (.ok r, a') := ⟨_, Prod.ext hr rfl⟩
  unfold serve at hstep
  rcases hcall with hcall | hcall
  all_goals
    rw [hcall] at hstep
    obtain ⟨_, _, -, hstep⟩ := Eff.bind_ok.mp hstep
    cases hstep
    rfl

theorem step_jwtUser {a : AppState} {i : Input S} {r : Response S} {u : UserId}
    (hr : (step lib setup a i).1 = .ok r) (hu : r.jwtUser = some u) :
    isUserDisabled a.world.db u = false ∨ TradesTokenOf lib a i u := by
  obtain ⟨a', hstep⟩ : ∃ a', serve lib setup i a = (.ok r, a') := ⟨_, Prod.ext hr rfl⟩
  unfold TradesTokenOf
  unfold serve at hstep
  cases hcall : i.call with
  | opaqueLoginFinish request =>
    rw [hcall] at hstep
    obtain ⟨name, a₁, hname, hstep⟩ := Eff.bind_ok.mp hstep
    rw [getLoginSuccessfulResponse_jwtUser hstep] at hu
    cases hu
    exact .inl (loginFinish_not_disabled (call_onDb_ok hname))
  | simpleLogin username password =>
    rw [hcall] at hstep
    obtain ⟨_, a₁, hbind, hstep⟩ := Eff.bind_ok.mp hstep
    rw [getLoginSuccessfulResponse_jwtUser hstep] at hu
    cases hu
    exact .inl (bind_not_disabled (call_onDb_ok hbind))
  | refresh carrier =>
    rw [hcall] at hstep
    exact .inr (getRefresh_jwtUser hstep hu)
  | resetStep2 token =>
    rw [hcall] at hstep
    exact .inr (getPasswordResetStep2_jwtUser hstep hu)
  | resetStep1 userString =>
    rw [hcall] at hstep
    rw [getPasswordResetStep1_jwtUser hstep] at hu
    cases hu
  | registerStart bearer request =>
    rw [hcall] at hstep
    rw [opaqueRegisterStart_jwtUser hstep] at hu
    cases hu
  | logout carrier =>
    rw [hcall] at hstep
    rw [getLogout_jwtUser hstep] at hu
    cases hu
  | opaqueLoginStart request | registerFinish request | addUserToGroup user group
  | removeUserFromGroup user group =>
    rw [hcall] at hstep
    obtain ⟨_, _, -, hstep⟩ := Eff.bind_ok.mp hstep
    cases hstep
    cases hu

theorem step_issuedToEnabled {a : AppState} {i : Input S} (hone : OneDisabledGroup a.world.db)
    (hok : ∀ u, TradesTokenOf lib a i u → ¬InDisabled a.world.db u) :
    IssuedToEnabled (eventAt (step lib setup) a i) := by
  intro r u hr hu
  have hpre : ¬InDisabled a.world.db u := by
    rcases step_jwtUser hr hu with hd | htrade
    · rw [← isUserDisabled_iff hone, hd]
      exact Bool.false_ne_true
    · exact hok u htrade
  have hpost : ¬InDisabled (step lib setup a i).2.world.db u := by
    rcases serve_sameMembers lib setup i with ⟨v, g, hcall⟩ | hserve
    · rw [membershipCall_jwtUser hcall hr] at hu
      cases hu
    · have hsame : SameMembers a.world.db (step lib setup a i).2.world.db := hserve a
      rw [hsame.inDisabled_iff]
      exact hpre
  exact ⟨hpre, hpost⟩

/-- In a run in which no token of a disabled user is traded in, no JWT is issued for a disabled
user, whatever order logins, refreshes, resets, logouts and changes of memberships come in. -/
theorem run_no_jwt_for_disabled {init a : AppState} {h : History S}
    (hone : OneDisabledGroup init.world.db)
    (hr : Run (step lib setup)
      (fun _ a i => ∀ u, TradesTokenOf lib a i u → ¬InDisabled a.world.db u) init h a) :
    ∀ e ∈ h, IssuedToEnabled e := by
  have hinv : OneDisabledGroup a.world.db ∧ ∀ e ∈ h, IssuedToEnabled e := by
    refine hr.invariant (P := fun h a => OneDisabledGroup a.world.db ∧ ∀ e ∈ h, IssuedToEnabled e)
      ⟨hone, by simp⟩ ?_
    rintro h a i ⟨hone, hall⟩ hok
    refine ⟨hone.of_sameNames (step_sameNames a i), ?_⟩
    intro e he
    rcases List.mem_append.mp he with he | he
    · exact hall e he
    · rw [List.mem_singleton.mp he]
      exact step_issuedToEnabled hone hok
  exact hinv.2

end Issue

def bobState : AppState where
  world := Plain.world
    { Store.empty with
      users := ⟨[⟨UserId.new "bob", ⟨"bob@example.com"⟩, "bob@example.com", none, 0, some [1],
        ⟨"bob"⟩, 0, 0, none⟩], by simp⟩
      groups := ⟨[⟨⟨1⟩, ⟨"lldap_disabled"⟩, "lldap_disabled", 0, ⟨"disabled"⟩, 0⟩], by simp⟩ }
  jwtBlacklist := []

def plainInput (jti : String) (call : Call Opaque.plainSuite) : Input Opaque.plainSuite :=
  ⟨Plain.outside, (), ⟨jti, "secret", none⟩, call⟩

def loginOfBob := plainInput "1" (.simpleLogin (UserId.new "bob") "password")

def resetOfBob := plainInput "1" (.resetStep1 "bob")

def disableBob := plainInput "" (.addUserToGroup (UserId.new "bob") ⟨1⟩)

def refreshOfBob := plainInput "22" (.refresh ⟨some "secret+bob", none⟩)

def secondResetOfBob := plainInput "22" (.resetStep2 "secret")

theorem bobState_oneDisabledGroup : OneDisabledGroup bobState.world.db := by
  intro g hg g' hg' _ _
  rw [List.mem_singleton.mp hg, List.mem_singleton.mp hg']

open Plain in
/-- A refresh token and a reset token that `bob` got before the account was disabled are both good
for a JWT afterwards. -/
theorem tokens_outlive_disabling :
    (∃ h a, Run (step plainTokens ()) (fun _ _ _ => True) bobState h a ∧
      h.map Event.input = [loginOfBob, disableBob, refreshOfBob] ∧ ∃ e ∈ h, ¬IssuedToEnabled e) ∧
    ∃ h a, Run (step plainTokens ()) (fun _ _ _ => True) bobState h a ∧
      h.map Event.input = [resetOfBob, disableBob, secondResetOfBob] ∧
      ∃ e ∈ h, ¬IssuedToEnabled e := by
  constructor
  · refine ⟨_, _, ((Run.nil.snoc loginOfBob trivial).snoc disableBob trivial).snoc refreshOfBob
      trivial, rfl, _, List.mem_append_right _ (List.mem_singleton_self _), ?_⟩
    intro hissued
    exact absurd (hissued _ (UserId.new "bob") rfl rfl).1 (by decide)
  · refine ⟨_, _, ((Run.nil.snoc resetOfBob trivial).snoc disableBob trivial).snoc secondResetOfBob
      trivial, rfl, _, List.mem_append_right _ (List.mem_singleton_self _), ?_⟩
    intro hissued
    exact absurd (hissued _ (UserId.new "bob") rfl rfl).1 (by decide)

open Plain in
/-- A login and a refresh while the account is enabled: the second request trades in a token. -/
theorem refresh_before_disabling :
    ∃ h a, Run (step plainTokens ())
        (fun _ a i => ∀ u, TradesTokenOf plainTokens a i u → ¬InDisabled a.world.db u) bobState h a ∧
      h.map Event.input = [loginOfBob, refreshOfBob] ∧ ∀ e ∈ h, IssuedToEnabled e := by
  have hlogin : ∀ u, TradesTokenOf plainTokens bobState loginOfBob u →
      ¬InDisabled bobState.world.db u := by
    intro u htrade
    cases htrade
  have hrefresh : ∀ u, TradesTokenOf plainTokens (step plainTokens () bobState loginOfBob).2
      refreshOfBob u → ¬InDisabled (step plainTokens () bobState loginOfBob).2.world.db u := by
    rintro u ⟨hash, htoken, -⟩
    cases htoken
    decide
  have hrun : Run (step plainTokens ())
      (fun _ a i => ∀ u, TradesTokenOf plainTokens a i u → ¬InDisabled a.world.db u) bobState _ _ :=
    (Run.nil.snoc loginOfBob hlogin).snoc refreshOfBob hrefresh
  exact ⟨_, _, hrun, rfl, run_no_jwt_for_disabled bobState_oneDisabledGroup hrun⟩

end Http
end Klldap
