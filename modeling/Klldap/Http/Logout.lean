import Klldap.Http.Service
import Klldap.Plain

/-!
# Klldap.Http.Logout: what a logout withdraws

A refresh token has the form `t+u`. A logout deletes the stored token with the hash of `t`, whoever
it belongs to, and blacklists the JWTs of `u`, whether or not `u` has that token.
-/

namespace Klldap
namespace Http

open Lib (Eff)
open Opaque (Suite)

/-- The request carries a token `t+u`, and a refresh token with the hash of `t` is stored for `u`. -/
def CarriesStored (lib : TokenLib) (carrier : TokenCarrier) (db : Store) : Prop :=
  ∃ hash u, getRefreshToken lib carrier = .ok (hash, u) ∧ checkToken hash u db = true

/-- Every JWT and every refresh token is as valid as before. -/
structure SameTokens (a a' : AppState) : Prop where
  jwts : a'.world.db.jwtStorage = a.world.db.jwtStorage
  refreshTokens : a'.world.db.jwtRefreshStorage = a.world.db.jwtRefreshStorage
  blacklist : ∀ hash, hash ∈ a'.jwtBlacklist ↔ hash ∈ a.jwtBlacklist

section Logout

variable (S : Suite) (lib : TokenLib)

/-- A logout withdraws tokens only for a token that is stored for the user it names. -/
def LogoutSound (carrier : TokenCarrier) (a : AppState) : Prop :=
  ¬CarriesStored lib carrier a.world.db →
    SameTokens a ((getLogout lib carrier : App (Response S)) a).2

variable {S lib} {carrier : TokenCarrier} {a : AppState} {hash : Int} {u : UserId}

def validJwts (u : UserId) (db : Store) : List Int :=
  (db.jwtStorage.rows.filter fun r => r.userId = u && !r.blacklisted).map JwtStorageRow.jwtHash

/-- The state after a logout with the hash of `t` and with `u`. -/
def loggedOut (hash : Int) (u : UserId) (a : AppState) : AppState where
  world := { a.world with db := { a.world.db with
    jwtRefreshStorage := a.world.db.jwtRefreshStorage.delete fun r => r.refreshTokenHash = hash
    jwtStorage := a.world.db.jwtStorage.updateWhere (fun r => r.userId = u)
      (fun r => { r with blacklisted := true }) jwtHash_blacklisted } }
  jwtBlacklist := (validJwts u a.world.db).foldl (fun l x => l.insert x) a.jwtBlacklist

theorem getLogout_of_token (h : getRefreshToken lib carrier = .ok (hash, u)) :
    ((getLogout lib carrier : App (Response S)) a).2 = loggedOut hash u a := by
  unfold getLogout
  rw [h]
  rfl

theorem getLogout_of_error {e : TcpError} (h : getRefreshToken lib carrier = .error e) :
    ((getLogout lib carrier : App (Response S)) a).2 = a := by
  unfold getLogout
  rw [h]
  rfl

theorem getLogout_jwts_of_others {v : UserId} {row : JwtStorageRow} {k : Int} (hv : row.userId = v)
    (h : getRefreshToken lib carrier = .ok (hash, u)) (hne : v ≠ u)
    (hrow : a.world.db.jwtStorage.find? k = some row) :
    ((getLogout lib carrier : App (Response S)) a).2.world.db.jwtStorage.find? k = some row := by
  rw [getLogout_of_token h]
  have hkeep : row.userId ≠ u := fun heq => hne (hv.symm.trans heq)
  simp only [loggedOut, Lib.Table.updateWhere, Lib.Table.find?_mapRows, hrow, Option.map_some]
  simp [hkeep]

theorem sameTokens_loggedOut :
    SameTokens a (loggedOut hash u a) ↔
      a.world.db.jwtRefreshStorage.find? hash = none ∧
        ∀ r ∈ a.world.db.jwtStorage.rows, r.userId = u → r.blacklisted = true := by
  constructor
  · rintro ⟨hjwts, hrefresh, -⟩
    constructor
    · rw [Lib.Table.find?_eq_none]
      intro hmem
      obtain ⟨r, hr, hhash⟩ := List.mem_map.mp hmem
      have hkept := Lib.Table.delete_eq_self.mp hrefresh r hr
      simp [hhash] at hkept
    · intro r hr hu
      rw [loggedOut, Lib.Table.updateWhere_eq_self] at hjwts
      exact (congrArg JwtStorageRow.blacklisted (hjwts r hr (by simpa using hu))).symm
  · rintro ⟨hnone, hall⟩
    refine ⟨?_, Lib.Table.delete_eq_self.mpr ?_, ?_⟩
    · rw [loggedOut, Lib.Table.updateWhere_eq_self]
      intro r hr hu
      have hblack := hall r hr (by simpa using hu)
      cases r
      cases hblack
      rfl
    · intro r hr
      rw [decide_eq_false_iff_not]
      intro hhash
      exact Lib.Table.find?_eq_none.mp hnone (List.mem_map.mpr ⟨r, hr, hhash⟩)
    · intro k
      have hvalid : validJwts u a.world.db = [] := by
        unfold validJwts
        rw [List.map_eq_nil_iff, List.filter_eq_nil_iff]
        intro r hr
        by_cases hu : r.userId = u
        · simp [hall r hr hu]
        · simp [hu]
      show k ∈ (validJwts u a.world.db).foldl (fun l x => l.insert x) a.jwtBlacklist ↔ _
      rw [hvalid]
      rfl

/-- A logout is sound exactly when its token is stored for the user it names, or there is nothing
to withdraw: no stored token has the hash, and the user has no JWT that is still valid. -/
theorem logoutSound_iff :
    LogoutSound S lib carrier a ↔
      ∀ hash u, getRefreshToken lib carrier = .ok (hash, u) →
        checkToken hash u a.world.db = true ∨
          (a.world.db.jwtRefreshStorage.find? hash = none ∧
            ∀ r ∈ a.world.db.jwtStorage.rows, r.userId = u → r.blacklisted = true) := by
  unfold LogoutSound CarriesStored
  cases htoken : getRefreshToken lib carrier with
  | error e =>
    rw [getLogout_of_error htoken]
    constructor
    · intro _ hash u h
      cases h
    · intro _ _
      exact ⟨rfl, rfl, fun _ => Iff.rfl⟩
  | ok p =>
    obtain ⟨hash, u⟩ := p
    rw [getLogout_of_token htoken, sameTokens_loggedOut]
    constructor
    · rintro hsound hash' u' heq
      cases heq
      by_cases hcheck : checkToken hash u a.world.db = true
      · exact .inl hcheck
      · refine .inr (hsound ?_)
        rintro ⟨hash', u', heq, hcheck'⟩
        cases heq
        exact hcheck hcheck'
    · intro hcond hnot
      rcases hcond hash u rfl with hcheck | hnothing
      · exact absurd ⟨hash, u, rfl, hcheck⟩ hnot
      · exact hnothing

end Logout

/-- A state in which `bob` has a valid JWT, and `alice` a refresh token. -/
def tokensState : AppState where
  world := Plain.world
    { Store.empty with
      users := ⟨[Plain.userRow "alice", Plain.userRow "bob", Plain.userRow "carol"], by decide⟩
      jwtStorage := ⟨[⟨7, UserId.new "bob", 10, false⟩], by simp⟩
      jwtRefreshStorage := ⟨[⟨6, UserId.new "alice", 10⟩], by simp⟩ }
  jwtBlacklist := []

/-- Without any token of `bob`, a request that names `bob` blacklists the JWT of `bob`; with the
hash of a token of `alice` it deletes that one too. -/
theorem forged_logout :
    ¬LogoutSound Opaque.plainSuite plainTokens ⟨some "x+bob", none⟩ tokensState ∧
      ¬LogoutSound Opaque.plainSuite plainTokens ⟨some "secret+carol", none⟩ tokensState := by
  constructor
  · intro hsound
    have hsame := hsound (by
      rintro ⟨hash, u, htoken, hcheck⟩
      cases htoken
      cases hcheck)
    exact absurd hsame.jwts (by decide)
  · intro hsound
    have hsame := hsound (by
      rintro ⟨hash, u, htoken, hcheck⟩
      cases htoken
      cases hcheck)
    exact absurd hsame.refreshTokens (by decide)

end Http
end Klldap
