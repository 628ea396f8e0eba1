import Klldap.Ldap.Session
import Klldap.Plain
import Klldap.Sql.Calm

/-!
# Klldap.Ldap.Bind: who is bound after a bind

With the server's backend. A bind that authenticates a user binds that user, and every other bind is
answered with an error. But an error leaves whoever was bound before.
-/

namespace Klldap
namespace Ldap

open Lib (Eff)
open Lib.Eff (Keeps ErrorsIn)
open Lib.Text
open Opaque (Suite)

section

variable {S : Suite} {σ : Type}

/-- The DN of the request names `v`, in the organizational unit that is stored for `v`, and its
password is the one of `v`. -/
structure Authenticates (h : Services S σ) (ldapInfo : LdapInfo) (request : LdapBindRequest) (s : σ)
    (v : UserId) : Prop where
  named : request.dn ≠ ""
  resolves : getUserIdFromDistinguishedName (asciiLower request.dn) ldapInfo.baseDn
    ldapInfo.baseDnStr = .ok v
  password : ∃ password, request.cred = .simple password ∧ (h.bind v password s).1 = .ok ()
  ou : ∃ user, (h.getUserDetails v s).1 = .ok user ∧ ouVerified request.dn user = true

variable {h : Services S σ} {ldapInfo : LdapInfo} {request : LdapBindRequest} {s s' : σ}
  {v : UserId}

theorem bindUser_ok :
    bindUser ldapInfo h request s = (.ok v, s') ↔
      request.dn ≠ "" ∧
        getUserIdFromDistinguishedName (asciiLower request.dn) ldapInfo.baseDn
          ldapInfo.baseDnStr = .ok v ∧
        ∃ password, request.cred = .simple password ∧ h.bind v password s = (.ok (), s') := by
  unfold bindUser
  split
  · rename_i hdn
    simp [failWith, hdn]
  · rename_i hdn
    cases hu : getUserIdFromDistinguishedName (asciiLower request.dn) ldapInfo.baseDn
        ldapInfo.baseDnStr with
    | error e => simp [failWith]
    | ok u =>
      cases hcred : request.cred with
      | sasl => simp [failWith]
      | simple password =>
        dsimp only
        rw [Eff.bind_ok]
        constructor
        · rintro ⟨⟨⟩, s₁, hbind, heq⟩
          cases heq
          exact ⟨hdn, rfl, password, rfl, Eff.mapErr_ok.mp hbind⟩
        · rintro ⟨-, ⟨⟩, password', ⟨⟩, hbind⟩
          exact ⟨(), s', Eff.mapErr_ok.mpr hbind, rfl⟩

end

section Sql

variable [External] {S : Suite} {setup : S.ServerSetup} {rng : S.Coins} {out : Outside} {ldapInfo : LdapInfo}
  {request : LdapBindRequest} {w : World} {v : UserId}

theorem getPermissionsForUser_ok {user : User}
    (hu : ((sqlServices S setup rng out).getUserDetails v w).1 = .ok user) :
    ∃ p, getPermissionsForUser (sqlServices S setup rng out) v w = (.ok ⟨v, p⟩, w) := by
  have hrow : ∃ r, w.db.users.find? v = some r := by
    cases hfind : w.db.users.find? v with
    | some r => exact ⟨r, rfl⟩
    | none =>
      have hnone : Sql.getUserDetails v w.db = .error (.entityNotFound v.asStr) := by
        rw [Sql.getUserDetails, hfind]
      rw [show ((sqlServices S setup rng out).getUserDetails v w).1 = Sql.getUserDetails v w.db
        from rfl, hnone] at hu
      cases hu
  obtain ⟨r, hr⟩ := hrow
  have hgroups : (sqlServices S setup rng out).getUserGroups v w =
      (.ok ((w.db.groupsOf v).map GroupRow.toGroupDetails), w) := by
    show (Sql.getUserGroups v w.db, w) = _
    rw [Sql.getUserGroups, hr]
  refine ⟨_, Eff.bind_ok.mpr ⟨_, w, hgroups, rfl⟩⟩

theorem authenticate_of_authenticates
    (ha : Authenticates (sqlServices S setup rng out) ldapInfo request w v) :
    ∃ p, authenticate (sqlServices S setup rng out) ldapInfo request w = (.ok (some ⟨v, p⟩), w) := by
  obtain ⟨password, hcred, hbind⟩ := ha.password
  obtain ⟨user, huser, hou⟩ := ha.ou
  obtain ⟨p, hp⟩ := getPermissionsForUser_ok huser
  refine ⟨p, Eff.bind_ok.mpr ⟨v, w, bindUser_ok.mpr ⟨ha.named, ha.resolves, password, hcred,
    Prod.ext hbind rfl⟩, Eff.bind_ok.mpr ⟨user, w, Eff.mapErr_ok.mpr (Prod.ext huser rfl), ?_⟩⟩⟩
  rw [if_pos hou]
  have hsome : (some <$> getPermissionsForUser (sqlServices S setup rng out) v) w =
      (.ok (some ⟨v, p⟩), w) := Eff.bind_ok.mpr ⟨_, w, hp, rfl⟩
  exact Eff.bind_ok.mpr ⟨.ok (some ⟨v, p⟩), w, by rw [Eff.attempt, hsome], rfl⟩

theorem authenticates_of_authenticate {bound : Option ValidationResults} {w' : World}
    (h : authenticate (sqlServices S setup rng out) ldapInfo request w = (.ok bound, w')) :
    ∃ v, Authenticates (sqlServices S setup rng out) ldapInfo request w v := by
  obtain ⟨v, w₁, hbind, hrest⟩ := Eff.bind_ok.mp h
  obtain ⟨hdn, hresolves, password, hcred, hbind⟩ := bindUser_ok.mp hbind
  obtain ⟨user, w₂, huser, hlast⟩ := Eff.bind_ok.mp hrest
  have hw : w₁ = w := (congrArg Prod.snd hbind).symm
  subst hw
  split at hlast
  · rename_i hou
    exact ⟨v, hdn, hresolves, ⟨password, hcred, congrArg Prod.fst hbind⟩,
      ⟨user, congrArg Prod.fst (Eff.mapErr_ok.mp huser), hou⟩⟩
  · cases hlast

theorem getUserDetails_calm (u : UserId) : Calm ((sqlServices S setup rng out).getUserDetails u) :=
  ErrorsIn.zoom (ErrorsIn.query fun _ _ h => Sql.getUserDetails_calm h)

theorem getUserGroups_calm (u : UserId) : Calm ((sqlServices S setup rng out).getUserGroups u) :=
  ErrorsIn.zoom (ErrorsIn.query fun _ _ h => Sql.getUserGroups_calm h)

/-- What a bind can fail with: an error, which is not a success. -/
def Refusal (f : Failure) : Prop := ∃ e, f = .ldap e ∧ e.code ≠ .success

omit [External] in
theorem refusal_failWith {σ α : Type} {code : LdapResultCode} {message : String}
    (hcode : code ≠ .success) : ErrorsIn Refusal (failWith code message : Eff σ Failure α) :=
  ErrorsIn.fail ⟨_, rfl, hcode⟩

omit [External] in
theorem orLdap_errorsIn {σ α : Type} {P : Failure → Prop} {code : LdapResultCode}
    {message : DomainError → String} {m : Eff σ DomainError α} (hm : Calm m)
    (hP : ∀ e, P (.ldap ⟨code, message e⟩)) : ErrorsIn P (orLdap code message m) := by
  refine ErrorsIn.mapErr (hm.mono fun e he => ?_)
  cases e with
  | panicked msg => exact absurd rfl (he msg)
  | _ => exact hP _

omit [External] in
theorem recover_errorsIn {σ α : Type} {P : Failure → Prop} {m : Eff σ DomainError α} (hm : Calm m)
    (default : α) : ErrorsIn P (recover m default) := by
  refine hm.attempt_bind (fun _ => ErrorsIn.pure _) fun e he => ?_
  cases e with
  | panicked msg => exact absurd rfl (he msg)
  | _ => exact ErrorsIn.pure _

theorem authenticate_refusal :
    ErrorsIn Refusal (authenticate (sqlServices S setup rng out) ldapInfo request) := by
  refine ErrorsIn.bind ?_ fun v => ErrorsIn.bind ?_ fun user => ?_
  · unfold bindUser
    split
    · exact refusal_failWith (by decide)
    · split
      · exact refusal_failWith (by decide)
      · split
        · exact refusal_failWith (by decide)
        · exact ErrorsIn.bind (orLdap_errorsIn (ErrorsIn.zoom (Opaque.bind_calm _ _ _))
            fun _ => ⟨_, rfl, nofun⟩) fun _ => ErrorsIn.pure _
  · exact orLdap_errorsIn (getUserDetails_calm v) fun _ => ⟨_, rfl, nofun⟩
  · split
    · exact recover_errorsIn (ErrorsIn.bind ((getUserGroups_calm v).bind fun _ => ErrorsIn.pure _)
        fun _ => ErrorsIn.pure _) none
    · exact refusal_failWith (by decide)

/-! ## After a bind -/

/-- The bind is answered. Afterwards exactly the user is bound that the request authenticates, if it
is answered with success, and nobody if it is answered with an error. -/
def BindSound [Library] (h : Services S World) (ldapInfo : LdapInfo)
    (userInfo : Option ValidationResults) (request : LdapBindRequest) (w : World) : Prop :=
  ∃ response bound, (handleLdapMessage h ldapInfo userInfo (.bindRequest request) w).1 =
      .ok (some [.bindResponse response], bound) ∧
    (∀ v, (∃ p, bound = some ⟨v, p⟩) ↔
      response.code = .success ∧ Authenticates h ldapInfo request w v) ∧
    (response.code ≠ .success → bound = none)

variable [Library] {userInfo : Option ValidationResults}

theorem handleLdapMessage_bind_ok {bound : Option ValidationResults} {w' : World}
    (h : authenticate (sqlServices S setup rng out) ldapInfo request w = (.ok bound, w')) :
    (handleLdapMessage (sqlServices S setup rng out) ldapInfo userInfo (.bindRequest request) w).1 =
      .ok (some [.bindResponse ⟨.success, "", ""⟩], bound) := by
  have hbind : doBind (sqlServices S setup rng out) ldapInfo userInfo request w =
      (.ok (.bindResponse ⟨.success, "", ""⟩, bound), w') :=
    Eff.bind_ok.mpr ⟨.ok bound, w', by rw [Eff.attempt, h], rfl⟩
  exact congrArg Prod.fst (Eff.bind_ok.mpr ⟨_, w', hbind, rfl⟩)

theorem handleLdapMessage_bind_error {e : LdapError} {w' : World}
    (h : authenticate (sqlServices S setup rng out) ldapInfo request w = (.error (.ldap e), w')) :
    (handleLdapMessage (sqlServices S setup rng out) ldapInfo userInfo (.bindRequest request) w).1 =
      .ok (some [.bindResponse ⟨e.code, "", e.message⟩], userInfo) := by
  have hbind : doBind (sqlServices S setup rng out) ldapInfo userInfo request w =
      (.ok (.bindResponse ⟨e.code, "", e.message⟩, userInfo), w') :=
    Eff.bind_ok.mpr ⟨.error (.ldap e), w', by rw [Eff.attempt, h], rfl⟩
  exact congrArg Prod.fst (Eff.bind_ok.mpr ⟨_, w', hbind, rfl⟩)

/-- Whatever was sent before: a bind leaves exactly the user bound that it authenticates, if and only
if nobody was bound before it or it authenticates somebody. -/
theorem bindSound_iff :
    BindSound (sqlServices S setup rng out) ldapInfo userInfo request w ↔
      userInfo = none ∨
        ∃ v, Authenticates (sqlServices S setup rng out) ldapInfo request w v := by
  by_cases hauth : ∃ v, Authenticates (sqlServices S setup rng out) ldapInfo request w v
  · refine iff_of_true ?_ (.inr hauth)
    obtain ⟨v, hv⟩ := hauth
    obtain ⟨p, hp⟩ := authenticate_of_authenticates hv
    refine ⟨_, _, handleLdapMessage_bind_ok hp, fun u => ⟨?_, ?_⟩, fun hcode => absurd rfl hcode⟩
    · rintro ⟨p', heq⟩
      cases heq
      exact ⟨rfl, hv⟩
    · rintro ⟨-, hu⟩
      have huv : u = v := Except.ok.inj (hu.resolves.symm.trans hv.resolves)
      exact ⟨p, by rw [huv]⟩
  · rcases hres : authenticate (sqlServices S setup rng out) ldapInfo request w with ⟨r, w'⟩
    cases r with
    | ok bound => exact absurd (authenticates_of_authenticate hres) hauth
    | error f =>
      obtain ⟨e, rfl, hcode⟩ := authenticate_refusal w f (by rw [hres])
      have hanswer : (handleLdapMessage (sqlServices S setup rng out) ldapInfo userInfo
          (.bindRequest request) w).1 = .ok (some [.bindResponse ⟨e.code, "", e.message⟩], userInfo) :=
        handleLdapMessage_bind_error hres
      constructor
      · rintro ⟨response, bound, h, -, hnone⟩
        rw [hanswer] at h
        cases h
        exact .inl (hnone hcode)
      · rintro (rfl | h)
        · exact ⟨_, _, hanswer, fun u => ⟨fun ⟨_, h⟩ => (nomatch h),
            fun ⟨h, _⟩ => absurd h hcode⟩, fun _ => rfl⟩
        · exact absurd h hauth

end Sql

section Sample

open Plain

def twoUsers : World :=
  Plain.world { Store.empty with
    users := (Lib.Table.empty.upsert { userRow "alice" with passwordHash := some [1] }).upsert
      (userRow "bob") }

def bindAs (name : String) : LdapBindRequest :=
  ⟨"uid=" ++ name ++ ",ou=people,dc=example,dc=com", .simple "secret"⟩

/-- `alice` binds, and `alice` stays bound when the next bind on the connection, for `bob`, fails. -/
theorem failed_bind_stays_bound :
    ((handleLdapMessage (sqlServices Opaque.plainSuite () () outside) Plain.ldapInfo none
      (.bindRequest (bindAs "alice")) twoUsers).1.toOption.map Prod.snd =
        some (some ⟨UserId.new "alice", .regular⟩)) ∧
    ¬BindSound (sqlServices Opaque.plainSuite () () outside) Plain.ldapInfo
      (some ⟨UserId.new "alice", .regular⟩) (bindAs "bob") twoUsers := by
  constructor
  · decide +kernel
  · rintro ⟨response, bound, hanswer, hbound, -⟩
    have hsame : (handleLdapMessage (sqlServices Opaque.plainSuite () () outside) Plain.ldapInfo
        (some ⟨UserId.new "alice", .regular⟩) (.bindRequest (bindAs "bob"))
        twoUsers).1.toOption.map Prod.snd = some (some ⟨UserId.new "alice", .regular⟩) := by
      decide +kernel
    rw [hanswer] at hsame
    obtain ⟨-, hauth⟩ := (hbound (UserId.new "alice")).mp ⟨.regular, Option.some.inj hsame⟩
    have hbob : getUserIdFromDistinguishedName (asciiLower (bindAs "bob").dn)
        Plain.ldapInfo.baseDn Plain.ldapInfo.baseDnStr = .ok (UserId.new "bob") := by
      decide +kernel
    have halice := Except.ok.inj (hbob.symm.trans hauth.resolves)
    exact absurd halice (by decide)

end Sample

end Ldap
end Klldap
