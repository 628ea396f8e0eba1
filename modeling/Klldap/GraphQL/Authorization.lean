import Klldap.CaseFolding
import Klldap.GraphQL.UpdateUser
import Klldap.Sql.RoundTrip

/-!
# Klldap.GraphQL.Authorization: what a session that is not an administrator's can change

A mutation has to respect its session: it fails and changes nothing, or it changes what belongs to
the session's own user or to a user whose password the session may change (`Respects`).

Most resolvers ask for the administrator's view and stop there. Three work on the session's own
user. Of these, the two that set a password hand the text of the user id to the Kerberos library,
which may read it as the principal of another user. Three ask for no view at all, and these change
the keytab, the Keycloak settings and the Keycloak server for whoever calls them.
-/

namespace Klldap
namespace GraphQL

open Lib (Eff)
open Lib.Eff (Frames Keeps)
open Lib.Bincode (Fits utf8)
open Lib.Text
open Opaque (Suite)

def isAdminUser [External] (db : Store) (u : UserId) : Bool :=
  (db.groupsOf u).any fun g => g.displayName == ⟨"lldap_admin"⟩

/-- The users whose data a session may change: its own, and those whose password it may change. -/
def MayChange [External] (v : ValidationResults) (db : Store) (u : UserId) : Prop :=
  v.user = u ∨ v.canChangePassword u (isAdminUser db u) = true

/-- The mutation failed and changed nothing, or changed only what its session may change. -/
def Respects [External] (out : Outside) (v : ValidationResults) (w : World)
    (r : Except FieldError Response × World) : Prop :=
  (∃ e, r = (.error e, w)) ∨ Confined out (MayChange v w.db) w r.2

/-- The mutations that ask the context for a view before they change anything. -/
def Mutation.asksForView : Mutation → Bool
  | .exportKeytabForKeycloak _ | .saveKeycloakConfig _ | .pushRealmToKeycloak _ => false
  | _ => true

/-- Where a mutation sets the key of a principal, the text of its user id names a principal of the
session's user. A password with a NUL does not get as far as the KDC. -/
def Mutation.NamesOwnPrincipal (out : Outside) (v : ValidationResults) : Mutation → Prop
  | .setUserPassword userId password => v.user = UserId.new userId →
      hasChar '\x00' password = false →
        Kerberos.NamesOwn out (v.user = ·) (Kerberos.getKerberosPrincipalName out userId)
  | .syncKerberosPassword userId _ => v.user = UserId.new userId →
      Kerberos.NamesOwn out (v.user = ·) (Kerberos.getKerberosPrincipalName out userId)
  | _ => True

section Views

variable {S : Suite} {σ α : Type} {R : σ → σ → Prop} [Std.Refl R]
  {h : Services S σ} {v : ValidationResults} {message : String}

theorem frames_of_admin (hv : v.permission ≠ .admin) {f : Services S σ → Field σ α} :
    Frames R (orUnauthorized message (getAdminHandler h v) >>= f) := by
  rw [getAdminHandler_eq_none hv]
  exact fun s => refl_of R s

theorem frames_of_writeable (hv : v.permission ≠ .admin) {u : UserId}
    {f : Services S σ → Field σ α} (hf : v.user = u → Frames R (f h)) :
    Frames R (orUnauthorized message (getWriteableHandler h v u) >>= f) := by
  cases hw : getWriteableHandler h v u with
  | none => exact fun s => refl_of R s
  | some h' =>
    obtain ⟨hu, rfl⟩ := getWriteableHandler_eq_some hv hw
    exact fun s => hf hu s

end Views

section Confinement

variable [External] {S : Suite} {setup : S.ServerSetup} {rng : S.Coins} {out : Outside}
  {v : ValidationResults}

theorem syncKerberosIfEnabled_confined {may : UserId → Prop} {name password : String}
    (hname : hasChar '\x00' password = false →
      Kerberos.NamesOwn out may (Kerberos.getKerberosPrincipalName out name)) (syncEnabled : Bool) :
    Frames (Confined out may)
      ((sqlServices S setup rng out).syncKerberosIfEnabled syncEnabled name password) :=
  Frames.ite (Kerberos.syncKerberosPrincipal_confined hname) (Keeps.pure _).frames

theorem registerPassword_confined (hS : S.Lawful) {u : UserId} (hu : Fits u.asStr)
    (password : String) :
    Frames (Confined out (u = ·)) (registerPassword (sqlServices S setup rng out) u password) := by
  refine (Keeps.lift _).frames.mapErr.bind fun (_, message) => ?_
  refine (onDb_keeps (Keeps.lift _)).frames.mapErr.bind_returns fun start hstart => ?_
  refine (Keeps.lift _).frames.mapErr.bind fun upload => ?_
  refine (onDb_confined (Opaque.registrationFinish_ownRows ?_)).mapErr
  intro u' hu'
  obtain ⟨w, w', hrun⟩ := hstart
  have hok := onDb_ok (Eff.mapErr_ok.mp hrun)
  have hself := Opaque.registrationTarget_of_registrationStart hS hu hok
  exact Except.ok.inj (hu'.symm.trans hself)

theorem updateUser_confined (hv : v.permission ≠ .admin) (user : UpdateUserInput) :
    Frames (Confined out (v.user = ·)) (updateUser (serverContext S setup rng out v) user) := by
  refine frames_of_writeable hv fun hu => ?_
  refine (onDb_keeps (Keeps.query _)).frames.mapErr.bind_returns fun schema hquery => ?_
  refine (Keeps.lift _).frames.bind_returns fun request hlift => ?_
  obtain ⟨w, w', hquery⟩ := hquery
  obtain ⟨w₁, w₁', hlift⟩ := hlift
  have hschema : Sql.getSchema w.db = .ok schema :=
    congrArg Prod.fst (onDb_ok (Eff.mapErr_ok.mp hquery))
  have hadmin : (serverContext S setup rng out v).validationResult.isAdmin = false := by
    simp [serverContext, ValidationResults.isAdmin, hv]
  have hrequest := congrArg Prod.fst hlift
  rw [hadmin] at hrequest
  have hid : v.user = request.userId := hu.trans (updateUserRequest_userId hrequest).symm
  rw [hid]
  refine (Klldap.updateUser_confined (updateUserRequest_switch hschema hrequest)).mapErr.bind ?_
  exact fun _ => (Keeps.pure _).frames

theorem setUserPassword_confined (hS : S.Lawful) (hv : v.permission ≠ .admin)
    (hfits : Fits v.user.asStr) {userId password : String}
    (hown : (Mutation.setUserPassword userId password).NamesOwnPrincipal out v) :
    Frames (Confined out (v.user = ·))
      (setUserPassword (serverContext S setup rng out v) userId password) := by
  refine frames_of_writeable hv fun hu => ?_
  have hname := hown hu
  rw [hu] at hfits hname ⊢
  refine (registerPassword_confined hS hfits password).bind fun _ => ?_
  refine (onDb_keeps (Keeps.query _)).frames.mapErr.bind fun user => ?_
  refine (onDb_keeps (Keeps.query _)).frames.mapErr.bind fun schema => ?_
  refine (syncKerberosIfEnabled_confined hname _).attempt.bind fun _ => ?_
  refine (ensureKerberosPrincipalConsistency_confined _ _).attempt.bind fun _ => ?_
  exact (Keeps.pure _).frames

theorem syncKerberosPassword_confined (hv : v.permission ≠ .admin)
    {userId encryptedPassword : String}
    (hown : (Mutation.syncKerberosPassword userId encryptedPassword).NamesOwnPrincipal out v) :
    Frames (Confined out (v.user = ·))
      (syncKerberosPassword (serverContext S setup rng out v) userId encryptedPassword) := by
  refine frames_of_writeable hv fun hu => ?_
  have hname := hown hu
  rw [hu] at hname ⊢
  refine (Keeps.lift _).frames.mapErr.bind fun plainPassword => ?_
  refine (onDb_keeps (Keeps.query _)).frames.mapErr.bind fun user => ?_
  refine (onDb_keeps (Keeps.query _)).frames.mapErr.bind fun schema => ?_
  refine (syncKerberosIfEnabled_confined (fun _ => hname) _).mapErr.bind fun _ => ?_
  refine (ensureKerberosPrincipalConsistency_confined _ _).attempt.bind fun _ => ?_
  exact (Keeps.pure _).frames

theorem execute_confined (hS : S.Lawful) (hv : v.permission ≠ .admin) (hfits : Fits v.user.asStr)
    {m : Mutation} (hm : m.asksForView = true) (hown : m.NamesOwnPrincipal out v) :
    Frames (Confined out (v.user = ·)) (m.execute (serverContext S setup rng out v)) := by
  cases m with
  | setUserPassword userId password => exact setUserPassword_confined hS hv hfits hown
  | updateUser user => exact updateUser_confined hv user
  | syncKerberosPassword userId encrypted => exact syncKerberosPassword_confined hv hown
  | testKeycloakConnection input =>
    refine (Keeps.lift _).frames.attempt.bind fun answer => ?_
    cases answer with
    | ok message => exact (Keeps.pure _).frames
    | error e => exact (Keeps.pure _).frames
  | setPosixSettings settings =>
    exact (Keeps.lift _).frames.bind fun _ => frames_of_admin hv
  | exportKeytabForKeycloak hostname => cases hm
  | saveKeycloakConfig config => cases hm
  | pushRealmToKeycloak input => cases hm
  | _ => exact frames_of_admin hv

end Confinement

/-! ## The whole interface -/

/-- An outside that grants every call, with the realm and the names of `out`. -/
def granting (out : Outside) : Outside :=
  { Plain.outside with
    realm := out.realm
    krb5ParseName := out.krb5ParseName
    decryptPassword := fun _ => .ok "" }

theorem granting_named {out : Outside} {text : String} :
    Kerberos.named (granting out) text = Kerberos.named out text := rfl

theorem syncKerberosPrincipal_sets {out : Outside} {name password principal : String}
    (hname : Kerberos.named out (Kerberos.getKerberosPrincipalName out name) = some principal)
    (hpassword : hasChar '\x00' password = false) (w : World) :
    Kerberos.syncKerberosPrincipal (granting out) name password w =
      (.ok (), { w with kdc := w.kdc.upsert ⟨principal, .password password⟩ }) := by
  have hparse (w : World) : Kerberos.parseName (granting out)
      (Kerberos.getKerberosPrincipalName (granting out) name) w = (.ok principal, w) := by
    rw [Kerberos.parseName, granting_named]
    simp only [Kerberos.getKerberosPrincipalName] at hname ⊢
    simp [granting, hname]
  have hkadm (call : KadmCall) (w : World) : Kerberos.kadm (granting out) call w = (.ok (), w) := rfl
  have hcstring (w : World) : Kerberos.passwordCString password w = (.ok (), w) := by
    simp [Kerberos.passwordCString, hpassword]
  cases hkey : w.kdc.find? principal with
  | none =>
    simp [Kerberos.syncKerberosPrincipal, Kerberos.chpassPrincipal, Kerberos.createPrincipal,
      Kerberos.setKey, Eff.bind_run, Eff.attempt, Eff.mapErr, Except.mapError, hparse, hkadm,
      hcstring, hkey]
  | some key =>
    simp [Kerberos.syncKerberosPrincipal, Kerberos.chpassPrincipal, Kerberos.setKey, Eff.bind_run,
      Eff.attempt, Eff.mapErr, Except.mapError, hparse, hkadm, hcstring, hkey]

/-- A database of a user whose password goes to the KDC, and of an administrator. -/
def syncedStore (u owner : UserId) : Store :=
  { Store.empty with
    users := ⟨[⟨u, ⟨""⟩, "", none, 0, none, ⟨""⟩, 0, 0, none⟩], by simp⟩
    userAttributes := ⟨[⟨u, .new "kerberossync", utf8 "1"⟩], by simp⟩
    groups := ⟨[Plain.groupRow 1 "lldap_admin"], by simp⟩
    memberships := ⟨[⟨owner, ⟨1⟩⟩], by simp⟩ }

section Interface

variable [External] {v : ValidationResults} {out : Outside}

omit [External] in
theorem exportKeytabForKeycloak_keytab (out : Outside) (hostname : String) (w : World) :
    (Kerberos.exportKeytabForKeycloak (granting out) hostname w).2.keytab ≠ some "" := by
  have hkadm (call : KadmCall) (w : World) : Kerberos.kadm (granting out) call w = (.ok (), w) := rfl
  unfold Kerberos.exportKeytabForKeycloak
  simp only [Eff.bind_run, Eff.mapErr, hkadm, Except.mapError, Eff.writes, Kerberos.setKey,
    Kerberos.parseName]
  cases Kerberos.named (granting out) _ with
  | none => simp
  | some name => simp [String.append_assoc]

omit [External] in
theorem exportKeytabForKeycloak_snd {S : Suite} (ctx : Context S World) (hostname : String)
    (w : World) :
    (exportKeytabForKeycloak ctx hostname w).2 =
      (ctx.handler.exportKeytabForKeycloak hostname w).2 := by
  unfold exportKeytabForKeycloak
  rw [Eff.bind_run]
  unfold Eff.attempt
  cases ctx.handler.exportKeytabForKeycloak hostname w with
  | mk r w' => cases r <;> rfl

theorem exportKeytab_not_respects {S : Suite} {setup : S.ServerSetup} {rng : S.Coins}
    (hostname : String) (w : World) (hw : w.keytab = some "") :
    ¬Respects (granting out) v w
      (exportKeytabForKeycloak (serverContext S setup rng (granting out) v) hostname w) := by
  have hkeytab := exportKeytabForKeycloak_keytab out hostname w
  have hsnd := exportKeytabForKeycloak_snd (serverContext S setup rng (granting out) v) hostname w
  have hhandler : (serverContext S setup rng (granting out) v).handler.exportKeytabForKeycloak =
      Kerberos.exportKeytabForKeycloak (granting out) := rfl
  rw [← hhandler, ← hsnd] at hkeytab
  rintro (⟨e, he⟩ | hc)
  · rw [he] at hkeytab
    exact hkeytab hw
  · exact hkeytab (hc.keytab.trans hw)

theorem not_respects_of_asksForView {S : Suite} {setup : S.ServerSetup} {rng : S.Coins}
    {m : Mutation} (hm : m.asksForView = false) :
    ¬Respects (granting out) v { Plain.world .empty with keytab := some "" }
      (m.execute (serverContext S setup rng (granting out) v)
        { Plain.world .empty with keytab := some "" }) := by
  cases m with
  | exportKeytabForKeycloak hostname =>
    rw [Mutation.execute]
    exact exportKeytab_not_respects hostname _ rfl
  | saveKeycloakConfig config =>
    rintro (⟨e, he⟩ | hc)
    · cases congrArg Prod.fst he
    · cases hc.keycloakConfig
  | pushRealmToKeycloak input =>
    rintro (⟨e, he⟩ | hc)
    · cases congrArg Prod.fst he
    · cases hc.keycloakRealms
  | _ => cases hm

theorem isAdminUser_syncedStore (u owner : UserId) : isAdminUser (syncedStore u owner) owner = true := by
  simp [isAdminUser, syncedStore, Store.groupsOf, Store.isMember, Lib.Table.find?, Plain.groupRow,
    BEq.beq, compareStr_eq_iff]

theorem readUserAttribute_switch {schema : Schema}
    (hschema : schema.userAttributes = PublicSchema.userAttributes) (u : UserId) :
    Sql.readUserAttribute schema ⟨u, .new "kerberossync", utf8 "1"⟩ =
      .ok ⟨.new "kerberossync", .integer (.singleton 1)⟩ := by
  have htype : getAttributeType PublicSchema.userAttributes (AttributeName.new "kerberossync").asStr =
      some (.integer, false) := rfl
  have hvalue : deserializeAttributeValue (utf8 "1") .integer false = .integer (.singleton 1) := by
    rw [deserializeAttributeValue, textOr_utf8]
    rfl
  simp only [Sql.readUserAttribute, Klldap.deserializeAttribute, hschema, htype, hvalue]
  rfl

theorem extractKerberosSync_syncedStore (u owner : UserId) (db : Store) {row : UserRow}
    (hdb : db = { syncedStore u owner with users := db.users })
    (hrow : db.users.find? u = some row) (hkrb : row.krbPrincipalName = none) :
    ∃ schema user, Sql.getUserDetails u db = .ok user ∧ Sql.getSchema db = .ok schema ∧
      extractKerberosSync schema user.attributes = true := by
  have hschema : ∃ schema, Sql.getSchema db = .ok schema ∧
      schema.userAttributes = PublicSchema.userAttributes := by
    rw [hdb]
    exact ⟨_, rfl, rfl⟩
  have hattrs : db.userAttributes.rows.filter (fun a => a.userId = u) =
      [⟨u, .new "kerberossync", utf8 "1"⟩] := by
    rw [hdb]
    simp [syncedStore]
  obtain ⟨schema, hschema, hpublic⟩ := hschema
  refine ⟨schema, { row.toUser with attributes := [⟨.new "kerberossync", .integer (.singleton 1)⟩] },
    ?_, hschema, ?_⟩
  · have hread := readUserAttribute_switch hpublic u
    have hsorted (a : UserAttributeRow) : Sql.orderBy (fun a => a.attributeName.asStr) [a] = [a] := rfl
    simp only [Sql.getUserDetails, hrow, hattrs, hschema, Sql.readUser]
    rw [hsorted]
    simp [hread, User.materializeProtectedFields, UserRow.toUser, hkrb, bind, Except.bind, pure,
      Except.pure]
  · simp only [extractKerberosSync, hpublic]
    rfl

theorem not_respects_of_key {owner : UserId} {principal : String}
    {r : Except FieldError Response × World} (hv : v.permission ≠ .admin)
    (hother : ¬Kerberos.OwnPrincipal out (v.user = ·) principal)
    (howner : ∀ name, principal = Kerberos.getKerberosPrincipalName out name →
      UserId.new name = owner)
    (hkey : (r.2.kdc.find? principal).isSome = true) :
    ¬Respects out v (Plain.world (syncedStore v.user owner)) r := by
  rintro (⟨e, rfl⟩ | hc)
  · cases hkey
  · rw [hc.kdc principal] at hkey
    · cases hkey
    · rintro name hmay rfl
      have hown : v.user ≠ UserId.new name := fun hu => hother ⟨name, hu, rfl⟩
      rcases hmay with hu | hpassword
      · exact hown hu
      · rw [howner name rfl] at hpassword hown
        simp [ValidationResults.canChangePassword, Plain.world, isAdminUser_syncedStore, hv, hown]
          at hpassword

theorem registerPassword_plain (out : Outside) {u : UserId} (hfits : Fits u.asStr) (w : World)
    (hu : (w.db.users.find? u).isSome = true) (password : String) :
    registerPassword (sqlServices Opaque.plainSuite () () (granting out)) u password w =
      (.ok (), { w with db := Opaque.setPasswordFile u [1] 1 w.db }) := by
  obtain ⟨start, hstart⟩ : ∃ start, ∀ db : Store,
      Opaque.registrationStart Opaque.plainSuite () () ⟨u, ()⟩ db = (.ok start, db) := ⟨_, fun _ => rfl⟩
  have htarget := Opaque.registrationTarget_of_registrationStart Opaque.plainSuite_lawful hfits
    (hstart w.db)
  have hfinish : Opaque.registrationFinish Opaque.plainSuite () 1 ⟨start.serverData, ()⟩ w.db =
      (.ok (), Opaque.setPasswordFile u [1] 1 w.db) :=
    Opaque.registrationFinish_ok.mpr ⟨u, htarget, hu, rfl⟩
  have hstart' : (sqlServices Opaque.plainSuite () () (granting out)).registrationStart ⟨u, ()⟩ w =
      (.ok start, w) := by
    show onDb (Opaque.registrationStart Opaque.plainSuite () () ⟨u, ()⟩) w = _
    rw [onDb, Eff.zoom, hstart]
  have hfinish' : (sqlServices Opaque.plainSuite () () (granting out)).registrationFinish
      ⟨start.serverData, ()⟩ w = (.ok (), { w with db := Opaque.setPasswordFile u [1] 1 w.db }) := by
    show onDb (Opaque.registrationFinish Opaque.plainSuite () 1 ⟨start.serverData, ()⟩) w = _
    rw [onDb, Eff.zoom, hfinish]
  refine Eff.bind_ok.mpr ⟨((), ()), w, rfl, ?_⟩
  refine Eff.bind_ok.mpr ⟨start, w, Eff.mapErr_ok.mpr hstart', ?_⟩
  refine Eff.bind_ok.mpr ⟨(), w, rfl, ?_⟩
  exact Eff.mapErr_ok.mpr hfinish'

theorem syncKerberosIfEnabled_sets (S : Suite) (setup : S.ServerSetup) (rng : S.Coins)
    {userId password principal : String} (hpassword : hasChar '\x00' password = false)
    (hname : Kerberos.named out (Kerberos.getKerberosPrincipalName out userId) = some principal)
    (w : World) :
    (sqlServices S setup rng (granting out)).syncKerberosIfEnabled true userId password w =
      (.ok (), { w with kdc := w.kdc.upsert ⟨principal, .password password⟩ }) := by
  rw [Services.syncKerberosIfEnabled, if_pos rfl]
  exact syncKerberosPrincipal_sets hname hpassword w

omit [External] in
theorem onDb_kdc {ε α : Type} (m : Eff Store ε α) (w : World) : (onDb m w).2.kdc = w.kdc := by
  rw [onDb, Eff.zoom]

theorem ensureKerberosPrincipalConsistency_key {S : Suite} {setup : S.ServerSetup} {rng : S.Coins}
    {u : UserId} {enabled : Bool} {w : World} {principal : String} {key : PrincipalKey} :
    (((sqlServices S setup rng out).ensureKerberosPrincipalConsistency u enabled
      { w with kdc := w.kdc.upsert ⟨principal, key⟩ }).2.kdc.find? principal).isSome = true := by
  show ((onDb _ _).2.kdc.find? principal).isSome = true
  rw [onDb_kdc, Lib.Table.find?_upsert, if_pos rfl]
  rfl

omit [External] in
theorem query_run {α : Type} {q : Store → Except DomainError α} {a : α} {w : World}
    (h : q w.db = .ok a) : onDb (Eff.query q) w = (.ok a, w) := by
  rw [onDb, Eff.zoom, Eff.query, h]

section

variable {S : Suite} {h : Services S World} {userId password : String} {w w₁ w₂ : World}
  {user : User} {schema : Schema}
  (hview : getWriteableHandler h v (UserId.new userId) = some h)
  (hdetails : h.getUserDetails (UserId.new userId) w₁ = (.ok user, w₁))
  (hschema : h.getSchema w₁ = (.ok schema, w₁))
  (hsync : h.syncKerberosIfEnabled (extractKerberosSync schema user.attributes) userId password w₁ =
    (.ok (), w₂))

include hview hdetails hschema hsync

theorem setUserPassword_snd
    (hregister : registerPassword h (UserId.new userId) password w = (.ok (), w₁)) :
    (setUserPassword ⟨h, v⟩ userId password w).2 =
      (h.ensureKerberosPrincipalConsistency (UserId.new userId)
        (extractKerberosSync schema user.attributes) w₂).2 := by
  simp only [setUserPassword, hview, orUnauthorized, context, orFail, Eff.bind_run, Eff.pure_run,
    Eff.attempt, Eff.mapErr, Except.mapError, hregister, hdetails, hschema, hsync]

theorem syncKerberosPassword_snd {encrypted : String}
    (hdecrypt : h.decryptPassword encrypted = .ok password) :
    (syncKerberosPassword ⟨h, v⟩ userId encrypted w₁).2 =
      (h.ensureKerberosPrincipalConsistency (UserId.new userId)
        (extractKerberosSync schema user.attributes) w₂).2 := by
  simp only [syncKerberosPassword, hview, orUnauthorized, withCause, withDetails, orFail,
    Eff.bind_run, Eff.pure_run, Eff.lift_run, Eff.attempt, Eff.mapErr, Except.mapError, hdecrypt,
    hdetails, hschema, hsync]

end

omit [External] in
theorem syncedStore_find? (u owner : UserId) :
    (syncedStore u owner).users.find? u =
      some ⟨u, ⟨""⟩, "", none, 0, none, ⟨""⟩, 0, 0, none⟩ := by
  simp [syncedStore, Lib.Table.find?]

theorem writeable_self (S : Suite) (setup : S.ServerSetup) (rng : S.Coins) {userId : String}
    (hu : v.user = UserId.new userId) :
    getWriteableHandler (sqlServices S setup rng out) v (UserId.new userId) =
      some (sqlServices S setup rng out) := by
  simp [getWriteableHandler, ValidationResults.canWrite, hu]

theorem setUserPassword_key {userId password principal : String} {owner : UserId}
    (hu : v.user = UserId.new userId) (hfits : Fits v.user.asStr)
    (hpassword : hasChar '\x00' password = false)
    (hname : Kerberos.named out (Kerberos.getKerberosPrincipalName out userId) = some principal) :
    ((setUserPassword (serverContext Opaque.plainSuite () () (granting out) v) userId password
      (Plain.world (syncedStore v.user owner))).2.kdc.find? principal).isSome = true := by
  have hfind := syncedStore_find? v.user owner
  have hregister := registerPassword_plain out hfits (Plain.world (syncedStore v.user owner))
    (by rw [Plain.world, hfind]; rfl) password
  obtain ⟨schema, user, huser, hschema, hon⟩ := extractKerberosSync_syncedStore v.user owner
    (Opaque.setPasswordFile v.user [1] 1 (syncedStore v.user owner)) rfl
    (by rw [Opaque.setPasswordFile, Lib.Table.find?_update, if_pos rfl, hfind]; rfl) rfl
  have hregister' : registerPassword (sqlServices Opaque.plainSuite () () (granting out))
      (UserId.new userId) password (Plain.world (syncedStore v.user owner)) =
      (.ok (), Plain.world (Opaque.setPasswordFile v.user [1] 1 (syncedStore v.user owner))) := by
    rw [← hu]
    exact hregister
  have huser' : Sql.getUserDetails (UserId.new userId)
      (Plain.world (Opaque.setPasswordFile v.user [1] 1 (syncedStore v.user owner))).db =
      .ok user := by
    rw [← hu]
    exact huser
  have hkey := syncKerberosIfEnabled_sets Opaque.plainSuite () () hpassword hname
    (Plain.world (Opaque.setPasswordFile v.user [1] 1 (syncedStore v.user owner)))
  rw [← hon] at hkey
  show ((setUserPassword ⟨sqlServices Opaque.plainSuite () () (granting out), v⟩ userId password
    _).2.kdc.find? principal).isSome = true
  rw [setUserPassword_snd (writeable_self _ _ _ hu) (query_run huser')
    (query_run hschema) hkey hregister']
  exact ensureKerberosPrincipalConsistency_key

theorem syncKerberosPassword_key {S : Suite} {setup : S.ServerSetup} {rng : S.Coins}
    {userId encrypted principal : String} {owner : UserId} (hu : v.user = UserId.new userId)
    (hname : Kerberos.named out (Kerberos.getKerberosPrincipalName out userId) = some principal) :
    ((syncKerberosPassword (serverContext S setup rng (granting out) v) userId encrypted
      (Plain.world (syncedStore v.user owner))).2.kdc.find? principal).isSome = true := by
  obtain ⟨schema, user, huser, hschema, hon⟩ := extractKerberosSync_syncedStore v.user owner
    (syncedStore v.user owner) rfl (syncedStore_find? v.user owner) rfl
  have huser' : Sql.getUserDetails (UserId.new userId) (Plain.world (syncedStore v.user owner)).db =
      .ok user := by
    rw [← hu]
    exact huser
  have hkey := syncKerberosIfEnabled_sets S setup rng (show hasChar '\x00' "" = false from rfl) hname
    (Plain.world (syncedStore v.user owner))
  rw [← hon] at hkey
  have hdecrypt : (sqlServices S setup rng (granting out)).decryptPassword encrypted = .ok "" := rfl
  rw [serverContext, syncKerberosPassword_snd (writeable_self S setup rng hu) (query_run huser')
    (query_run hschema) hkey hdecrypt]
  exact ensureKerberosPrincipalConsistency_key

omit [External] in
theorem getKerberosPrincipalName_inj {name name' : String}
    (h : Kerberos.getKerberosPrincipalName out name = Kerberos.getKerberosPrincipalName out name') :
    name = name' := by
  simpa [Kerberos.getKerberosPrincipalName, ← String.toList_inj] using h

omit [External] in
theorem exists_owner (out : Outside) (principal : String) :
    ∃ owner, ∀ name, principal = Kerberos.getKerberosPrincipalName out name →
      UserId.new name = owner := by
  by_cases h : ∃ name, principal = Kerberos.getKerberosPrincipalName out name
  · obtain ⟨name, rfl⟩ := h
    refine ⟨UserId.new name, fun name' hname => ?_⟩
    rw [getKerberosPrincipalName_inj hname]
  · exact ⟨UserId.new "", fun name hname => absurd ⟨name, hname⟩ h⟩

omit [External] in
theorem exists_of_not_namesOwn {may : UserId → Prop} {text : String}
    (h : ¬Kerberos.NamesOwn out may text) :
    ∃ principal, Kerberos.named out text = some principal ∧
      ¬Kerberos.OwnPrincipal (granting out) may principal := by
  simp only [Kerberos.NamesOwn, not_forall] at h
  obtain ⟨principal, hname, hother⟩ := h
  exact ⟨principal, hname, hother⟩

theorem not_respects_of_not_namesOwn (hv : v.permission ≠ .admin) (hfits : Fits v.user.asStr)
    {m : Mutation} (hm : ¬m.NamesOwnPrincipal out v) :
    ∃ w, ¬Respects (granting out) v w
      (m.execute (serverContext Opaque.plainSuite () () (granting out) v) w) := by
  cases m with
  | setUserPassword userId password =>
    simp only [Mutation.NamesOwnPrincipal, Classical.not_imp] at hm
    obtain ⟨hu, hpassword, hm⟩ := hm
    obtain ⟨principal, hname, hother⟩ := exists_of_not_namesOwn hm
    obtain ⟨owner, howner⟩ := exists_owner (granting out) principal
    refine ⟨Plain.world (syncedStore v.user owner), not_respects_of_key hv hother howner ?_⟩
    rw [Mutation.execute]
    exact setUserPassword_key hu hfits hpassword hname
  | syncKerberosPassword userId encrypted =>
    simp only [Mutation.NamesOwnPrincipal, Classical.not_imp] at hm
    obtain ⟨hu, hm⟩ := hm
    obtain ⟨principal, hname, hother⟩ := exists_of_not_namesOwn hm
    obtain ⟨owner, howner⟩ := exists_owner (granting out) principal
    refine ⟨Plain.world (syncedStore v.user owner), not_respects_of_key hv hother howner ?_⟩
    rw [Mutation.execute]
    exact syncKerberosPassword_key hu hname
  | _ => exact absurd trivial hm

omit [External] in
theorem namesOwnPrincipal_congr {out out' : Outside} {m : Mutation} (hrealm : out'.realm = out.realm)
    (hparse : out'.krb5ParseName = out.krb5ParseName) :
    m.NamesOwnPrincipal out' v ↔ m.NamesOwnPrincipal out v := by
  have hnamed : Kerberos.named out' = Kerberos.named out := by
    funext text
    rw [Kerberos.named, Kerberos.named, hparse]
  have hprincipal : Kerberos.getKerberosPrincipalName out' = Kerberos.getKerberosPrincipalName out := by
    funext name
    rw [Kerberos.getKerberosPrincipalName, Kerberos.getKerberosPrincipalName, hrealm]
  cases m <;> simp only [Mutation.NamesOwnPrincipal, Kerberos.NamesOwn, Kerberos.OwnPrincipal,
    hnamed, hprincipal]

/-- The mutations that respect every session which is not an administrator's, in every world and
whatever the outside answers, are those that ask for a view and set no key but of a principal of
the session's user. The realm and the way the Kerberos library reads names are those of `out`. -/
theorem respects_iff (hv : v.permission ≠ .admin) (hfits : Fits v.user.asStr) (out : Outside)
    (m : Mutation) :
    (∀ S : Suite, S.Lawful → ∀ setup rng out' w, out'.realm = out.realm →
      out'.krb5ParseName = out.krb5ParseName →
        Respects out' v w (m.execute (serverContext S setup rng out' v) w)) ↔
      m.asksForView = true ∧ m.NamesOwnPrincipal out v := by
  constructor
  · intro h
    have hgranting := h _ Opaque.plainSuite_lawful () () (granting out)
    constructor
    · by_contra hm
      exact not_respects_of_asksForView (by simpa using hm) (hgranting _ rfl rfl)
    · by_contra hm
      obtain ⟨w, hw⟩ := not_respects_of_not_namesOwn hv hfits hm
      exact hw (hgranting w rfl rfl)
  · intro ⟨hm, hown⟩ S hS setup rng out' w hrealm hparse
    have hown' := (namesOwnPrincipal_congr hrealm hparse).mpr hown
    exact .inr ((execute_confined hS hv hfits hm hown' w).mono fun u hu => .inl hu)

end Interface

open Plain in
theorem setUserPassword_respects :
    let bob : ValidationResults := ⟨UserId.new "bob", .regular⟩
    let w := world (syncedStore (UserId.new "bob") (UserId.new "admin"))
    let r := (Mutation.setUserPassword "Bob" "secret").execute
      (serverContext Opaque.plainSuite () () outside bob) w
    Respects outside bob w r ∧ r.1 = .ok .success ∧
      r.2.kdc.find? "Bob@EXAMPLE.COM" = some ⟨"Bob@EXAMPLE.COM", .password "secret"⟩ := by
  intro bob w r
  have hnames : Kerberos.named outside (Kerberos.getKerberosPrincipalName outside "Bob") =
      some (Kerberos.getKerberosPrincipalName outside "Bob") := by decide
  refine ⟨(respects_iff (by decide) (by decide) outside (.setUserPassword "Bob" "secret")).mpr
    ⟨rfl, ?_⟩ _ Opaque.plainSuite_lawful () () outside w rfl rfl, by rfl, by rfl⟩
  intro _ _ principal hp
  rw [hnames] at hp
  cases hp
  exact ⟨"Bob", rfl, rfl⟩

open Plain in
/-- A regular user has the keytab of the Keycloak service exported and its key replaced, and one
whose name has a backslash sets the key of an administrator. -/
theorem exportKeytab_of_regular_user :
    (¬Respects outside ⟨UserId.new "bob", .regular⟩ (world .empty)
      ((Mutation.exportKeytabForKeycloak "keycloak").execute
        (serverContext Opaque.plainSuite () () outside ⟨UserId.new "bob", .regular⟩)
        (world .empty))) ∧
    ¬Respects outside ⟨UserId.new "al\\ice", .regular⟩
      (world (syncedStore (UserId.new "al\\ice") (UserId.new "alice")))
      ((Mutation.setUserPassword "al\\ice" "secret").execute
        (serverContext Opaque.plainSuite () () outside ⟨UserId.new "al\\ice", .regular⟩)
        (world (syncedStore (UserId.new "al\\ice") (UserId.new "alice")))) := by
  constructor
  · rintro (⟨e, he⟩ | hc)
    · cases congrArg Prod.fst he
    · cases hc.keytab
  · have halice {name : String}
        (h : "alice@EXAMPLE.COM" = Kerberos.getKerberosPrincipalName outside name) : name = "alice" :=
      (getKerberosPrincipalName_inj h.symm)
    have hkey : (((Mutation.setUserPassword "al\\ice" "secret").execute
        (serverContext Opaque.plainSuite () () outside ⟨UserId.new "al\\ice", .regular⟩)
        (world (syncedStore (UserId.new "al\\ice") (UserId.new "alice")))).2.kdc.find?
          "alice@EXAMPLE.COM").isSome = true := by decide +kernel
    refine not_respects_of_key (by decide) ?_ (fun name hname => by rw [halice hname]) hkey
    rintro ⟨name, hname, hprincipal⟩
    rw [halice hprincipal] at hname
    exact absurd hname (by decide)

end GraphQL
end Klldap
