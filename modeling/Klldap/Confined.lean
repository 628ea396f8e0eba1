import Klldap.Backend

/-!
# Klldap.Confined: what the writes of a user's own procedures touch

`OwnRows may` relates two databases that differ only in the rows of users that `may` admits, and
`Confined out may` two worlds that differ only in these rows and in the Kerberos principals named
after such users. Both are reflexive and transitive, so the frame rules carry them through a
procedure from its primitive writes.
-/

namespace Klldap

open Lib (Eff)
open Lib.Eff (Frames Keeps)
open Lib.Text

/-- The databases agree but for the rows of users that `may` admits. -/
structure OwnRows (may : UserId → Prop) (db db' : Store) : Prop where
  users : ∀ u, ¬may u → db'.users.find? u = db.users.find? u
  userAttributes : ∀ u name, ¬may u →
    db'.userAttributes.find? (u, name) = db.userAttributes.find? (u, name)
  others : db' = { db with users := db'.users, userAttributes := db'.userAttributes }

/-- The worlds agree but for what belongs to the users that `may` admits. A principal belongs to a
user when it is named by a spelling of the user's id. -/
structure Confined (out : Outside) (may : UserId → Prop) (w w' : World) : Prop where
  db : OwnRows may w.db w'.db
  kdc : ∀ p, (∀ name, may (UserId.new name) → p ≠ Kerberos.getKerberosPrincipalName out name) →
    w'.kdc.find? p = w.kdc.find? p
  keytab : w'.keytab = w.keytab
  keycloakConfig : w'.keycloakConfig = w.keycloakConfig
  keycloakRealms : w'.keycloakRealms = w.keycloakRealms

section Order

variable {may : UserId → Prop} {out : Outside}

instance : Std.Refl (OwnRows may) where
  refl _ := ⟨fun _ _ => rfl, fun _ _ _ => rfl, rfl⟩

instance : IsTrans Store (OwnRows may) where
  trans _ _ _ hab hbc := by
    refine ⟨fun u hu => (hbc.users u hu).trans (hab.users u hu),
      fun u name hu => (hbc.userAttributes u name hu).trans (hab.userAttributes u name hu), ?_⟩
    have hb := hab.others
    have hc := hbc.others
    rw [hb] at hc
    exact hc

instance : Std.Refl (Confined out may) where
  refl w := ⟨refl_of (OwnRows may) w.db, fun _ _ => rfl, rfl, rfl, rfl⟩

instance : IsTrans World (Confined out may) where
  trans _ _ _ hab hbc :=
    ⟨trans_of (OwnRows may) hab.db hbc.db, fun p hp => (hbc.kdc p hp).trans (hab.kdc p hp),
      hbc.keytab.trans hab.keytab, hbc.keycloakConfig.trans hab.keycloakConfig,
      hbc.keycloakRealms.trans hab.keycloakRealms⟩

theorem Confined.mono {may' : UserId → Prop} {w w' : World} (h : Confined out may w w')
    (hm : ∀ u, may u → may' u) : Confined out may' w w' where
  db := ⟨fun u hu => h.db.users u fun hu' => hu (hm u hu'),
    fun u name hu => h.db.userAttributes u name fun hu' => hu (hm u hu'), h.db.others⟩
  kdc p hp := h.kdc p fun name hname => hp name (hm _ hname)
  keytab := h.keytab
  keycloakConfig := h.keycloakConfig
  keycloakRealms := h.keycloakRealms

theorem onDb_confined {ε α : Type} {m : Eff Store ε α} (h : Frames (OwnRows may) m) :
    Frames (Confined out may) (onDb m) :=
  h.zoom fun _ _ hdb => ⟨hdb, fun _ _ => rfl, rfl, rfl, rfl⟩

theorem onDb_keeps {ε α : Type} {m : Eff Store ε α} (h : Keeps m) : Keeps (onDb m) :=
  h.zoom fun _ => rfl

end Order

/-! ## Database writes -/

namespace Sql

variable {u : UserId}

theorem updateUserRow_ownRows (f : UserRow → UserRow) (hf : ∀ r, (f r).userId = r.userId) :
    Frames (OwnRows (u = ·)) (updateUserRow u f hf) := by
  refine Frames.reads_option (Keeps.fail _).frames fun row => ?_
  refine Frames.writes fun db => ⟨?_, fun _ _ _ => rfl, rfl⟩
  intro u' hu'
  rw [Lib.Table.find?_update, if_neg fun h => hu' h.symm]

theorem upsertUserAttribute_ownRows {row : UserAttributeRow} (hrow : row.userId = u) :
    Frames (OwnRows (u = ·)) (upsertUserAttribute row) := by
  refine (Keeps.reads _).frames.bind fun found => Frames.ite ?_ (Keeps.fail _).frames
  refine Frames.writes fun db => ⟨fun _ _ => rfl, ?_, rfl⟩
  intro u' name hu'
  rw [Lib.Table.find?_upsert, if_neg]
  intro h
  exact hu' (hrow.symm.trans (congrArg Prod.fst h))

theorem removeUserAttributes_ownRows (names : List AttributeName) :
    Frames (OwnRows (u = ·)) (removeUserAttributes u names) := by
  refine Frames.writes fun db => ⟨fun _ _ => rfl, ?_, rfl⟩
  intro u' name hu'
  refine Lib.Table.find?_delete_of_ne ?_
  intro r hr
  have hru : r.userId ≠ u := fun h => hu' (h.symm.trans (congrArg Prod.fst hr))
  simp [hru]

variable [External]

theorem computeUserAttributeChanges_userId {inserts : List Attribute}
    {deletes : List AttributeName} {schema : Schema} {changes : AttributeChanges}
    (h : computeUserAttributeChanges u inserts deletes schema = .ok changes) :
    ∀ row ∈ changes.updates, row.userId = u := by
  obtain ⟨updates, hupdates, h⟩ := Lib.except_bind_ok.mp h
  cases h
  intro row hrow
  obtain ⟨a, -, ha⟩ := Lib.except_mapM_ok hupdates row hrow
  split at ha
  · cases ha
    rfl
  · cases ha

theorem computeUserAttributeChanges_switch {inserts : List Attribute}
    {deletes : List AttributeName} {schema : Schema} {changes : AttributeChanges}
    (hswitch : ∀ a ∈ inserts, a.name.asStr ≠ "kerberossync")
    (h : computeUserAttributeChanges u inserts deletes schema = .ok changes) :
    changes.kerbSyncEnabled = none := by
  obtain ⟨updates, -, h⟩ := Lib.except_bind_ok.mp h
  cases h
  have hnil : inserts.filter (fun a => a.name.asStr = "kerberossync") = [] :=
    List.filter_eq_nil_iff.mpr fun a ha => by simpa using hswitch a ha
  simp [hnil]

theorem updateUserWithTransaction_switch {now : DateTime} {request : UpdateUserRequest}
    {kerb : Option Bool} {db db' : Store}
    (hswitch : ∀ a ∈ request.insertAttributes, a.name.asStr ≠ "kerberossync")
    (h : updateUserWithTransaction now request db = (.ok kerb, db')) : kerb = none := by
  obtain ⟨schema, -, h⟩ := Eff.query_bind_ok.mp h
  obtain ⟨changes, hchanges, h⟩ := Eff.lift_bind_ok.mp h
  obtain ⟨_, -, h⟩ := Eff.query_bind_ok.mp h
  obtain ⟨_, db₁, -, h⟩ := Eff.bind_ok.mp h
  cases h
  exact computeUserAttributeChanges_switch hswitch hchanges

theorem writeUserChanges_ownRows (now : DateTime) (request : UpdateUserRequest)
    {changes : AttributeChanges} (hids : ∀ row ∈ changes.updates, row.userId = request.userId) :
    Frames (OwnRows (request.userId = ·)) (writeUserChanges now request changes) := by
  refine (updateUserRow_ownRows _ _).bind fun _ => (Keeps.reads _).frames.bind fun taken => ?_
  refine Frames.ite (Keeps.fail _).frames ((removeUserAttributes_ownRows _).bind fun _ => ?_)
  refine (Frames.each fun row hrow => upsertUserAttribute_ownRows (hids row hrow)).bind fun _ => ?_
  exact Frames.ite (updateUserRow_ownRows _ _) (Keeps.pure _).frames

theorem updateUserWithTransaction_ownRows (now : DateTime) (request : UpdateUserRequest) :
    Frames (OwnRows (request.userId = ·)) (updateUserWithTransaction now request) := by
  refine (Keeps.query _).frames.bind fun schema => ?_
  refine (Keeps.lift _).frames.bind_returns fun changes hchanges => ?_
  obtain ⟨s, s', hrun⟩ := hchanges
  have hids := computeUserAttributeChanges_userId (congrArg Prod.fst hrun)
  refine (Keeps.query _).frames.bind fun _ => ?_
  exact (writeUserChanges_ownRows now request hids).bind fun _ => (Keeps.pure _).frames

end Sql

namespace Kerberos

/-- The principal belongs to a user that `may` admits. -/
def OwnPrincipal (out : Outside) (may : UserId → Prop) (principal : String) : Prop :=
  ∃ name, may (UserId.new name) ∧ principal = getKerberosPrincipalName out name

/-- The principal that the text names, if it names one, belongs to a user that `may` admits. -/
def NamesOwn (out : Outside) (may : UserId → Prop) (text : String) : Prop :=
  ∀ principal, named out text = some principal → OwnPrincipal out may principal

variable {out : Outside} {may : UserId → Prop}

theorem setKey_confined {principal : String} (hp : OwnPrincipal out may principal)
    (key : PrincipalKey) : Frames (Confined out may) (setKey principal key) := by
  refine Frames.writes fun w => ⟨refl_of (OwnRows may) w.db, ?_, rfl, rfl, rfl⟩
  intro p hother
  obtain ⟨name, hname, rfl⟩ := hp
  rw [Lib.Table.find?_upsert, if_neg]
  intro h
  exact hother name hname h.symm

theorem parseName_bind_confined {text password : String} {f : String → Call Unit}
    (h : hasChar '\x00' password = false → NamesOwn out may text)
    (hf : ∀ name, OwnPrincipal out may name → Frames (Confined out may) (f name)) :
    Frames (Confined out may) (do
      let name ← parseName out text
      passwordCString password
      f name) := by
  refine (parseName_keeps _).frames.bind_returns fun name hname => ?_
  refine (passwordCString_keeps _).frames.bind_returns fun _ hpassword => ?_
  obtain ⟨w, w', hname⟩ := hname
  obtain ⟨w₁, w₁', hpassword⟩ := hpassword
  exact hf name (h (passwordCString_ok hpassword) name (parseName_ok hname))

theorem syncKerberosPrincipal_confined {name plainPassword : String}
    (h : hasChar '\x00' plainPassword = false →
      NamesOwn out may (getKerberosPrincipalName out name)) :
    Frames (Confined out may) (syncKerberosPrincipal out name plainPassword) := by
  have hchpass : Frames (Confined out may)
      (chpassPrincipal out (getKerberosPrincipalName out name) plainPassword) :=
    parseName_bind_confined h fun p hp => (kadm_keeps _).frames.bind fun _ =>
      Frames.reads_option (Keeps.fail _).frames fun _ => setKey_confined hp _
  have hcreate : Frames (Confined out may)
      (createPrincipal out (getKerberosPrincipalName out name) plainPassword) :=
    parseName_bind_confined h fun p hp => (kadm_keeps _).frames.bind fun _ =>
      Frames.reads_option (setKey_confined hp _) fun _ => (Keeps.fail _).frames
  refine (kadm_keeps _).frames.mapErr.bind fun _ => hchpass.attempt.bind fun answer => ?_
  cases answer with
  | ok _ => exact (Keeps.pure _).frames
  | error _ => exact hcreate.mapErr

end Kerberos

section Backend

variable {out : Outside}

theorem updateUser_confined [External] {request : UpdateUserRequest}
    (hswitch : ∀ a ∈ request.insertAttributes, a.name.asStr ≠ "kerberossync") :
    Frames (Confined out (request.userId = ·)) (Sql.updateUser out request) := by
  refine (onDb_confined
    (Sql.updateUserWithTransaction_ownRows out.now request).transaction).bind_returns fun kerb hkerb => ?_
  obtain ⟨w, w', hrun⟩ := hkerb
  have hnone := Sql.updateUserWithTransaction_switch hswitch (Eff.transaction_ok (onDb_ok hrun))
  rw [hnone]
  exact (Keeps.pure _).frames

theorem ensureKerberosPrincipalConsistency_confined (u : UserId) (enabled : Bool) :
    Frames (Confined out (u = ·)) (Sql.ensureKerberosPrincipalConsistency out u enabled) :=
  onDb_confined (Sql.updateUserRow_ownRows _ _)

end Backend

namespace Opaque

theorem registrationFinish_ownRows {S : Suite} {setup : S.ServerSetup} {now : DateTime}
    {request : ClientRegistrationFinishRequest S} {u : UserId}
    (hu : ∀ u', registrationTarget S setup request.serverData = .ok u' → u' = u) :
    Frames (OwnRows (u = ·)) (registrationFinish S setup now request) := by
  refine (Keeps.lift _).frames.bind_returns fun u' hu' => ?_
  obtain ⟨s, s', hrun⟩ := hu'
  obtain rfl := hu u' (congrArg Prod.fst hrun)
  refine Frames.reads_option (Keeps.fail _).frames fun row => ?_
  refine Frames.writes fun db => ⟨?_, fun _ _ _ => rfl, rfl⟩
  intro v hv
  simp only [setPasswordFile]
  rw [Lib.Table.find?_update, if_neg fun h => hv h.symm]

end Opaque

end Klldap
