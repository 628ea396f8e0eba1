import Klldap.Confined
import Klldap.GraphQL.Mutation
import Klldap.Plain

/-!
# Klldap.GraphQL.UpdateUser: which attributes a user can change of their own

The schema protects an attribute from its user by marking it as not editable or as read-only. An
update goes through three code paths: the attributes to insert are checked against the schema, the
fields of the user row are free, and the names to remove are not checked at all, except for `ou`.
Every update stamps the modification date.
-/

namespace Klldap
namespace GraphQL

open Lib (Bytes Eff except_bind_ok)
open Lib.Eff (Frames Keeps)
open Lib.Bincode (utf8)
open Lib.Text
open Opaque (Suite)

/-! ## Stored values -/

inductive ColumnValue where
  | text (s : Option String)
  | date (d : DateTime)
deriving DecidableEq

def attributeColumn (r : UserRow) (name : String) : Option ColumnValue :=
  match name with
  | "creationdate" => some (.date r.creationDate)
  | "modifieddate" => some (.date r.modifiedDate)
  | "passwordmodifieddate" => some (.date r.passwordModifiedDate)
  | "userid" => some (.text (some r.userId.asStr))
  | "uuid" => some (.text (some r.uuid.val))
  | "mail" => some (.text (some r.email.raw))
  | "displayname" => some (.text r.displayName)
  | "krbprincipalname" => some (.text r.krbPrincipalName)
  | _ => none

/-- What the database holds for an attribute of a user: in a column and in an attribute row. -/
def storedValue (db : Store) (u : UserId) (name : String) : Option ColumnValue × Option Bytes :=
  ((db.users.find? u).bind fun r => attributeColumn r name,
    (db.userAttributes.find? (u, .new name)).map UserAttributeRow.value)

/-- The attribute has the same value, or is as absent, in both databases. -/
def SameAt (u : UserId) (name : String) (db db' : Store) : Prop :=
  storedValue db' u name = storedValue db u name

instance (u : UserId) (name : String) (db db' : Store) : Decidable (SameAt u name db db') :=
  inferInstanceAs (Decidable (_ = _))

/-- The attribute has the same value in the user row. -/
abbrev SameColumn (u : UserId) (name : String) : Store → Store → Prop :=
  InvImage Eq fun db => (storedValue db u name).1

/-- The attribute has the same value, or is as absent, among the attribute rows. -/
abbrev SameRow (u : UserId) (name : String) : Store → Store → Prop :=
  InvImage Eq fun db => (storedValue db u name).2

section Writes

variable {u : UserId} {name : String}

theorem updateUserRow_sameColumn {f : UserRow → UserRow} {hf : ∀ r, (f r).userId = r.userId}
    (h : ∀ r, attributeColumn (f r) name = attributeColumn r name) :
    Frames (SameColumn u name) (Sql.updateUserRow u f hf) := by
  refine Frames.reads_option (Keeps.fail _).frames fun row => Frames.writes fun db => ?_
  simp only [InvImage, storedValue, Lib.Table.find?_update]
  cases db.users.find? u with
  | none => rfl
  | some r => simp [h r]

theorem updateUserRow_sameRow {f : UserRow → UserRow} {hf : ∀ r, (f r).userId = r.userId} :
    Frames (SameRow u name) (Sql.updateUserRow u f hf) :=
  Frames.reads_option (Keeps.fail _).frames fun _ => Frames.writes fun _ => rfl

theorem removeUserAttributes_sameRow {names : List AttributeName}
    (h : AttributeName.new name ∉ names) :
    Frames (SameRow u name) (Sql.removeUserAttributes u names) := by
  refine Frames.writes fun db => ?_
  simp only [InvImage, storedValue]
  rw [Lib.Table.find?_delete_of_ne]
  intro r hr
  have hname : r.attributeName = .new name := congrArg Prod.snd hr
  simp [hname, h]

theorem upsertUserAttribute_sameRow {row : UserAttributeRow}
    (h : row.attributeName ≠ .new name) :
    Frames (SameRow u name) (Sql.upsertUserAttribute row) := by
  refine (Keeps.reads _).frames.bind fun found => Frames.ite ?_ (Keeps.fail _).frames
  refine Frames.writes fun db => ?_
  simp only [InvImage, storedValue]
  rw [Lib.Table.find?_upsert, if_neg fun heq => h (congrArg Prod.snd heq)]

theorem upsertUserAttribute_sameColumn (row : UserAttributeRow) :
    Frames (SameColumn u name) (Sql.upsertUserAttribute row) :=
  (Keeps.reads _).frames.bind fun _ =>
    Frames.ite (Frames.writes fun _ => rfl) (Keeps.fail _).frames

end Writes

section Update

variable [External]

theorem attributeColumn_applyTo {name : String} (hmod : name ≠ "modifieddate")
    (hmail : name ≠ "mail") (hdisplay : name ≠ "displayname") (request : UpdateUserRequest)
    (now : DateTime) (r : UserRow) :
    attributeColumn (Sql.UpdateUserRequest.applyTo request now r) name = attributeColumn r name := by
  unfold attributeColumn
  split <;> first | contradiction | rfl

variable {name : String} {request : UpdateUserRequest} {changes : Sql.AttributeChanges}
  (now : DateTime)

theorem writeUserChanges_sameColumn (hmod : name ≠ "modifieddate") (hmail : name ≠ "mail")
    (hdisplay : name ≠ "displayname") (hkerb : changes.kerbSyncEnabled = none) :
    Frames (SameColumn request.userId name) (Sql.writeUserChanges now request changes) := by
  refine (updateUserRow_sameColumn
    (attributeColumn_applyTo hmod hmail hdisplay request now)).bind fun _ => ?_
  refine (Keeps.reads _).frames.bind fun taken => Frames.ite (Keeps.fail _).frames ?_
  refine Frames.bind (Frames.writes fun _ => rfl) fun _ => ?_
  refine (Frames.each fun row _ => upsertUserAttribute_sameColumn row).bind fun _ => ?_
  rw [if_neg (by simp [hkerb])]
  exact (Keeps.pure _).frames

theorem writeUserChanges_sameRow
    (hupdates : ∀ row ∈ changes.updates, row.attributeName ≠ .new name)
    (hremoves : AttributeName.new name ∉ changes.removes) :
    Frames (SameRow request.userId name) (Sql.writeUserChanges now request changes) := by
  refine updateUserRow_sameRow.bind fun _ => ?_
  refine (Keeps.reads _).frames.bind fun taken => Frames.ite (Keeps.fail _).frames ?_
  refine (removeUserAttributes_sameRow hremoves).bind fun _ => ?_
  refine (Frames.each fun row hrow => upsertUserAttribute_sameRow (hupdates row hrow)).bind fun _ => ?_
  exact Frames.ite updateUserRow_sameRow (Keeps.pure _).frames

theorem sqlUpdateUser_ok {out : Outside} {request : UpdateUserRequest} {w w' : World}
    (h : Sql.updateUser out request w = (.ok (), w')) :
    ∃ schema changes, Sql.getSchema w.db = .ok schema ∧
      Sql.computeUserAttributeChanges request.userId request.insertAttributes
        request.deleteAttributes schema = .ok changes ∧
      w'.db = (Sql.writeUserChanges out.now request changes w.db).2 := by
  obtain ⟨kerb, w₁, hdb, h⟩ := Eff.bind_ok.mp h
  have hw' : w'.db = w₁.db := by
    split at h
    · obtain ⟨answer, w₂, hdel, h⟩ := Eff.bind_ok.mp h
      cases h
      have hdb₂ := congrArg (fun r => r.2.db) hdel
      exact hdb₂.symm.trans (Kerberos.deleteKerberosPrincipal_db out request.userId.asStr w₁)
    · cases h
      rfl
  rw [hw']
  have htx := Eff.transaction_ok (onDb_ok hdb)
  obtain ⟨schema, hschema, htx⟩ := Eff.query_bind_ok.mp htx
  obtain ⟨changes, hchanges, htx⟩ := Eff.lift_bind_ok.mp htx
  obtain ⟨_, -, htx⟩ := Eff.query_bind_ok.mp htx
  obtain ⟨_, db₁, hwrite, htx⟩ := Eff.bind_ok.mp htx
  refine ⟨schema, changes, hschema, hchanges, ?_⟩
  rw [hwrite]
  exact (congrArg Prod.snd htx).symm

end Update

/-- The schema does not let the user change the attribute. -/
def AttributeSchema.Protected (a : AttributeSchema) : Prop :=
  a.isEditable = false ∨ a.isReadonly = true

section Protected

variable {schema : Schema} {entry : AttributeSchema}

theorem ne_of_protected (hs : WellNamed schema.userAttributes) (he : entry ∈ schema.userAttributes)
    (hp : AttributeSchema.Protected entry) {a : AttributeSchema} (ha : a ∈ schema.userAttributes)
    (hed : a.isEditable = true) (hro : a.isReadonly = false) :
    AttributeName.new a.name ≠ AttributeName.new entry.name := by
  intro hname
  have hstr := congrArg AttributeName.asStr hname
  simp only [AttributeName.asStr_new, hs.lower a ha, hs.lower entry he] at hstr
  obtain rfl := hs.eq_of_name ha he hstr
  rcases hp with hp | hp
  · rw [hed] at hp
    cases hp
  · rw [hro] at hp
    cases hp

variable [External]

theorem mem_of_builtin {db : Store} (hschema : Sql.getSchema db = .ok schema) {a : AttributeSchema}
    (ha : a ∈ PublicSchema.userAttributes) : a ∈ schema.userAttributes := by
  obtain ⟨rest, hrest⟩ := Sql.getSchema_userAttributes hschema
  rw [hrest]
  exact List.mem_append_left rest ha

theorem getByNameOrAlias_of_builtin {db : Store} (hschema : Sql.getSchema db = .ok schema)
    {n : String} {a : AttributeSchema}
    (ha : getByNameOrAlias PublicSchema.userAttributes n = some a) :
    getByNameOrAlias schema.userAttributes n = some a := by
  obtain ⟨rest, hrest⟩ := Sql.getSchema_userAttributes hschema
  rw [hrest]
  exact getByNameOrAlias_append ha

theorem answersTo_of_canonical {db : Store} (hschema : Sql.getSchema db = .ok schema)
    (he : entry ∈ schema.userAttributes) {n : String}
    (h : Sql.canonicalUserAttributeName (AttributeName.new n).asStr = .new entry.name) :
    entry.answersTo n = true := by
  have hs := Sql.getSchema_wellNamed hschema
  rw [AttributeName.asStr_new] at h
  unfold Sql.canonicalUserAttributeName at h
  simp only [PublicSchema.get, getByNameOrAlias_asciiLower] at h
  split at h
  · rename_i a ha
    have hmem := mem_of_builtin hschema (getByNameOrAlias_some ha).1
    have hstr := congrArg AttributeName.asStr h
    simp only [AttributeName.asStr_new, hs.lower a hmem, hs.lower entry he] at hstr
    obtain rfl := hs.eq_of_name hmem he hstr
    exact (getByNameOrAlias_some ha).2
  · have hstr := congrArg AttributeName.asStr h
    simp only [AttributeName.asStr_new, asciiLower_idem] at hstr
    simp [AttributeSchema.answersTo, eqIgnoreAsciiCase, hstr]

theorem name_ne_of_builtin {db : Store} (hschema : Sql.getSchema db = .ok schema)
    (he : entry ∈ schema.userAttributes) (hp : AttributeSchema.Protected entry) {n : String}
    (hn : ∃ a ∈ PublicSchema.userAttributes, a.name = n ∧ a.isEditable = true ∧
      a.isReadonly = false) : entry.name ≠ n := by
  obtain ⟨a, ha, rfl, hed, hro⟩ := hn
  intro hname
  exact ne_of_protected (Sql.getSchema_wellNamed hschema) he hp (mem_of_builtin hschema ha) hed hro
    (by rw [hname])

/-! ## From the request to the writes -/

theorem updateUserRequest_userId {isAdmin : Bool} {user : UpdateUserInput}
    {request : UpdateUserRequest} (h : updateUserRequest schema isAdmin user = .ok request) :
    request.userId = UserId.new user.id := by
  obtain ⟨unpacked, -, h⟩ := except_bind_ok.mp h
  cases h
  rfl

theorem updateUserRequest_ok {user : UpdateUserInput} {request : UpdateUserRequest}
    (h : updateUserRequest schema false user = .ok request) :
    (∀ a ∈ request.insertAttributes, ∃ e,
      getByNameOrAlias schema.userAttributes a.name.asStr = some e ∧ e.isEditable = true ∧
        e.isReadonly = false) ∧
    ∀ n ∈ request.deleteAttributes, ∃ attr ∈ user.removeAttributes.getD [],
      n = .new attr ∧ resolveCanonicalName schema.userAttributes attr ≠ some "ou" := by
  obtain ⟨unpacked, hunpacked, h⟩ := except_bind_ok.mp h
  cases h
  refine ⟨unpackAttributes_ok hunpacked, ?_⟩
  intro n hn
  obtain ⟨attr, hattr, rfl⟩ := List.mem_map.mp hn
  have hkept := List.mem_of_mem_filter hattr
  exact ⟨attr, List.mem_of_mem_filter hkept, rfl, by simpa using (List.mem_filter.mp hkept).2⟩

theorem computeUserAttributeChanges_ok {u : UserId} {inserts : List Attribute}
    {deletes : List AttributeName} {changes : Sql.AttributeChanges}
    (h : Sql.computeUserAttributeChanges u inserts deletes schema = .ok changes) :
    (∀ row ∈ changes.updates, ∃ a ∈ inserts,
      row.attributeName = Sql.storedName schema.userAttributes a.name) ∧
    ∀ n ∈ changes.removes, ∃ d ∈ deletes, n = Sql.canonicalUserAttributeName d.asStr := by
  obtain ⟨updates, hupdates, h⟩ := except_bind_ok.mp h
  cases h
  refine ⟨?_, ?_⟩
  · intro row hrow
    obtain ⟨a, ha, hrun⟩ := Lib.except_mapM_ok hupdates row hrow
    split at hrun
    · cases hrun
      exact ⟨a, ha, rfl⟩
    · cases hrun
  · intro n hn
    obtain ⟨d, hd, rfl⟩ := List.mem_map.mp (List.mem_of_mem_filter hn)
    exact ⟨d, hd, rfl⟩

theorem storedName_ne_of_protected {db : Store} (hschema : Sql.getSchema db = .ok schema)
    (he : entry ∈ schema.userAttributes) (hp : AttributeSchema.Protected entry)
    {name : AttributeName} {e : AttributeSchema}
    (hlookup : getByNameOrAlias schema.userAttributes name.asStr = some e)
    (hed : e.isEditable = true) (hro : e.isReadonly = false) :
    Sql.storedName schema.userAttributes name ≠ .new entry.name := by
  simp only [Sql.storedName, hlookup]
  exact ne_of_protected (Sql.getSchema_wellNamed hschema) he hp (getByNameOrAlias_some hlookup).1
    hed hro

theorem kerberossync_not_editable {db : Store} (hschema : Sql.getSchema db = .ok schema)
    {e : AttributeSchema} (h : getByNameOrAlias schema.userAttributes "kerberossync" = some e) :
    e.isEditable = false := by
  have hbuiltin : ∃ a, getByNameOrAlias PublicSchema.userAttributes "kerberossync" = some a ∧
      a.isEditable = false := ⟨_, rfl, rfl⟩
  obtain ⟨a, ha, hed⟩ := hbuiltin
  have hae := (getByNameOrAlias_of_builtin hschema ha).symm.trans h
  cases hae
  exact hed

theorem updateUserRequest_switch {db : Store} (hschema : Sql.getSchema db = .ok schema)
    {user : UpdateUserInput} {request : UpdateUserRequest}
    (h : updateUserRequest schema false user = .ok request) :
    ∀ a ∈ request.insertAttributes, a.name.asStr ≠ "kerberossync" := by
  intro a ha hname
  obtain ⟨e, hlookup, hed, -⟩ := (updateUserRequest_ok h).1 a ha
  rw [hname] at hlookup
  rw [kerberossync_not_editable hschema hlookup] at hed
  cases hed

theorem canonical_ne_ou {db : Store} (hschema : Sql.getSchema db = .ok schema) {attr : String}
    (h : resolveCanonicalName schema.userAttributes attr ≠ some "ou") :
    Sql.canonicalUserAttributeName (AttributeName.new attr).asStr ≠ .new "ou" := by
  intro hc
  rw [AttributeName.asStr_new] at hc
  unfold Sql.canonicalUserAttributeName at hc
  simp only [PublicSchema.get] at hc
  split at hc
  · rename_i a ha
    rw [getByNameOrAlias_asciiLower] at ha
    have hlower := userAttributes_wellNamed.lower a (getByNameOrAlias_some ha).1
    have hname := congrArg AttributeName.asStr hc
    rw [AttributeName.asStr_new, hlower] at hname
    refine h ?_
    rw [resolveCanonicalName, getByNameOrAlias_of_builtin hschema ha]
    exact congrArg some hname
  · rename_i hnone
    have hname := congrArg AttributeName.asStr hc
    rw [AttributeName.asStr_new, AttributeName.asStr_new, asciiLower_idem] at hname
    rw [hname] at hnone
    cases hnone

end Protected

/-! ## A regular user's update -/

section Session

variable [External] {S : Suite} {setup : S.ServerSetup} {rng : S.Coins} {out : Outside}
  {v : ValidationResults}

def serverContext (S : Suite) (setup : S.ServerSetup) (rng : S.Coins) (out : Outside)
    (v : ValidationResults) : Context S World :=
  ⟨sqlServices S setup rng out, v⟩

theorem updateUser_ok {user : UpdateUserInput} {w w' : World} {response : Response}
    (hv : v.permission ≠ .admin)
    (h : updateUser (serverContext S setup rng out v) user w = (.ok response, w')) :
    ∃ schema request, Sql.getSchema w.db = .ok schema ∧
      updateUserRequest schema false user = .ok request ∧ request.userId = v.user ∧
      Sql.updateUser out request w = (.ok (), w') := by
  obtain ⟨handler, w₁, hview, h⟩ := Eff.bind_ok.mp h
  cases hw : getWriteableHandler (sqlServices S setup rng out) v (UserId.new user.id) with
  | none =>
    simp [serverContext, hw, orUnauthorized] at hview
  | some handler' =>
    simp only [serverContext, hw, orUnauthorized, Eff.pure_run, Prod.mk.injEq,
      Except.ok.injEq] at hview
    obtain ⟨rfl, rfl⟩ := hview
    obtain ⟨hu, rfl⟩ := getWriteableHandler_eq_some hv hw
    obtain ⟨schema, w₂, hq, h⟩ := Eff.bind_ok.mp h
    have hschema : Sql.getSchema w.db = .ok schema :=
      congrArg Prod.fst (onDb_ok (Eff.mapErr_ok.mp hq))
    obtain rfl : w = w₂ := congrArg Prod.snd hq
    obtain ⟨request, hrequest, h⟩ := Eff.lift_bind_ok.mp h
    obtain ⟨_, w₃, hrun, h⟩ := Eff.bind_ok.mp h
    cases h
    have hadmin : v.isAdmin = false := by simp [ValidationResults.isAdmin, hv]
    rw [show (serverContext S setup rng out v).validationResult.isAdmin = false from hadmin]
      at hrequest
    refine ⟨schema, request, hschema, hrequest, ?_, Eff.mapErr_ok.mp hrun⟩
    exact (updateUserRequest_userId hrequest).trans hu.symm

/-- Through a successful update of a regular user, a protected attribute other than the
modification date keeps its value in the user row. It keeps its value among the attribute rows
unless it is removed by a name it answers to, and the `ou` keeps it even then. -/
theorem updateUser_keeps_protected {user : UpdateUserInput} {w w' : World} {response : Response}
    {schema : Schema} {entry : AttributeSchema} (hv : v.permission ≠ .admin)
    (hschema : Sql.getSchema w.db = .ok schema)
    (h : updateUser (serverContext S setup rng out v) user w = (.ok response, w'))
    (he : entry ∈ schema.userAttributes) (hp : AttributeSchema.Protected entry)
    (hmod : entry.name ≠ "modifieddate") :
    (storedValue w'.db v.user entry.name).1 = (storedValue w.db v.user entry.name).1 ∧
      ((entry.name = "ou" ∨ ∀ n ∈ user.removeAttributes.getD [], entry.answersTo n = false) →
        (storedValue w'.db v.user entry.name).2 = (storedValue w.db v.user entry.name).2) := by
  obtain ⟨schema', request, hschema', hrequest, hu, hrun⟩ := updateUser_ok hv h
  obtain rfl := Except.ok.inj (hschema.symm.trans hschema')
  obtain ⟨schema'', changes, hschema'', hchanges, hdb⟩ := sqlUpdateUser_ok hrun
  obtain rfl := Except.ok.inj (hschema.symm.trans hschema'')
  obtain ⟨hinserts, hdeletes⟩ := updateUserRequest_ok hrequest
  obtain ⟨hupdates, hremoves⟩ := computeUserAttributeChanges_ok hchanges
  rw [hdb, ← hu]
  constructor
  · have hmail : entry.name ≠ "mail" := name_ne_of_builtin hschema he hp (by decide)
    have hdisplay : entry.name ≠ "displayname" := name_ne_of_builtin hschema he hp (by decide)
    have hswitch := Sql.computeUserAttributeChanges_switch
      (updateUserRequest_switch hschema hrequest) hchanges
    exact (writeUserChanges_sameColumn out.now hmod hmail hdisplay hswitch w.db).symm
  · intro hrem
    have hrows : ∀ row ∈ changes.updates, row.attributeName ≠ .new entry.name := by
      intro row hrow
      obtain ⟨a, ha, hname⟩ := hupdates row hrow
      obtain ⟨e, hlookup, hed, hro⟩ := hinserts a ha
      rw [hname]
      exact storedName_ne_of_protected hschema he hp hlookup hed hro
    have hnames : AttributeName.new entry.name ∉ changes.removes := by
      intro hmem
      obtain ⟨d, hd, hname⟩ := hremoves _ hmem
      obtain ⟨attr, hattr, rfl, hou⟩ := hdeletes d hd
      rcases hrem with hrem | hrem
      · rw [hrem] at hname
        exact canonical_ne_ou hschema hou hname.symm
      · have hanswers := answersTo_of_canonical hschema he hname.symm
        rw [hrem attr hattr] at hanswers
        cases hanswers
    exact (writeUserChanges_sameRow out.now hrows hnames w.db).symm

end Session

/-- Every protected attribute of `u` has the same value, or is as absent, in both databases. -/
def KeepsProtected [External] (u : UserId) (db db' : Store) : Prop :=
  ∀ schema, Sql.getSchema db = .ok schema → ∀ entry ∈ schema.userAttributes,
    AttributeSchema.Protected entry → SameAt u entry.name db db'

/-- A database whose only user is `bob`, with a number that an administrator gave. -/
def numberedStore : Store :=
  { Store.empty with
    users := ⟨[⟨UserId.new "bob", ⟨"bob@example.com"⟩, "bob@example.com", none, 0, none, ⟨"bob"⟩, 0,
      0, none⟩], by simp⟩
    userAttributes := ⟨[⟨UserId.new "bob", .new "uidnumber", utf8 "3001"⟩], by simp⟩ }

open Plain in
/-- The update of `bob` by `bob` with a new display name and the removal of some attributes. -/
def updateByBob (removes : List String) : Except FieldError Response × World :=
  updateUser (serverContext Opaque.plainSuite () () outside ⟨UserId.new "bob", .regular⟩)
    ⟨"bob", none, some "Bob", none, none, none, some removes, none⟩ (world numberedStore)

open Plain in
/-- Every update changes the modification date, and a regular user can remove the number that only
an administrator can give. -/
theorem updateUser_changes_protected :
    ((updateByBob []).1 = .ok .success ∧
      ¬KeepsProtected (UserId.new "bob") numberedStore (updateByBob []).2.db) ∧
    (updateByBob ["uidNumber"]).1 = .ok .success ∧
      storedValue numberedStore (UserId.new "bob") "uidnumber" = (none, some (utf8 "3001")) ∧
      storedValue (updateByBob ["uidNumber"]).2.db (UserId.new "bob") "uidnumber" = (none, none) := by
  refine ⟨⟨rfl, ?_⟩, rfl, rfl, rfl⟩
  intro hkeeps
  have hentry : ∃ e ∈ PublicSchema.userAttributes, e.name = "modifieddate" ∧ e.isEditable = false :=
    by decide
  obtain ⟨e, he, hname, hed⟩ := hentry
  have hsame := hkeeps _ rfl e he (.inl hed)
  rw [hname] at hsame
  exact absurd hsame (by decide)

open Plain in
/-- Removing an editable attribute and the `uuid` leaves the number and the `uuid` alone. -/
theorem updateUser_keeps_uidnumber :
    (updateByBob ["first_name", "uuid"]).1 = .ok .success ∧
      storedValue (updateByBob ["first_name", "uuid"]).2.db (UserId.new "bob") "uidnumber" =
        storedValue numberedStore (UserId.new "bob") "uidnumber" ∧
      (storedValue (updateByBob ["first_name", "uuid"]).2.db (UserId.new "bob") "uuid").1 =
        some (.text (some "bob")) := by
  have hnumber : ∃ e ∈ PublicSchema.userAttributes, e.name = "uidnumber" ∧ e.isEditable = false ∧
      ∀ n ∈ ["first_name", "uuid"], e.answersTo n = false := by decide
  have huuid : ∃ e ∈ PublicSchema.userAttributes, e.name = "uuid" ∧ e.isEditable = false := by decide
  obtain ⟨e, he, hname, hed, hanswers⟩ := hnumber
  obtain ⟨e', he', hname', hed'⟩ := huuid
  have hrun : updateUser (serverContext Opaque.plainSuite () () outside
      ⟨UserId.new "bob", .regular⟩)
      ⟨"bob", none, some "Bob", none, none, none, some ["first_name", "uuid"], none⟩
      (world numberedStore) = (.ok .success, (updateByBob ["first_name", "uuid"]).2) :=
    Prod.ext rfl rfl
  refine ⟨rfl, ?_, ?_⟩
  · rw [← hname]
    obtain ⟨hcolumn, hrow⟩ := updateUser_keeps_protected (by decide) rfl hrun he (.inl hed)
      (by rw [hname]; decide)
    exact Prod.ext hcolumn (hrow (.inr hanswers))
  · have hcolumn := (updateUser_keeps_protected (by decide) rfl hrun he' (.inl hed')
      (by rw [hname']; decide)).1
    rw [hname'] at hcolumn
    exact hcolumn.trans rfl

end GraphQL
end Klldap
