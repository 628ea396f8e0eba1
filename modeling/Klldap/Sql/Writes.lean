import Klldap.Sql.User

/-!
# Klldap.Sql.Writes: what the writes leave

The procedures that write users and groups check first and write rows afterwards. Here each is said
once: it succeeds exactly on these checks, and this is the database that it leaves. The invariants
of the attribute tables are derived from these statements.

Each is one transaction, so one that fails leaves nothing behind (`createUser_atomic` and so on).
-/

namespace Klldap
namespace Sql

open Lib (Bytes Eff except_bind_ok except_forM_ok)
open Lib.Bincode (utf8)

abbrev UserAttributeTable :=
  Lib.Table UserAttributeRow (UserId × AttributeName) fun r => (r.userId, r.attributeName)

abbrev GroupAttributeTable :=
  Lib.Table GroupAttributeRow (GroupId × AttributeName) fun r => (r.groupId, r.attributeName)

/-! ## Names -/

theorem storedName_append {full rest : AttributeList} (hw : WellNamed (full ++ rest))
    {b : AttributeSchema} (hb : b ∈ full) (name : AttributeName) :
    storedName (full ++ rest) name = .new b.name ↔ getByNameOrAlias full name.asStr = some b := by
  have hfull : b ∈ full ++ rest := List.mem_append_left _ hb
  have hlower {a : AttributeSchema} (ha : a ∈ full ++ rest) :
      AttributeName.new a.name = .new b.name ↔ a.name = b.name := by
    constructor
    · intro h
      have h := congrArg AttributeName.asStr h
      rwa [AttributeName.asStr_new, AttributeName.asStr_new, hw.lower a ha, hw.lower b hfull] at h
    · exact fun h => by rw [h]
  unfold storedName
  cases hf : getByNameOrAlias full name.asStr with
  | some a =>
    have ha := List.mem_append_left rest (getByNameOrAlias_some hf).1
    rw [getByNameOrAlias_append hf]
    simp only [hlower ha, Option.some.injEq]
    exact ⟨hw.eq_of_name ha hfull, fun h => by rw [h]⟩
  | none =>
    have hnot : ∀ a ∈ full, a.answersTo name.asStr = false := by
      simpa [getByNameOrAlias] using hf
    have hself : b.name ≠ name.asStr := by
      intro h
      have := hnot b hb
      rw [← h] at this
      simp [AttributeSchema.answersTo, eqIgnoreAsciiCase] at this
    cases hg : getByNameOrAlias (full ++ rest) name.asStr with
    | some a =>
      obtain ⟨ha, hans⟩ := getByNameOrAlias_some hg
      simp only [hlower ha, reduceCtorEq, iff_false]
      intro h
      rw [hw.eq_of_name ha hfull h, hnot b hb] at hans
      cases hans
    | none =>
      simp only [reduceCtorEq, iff_false]
      intro h
      have h := congrArg AttributeName.asStr h
      rw [AttributeName.asStr_new, hw.lower b hfull] at h
      exact hself h.symm

theorem canonicalUserAttributeName_iff {b : AttributeSchema}
    (hb : b ∈ PublicSchema.userAttributes) (name : AttributeName) :
    canonicalUserAttributeName name.asStr = .new b.name ↔
      getByNameOrAlias PublicSchema.userAttributes name.asStr = some b := by
  have hw : WellNamed (PublicSchema.userAttributes ++ []) := by
    rw [List.append_nil]
    exact userAttributes_wellNamed
  rw [← storedName_append hw hb name, List.append_nil]
  unfold canonicalUserAttributeName storedName PublicSchema.get
  cases getByNameOrAlias PublicSchema.userAttributes name.asStr with
  | none => rw [AttributeName.new_asStr]
  | some a => rfl

theorem canonicalGroupAttributeName_iff {b : AttributeSchema}
    (hb : b ∈ PublicSchema.groupAttributes) (name : AttributeName) :
    canonicalGroupAttributeName name.asStr = .new b.name ↔
      getByNameOrAlias PublicSchema.groupAttributes name.asStr = some b := by
  have hw : WellNamed (PublicSchema.groupAttributes ++ []) := by
    rw [List.append_nil]
    exact groupAttributes_wellNamed
  rw [← storedName_append hw hb name, List.append_nil]
  unfold canonicalGroupAttributeName storedName PublicSchema.get
  cases getByNameOrAlias PublicSchema.groupAttributes name.asStr with
  | none => rw [AttributeName.new_asStr]
  | some a => rfl

section

variable [External] {db : Store} {schema : Schema}

theorem storedName_user (h : getSchema db = .ok schema) {b : AttributeSchema}
    (hb : b ∈ PublicSchema.userAttributes) (name : AttributeName) :
    storedName schema.userAttributes name = .new b.name ↔
      canonicalUserAttributeName name.asStr = .new b.name := by
  obtain ⟨rest, hrest⟩ := getSchema_userAttributes h
  have hw := getSchema_wellNamed h
  rw [hrest] at hw ⊢
  rw [storedName_append hw hb name, canonicalUserAttributeName_iff hb]

theorem storedName_group (h : getSchema db = .ok schema) {b : AttributeSchema}
    (hb : b ∈ PublicSchema.groupAttributes) (name : AttributeName) :
    storedName schema.groupAttributes name = .new b.name ↔
      canonicalGroupAttributeName name.asStr = .new b.name := by
  obtain ⟨rest, hrest⟩ := getSchema_groupAttributes h
  have hw := getSchema_group_wellNamed h
  rw [hrest] at hw ⊢
  rw [storedName_append hw hb name, canonicalGroupAttributeName_iff hb]

end

/-! ## Rows -/

/-- The user and the attribute that a row refers to exist. -/
def HasUserKeys (row : UserAttributeRow) (db : Store) : Prop :=
  (db.users.find? row.userId).isSome = true ∧
    (db.userAttributeSchema.find? row.attributeName).isSome = true

def HasGroupKeys (row : GroupAttributeRow) (db : Store) : Prop :=
  (db.groups.find? row.groupId).isSome = true ∧
    (db.groupAttributeSchema.find? row.attributeName).isSome = true

section

variable {db db' : Store}

theorem upsertUserAttribute_ok {row : UserAttributeRow} :
    upsertUserAttribute row db = (.ok (), db') ↔
      HasUserKeys row db ∧ db' = { db with userAttributes := db.userAttributes.upsert row } := by
  unfold upsertUserAttribute HasUserKeys
  rw [Eff.bind_run, Eff.reads_run]
  dsimp only
  split
  · rename_i h
    rw [Bool.and_eq_true] at h
    simp [h, eq_comm]
  · rename_i h
    rw [Bool.and_eq_true] at h
    simp [h]

theorem upsertGroupAttribute_ok {row : GroupAttributeRow} :
    upsertGroupAttribute row db = (.ok (), db') ↔
      HasGroupKeys row db ∧ db' = { db with groupAttributes := db.groupAttributes.upsert row } := by
  unfold upsertGroupAttribute HasGroupKeys
  rw [Eff.bind_run, Eff.reads_run]
  dsimp only
  split
  · rename_i h
    rw [Bool.and_eq_true] at h
    simp [h, eq_comm]
  · rename_i h
    rw [Bool.and_eq_true] at h
    simp [h]

theorem foldl_userAttributes (rows : List UserAttributeRow) :
    rows.foldl (fun db row => { db with userAttributes := db.userAttributes.upsert row }) db =
      { db with userAttributes := db.userAttributes.upsertAll rows } := by
  induction rows generalizing db with
  | nil => rfl
  | cons row rows ih => exact ih

theorem foldl_groupAttributes (rows : List GroupAttributeRow) :
    rows.foldl (fun db row => { db with groupAttributes := db.groupAttributes.upsert row }) db =
      { db with groupAttributes := db.groupAttributes.upsertAll rows } := by
  induction rows generalizing db with
  | nil => rfl
  | cons row rows ih => exact ih

theorem each_upsertUserAttribute_ok {rows : List UserAttributeRow} :
    Eff.each upsertUserAttribute rows db = (.ok (), db') ↔ (∀ row ∈ rows, HasUserKeys row db) ∧
      db' = { db with userAttributes := db.userAttributes.upsertAll rows } := by
  rw [← foldl_userAttributes]
  exact Eff.each_ok (f := upsertUserAttribute) (P := HasUserKeys)
    (fun _ _ _ => upsertUserAttribute_ok) fun _ _ _ => Iff.rfl

theorem each_upsertGroupAttribute_ok {rows : List GroupAttributeRow} :
    Eff.each upsertGroupAttribute rows db = (.ok (), db') ↔ (∀ row ∈ rows, HasGroupKeys row db) ∧
      db' = { db with groupAttributes := db.groupAttributes.upsertAll rows } := by
  rw [← foldl_groupAttributes]
  exact Eff.each_ok (f := upsertGroupAttribute) (P := HasGroupKeys)
    (fun _ _ _ => upsertGroupAttribute_ok) fun _ _ _ => Iff.rfl

theorem updateUserRow_ok {u : UserId} {f : UserRow → UserRow} {hf : ∀ r, (f r).userId = r.userId} :
    updateUserRow u f hf db = (.ok (), db') ↔ (db.users.find? u).isSome = true ∧
      db' = { db with users := db.users.update u f hf } := by
  unfold updateUserRow
  rw [Eff.bind_run, Eff.reads_run]
  dsimp only
  cases db.users.find? u with
  | none => simp
  | some row => simp [eq_comm]

theorem updateGroupRow_ok {g : GroupId} {f : GroupRow → GroupRow}
    {hf : ∀ r, (f r).groupId = r.groupId} :
    updateGroupRow g f hf db = (.ok (), db') ↔ (db.groups.find? g).isSome = true ∧
      db' = { db with groups := db.groups.update g f hf } := by
  unfold updateGroupRow
  rw [Eff.bind_run, Eff.reads_run]
  dsimp only
  cases db.groups.find? g with
  | none => simp
  | some row => simp [eq_comm]

end

/-! ## Updating a user -/

section

variable [External] {now : DateTime} {request : UpdateUserRequest} {db db' : Store}

theorem emailTaken_update (u : UserId) (f : UserRow → UserRow)
    (hf : ∀ r, (f r).userId = r.userId) (e : Email) :
    emailTaken { db with users := db.users.update u f hf } u e = emailTaken db u e := by
  simp only [emailTaken, Lib.Table.update, Lib.Table.updateWhere, Lib.Table.mapRows, List.any_map]
  congr 1
  funext r
  by_cases hr : r.userId = u
  · simp [hr, hf]
  · simp [hr]

theorem applyTo_userId (r : UserRow) :
    (UpdateUserRequest.applyTo request now r).userId = r.userId := rfl

theorem computeUserAttributeChanges_ok {u : UserId} {insertAttributes : List Attribute}
    {deleteAttributes : List AttributeName} {schema : Schema} {changes : AttributeChanges}
    (h : computeUserAttributeChanges u insertAttributes deleteAttributes schema = .ok changes) :
    changes.updates = insertAttributes.map (attributeRow schema u) ∧
      (∀ name ∈ changes.removes,
        ∃ given ∈ deleteAttributes, name = canonicalUserAttributeName given.asStr) ∧
      changes.kerbSyncEnabled = ((insertAttributes.filter fun a =>
        a.name.asStr = "kerberossync").map fun a => kerbSyncOf a.value).getLast? := by
  obtain ⟨updates, hupdates, h⟩ := except_bind_ok.mp h
  have hupdates : updates = insertAttributes.map (attributeRow schema u) :=
    Lib.except_mapM_map hupdates fun a r hr => by
      split at hr
      · exact (Except.ok.inj hr).symm
      · cases hr
  cases h
  refine ⟨hupdates, ?_, rfl⟩
  intro name hname
  obtain ⟨given, hgiven, rfl⟩ := List.mem_map.mp (List.mem_of_mem_filter hname)
  exact ⟨given, hgiven, rfl⟩

def updatedUsers (now : DateTime) (request : UpdateUserRequest) (kerbSyncEnabled : Option Bool)
    (users : Lib.Table UserRow UserId UserRow.userId) : Lib.Table UserRow UserId UserRow.userId :=
  let users := users.update request.userId (UpdateUserRequest.applyTo request now) applyTo_userId
  if kerbSyncEnabled = some false then
    users.update request.userId
      (fun r => { r with krbPrincipalName := none, modifiedDate := now }) fun _ => rfl
  else users

def updatedUserAttributes (u : UserId) (changes : AttributeChanges)
    (t : UserAttributeTable) : UserAttributeTable :=
  (t.delete fun r => r.userId = u && changes.removes.contains r.attributeName).upsertAll
    changes.updates

/-- What an update asks of the database apart from the attributes: the user exists and nobody else
has the new email. -/
structure UpdateFits (request : UpdateUserRequest) (db : Store) : Prop where
  user : (db.users.find? request.userId).isSome = true
  email : ∀ e, request.email = some e → emailTaken db request.userId e = false

theorem writeUserChanges_ok {changes : AttributeChanges} :
    writeUserChanges now request changes db = (.ok (), db') ↔ UpdateFits request db ∧
      (∀ row ∈ changes.updates, HasUserKeys row db) ∧
      db' = { db with
        users := updatedUsers now request changes.kerbSyncEnabled db.users
        userAttributes := updatedUserAttributes request.userId changes db.userAttributes } := by
  have hkeys (row : UserAttributeRow) (attrs) :
      HasUserKeys row { db with
        users :=
          db.users.update request.userId (UpdateUserRequest.applyTo request now) applyTo_userId
        userAttributes := attrs } ↔
      HasUserKeys row db :=
    and_congr (iff_of_eq (congrArg (· = true) (Lib.Table.isSome_find?_update _ _ _ _ applyTo_userId))) Iff.rfl
  unfold writeUserChanges
  rw [Eff.bind_ok]
  constructor
  · rintro ⟨_, db₁, hrow, h⟩
    obtain ⟨huser, rfl⟩ := updateUserRow_ok.mp hrow
    obtain ⟨taken, db₂, hread, h⟩ := Eff.bind_ok.mp h
    cases hread
    split at h
    · cases h
    rename_i hemail
    obtain ⟨_, db₃, hremove, h⟩ := Eff.bind_ok.mp h
    cases hremove
    obtain ⟨_, db₄, heach, h⟩ := Eff.bind_ok.mp h
    obtain ⟨hrows, rfl⟩ := each_upsertUserAttribute_ok.mp heach
    refine ⟨⟨huser, ?_⟩, fun row hr => (hkeys row _).mp (hrows row hr), ?_⟩
    · intro e he
      have hfree := hemail
      rw [he] at hfree
      exact (emailTaken_update _ _ applyTo_userId e).symm.trans (by simpa using hfree)
    · split at h
      · rename_i hoff
        obtain ⟨-, rfl⟩ := updateUserRow_ok.mp h
        simp only [updatedUsers, if_pos hoff, updatedUserAttributes]
      · rename_i hon
        cases h
        simp only [updatedUsers, if_neg hon, updatedUserAttributes]
  · rintro ⟨hfits, hrows, rfl⟩
    refine ⟨(), _, updateUserRow_ok.mpr ⟨hfits.user, rfl⟩, ?_⟩
    rw [Eff.bind_run, Eff.reads_run]
    dsimp only
    rw [if_neg]
    · refine Eff.bind_ok.mpr ⟨(), _, rfl, Eff.bind_ok.mpr ⟨(), _, each_upsertUserAttribute_ok.mpr
        ⟨fun row hr => (hkeys row _).mpr (hrows row hr), rfl⟩, ?_⟩⟩
      by_cases hoff : changes.kerbSyncEnabled = some false
      · rw [if_pos hoff]
        refine updateUserRow_ok.mpr ⟨?_, ?_⟩
        · exact (Lib.Table.isSome_find?_update _ _ _ _ applyTo_userId).trans hfits.user
        · simp only [updatedUsers, if_pos hoff, updatedUserAttributes]
      · rw [if_neg hoff]
        simp only [updatedUsers, if_neg hoff, updatedUserAttributes]
        rfl
    · cases he : request.email with
      | none => simp
      | some e =>
        have hfree := (emailTaken_update _ (UpdateUserRequest.applyTo request now) applyTo_userId
          e).trans (hfits.email e he)
        simpa using hfree

theorem updateUserWithTransaction_ok {kerb : Option Bool} :
    updateUserWithTransaction now request db = (.ok kerb, db') ↔ ∃ schema changes,
      getSchema db = .ok schema ∧
      computeUserAttributeChanges request.userId request.insertAttributes request.deleteAttributes
        schema = .ok changes ∧
      (∀ row ∈ changes.updates, checkUserNumber db row = .ok ()) ∧ UpdateFits request db ∧
      (∀ row ∈ changes.updates, HasUserKeys row db) ∧ kerb = changes.kerbSyncEnabled ∧
      db' = { db with
        users := updatedUsers now request changes.kerbSyncEnabled db.users
        userAttributes := updatedUserAttributes request.userId changes db.userAttributes } := by
  unfold updateUserWithTransaction
  rw [Eff.query_bind_ok]
  refine exists_congr fun schema => ?_
  rw [Eff.lift_bind_ok, ← exists_and_left]
  refine exists_congr fun changes => and_congr_right fun _ => and_congr_right fun _ => ?_
  rw [Eff.query_bind_ok]
  constructor
  · rintro ⟨_, hcheck, h⟩
    obtain ⟨_, db₁, hwrite, h⟩ := Eff.bind_ok.mp h
    obtain ⟨hfits, hrows, rfl⟩ := writeUserChanges_ok.mp hwrite
    cases h
    exact ⟨except_forM_ok.mp hcheck, hfits, hrows, rfl, rfl⟩
  · rintro ⟨hcheck, hfits, hrows, rfl, rfl⟩
    exact ⟨(), except_forM_ok.mpr hcheck, Eff.bind_ok.mpr
      ⟨(), _, writeUserChanges_ok.mpr ⟨hfits, hrows, rfl⟩, rfl⟩⟩

end

/-! ## Creating a user -/

section

variable [External] {now : DateTime} {db db' : Store}

omit [External] in
theorem insertUserAttribute_ok {row : UserAttributeRow} :
    insertUserAttribute row db = (.ok (), db') ↔
      db.userAttributes.find? (row.userId, row.attributeName) = none ∧
        upsertUserAttribute row db = (.ok (), db') := by
  unfold insertUserAttribute
  rw [Eff.bind_run, Eff.reads_run]
  dsimp only
  cases hf : db.userAttributes.find? (row.userId, row.attributeName) with
  | none => simp
  | some r => simp [Eff.bind_run]

omit [External] in
theorem each_insertUserAttribute_ok {rows : List UserAttributeRow}
    (h : Eff.each insertUserAttribute rows db = (.ok (), db')) :
    (∀ row ∈ rows, HasUserKeys row db ∧
      db.userAttributes.find? (row.userId, row.attributeName) = none) ∧
    (rows.map fun r => (r.userId, r.attributeName)).Nodup ∧
    db' = { db with userAttributes := db.userAttributes.upsertAll rows } := by
  induction rows generalizing db with
  | nil =>
    cases h
    simp [Lib.Table.upsertAll]
  | cons row rows ih =>
    obtain ⟨_, db₁, hrow, h⟩ := Eff.bind_ok.mp h
    obtain ⟨hfree, hput⟩ := insertUserAttribute_ok.mp hrow
    obtain ⟨hkeys, rfl⟩ := upsertUserAttribute_ok.mp hput
    obtain ⟨hrest, hnodup, rfl⟩ := ih h
    have hlater : ∀ r ∈ rows, (row.userId, row.attributeName) ≠ (r.userId, r.attributeName) ∧
        db.userAttributes.find? (r.userId, r.attributeName) = none := by
      intro r hr
      have hnone := (hrest r hr).2
      rw [Lib.Table.find?_upsert] at hnone
      split at hnone
      · cases hnone
      · rename_i hne
        exact ⟨hne, hnone⟩
    refine ⟨?_, ?_, rfl⟩
    · intro r hr
      rcases List.mem_cons.mp hr with rfl | hr
      · exact ⟨hkeys, hfree⟩
      · exact ⟨(hrest r hr).1, (hlater r hr).2⟩
    · rw [List.map_cons, List.nodup_cons]
      refine ⟨?_, hnodup⟩
      intro hmem
      obtain ⟨r, hr, heq⟩ := List.mem_map.mp hmem
      exact (hlater r hr).1 heq.symm

def newUserRow (now : DateTime) (request : CreateUserRequest) : UserRow where
  userId := request.userId
  email := request.email
  lowercaseEmail := toLowercase request.email.raw
  displayName := toValue request.displayName none
  creationDate := now
  passwordHash := none
  uuid := External.uuidFromNameAndDate request.userId.asStr now
  modifiedDate := now
  passwordModifiedDate := now
  krbPrincipalName := none

def withDefaultOu (default : String) (db : Store) (attributes : List Attribute) : List Attribute :=
  withDefault "ou" (.string (.singleton ((getAllowedOus db).head?.getD default))) attributes

omit [External] in
theorem withDefault_append (name : String) (value : AttributeValue) (attributes : List Attribute) :
    ∃ added, withDefault name value attributes = attributes ++ added ∧
      ∀ a ∈ added, a.name = .new name := by
  unfold withDefault
  split
  · exact ⟨[], by simp, by simp⟩
  · exact ⟨[⟨.new name, value⟩], rfl, by simp⟩

theorem withDefaultOu_of_mem {default : String} {attributes : List Attribute} {a : Attribute}
    (ha : a ∈ attributes) (hname : a.name.asStr = "ou") :
    withDefaultOu default db attributes = attributes :=
  if_pos (List.any_eq_true.mpr ⟨a, ha, by simp [hname]⟩)

omit [External] in
theorem ite_withDefault_append (assign : Bool) (name : String) (value : AttributeValue)
    (attributes : List Attribute) :
    ∃ added, (if assign then withDefault name value attributes else attributes) =
      attributes ++ added ∧ ∀ a ∈ added, a.name = .new name := by
  cases assign with
  | true => exact withDefault_append name value attributes
  | false => exact ⟨[], by simp, by simp⟩

def newUidnumber (db : Store) (settings : PosixSettings) (attributes : List Attribute) :
    Except DomainError (List Attribute) :=
  if settings.userUidnumberAssign && !attributes.any (fun a => a.name.asStr = "uidnumber") then do
    let nextUid ← nextAvailableUidNumber db settings.userUidnumberStart settings.userUidnumberMax
    .ok [⟨.new "uidnumber", .integer (.singleton nextUid)⟩]
  else .ok []

omit [External] in
theorem newUidnumber_ok {settings : PosixSettings} {attributes uid : List Attribute}
    (h : newUidnumber db settings attributes = .ok uid) :
    uid = [] ∨ ∃ nextUid,
      nextAvailableUidNumber db settings.userUidnumberStart settings.userUidnumberMax =
        .ok nextUid ∧
      (∀ a ∈ attributes, a.name.asStr ≠ "uidnumber") ∧
      uid = [⟨.new "uidnumber", .integer (.singleton nextUid)⟩] := by
  unfold newUidnumber at h
  split at h
  · rename_i hassign
    obtain ⟨nextUid, hnext, h⟩ := except_bind_ok.mp h
    refine .inr ⟨nextUid, hnext, fun a ha hname => ?_, (Except.ok.inj h).symm⟩
    simp only [Bool.and_eq_true, Bool.not_eq_true', List.any_eq_false, decide_eq_true_eq] at hassign
    exact hassign.2 a ha hname
  · exact .inl (Except.ok.inj h).symm

omit [External] in
theorem withPosixDefaults_ok {settings : PosixSettings} {u : UserId}
    {attributes final : List Attribute}
    (h : withPosixDefaults db settings u attributes = .ok final) :
    ∃ uid others, newUidnumber db settings attributes = .ok uid ∧
      final = attributes ++ uid ++ others ∧
      ∀ a ∈ others, ∃ n ∈ ["gidnumber", "loginshell", "homedirectory"], a.name = .new n := by
  have hothers (numbered : List Attribute) : ∃ others,
      (let attributes :=
        if settings.userGidnumberAssign then
          withDefault "gidnumber" (.integer (.singleton settings.userGidnumberStart)) numbered
        else numbered
      let attributes :=
        if settings.userLoginshellAssign then
          withDefault "loginshell" (.string (.singleton settings.userLoginshellDefault)) attributes
        else attributes
      if settings.userHomedirectoryAssign then
        withDefault "homedirectory"
          (.string (.singleton (settings.userHomedirectoryPrefix ++ "/" ++ u.asStr))) attributes
      else attributes) = numbered ++ others ∧
      ∀ a ∈ others, ∃ n ∈ ["gidnumber", "loginshell", "homedirectory"], a.name = .new n := by
    dsimp only
    obtain ⟨gid, hgid, hgidName⟩ := ite_withDefault_append settings.userGidnumberAssign "gidnumber"
      (.integer (.singleton settings.userGidnumberStart)) numbered
    rw [hgid]
    obtain ⟨shell, hshell, hshellName⟩ := ite_withDefault_append settings.userLoginshellAssign
      "loginshell" (.string (.singleton settings.userLoginshellDefault)) (numbered ++ gid)
    rw [hshell]
    obtain ⟨home, hhome, hhomeName⟩ := ite_withDefault_append settings.userHomedirectoryAssign
      "homedirectory" (.string (.singleton (settings.userHomedirectoryPrefix ++ "/" ++ u.asStr)))
      (numbered ++ gid ++ shell)
    rw [hhome]
    refine ⟨gid ++ shell ++ home, by simp only [List.append_assoc], fun a ha => ?_⟩
    simp only [List.mem_append] at ha
    rcases ha with (ha | ha) | ha
    · exact ⟨_, by simp, hgidName a ha⟩
    · exact ⟨_, by simp, hshellName a ha⟩
    · exact ⟨_, by simp, hhomeName a ha⟩
  unfold withPosixDefaults at h
  unfold newUidnumber
  dsimp only at h
  split at h
  · rename_i hassign
    obtain ⟨nextUid, hnext, h⟩ := except_bind_ok.mp h
    obtain ⟨others, heq, hnames⟩ :=
      hothers (attributes ++ [⟨.new "uidnumber", .integer (.singleton nextUid)⟩])
    rw [if_pos hassign, hnext]
    exact ⟨_, others, rfl, (Except.ok.inj h).symm.trans heq, hnames⟩
  · rename_i hassign
    obtain ⟨others, heq, hnames⟩ := hothers attributes
    rw [if_neg hassign]
    exact ⟨[], others, rfl, by rw [List.append_nil]; exact (Except.ok.inj h).symm.trans heq, hnames⟩

/-- The attribute rows of a new user: an attribute that the schema does not have is dropped. -/
def newUserAttributeRows (schema : Schema) (userId : UserId) (attributes : List Attribute) :
    List UserAttributeRow :=
  (attributes.filter fun a => (getAttributeType schema.userAttributes a.name.asStr).isSome).map
    (attributeRow schema userId)

theorem insertUser_ok {row : UserRow} (h : insertUser row db = (.ok (), db')) :
    ∃ users, db.users.insert? row = some users ∧ db' = { db with users := users } := by
  obtain ⟨db₀, db₁, hread, h⟩ := Eff.bind_ok.mp h
  cases hread
  split at h
  · cases h
  · cases hi : db.users.insert? row with
    | none =>
      simp only [id_eq, hi] at h
      cases h
    | some users =>
      simp only [id_eq, hi] at h
      cases h
      exact ⟨users, rfl, rfl⟩

theorem createUser_ok {request : CreateUserRequest}
    (h : createUser now request db = (.ok (), db')) :
    ∃ schema settings attributes users, getSchema db = .ok schema ∧
      getPosixSettings db = .ok settings ∧
      (∀ a ∈ withDefaultOu "people" db request.attributes, checkNewUserNumber db a = .ok ()) ∧
      withPosixDefaults db settings request.userId (withDefaultOu "people" db request.attributes) =
        .ok attributes ∧
      db.users.insert? (newUserRow now request) = some users ∧
      (∀ row ∈ newUserAttributeRows schema request.userId attributes,
        (db.userAttributeSchema.find? row.attributeName).isSome = true ∧
          db.userAttributes.find? (row.userId, row.attributeName) = none) ∧
      ((newUserAttributeRows schema request.userId attributes).map
        fun r => (r.userId, r.attributeName)).Nodup ∧
      db' = { db with
        users := users
        userAttributes := db.userAttributes.upsertAll
          (newUserAttributeRows schema request.userId attributes) } := by
  obtain ⟨allowedOus, db₀, hread, h⟩ := Eff.bind_ok.mp h
  cases hread
  have h := Eff.transaction_ok h
  obtain ⟨schema, hschema, h⟩ := Eff.query_bind_ok.mp h
  obtain ⟨settings, hsettings, h⟩ := Eff.query_bind_ok.mp h
  obtain ⟨_, hcheck, h⟩ := Eff.query_bind_ok.mp h
  obtain ⟨attributes, hattrs, h⟩ := Eff.query_bind_ok.mp h
  obtain ⟨_, db₁, hinsert, h⟩ := Eff.bind_ok.mp h
  obtain ⟨users, husers, rfl⟩ := insertUser_ok hinsert
  obtain ⟨hfree, hnodup, rfl⟩ := each_insertUserAttribute_ok h
  exact ⟨schema, settings, attributes, users, hschema, hsettings, except_forM_ok.mp hcheck, hattrs,
    husers, fun row hrow => ⟨(hfree row hrow).1.2, (hfree row hrow).2⟩, hnodup, rfl⟩

end

/-! ## Groups -/

section

variable [External] {now : DateTime} {db db' : Store}

def updatedGroup (now : DateTime) (request : UpdateGroupRequest) (r : GroupRow) : GroupRow :=
  { r with
    displayName := request.displayName.getD r.displayName
    lowercaseDisplayName :=
      (request.displayName.map fun n => toLowercase n.raw).getD r.lowercaseDisplayName
    modifiedDate := now }

theorem updatedGroup_groupId {request : UpdateGroupRequest} (r : GroupRow) :
    (updatedGroup now request r).groupId = r.groupId := rfl

def groupAttributeRow (schema : Schema) (groupId : GroupId) (a : Attribute) : GroupAttributeRow :=
  ⟨groupId, storedName schema.groupAttributes a.name, attributeValueToDbBytes a.value⟩

def removedGroupAttributes (schema : Schema) (names : List AttributeName) :
    Except DomainError (List AttributeName) :=
  names.mapM fun name =>
    if isWritable schema.groupAttributes name then .ok (storedName schema.groupAttributes name)
    else .error (.internalError ("Group attribute name " ++ name.asStr ++
      " doesn't exist in the schema, yet was attempted to be removed from the database"))

def updatedGroupAttributes (request : UpdateGroupRequest) (schema : Schema)
    (removes : List AttributeName)
    (t : GroupAttributeTable) : GroupAttributeTable :=
  (t.delete fun r => r.groupId = request.groupId && removes.contains r.attributeName).upsertAll
    (request.insertAttributes.map (groupAttributeRow schema request.groupId))

theorem groupNameTaken_update (g : GroupId) (f : GroupRow → GroupRow)
    (hf : ∀ r, (f r).groupId = r.groupId) (name : GroupName) :
    groupNameTaken { db with groups := db.groups.update g f hf } (some g) name =
      groupNameTaken db (some g) name := by
  simp only [groupNameTaken, Lib.Table.update, Lib.Table.updateWhere, Lib.Table.mapRows,
    List.any_map]
  congr 1
  funext r
  by_cases hr : r.groupId = g
  · simp [hr, hf]
  · simp [hr]

/-- What an update asks of the database apart from the attributes: the group exists and no other has
the new name. -/
structure GroupUpdateFits (request : UpdateGroupRequest) (db : Store) : Prop where
  group : (db.groups.find? request.groupId).isSome = true
  name : ∀ n, request.displayName = some n → groupNameTaken db (some request.groupId) n = false

theorem updateGroupWithTransaction_ok {request : UpdateGroupRequest} :
    updateGroupWithTransaction now request db = (.ok (), db') ↔ ∃ schema removes,
      getSchema db = .ok schema ∧
      (∀ a ∈ request.insertAttributes,
        checkGroupNumber db 20000 " (or 0 for no limit)" a = .ok ()) ∧
      removedGroupAttributes schema request.deleteAttributes = .ok removes ∧
      GroupUpdateFits request db ∧
      (∀ row ∈ request.insertAttributes.map (groupAttributeRow schema request.groupId),
        HasGroupKeys row db) ∧
      db' = { db with
        groups := db.groups.update request.groupId (updatedGroup now request) updatedGroup_groupId
        groupAttributes := updatedGroupAttributes request schema removes db.groupAttributes } := by
  have hkeys (row : GroupAttributeRow) (attrs) :
      HasGroupKeys row { db with
        groups := db.groups.update request.groupId (updatedGroup now request) updatedGroup_groupId
        groupAttributes := attrs } ↔
      HasGroupKeys row db :=
    and_congr (iff_of_eq (congrArg (· = true)
      (Lib.Table.isSome_find?_update _ _ _ _ updatedGroup_groupId))) Iff.rfl
  constructor
  · intro h
    obtain ⟨_, db₁, hrow, h⟩ := Eff.bind_ok.mp h
    obtain ⟨hgroup, rfl⟩ := updateGroupRow_ok.mp hrow
    obtain ⟨taken, db₂, hread, h⟩ := Eff.bind_ok.mp h
    cases hread
    dsimp only at h
    split at h
    · obtain ⟨_, _, hfail, -⟩ := Eff.bind_ok.mp h
      cases hfail
    rename_i hname
    obtain ⟨schema, hschema, h⟩ := Eff.query_bind_ok.mp h
    obtain ⟨_, hcheck, h⟩ := Eff.query_bind_ok.mp h
    obtain ⟨removes, hremoves, h⟩ := Eff.lift_bind_ok.mp h
    obtain ⟨_, db₃, hdelete, h⟩ := Eff.bind_ok.mp h
    cases hdelete
    obtain ⟨hrows, rfl⟩ := each_upsertGroupAttribute_ok.mp h
    refine ⟨schema, removes, hschema, except_forM_ok.mp hcheck, hremoves, ⟨hgroup, ?_⟩,
      fun row hr => (hkeys row _).mp (hrows row hr), rfl⟩
    intro n hn
    simp only [groupNameTaken_update] at hname
    simpa [hn] using hname
  · rintro ⟨schema, removes, hschema, hcheck, hremoves, hfits, hrows, rfl⟩
    refine Eff.bind_ok.mpr ⟨(), _, updateGroupRow_ok.mpr ⟨hfits.group, rfl⟩, ?_⟩
    rw [Eff.bind_run, Eff.reads_run]
    dsimp only
    rw [if_neg]
    · refine Eff.query_bind_ok.mpr ⟨schema, hschema, Eff.query_bind_ok.mpr
        ⟨(), except_forM_ok.mpr hcheck, Eff.lift_bind_ok.mpr ⟨removes, hremoves, ?_⟩⟩⟩
      exact Eff.bind_ok.mpr ⟨(), _, rfl, each_upsertGroupAttribute_ok.mpr
        ⟨fun row hr => (hkeys row _).mpr (hrows row hr), rfl⟩⟩
    · simp only [groupNameTaken_update]
      cases hn : request.displayName with
      | none => simp
      | some n => simpa using hfits.name n hn

theorem updateGroup_ok {request : UpdateGroupRequest}
    (h : updateGroup now request db = (.ok (), db')) :
    updateGroupWithTransaction now request db = (.ok (), db') := by
  unfold updateGroup at h
  split at h
  · obtain ⟨details, -, h⟩ := Eff.query_bind_ok.mp h
    dsimp only at h
    split at h
    · cases h
    · exact Eff.transaction_ok h
  · exact Eff.transaction_ok h

omit [External] in
theorem insertGroupAttribute_ok {row : GroupAttributeRow} :
    insertGroupAttribute row db = (.ok (), db') ↔
      db.groupAttributes.find? (row.groupId, row.attributeName) = none ∧
        upsertGroupAttribute row db = (.ok (), db') := by
  unfold insertGroupAttribute
  rw [Eff.bind_run, Eff.reads_run]
  dsimp only
  cases hf : db.groupAttributes.find? (row.groupId, row.attributeName) with
  | none => simp
  | some r => simp [Eff.bind_run]

omit [External] in
theorem each_insertGroupAttribute_ok {rows : List GroupAttributeRow}
    (h : Eff.each insertGroupAttribute rows db = (.ok (), db')) :
    (∀ row ∈ rows, HasGroupKeys row db ∧
      db.groupAttributes.find? (row.groupId, row.attributeName) = none) ∧
    (rows.map fun r => (r.groupId, r.attributeName)).Nodup ∧
    db' = { db with groupAttributes := db.groupAttributes.upsertAll rows } := by
  induction rows generalizing db with
  | nil =>
    cases h
    simp [Lib.Table.upsertAll]
  | cons row rows ih =>
    obtain ⟨_, db₁, hrow, h⟩ := Eff.bind_ok.mp h
    obtain ⟨hfree, hput⟩ := insertGroupAttribute_ok.mp hrow
    obtain ⟨hkeys, rfl⟩ := upsertGroupAttribute_ok.mp hput
    obtain ⟨hrest, hnodup, rfl⟩ := ih h
    have hlater : ∀ r ∈ rows, (row.groupId, row.attributeName) ≠ (r.groupId, r.attributeName) ∧
        db.groupAttributes.find? (r.groupId, r.attributeName) = none := by
      intro r hr
      have hnone := (hrest r hr).2
      rw [Lib.Table.find?_upsert] at hnone
      split at hnone
      · cases hnone
      · rename_i hne
        exact ⟨hne, hnone⟩
    refine ⟨?_, ?_, rfl⟩
    · intro r hr
      rcases List.mem_cons.mp hr with rfl | hr
      · exact ⟨hkeys, hfree⟩
      · exact ⟨(hrest r hr).1, (hlater r hr).2⟩
    · rw [List.map_cons, List.nodup_cons]
      refine ⟨?_, hnodup⟩
      intro hmem
      obtain ⟨r, hr, heq⟩ := List.mem_map.mp hmem
      exact (hlater r hr).1 heq.symm

theorem insertGroup_ok {name : GroupName} {id : GroupId}
    (h : insertGroup now name db = (.ok id, db')) :
    ∃ groups, db.groups.insert? ⟨id, name, toLowercase name.raw, now,
        External.uuidFromNameAndDate name.raw now, now⟩ = some groups ∧
      db' = { db with groups := groups, groupSequence := id.val } := by
  obtain ⟨db₀, db₁, hread, h⟩ := Eff.bind_ok.mp h
  cases hread
  dsimp only at h
  split at h
  · cases h
  · cases hi : db.groups.insert? ⟨⟨(db.groups.rows.map fun g => g.groupId.val).foldl max
        db.groupSequence + 1⟩, name, toLowercase name.raw, now,
        External.uuidFromNameAndDate name.raw now, now⟩ with
    | none =>
      rw [id_eq, hi] at h
      cases h
    | some groups =>
      rw [id_eq, hi] at h
      cases h
      exact ⟨groups, hi, rfl⟩

/-- The attributes of a new group, with the number that the POSIX settings add. -/
def withGroupDefaults (db : Store) (settings : PosixSettings) (attributes : List Attribute) :
    Except DomainError (List Attribute) :=
  if settings.groupGidnumberAssign && !attributes.any (fun a => a.name.asStr = "gidnumber") then do
    let nextGid ←
      nextAvailableGidNumber db settings.groupGidnumberStart settings.groupGidnumberMax
    .ok (attributes ++ [⟨.new "gidnumber", .integer (.singleton nextGid)⟩])
  else .ok attributes

theorem insertGroupRows_ok {schema : Schema} {name : GroupName} {attributes : List Attribute}
    {id : GroupId}
    (h : (do
      let groupId ← insertGroup now name
      let rows ← Eff.lift (attributes.mapM fun a =>
        if isWritable schema.groupAttributes a.name then
          .ok (⟨groupId, storedName schema.groupAttributes a.name,
            attributeValueToDbBytes a.value⟩ : GroupAttributeRow)
        else .error (DomainError.internalError
          ("Group attribute name " ++ a.name.asStr ++ " doesn't exist in the schema")))
      Eff.each insertGroupAttribute rows
      pure groupId : Db GroupId) db = (.ok id, db')) :
    ∃ groups, db.groups.insert? ⟨id, name, toLowercase name.raw, now,
        External.uuidFromNameAndDate name.raw now, now⟩ = some groups ∧
      (∀ row ∈ attributes.map (groupAttributeRow schema id),
        (db.groupAttributeSchema.find? row.attributeName).isSome = true ∧
          db.groupAttributes.find? (row.groupId, row.attributeName) = none) ∧
      ((attributes.map (groupAttributeRow schema id)).map
        fun r => (r.groupId, r.attributeName)).Nodup ∧
      db' = { db with
        groups := groups
        groupSequence := id.val
        groupAttributes :=
          db.groupAttributes.upsertAll (attributes.map (groupAttributeRow schema id)) } := by
  obtain ⟨groupId, db₂, hinsert, h⟩ := Eff.bind_ok.mp h
  obtain ⟨groups, hgroups, rfl⟩ := insertGroup_ok hinsert
  obtain ⟨rows, hrows, h⟩ := Eff.lift_bind_ok.mp h
  have hrows : rows = attributes.map (groupAttributeRow schema groupId) :=
    Lib.except_mapM_map hrows fun a r hr => by
      split at hr
      · exact (Except.ok.inj hr).symm
      · cases hr
  obtain ⟨_, db₃, heach, h⟩ := Eff.bind_ok.mp h
  cases h
  subst hrows
  obtain ⟨hfree, hnodup, rfl⟩ := each_insertGroupAttribute_ok heach
  exact ⟨groups, hgroups, fun row hrow => ⟨(hfree row hrow).1.2, (hfree row hrow).2⟩, hnodup, rfl⟩

theorem createGroup_ok {request : CreateGroupRequest} {id : GroupId}
    (h : createGroup now request db = (.ok id, db')) :
    ∃ schema settings attributes groups, getSchema db = .ok schema ∧
      getPosixSettings db = .ok settings ∧
      (∀ a ∈ request.attributes, checkGroupNumber db 60000 "" a = .ok ()) ∧
      withGroupDefaults db settings (withDefaultOu "groups" db request.attributes) =
        .ok attributes ∧
      db.groups.insert? ⟨id, request.displayName, toLowercase request.displayName.raw, now,
        External.uuidFromNameAndDate request.displayName.raw now, now⟩ = some groups ∧
      (∀ row ∈ attributes.map (groupAttributeRow schema id),
        (db.groupAttributeSchema.find? row.attributeName).isSome = true ∧
          db.groupAttributes.find? (row.groupId, row.attributeName) = none) ∧
      ((attributes.map (groupAttributeRow schema id)).map
        fun r => (r.groupId, r.attributeName)).Nodup ∧
      db' = { db with
        groups := groups
        groupSequence := id.val
        groupAttributes :=
          db.groupAttributes.upsertAll (attributes.map (groupAttributeRow schema id)) } := by
  obtain ⟨allowedOus, db₀, hread, h⟩ := Eff.bind_ok.mp h
  cases hread
  have h := Eff.transaction_ok h
  obtain ⟨schema, hschema, h⟩ := Eff.query_bind_ok.mp h
  obtain ⟨settings, hsettings, h⟩ := Eff.query_bind_ok.mp h
  obtain ⟨_, hcheck, h⟩ := Eff.query_bind_ok.mp h
  refine ⟨schema, settings, ?_⟩
  dsimp only at h
  split at h
  · rename_i hassign
    obtain ⟨nextGid, hnext, h⟩ := Eff.query_bind_ok.mp h
    obtain ⟨groups, hrest⟩ := insertGroupRows_ok h
    refine ⟨_, groups, hschema, hsettings, except_forM_ok.mp hcheck, ?_, hrest⟩
    unfold withGroupDefaults withDefaultOu
    rw [if_pos hassign]
    exact except_bind_ok.mpr ⟨nextGid, hnext, rfl⟩
  · rename_i hassign
    obtain ⟨groups, hrest⟩ := insertGroupRows_ok h
    refine ⟨_, groups, hschema, hsettings, except_forM_ok.mp hcheck, ?_, hrest⟩
    unfold withGroupDefaults withDefaultOu
    rw [if_neg hassign]

/-! ## Assigning anew -/

omit [External] in
theorem each_reassignUser_ok {f : UserRow → Nat → UserAttributeRow} {users : List (UserRow × Nat)}
    (h : Eff.each (fun (user, i) => do
      upsertUserAttribute (f user i)
      touchUser now user.userId) users db = (.ok (), db')) :
    db'.userAttributes = db.userAttributes.upsertAll (users.map fun p => f p.1 p.2) ∧
      (∀ u, (db'.users.find? u).isSome = (db.users.find? u).isSome) ∧
      db'.groups = db.groups ∧ db'.groupAttributes = db.groupAttributes := by
  induction users generalizing db with
  | nil =>
    cases h
    exact ⟨rfl, fun _ => rfl, rfl, rfl⟩
  | cons p users ih =>
    obtain ⟨_, db₂, hstep, h⟩ := Eff.bind_ok.mp h
    obtain ⟨_, db₁, hput, htouch⟩ := Eff.bind_ok.mp hstep
    obtain ⟨-, rfl⟩ := upsertUserAttribute_ok.mp hput
    obtain ⟨-, rfl⟩ := updateUserRow_ok.mp htouch
    obtain ⟨hattrs, husers, hgroups, hgroupAttrs⟩ := ih h
    refine ⟨hattrs, fun u => (husers u).trans ?_, hgroups, hgroupAttrs⟩
    exact Lib.Table.isSome_find?_update db.users p.1.userId u
      (fun r => { r with modifiedDate := now }) fun _ => rfl

omit [External] in
theorem each_reassignGroup_ok {f : GroupRow → Nat → GroupAttributeRow}
    {groups : List (GroupRow × Nat)}
    (h : Eff.each (fun (group, i) => do
      upsertGroupAttribute (f group i)
      touchGroup now group.groupId) groups db = (.ok (), db')) :
    db'.groupAttributes = db.groupAttributes.upsertAll (groups.map fun p => f p.1 p.2) ∧
      (∀ g, (db'.groups.find? g).isSome = (db.groups.find? g).isSome) ∧
      db'.users = db.users ∧ db'.userAttributes = db.userAttributes := by
  induction groups generalizing db with
  | nil =>
    cases h
    exact ⟨rfl, fun _ => rfl, rfl, rfl⟩
  | cons p groups ih =>
    obtain ⟨_, db₂, hstep, h⟩ := Eff.bind_ok.mp h
    obtain ⟨_, db₁, hput, htouch⟩ := Eff.bind_ok.mp hstep
    obtain ⟨-, rfl⟩ := upsertGroupAttribute_ok.mp hput
    obtain ⟨-, rfl⟩ := updateGroupRow_ok.mp htouch
    obtain ⟨hattrs, hgroups, husers, huserAttrs⟩ := ih h
    refine ⟨hattrs, fun g => (hgroups g).trans ?_, husers, huserAttrs⟩
    exact Lib.Table.isSome_find?_update db.groups p.1.groupId g
      (fun r => { r with modifiedDate := now }) fun _ => rfl

def reassignedUserAttributes (name : String) (assign : Bool) (users : List UserRow)
    (value : Nat → UserId → String)
    (t : UserAttributeTable) : UserAttributeTable :=
  if assign then
    t.upsertAll (users.zipIdx.map fun p => ⟨p.1.userId, .new name, utf8 (value p.2 p.1.userId)⟩)
  else t.delete fun r => r.attributeName = .new name

theorem reassignUserAttribute_ok {name : String} {assign : PosixSettings → Bool}
    {order : List UserRow → List UserRow} {value : PosixSettings → Int → UserId → String}
    (h : reassignUserAttribute name assign order value now db = (.ok (), db')) :
    ∃ settings, getPosixSettings db = .ok settings ∧
      db'.userAttributes = reassignedUserAttributes name (assign settings) (order db.users.rows)
        (fun i u => value settings i u) db.userAttributes ∧
      (∀ u, (db'.users.find? u).isSome = (db.users.find? u).isSome) ∧
      db'.groups = db.groups ∧ db'.groupAttributes = db.groupAttributes := by
  obtain ⟨settings, hsettings, h⟩ := Eff.query_bind_ok.mp h
  refine ⟨settings, hsettings, ?_⟩
  have h := Eff.transaction_ok h
  unfold reassignedUserAttributes
  split at h
  · rename_i hassign
    obtain ⟨users, _, hread, h⟩ := Eff.bind_ok.mp h
    cases hread
    rw [if_pos hassign]
    exact each_reassignUser_ok
      (f := fun user i => ⟨user.userId, .new name, utf8 (value settings i user.userId)⟩) h
  · rename_i hassign
    cases h
    rw [if_neg hassign]
    exact ⟨rfl, fun _ => rfl, rfl, rfl⟩

/-- What is in the attribute table of the groups after `reassignGidNumbers`. -/
def reassignedGroupAttributes (settings : PosixSettings) (groups : List GroupRow)
    (t : GroupAttributeTable) : GroupAttributeTable :=
  if settings.groupGidnumberAssign then
    t.upsertAll (groups.zipIdx.map fun p =>
      ⟨p.1.groupId, .new "gidnumber",
        utf8 (toString (wrapI64 (settings.groupGidnumberStart + p.2)))⟩)
  else t.delete fun r => r.attributeName = .new "gidnumber"

theorem reassignGidNumbers_ok (h : reassignGidNumbers now db = (.ok (), db')) :
    ∃ settings, getPosixSettings db = .ok settings ∧
      db'.groupAttributes = reassignedGroupAttributes settings
        (orderBy GroupRow.creationDate db.groups.rows) db.groupAttributes ∧
      (∀ g, (db'.groups.find? g).isSome = (db.groups.find? g).isSome) ∧
      db'.users = db.users ∧ db'.userAttributes = db.userAttributes := by
  obtain ⟨settings, hsettings, h⟩ := Eff.query_bind_ok.mp h
  refine ⟨settings, hsettings, ?_⟩
  have h := Eff.transaction_ok h
  unfold reassignedGroupAttributes
  split at h
  · rename_i hassign
    obtain ⟨groups, _, hread, h⟩ := Eff.bind_ok.mp h
    cases hread
    rw [if_pos hassign]
    exact each_reassignGroup_ok
      (f := fun group i => ⟨group.groupId, .new "gidnumber",
        utf8 (toString (wrapI64 (settings.groupGidnumberStart + i)))⟩) h
  · rename_i hassign
    cases h
    rw [if_neg hassign]
    exact ⟨rfl, fun _ => rfl, rfl, rfl⟩

theorem createUser_atomic (now : DateTime) (request : CreateUserRequest) :
    Eff.Atomic (createUser now request) :=
  .bind (Eff.Keeps.reads _) fun _ => .transaction _

theorem createGroup_atomic (now : DateTime) (request : CreateGroupRequest) :
    Eff.Atomic (createGroup now request) :=
  .bind (Eff.Keeps.reads _) fun _ => .transaction _

theorem updateGroup_atomic (now : DateTime) (request : UpdateGroupRequest) :
    Eff.Atomic (updateGroup now request) := by
  unfold updateGroup
  split
  · refine .bind (Eff.Keeps.query _) fun details => ?_
    dsimp only
    split
    · exact fun _ => .inl rfl
    · exact .transaction _
  · exact .transaction _

end

end Sql
end Klldap
