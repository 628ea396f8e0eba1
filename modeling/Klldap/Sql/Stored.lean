import Klldap.Sql.Own
import Klldap.Sql.Writes

/-!
# Klldap.Sql.Stored: the stored value of a built-in attribute

An entry has at most one row for an attribute, under the name that the schema resolves a spelling
to. What a write leaves in that row and what the readers make of it is said here for any built-in
attribute.
-/

namespace Klldap
namespace Sql

open Lib (Bytes Eff except_bind_ok)

/-! ## Values -/

def userValue (db : Store) (u : UserId) (n : String) : Option Bytes :=
  (db.userAttributes.find? (u, .new n)).map UserAttributeRow.value

def groupValue (db : Store) (g : GroupId) (n : String) : Option Bytes :=
  (db.groupAttributes.find? (g, .new n)).map GroupAttributeRow.value

/-- The attribute of a request that is stored as `n`: the last one that some spelling gives. -/
def lastGiven (canonical : String → AttributeName) (n : String) (attributes : List Attribute) :
    Option Attribute :=
  attributes.reverse.find? fun a => canonical a.name.asStr = .new n

/-- The attribute of a request that is stored as the user attribute `n`. -/
def givenUser : String → List Attribute → Option Attribute := lastGiven canonicalUserAttributeName

/-- The attribute of a request that is stored as the group attribute `n`. -/
def givenGroup : String → List Attribute → Option Attribute := lastGiven canonicalGroupAttributeName

theorem lastGiven_eq_none {canonical : String → AttributeName} {n : String}
    {attributes : List Attribute} :
    lastGiven canonical n attributes = none ↔
      ∀ a ∈ attributes, canonical a.name.asStr ≠ .new n := by
  simp [lastGiven]

theorem lastGiven_filter {canonical : String → AttributeName} {n : String} {p : Attribute → Bool}
    {attributes : List Attribute}
    (hp : ∀ a ∈ attributes, canonical a.name.asStr = .new n → p a = true) :
    lastGiven canonical n (attributes.filter p) = lastGiven canonical n attributes := by
  unfold lastGiven
  rw [← List.filter_reverse, List.find?_filter]
  refine List.find?_congr fun a ha => ?_
  by_cases hc : canonical a.name.asStr = .new n
  · simp [hc, hp a (List.mem_reverse.mp ha) hc]
  · simp [hc]

section

variable [External] {db : Store} {schema : Schema} {b : AttributeSchema}

theorem userValue_upsertAll (hschema : getSchema db = .ok schema) {n : String}
    (hn : n ∈ PublicSchema.userAttributes.map AttributeSchema.name) (users)
    (attrs : UserAttributeTable) (attributes : List Attribute) (u v : UserId) :
    userValue { db with
        users := users
        userAttributes := attrs.upsertAll (attributes.map (attributeRow schema u)) } v n =
      if v = u then
        ((givenUser n attributes).map fun a => attributeValueToDbBytes a.value).or
          ((attrs.find? (v, .new n)).map UserAttributeRow.value)
      else (attrs.find? (v, .new n)).map UserAttributeRow.value := by
  obtain ⟨b, hb, rfl⟩ := List.mem_map.mp hn
  unfold userValue givenUser lastGiven
  dsimp only
  rw [Lib.Table.find?_upsertAll_owned attrs attributes (f := attributeRow schema u)
    (fun a => storedName schema.userAttributes a.name) (fun _ => rfl) v]
  simp only [storedName_user hschema hb]
  split
  · cases attributes.reverse.find? fun a =>
      decide (canonicalUserAttributeName a.name.asStr = .new b.name) <;> rfl
  · rfl

theorem groupValue_upsertAll (hschema : getSchema db = .ok schema) {n : String}
    (hn : n ∈ PublicSchema.groupAttributes.map AttributeSchema.name) (groups) (sequence)
    (attrs : GroupAttributeTable) (attributes : List Attribute) (g v : GroupId) :
    groupValue { db with
        groups := groups
        groupSequence := sequence
        groupAttributes := attrs.upsertAll (attributes.map (groupAttributeRow schema g)) } v
        n =
      if v = g then
        ((givenGroup n attributes).map fun a => attributeValueToDbBytes a.value).or
          ((attrs.find? (v, .new n)).map GroupAttributeRow.value)
      else (attrs.find? (v, .new n)).map GroupAttributeRow.value := by
  obtain ⟨b, hb, rfl⟩ := List.mem_map.mp hn
  unfold groupValue givenGroup lastGiven
  dsimp only
  rw [Lib.Table.find?_upsertAll_owned attrs attributes (f := groupAttributeRow schema g)
    (fun a => storedName schema.groupAttributes a.name) (fun _ => rfl) v]
  simp only [storedName_group hschema hb]
  split
  · cases attributes.reverse.find? fun a =>
      decide (canonicalGroupAttributeName a.name.asStr = .new b.name) <;> rfl
  · rfl

theorem userValue_updated {request : UpdateUserRequest} {changes : AttributeChanges}
    (hschema : getSchema db = .ok schema)
    (hchanges : computeUserAttributeChanges request.userId request.insertAttributes
      request.deleteAttributes schema = .ok changes) {n : String}
    (hn : n ∈ PublicSchema.userAttributes.map AttributeSchema.name) (users) (v : UserId) :
    userValue { db with
        users := users
        userAttributes := updatedUserAttributes request.userId changes db.userAttributes } v
        n =
      if v = request.userId then
        ((givenUser n request.insertAttributes).map
          fun a => attributeValueToDbBytes a.value).or
          (if changes.removes.contains (.new n) then none else userValue db v n)
      else userValue db v n := by
  obtain ⟨hupdates, -, -⟩ := computeUserAttributeChanges_ok hchanges
  unfold updatedUserAttributes
  rw [hupdates, userValue_upsertAll hschema hn, Lib.Table.find?_delete_owned
    (u := request.userId) (q := fun name => changes.removes.contains name) _ (fun _ => rfl) v]
  unfold userValue
  by_cases hv : v = request.userId
  · simp only [hv, true_and, if_true]
    split <;> rfl
  · simp [hv]

theorem groupValue_updated {request : UpdateGroupRequest} {removes : List AttributeName}
    (hschema : getSchema db = .ok schema) {n : String}
    (hn : n ∈ PublicSchema.groupAttributes.map AttributeSchema.name) (groups)
    (v : GroupId) :
    groupValue { db with
        groups := groups
        groupAttributes := updatedGroupAttributes request schema removes db.groupAttributes } v
        n =
      if v = request.groupId then
        ((givenGroup n request.insertAttributes).map
          fun a => attributeValueToDbBytes a.value).or
          (if removes.contains (.new n) then none else groupValue db v n)
      else groupValue db v n := by
  unfold updatedGroupAttributes
  rw [groupValue_upsertAll hschema hn, Lib.Table.find?_delete_owned (u := request.groupId)
    (q := fun name => removes.contains name) _ (fun _ => rfl) v]
  unfold groupValue
  by_cases hv : v = request.groupId
  · simp only [hv, true_and, if_true]
    split <;> rfl
  · simp [hv]

theorem getAttributeType_user (hschema : getSchema db = .ok schema) {n : String}
    (hn : getByNameOrAlias PublicSchema.userAttributes n = some b) :
    getAttributeType schema.userAttributes n = some (b.attributeType, b.isList) := by
  obtain ⟨rest, hrest⟩ := getSchema_userAttributes hschema
  unfold getAttributeType
  rw [hrest, getByNameOrAlias_append hn]
  rfl

theorem getAttributeType_group (hschema : getSchema db = .ok schema) {n : String}
    (hn : getByNameOrAlias PublicSchema.groupAttributes n = some b) :
    getAttributeType schema.groupAttributes n = some (b.attributeType, b.isList) := by
  obtain ⟨rest, hrest⟩ := getSchema_groupAttributes hschema
  unfold getAttributeType
  rw [hrest, getByNameOrAlias_append hn]
  rfl

theorem userValue_created (hschema : getSchema db = .ok schema) {n : String}
    (hn : n ∈ PublicSchema.userAttributes.map AttributeSchema.name) (users)
    (attributes : List Attribute) (u v : UserId) :
    userValue { db with
        users := users
        userAttributes := db.userAttributes.upsertAll (newUserAttributeRows schema u attributes) }
        v n =
      if v = u then
        ((givenUser n attributes).map fun a => attributeValueToDbBytes a.value).or
          (userValue db v n)
      else userValue db v n := by
  unfold newUserAttributeRows
  rw [userValue_upsertAll hschema hn, givenUser, lastGiven_filter]
  · rfl
  · intro a _ ha
    obtain ⟨b, hb, rfl⟩ := List.mem_map.mp hn
    rw [getAttributeType_user hschema ((canonicalUserAttributeName_iff hb a.name).mp ha)]
    rfl

theorem groupValue_created (hschema : getSchema db = .ok schema) {n : String}
    (hn : n ∈ PublicSchema.groupAttributes.map AttributeSchema.name) (groups) (sequence)
    (attributes : List Attribute) (g v : GroupId) :
    groupValue { db with
        groups := groups
        groupSequence := sequence
        groupAttributes :=
          db.groupAttributes.upsertAll (attributes.map (groupAttributeRow schema g)) } v n =
      if v = g then
        ((givenGroup n attributes).map fun a => attributeValueToDbBytes a.value).or
          (groupValue db v n)
      else groupValue db v n :=
  groupValue_upsertAll hschema hn _ _ _ _ _ _

end

/-- The user attribute `n` goes by that name alone, in the schema table and in the attribute rows, as
the migrations leave it. -/
structure UserNamed (n : String) (db : Store) : Prop where
  schema : ∀ r ∈ db.userAttributeSchema.rows,
    canonicalUserAttributeName r.attributeName.asStr = .new n → r.attributeName = .new n
  rows : ∀ r ∈ db.userAttributes.rows,
    canonicalUserAttributeName r.attributeName.asStr = .new n → r.attributeName = .new n

/-- The group attribute `n` goes by that name alone. -/
structure GroupNamed (n : String) (db : Store) : Prop where
  schema : ∀ r ∈ db.groupAttributeSchema.rows,
    canonicalGroupAttributeName r.attributeName.asStr = .new n → r.attributeName = .new n
  rows : ∀ r ∈ db.groupAttributes.rows,
    canonicalGroupAttributeName r.attributeName.asStr = .new n → r.attributeName = .new n

theorem UserNamed.upsertAll {n : String} {db : Store} (h : UserNamed n db) (users)
    {attrs : UserAttributeTable} (hattrs : ∀ r ∈ attrs.rows, r ∈ db.userAttributes.rows)
    {rows : List UserAttributeRow}
    (hrows : ∀ r ∈ rows, (db.userAttributeSchema.find? r.attributeName).isSome = true) :
    UserNamed n { db with users := users, userAttributes := attrs.upsertAll rows } := by
  refine ⟨h.schema, fun r hr hname => ?_⟩
  rcases Lib.Table.mem_upsertAll hr with hnew | hold
  · obtain ⟨s, hs⟩ := Option.isSome_iff_exists.mp (hrows r hnew)
    rw [← Lib.Table.key_of_find? hs] at hname ⊢
    exact h.schema s (Lib.Table.mem_of_find? hs) hname
  · exact h.rows r (hattrs r hold) hname

theorem GroupNamed.upsertAll {n : String} {db : Store} (h : GroupNamed n db) (groups) (sequence)
    {attrs : GroupAttributeTable} (hattrs : ∀ r ∈ attrs.rows, r ∈ db.groupAttributes.rows)
    {rows : List GroupAttributeRow}
    (hrows : ∀ r ∈ rows, (db.groupAttributeSchema.find? r.attributeName).isSome = true) :
    GroupNamed n { db with
      groups := groups
      groupSequence := sequence
      groupAttributes := attrs.upsertAll rows } := by
  refine ⟨h.schema, fun r hr hname => ?_⟩
  rcases Lib.Table.mem_upsertAll hr with hnew | hold
  · obtain ⟨s, hs⟩ := Option.isSome_iff_exists.mp (hrows r hnew)
    rw [← Lib.Table.key_of_find? hs] at hname ⊢
    exact h.schema s (Lib.Table.mem_of_find? hs) hname
  · exact h.rows r (hattrs r hold) hname

/-! ## Reading an attribute -/

theorem userAttributes_resolve : ∀ b ∈ PublicSchema.userAttributes,
    getByNameOrAlias PublicSchema.userAttributes (AttributeName.new b.name).asStr = some b := by
  decide

theorem groupAttributes_resolve : ∀ b ∈ PublicSchema.groupAttributes,
    getByNameOrAlias PublicSchema.groupAttributes (AttributeName.new b.name).asStr = some b := by
  decide

section

variable [External] {db : Store} {schema : Schema} {b : AttributeSchema} {a : Attribute}

theorem readUserAttribute_ok {r : UserAttributeRow} :
    readUserAttribute schema r = .ok a ↔ ∃ typ isList,
      getAttributeType schema.userAttributes r.attributeName.asStr = some (typ, isList) ∧
      a = ⟨canonicalUserAttributeName r.attributeName.asStr,
        deserializeAttributeValue r.value typ isList⟩ := by
  unfold readUserAttribute deserializeAttribute
  cases getAttributeType schema.userAttributes r.attributeName.asStr with
  | none => simp [Bind.bind, Except.bind]
  | some typ =>
    constructor
    · exact fun h => ⟨typ.1, typ.2, rfl, (Except.ok.inj h).symm⟩
    · rintro ⟨typ', isList, h, rfl⟩
      cases h
      rfl

theorem readGroupAttribute_ok {r : GroupAttributeRow} :
    readGroupAttribute schema r = .ok a ↔ ∃ typ isList,
      getAttributeType schema.groupAttributes r.attributeName.asStr = some (typ, isList) ∧
      a = ⟨canonicalGroupAttributeName r.attributeName.asStr,
        deserializeAttributeValue r.value typ isList⟩ := by
  unfold readGroupAttribute deserializeAttribute
  cases getAttributeType schema.groupAttributes r.attributeName.asStr with
  | none => simp [Bind.bind, Except.bind]
  | some typ =>
    constructor
    · exact fun h => ⟨typ.1, typ.2, rfl, (Except.ok.inj h).symm⟩
    · rintro ⟨typ', isList, h, rfl⟩
      cases h
      rfl

theorem mem_readUser {row : UserRow} {rows : List UserAttributeRow} {user : User}
    (h : readUser schema row rows = .ok user) :
    a ∈ user.attributes ↔ (∃ r ∈ rows, readUserAttribute schema r = .ok a) ∨
      ∃ p, row.krbPrincipalName = some p ∧ p ≠ "" ∧
        a = ⟨.new "krbprincipalname", .string (.unbounded [p])⟩ := by
  unfold readUser at h
  obtain ⟨attributes, hattrs, h⟩ := except_bind_ok.mp h
  rw [← Except.ok.inj h]
  have hmem : a ∈ attributes ↔ ∃ r ∈ rows, readUserAttribute schema r = .ok a := by
    constructor
    · exact fun ha => Lib.except_mapM_ok hattrs a ha
    · rintro ⟨r, hr, hread⟩
      obtain ⟨a', ha', hread'⟩ := Lib.except_mapM_mem hattrs r hr
      rw [hread] at hread'
      cases hread'
      exact ha'
  rw [← hmem]
  unfold User.materializeProtectedFields
  cases hp : row.krbPrincipalName with
  | none => simp [UserRow.toUser, hp]
  | some p =>
    by_cases hempty : p = ""
    · simp [UserRow.toUser, hp, hempty]
    · simp [UserRow.toUser, hp, hempty]

theorem readUser_value (hschema : getSchema db = .ok schema) {n : String} (hbn : b.name = n)
    (hn : UserNamed n db)
    (hb : b ∈ PublicSchema.userAttributes) (hne : n ≠ "krbprincipalname") {u : UserId}
    {row : UserRow} {rows : List UserAttributeRow}
    (hrows : ∀ r, r ∈ rows ↔ r ∈ db.userAttributes.rows ∧ r.userId = u) {user : User}
    (h : readUser schema row rows = .ok user) :
    a ∈ user.attributes ∧ a.name = .new n ↔ ∃ value, userValue db u n = some value ∧
      a = ⟨.new n, deserializeAttributeValue value b.attributeType b.isList⟩ := by
  subst hbn
  have hself := userAttributes_resolve b hb
  have hcanonical := (canonicalUserAttributeName_iff hb (.new b.name)).mpr hself
  have htype := getAttributeType_user hschema hself
  rw [mem_readUser h]
  constructor
  · rintro ⟨⟨r, hr, hread⟩ | ⟨p, -, -, rfl⟩, hname⟩
    · obtain ⟨hr, rfl⟩ := (hrows r).mp hr
      obtain ⟨typ, isList, htyp, rfl⟩ := readUserAttribute_ok.mp hread
      have hrname : r.attributeName = .new b.name := hn.rows r hr hname
      rw [hrname, htype] at htyp
      cases htyp
      refine ⟨r.value, ?_, by rw [hrname, hcanonical]⟩
      unfold userValue
      rw [← hrname, Lib.Table.find?_of_mem hr]
      rfl
    · exfalso
      have hlower := congrArg AttributeName.asStr hname
      rw [AttributeName.asStr_new, AttributeName.asStr_new,
        userAttributes_wellNamed.lower b hb] at hlower
      exact hne (hlower.symm.trans (by decide))
  · rintro ⟨value, hvalue, rfl⟩
    obtain ⟨r, hr, rfl⟩ := Option.map_eq_some_iff.mp hvalue
    obtain ⟨hru, hrname⟩ := Prod.mk.injEq .. ▸ Lib.Table.key_of_find? hr
    refine ⟨.inl ⟨r, (hrows r).mpr ⟨Lib.Table.mem_of_find? hr, hru⟩, ?_⟩, rfl⟩
    refine readUserAttribute_ok.mpr ⟨b.attributeType, b.isList, ?_, ?_⟩
    · rw [hrname, htype]
    · rw [hrname, hcanonical]

theorem readGroup_value (hschema : getSchema db = .ok schema) {n : String} (hbn : b.name = n)
    (hn : GroupNamed n db)
    (hb : b ∈ PublicSchema.groupAttributes) {g : GroupId} {rows : List GroupAttributeRow}
    (hrows : ∀ r, r ∈ rows ↔ r ∈ db.groupAttributes.rows ∧ r.groupId = g)
    {attributes : List Attribute} (h : rows.mapM (readGroupAttribute schema) = .ok attributes) :
    a ∈ attributes ∧ a.name = .new n ↔ ∃ value, groupValue db g n = some value ∧
      a = ⟨.new n, deserializeAttributeValue value b.attributeType b.isList⟩ := by
  subst hbn
  have hself := groupAttributes_resolve b hb
  have hcanonical := (canonicalGroupAttributeName_iff hb (.new b.name)).mpr hself
  have htype := getAttributeType_group hschema hself
  constructor
  · rintro ⟨ha, hname⟩
    obtain ⟨r, hr, hread⟩ := Lib.except_mapM_ok h a ha
    obtain ⟨hr, rfl⟩ := (hrows r).mp hr
    obtain ⟨typ, isList, htyp, rfl⟩ := readGroupAttribute_ok.mp hread
    have hrname : r.attributeName = .new b.name := hn.rows r hr hname
    rw [hrname, htype] at htyp
    cases htyp
    refine ⟨r.value, ?_, by rw [hrname, hcanonical]⟩
    unfold groupValue
    rw [← hrname, Lib.Table.find?_of_mem hr]
    rfl
  · rintro ⟨value, hvalue, rfl⟩
    obtain ⟨r, hr, rfl⟩ := Option.map_eq_some_iff.mp hvalue
    obtain ⟨hrg, hrname⟩ := Prod.mk.injEq .. ▸ Lib.Table.key_of_find? hr
    obtain ⟨a, ha, hread⟩ :=
      Lib.except_mapM_mem h r ((hrows r).mpr ⟨Lib.Table.mem_of_find? hr, hrg⟩)
    obtain ⟨typ, isList, htyp, rfl⟩ := readGroupAttribute_ok.mp hread
    rw [hrname, htype] at htyp
    cases htyp
    rw [hrname, hcanonical] at ha
    exact ⟨ha, rfl⟩

theorem getUserDetails_value {n : String} (hbn : b.name = n)
    (hn : UserNamed n db) (hb : b ∈ PublicSchema.userAttributes)
    (hne : n ≠ "krbprincipalname") {u : UserId} {user : User}
    (h : getUserDetails u db = .ok user) :
    a ∈ user.attributes ∧ a.name = .new n ↔ ∃ value, userValue db u n = some value ∧
      a = ⟨.new n, deserializeAttributeValue value b.attributeType b.isList⟩ := by
  unfold getUserDetails at h
  cases hrow : db.users.find? u with
  | none =>
    rw [hrow] at h
    cases h
  | some row =>
    rw [hrow] at h
    obtain ⟨schema, hschema, h⟩ := except_bind_ok.mp h
    refine readUser_value hschema hbn hn hb hne (fun r => ?_) h
    rw [mem_orderBy, List.mem_filter, decide_eq_true_iff]

end

/-! ## Listings -/

theorem takeWhile_eq_filter {α : Type} {p : α → Bool} {l : List α}
    (h : l.Pairwise fun a a' => p a' = true → p a = true) :
    l.takeWhile p = l.filter p ∧ l.dropWhile p = l.filter fun a => !p a := by
  induction l with
  | nil => simp
  | cons a l ih =>
    rw [List.pairwise_cons] at h
    obtain ⟨htake, hdrop⟩ := ih h.2
    cases hp : p a with
    | true => simp [hp, htake, hdrop]
    | false =>
      have hnone : ∀ a' ∈ l, p a' = false := fun a' ha' => by
        cases hp' : p a' with
        | false => rfl
        | true => exact absurd (h.1 a' ha' hp') (by simp [hp])
      have hall : l.filter (fun a' => !p a') = l :=
        List.filter_eq_self.mpr fun a' ha' => by simp [hnone a' ha']
      simp [hp, hall]
      exact hnone

theorem takeRows_eq_map {α β γ : Type} [LinearOrder γ] (ka : α → γ) (kb : β → γ)
    {own : α → β → Bool} (hown : ∀ a b, own a b = true ↔ kb b = ka a) {as : List α}
    {rows : List β} (has : as.Pairwise fun a a' => ka a < ka a')
    (hrows : rows.Pairwise fun b b' => kb b ≤ kb b') (hcover : ∀ b ∈ rows, ∃ a ∈ as, kb b = ka a) :
    takeRows own as rows = as.map fun a => (a, rows.filter (own a)) := by
  induction as generalizing rows with
  | nil => rfl
  | cons a as ih =>
    rw [List.pairwise_cons] at has
    have hfirst : ∀ b ∈ rows, ka a ≤ kb b := by
      intro b hb
      obtain ⟨a', ha', hkey⟩ := hcover b hb
      rcases List.mem_cons.mp ha' with rfl | ha'
      · exact hkey.ge
      · exact hkey ▸ (has.1 a' ha').le
    have hclosed : rows.Pairwise fun b b' => own a b' = true → own a b = true :=
      hrows.imp_of_mem fun hb _ hle howned => (hown _ _).mpr
        (le_antisymm (hle.trans ((hown _ _).mp howned).le) (hfirst _ hb))
    obtain ⟨htake, hdrop⟩ := takeWhile_eq_filter hclosed
    have hrest : (rows.filter fun b => !own a b).Pairwise fun b b' => kb b ≤ kb b' :=
      hrows.sublist List.filter_sublist
    rw [takeRows, htake, hdrop, ih has.2 hrest, List.map_cons]
    · congr 1
      refine List.map_congr_left fun a' ha' => ?_
      rw [List.filter_filter]
      congr 2
      funext b
      by_cases hb : own a' b = true
      · have : own a b = false := by
          rw [Bool.eq_false_iff]
          intro hab
          exact (has.1 a' ha').ne (((hown _ _).mp hab).symm.trans ((hown _ _).mp hb))
        simp [hb, this]
      · simp [hb]
    · intro b hb
      obtain ⟨hb, hnot⟩ := List.mem_filter.mp hb
      obtain ⟨a', ha', hkey⟩ := hcover b hb
      rcases List.mem_cons.mp ha' with rfl | ha'
      · rw [(hown _ _).mpr hkey] at hnot
        cases hnot
      · exact ⟨a', ha', hkey⟩

theorem pairwise_orderBy {α β : Type} [LinearOrder β] (f : α → β) (l : List α) :
    (orderBy f l).Pairwise fun a b => f a ≤ f b :=
  have : IsTrans α fun a b => f a ≤ f b := ⟨fun _ _ _ => le_trans⟩
  have : Std.Total fun a b : α => f a ≤ f b := ⟨fun a b => le_total (f a) (f b)⟩
  List.pairwise_insertionSort _ l

theorem pairwise_lt_orderBy {α κ β : Type} [DecidableEq κ] [LinearOrder β] {key : α → κ}
    (t : Lib.Table α κ key) {f : κ → β} (hf : ∀ k k', f k = f k' → k = k') (p : α → Bool) :
    (orderBy (fun r => f (key r)) (t.rows.filter p)).Pairwise
      fun r r' => f (key r) < f (key r') := by
  have hnodup : ((orderBy (fun r => f (key r)) (t.rows.filter p)).map key).Nodup :=
    ((List.perm_insertionSort _ _).map key).nodup_iff.mpr
      (t.nodup.sublist ((List.filter_sublist).map key))
  have hne := List.pairwise_map.mp hnodup
  exact ((pairwise_orderBy _ _).and hne).imp fun hle =>
    lt_of_le_of_ne hle.1 fun heq => hle.2 (hf _ _ heq)

theorem takeRows_listing {α β κ γ δ : Type} [DecidableEq κ] [LinearOrder γ] [LinearOrder δ]
    {key : α → κ} (t : Lib.Table α κ key) (p : α → Bool) (l : List β) (owner : β → κ)
    {f : κ → γ} (hf : ∀ k k', f k = f k' → k = k') (name : β → δ) :
    ∃ rowsOf : α → List β,
      takeRows (fun r a => owner a = key r) (orderBy (fun r => f (key r)) (t.rows.filter p))
        (orderBy (fun a => toLex (f (owner a), name a)) (l.filter fun a =>
          (orderBy (fun r => f (key r)) (t.rows.filter p)).any fun r => key r = owner a)) =
        (orderBy (fun r => f (key r)) (t.rows.filter p)).map (fun r => (r, rowsOf r)) ∧
      ∀ r ∈ t.rows, p r = true → ∀ a, a ∈ rowsOf r ↔ a ∈ l ∧ owner a = key r := by
  refine ⟨_, takeRows_eq_map (fun r => f (key r)) (fun a => f (owner a)) ?_
    (pairwise_lt_orderBy t hf p) ?_ ?_, ?_⟩
  · intro r a
    rw [decide_eq_true_iff]
    exact ⟨fun heq => by rw [heq], hf _ _⟩
  · exact (pairwise_orderBy (fun a => toLex (f (owner a), name a)) _).imp fun hle =>
      (Prod.Lex.le_iff.mp hle).elim le_of_lt fun hle => hle.1.le
  · intro a ha
    obtain ⟨r, hr, heq⟩ := List.any_eq_true.mp (List.mem_filter.mp (mem_orderBy.mp ha)).2
    exact ⟨r, hr, by rw [of_decide_eq_true heq]⟩
  · intro r hr hp a
    simp only [List.mem_filter, mem_orderBy, List.any_eq_true, decide_eq_true_eq]
    constructor
    · rintro ⟨⟨ha, -⟩, heq⟩
      exact ⟨ha, heq⟩
    · rintro ⟨ha, heq⟩
      exact ⟨⟨ha, r, ⟨hr, hp⟩, heq.symm⟩, heq⟩

section

variable [External] {db : Store}

theorem mem_listUsers_rows {filters : Option UserRequestFilter} {getGroups : Bool}
    {users : List UserAndGroups} (h : listUsers filters getGroups db = .ok users) :
    ∃ cond schema, userCondition filters = .ok cond ∧ getSchema db = .ok schema ∧
      (∀ x ∈ users, ∃ row ∈ db.users.rows, ∃ rows, (cond db row).holds = true ∧
        (∀ r, r ∈ rows ↔ r ∈ db.userAttributes.rows ∧ r.userId = row.userId) ∧
        readUser schema row rows = .ok x.user) ∧
      ∀ row ∈ db.users.rows, (cond db row).holds = true → ∃ x ∈ users, ∃ rows,
        (∀ r, r ∈ rows ↔ r ∈ db.userAttributes.rows ∧ r.userId = row.userId) ∧
        readUser schema row rows = .ok x.user := by
  obtain ⟨cond, hcond, h⟩ := except_bind_ok.mp h
  obtain ⟨schema, hschema, h⟩ := except_bind_ok.mp h
  obtain ⟨rowsOf, htake, hrows⟩ := takeRows_listing db.users (fun r => (cond db r).holds)
    db.userAttributes.rows UserAttributeRow.userId (f := UserId.asStr)
    (fun u u' heq => by rw [← UserId.new_asStr u, heq, UserId.new_asStr])
    fun r => r.attributeName.asStr
  rw [htake] at h
  refine ⟨cond, schema, hcond, hschema, fun x hx => ?_, fun row hrow hholds => ?_⟩
  · obtain ⟨p, hp, hread⟩ := Lib.except_mapM_ok h x hx
    obtain ⟨row, hrow, rfl⟩ := List.mem_map.mp hp
    obtain ⟨hrow, hholds⟩ := List.mem_filter.mp (mem_orderBy.mp hrow)
    obtain ⟨user, huser, hread⟩ := except_bind_ok.mp hread
    cases hread
    exact ⟨row, hrow, rowsOf row, hholds, hrows row hrow hholds, huser⟩
  · have hmem : (row, rowsOf row) ∈ (orderBy (fun r => r.userId.asStr)
        (db.users.rows.filter fun r => (cond db r).holds)).map fun r => (r, rowsOf r) :=
      List.mem_map.mpr ⟨row, mem_orderBy.mpr (List.mem_filter.mpr ⟨hrow, hholds⟩), rfl⟩
    obtain ⟨x, hx, hread⟩ := Lib.except_mapM_mem h _ hmem
    obtain ⟨user, huser, hread⟩ := except_bind_ok.mp hread
    cases hread
    exact ⟨_, hx, rowsOf row, hrows row hrow hholds, huser⟩

theorem mem_listGroups_rows {filters : Option GroupRequestFilter} {groups : List Group}
    (h : listGroups filters db = .ok groups) :
    ∃ schema, getSchema db = .ok schema ∧
      (∀ x ∈ groups, ∃ row ∈ db.groups.rows, ∃ rows : List GroupAttributeRow,
        groupSelected filters db row = true ∧ x.id = row.groupId ∧
        (∀ r, r ∈ rows ↔ r ∈ db.groupAttributes.rows ∧ r.groupId = row.groupId) ∧
        rows.mapM (readGroupAttribute schema) = .ok x.attributes) ∧
      ∀ row ∈ db.groups.rows, groupSelected filters db row = true →
        ∃ x ∈ groups, ∃ rows : List GroupAttributeRow, x.id = row.groupId ∧
        (∀ r, r ∈ rows ↔ r ∈ db.groupAttributes.rows ∧ r.groupId = row.groupId) ∧
        rows.mapM (readGroupAttribute schema) = .ok x.attributes := by
  obtain ⟨schema, hschema, h⟩ := except_bind_ok.mp h
  obtain ⟨unsorted, hmap, h⟩ := except_bind_ok.mp h
  have hmem (x : Group) : x ∈ groups ↔ x ∈ unsorted := by
    rw [← Except.ok.inj h, sortGroups, List.mem_insertionSort]
  obtain ⟨rowsOf, htake, hrows⟩ := takeRows_listing db.groups (groupSelected filters db)
    db.groupAttributes.rows GroupAttributeRow.groupId (f := GroupId.val)
    (fun g g' heq => by
      cases g
      cases g'
      simpa using heq)
    fun r => r.attributeName.asStr
  rw [htake] at hmap
  refine ⟨schema, hschema, fun x hx => ?_, fun row hrow hsel => ?_⟩
  · obtain ⟨p, hp, hread⟩ := Lib.except_mapM_ok hmap x ((hmem x).mp hx)
    obtain ⟨row, hrow, rfl⟩ := List.mem_map.mp hp
    obtain ⟨hrow, hsel⟩ := List.mem_filter.mp (mem_orderBy.mp hrow)
    obtain ⟨attributes, hattrs, hread⟩ := except_bind_ok.mp hread
    cases hread
    exact ⟨row, hrow, rowsOf row, hsel, rfl, hrows row hrow hsel, hattrs⟩
  · have hpair : (row, rowsOf row) ∈ (orderBy (fun g => g.groupId.val)
        (db.groups.rows.filter (groupSelected filters db))).map fun r => (r, rowsOf r) :=
      List.mem_map.mpr ⟨row, mem_orderBy.mpr (List.mem_filter.mpr ⟨hrow, hsel⟩), rfl⟩
    obtain ⟨x, hx, hread⟩ := Lib.except_mapM_mem hmap _ hpair
    obtain ⟨attributes, hattrs, hread⟩ := except_bind_ok.mp hread
    cases hread
    exact ⟨_, (hmem _).mpr hx, rowsOf row, rfl, hrows row hrow hsel, hattrs⟩

end

end Sql
end Klldap
