import Klldap.GraphQL.Filters
import Klldap.GraphQL.Mutation
import Klldap.Sql.Listings

/-!
# Klldap.GraphQL.Query: one user and all users

`crates/graphql-server/src/query`: the queries `user` and `users`. Both build the same object out of a
user of the backend; `users` also puts the groups into it that came with the listing. The field
`isDisabled` looks only at these, the field `groups` asks the backend again.
-/

namespace Klldap

open Lib (Eff except_bind_ok)
open Opaque (Suite)

namespace GraphQL

/-- Functions of the libraries that the queries call: `urlencoding::decode`, `to_rfc3339` and
`avatar_to_graphql_base64`. -/
class QueryLibrary where
  urlDecode : String → Except String String
  toRfc3339 : DateTime → String
  avatarToGraphqlBase64 : Avatar → String

/-! ## Objects -/

/-- An attribute with its schema. -/
structure AttributeObject where
  attr : Attribute
  schema : AttributeSchema
deriving DecidableEq

structure GroupObject where
  groupId : Int
  displayName : String
  creationDate : DateTime
  uuid : Uuid
  attributes : List AttributeObject
  memberCount : Int
  schema : Schema
deriving DecidableEq

structure UserObject where
  user : User
  attributes : List AttributeObject
  schema : Schema
  groups : Option (List GroupObject)
deriving DecidableEq

def getHardcodedUserValue (user : User) (name : String) : Option AttributeValue :=
  if name = "userid" ∨ name = "user_id" ∨ name = "uid" then
    some (.string (.singleton user.userId.asStr))
  else if name = "creationdate" ∨ name = "creation_date" then
    some (.dateTime (.singleton user.creationDate))
  else if name = "modifieddate" ∨ name = "modified_date" then
    some (.dateTime (.singleton user.modifiedDate))
  else if name = "passwordmodifieddate" ∨ name = "password_modified_date" then
    some (.dateTime (.singleton user.passwordModifiedDate))
  else if name = "mail" then some (.string (.singleton user.email.raw))
  else if name = "uuid" then some (.string (.singleton user.uuid.val))
  else if name = "displayname" ∨ name = "display_name" ∨ name = "cn" then
    user.displayName.map fun d => .string (.singleton d)
  else none

def getHardcodedGroupDetailsValue (group : GroupDetails) (name : String) : Option AttributeValue :=
  if name = "groupid" then some (.integer (.singleton group.groupId.val))
  else if name = "creationdate" ∨ name = "creation_date" then
    some (.dateTime (.singleton group.creationDate))
  else if name = "modifieddate" ∨ name = "modified_date" then
    some (.dateTime (.singleton group.modifiedDate))
  else if name = "uuid" then some (.string (.singleton group.uuid.val))
  else if name = "displayname" ∨ name = "display_name" ∨ name = "cn" then
    some (.string (.singleton group.displayName.raw))
  else none

/-- The built-in attributes that `hardcoded` knows, then the given ones that the schema has. -/
def attributesFromSchema (hardcoded : String → Option AttributeValue) (given : List Attribute)
    (schema : AttributeList) : List AttributeObject :=
  ((schema.filter AttributeSchema.isHardcoded).filterMap fun s =>
    (hardcoded s.name).map fun v => ⟨⟨.new s.name, v⟩, s⟩) ++
  given.filterMap fun a => (getByNameOrAlias schema a.name.asStr).map fun s => ⟨a, s⟩

def userAttributesFromSchema (user : User) (schema : Schema) : List AttributeObject :=
  attributesFromSchema (getHardcodedUserValue user) user.attributes schema.userAttributes

def groupDetailsAttributesFromSchema (group : GroupDetails) (schema : Schema) :
    List AttributeObject :=
  attributesFromSchema (getHardcodedGroupDetailsValue group) group.attributes schema.groupAttributes

-- the attributes are taken out of the user
def UserObject.fromUser (user : User) (schema : Schema) : UserObject where
  user := { user with attributes := [] }
  attributes := userAttributesFromSchema user schema
  schema := schema
  groups := none

def GroupObject.fromGroupDetails (group : GroupDetails) (schema : Schema) : GroupObject where
  groupId := group.groupId.val
  displayName := group.displayName.raw
  creationDate := group.creationDate
  uuid := group.uuid
  attributes := groupDetailsAttributesFromSchema group schema
  memberCount := 0
  schema := schema

def UserObject.fromUserAndGroups (u : UserAndGroups) (schema : Schema) : UserObject :=
  { UserObject.fromUser u.user schema with
    groups := u.groups.map fun groups => groups.map fun g => GroupObject.fromGroupDetails g schema }

/-! ## Fields -/

inductive UserField where
  | id | email | displayName | firstName | lastName | avatar | ou | sshPublicKeys | creationDate
  | uuid | isDisabled | attributes | groups
deriving DecidableEq

/-- The value of a field. -/
inductive FieldValue where
  | text (s : String)
  | optionalText (s : Option String)
  | texts (l : List String)
  | date (d : DateTime)
  | flag (b : Bool)
  | attributes (l : List AttributeObject)
  | groups (l : List GroupObject)
deriving DecidableEq

def valueAsStr : AttributeValue → Option String
  | .string (.singleton s) => some s
  | _ => none

section

variable [QueryLibrary]

def serializeAttributeToGraphql : AttributeValue → List String
  | .string (.singleton s) => [s]
  | .string (.unbounded l) => l
  | .integer (.singleton i) => [toString i]
  | .integer (.unbounded l) => l.map toString
  | .dateTime (.singleton d) => [QueryLibrary.toRfc3339 d]
  | .dateTime (.unbounded l) => l.map QueryLibrary.toRfc3339
  | .avatar (.singleton p) => [QueryLibrary.avatarToGraphqlBase64 p]
  | .avatar (.unbounded l) => l.map QueryLibrary.avatarToGraphqlBase64

namespace UserObject

def attributeNamed (o : UserObject) (name : String) : Option AttributeObject :=
  o.attributes.find? fun a => a.attr.name.asStr = name

def canonicalName (o : UserObject) (name fallback : String) : String :=
  (resolveCanonicalName o.schema.userAttributes name).getD fallback

def textOf (o : UserObject) (name fallback : String) : Option String :=
  (o.attributeNamed (o.canonicalName name fallback)).bind fun a => valueAsStr a.attr.value

def isDisabled (o : UserObject) : Bool :=
  o.groups.any fun groups => groups.any fun g => g.displayName = "lldap_disabled"

end UserObject

section

variable {S : Suite} {σ : Type} (ctx : Context S σ)

def UserObject.groupsField (o : UserObject) : Field σ (List GroupObject) :=
  match getReadableHandler ctx.handler ctx.validationResult o.user.userId with
  | none => Eff.fail
    (.panicked "We shouldn't be able to get there without readable permission")
  | some handler => do
    let domainGroups ← orFail (handler.getUserGroups o.user.userId)
    pure ((domainGroups.map fun g => GroupObject.fromGroupDetails g o.schema).insertionSort
      fun g₁ g₂ => g₁.displayName ≤ g₂.displayName)

def UserObject.resolve (o : UserObject) : UserField → Field σ FieldValue
  | .id => pure (.text o.user.userId.asStr)
  | .email => pure (.text o.user.email.raw)
  | .displayName => pure (.text (o.user.displayName.getD ""))
  | .firstName => pure (.text ((o.textOf "first_name" "firstname").getD ""))
  | .lastName => pure (.text ((o.textOf "last_name" "lastname").getD ""))
  | .avatar => pure (.optionalText ((o.attributeNamed "avatar").bind fun a =>
      (serializeAttributeToGraphql a.attr.value).head?))
  | .ou => pure (.text ((o.textOf "ou" "ou").getD "people"))
  | .sshPublicKeys => pure (.texts (((o.attributeNamed
      (o.canonicalName "sshpublickey" "sshpublickey")).map fun a =>
        serializeAttributeToGraphql a.attr.value).getD []))
  | .creationDate => pure (.date o.user.creationDate)
  | .uuid => pure (.text o.user.uuid.val)
  | .isDisabled => pure (.flag o.isDisabled)
  | .attributes => pure (.attributes o.attributes)
  | .groups => do
    let groups ← o.groupsField ctx
    pure (.groups groups)

variable [External] [Ldap.Library]

def Query.getSchema : Field σ Schema :=
  orFail (getUserRestrictedListerHandler ctx.handler ctx.validationResult).getSchema

def Query.user (userId : String) : Field σ UserObject := do
  let userId ← Eff.lift ((QueryLibrary.urlDecode userId).mapError fun _ =>
    .error "Invalid user parameter" none)
  let userId := UserId.new userId
  let handler ← orUnauthorized "Unauthorized access to user data"
    (getReadableHandler ctx.handler ctx.validationResult userId)
  let schema ← Query.getSchema ctx
  let user ← orFail (handler.getUserDetails userId)
  pure (UserObject.fromUser user schema)

def Query.users (filters : Option RequestFilter) : Field σ (List UserObject) := do
  let handler ← orUnauthorized "Unauthorized access to user list"
    (getReadonlyHandler ctx.handler ctx.validationResult)
  let schema ← Query.getSchema ctx
  let filters ← Eff.lift (filters.mapM fun f => tryIntoDomainFilter schema f)
  let users ← orFail (handler.listUsers filters true)
  pure (users.map fun u => UserObject.fromUserAndGroups u schema)

/-! ## Agreement -/

omit [External] [Ldap.Library] in
theorem resolve_withoutGroups (o : UserObject) {f : UserField} (hf : f ≠ .isDisabled) :
    ({ o with groups := none } : UserObject).resolve ctx f = o.resolve ctx f := by
  cases f with
  | isDisabled => exact absurd rfl hf
  | _ => rfl

end

section

variable {S : Suite} [External] [Ldap.Library] (setup : S.ServerSetup) (rng : S.Coins) (out : Outside)
  {v : ValidationResults} {w : World}

omit [QueryLibrary] [External] [Ldap.Library] in
theorem orFail_query_ok {α : Type} {q : Store → Except DomainError α} {w' : World} {a : α} :
    orFail (onDb (Eff.query q)) w = (.ok a, w') ↔ q w.db = .ok a ∧ w' = w := by
  unfold orFail onDb
  rw [Eff.mapErr_ok, Eff.zoom_ok]
  constructor
  · rintro ⟨db, hq, rfl⟩
    rw [Eff.query_run, Prod.mk.injEq] at hq
    exact ⟨hq.1, by rw [← hq.2]⟩
  · rintro ⟨hq, rfl⟩
    exact ⟨w'.db, by rw [Eff.query_run, hq], rfl⟩

omit [QueryLibrary] [Ldap.Library] in
theorem getSchema_ok (hv : v.canReadAll = true) {schema : Schema} {w' : World} :
    Query.getSchema ⟨sqlServices S setup rng out, v⟩ w = (.ok schema, w') ↔
      Sql.getSchema w.db = .ok schema ∧ w' = w := by
  have hlister : getUserRestrictedListerHandler (sqlServices S setup rng out) v =
      ⟨sqlServices S setup rng out, none⟩ := by
    unfold getUserRestrictedListerHandler
    rw [if_pos hv]
  have hall : (⟨sqlServices S setup rng out, none⟩ : UserRestrictedLister S World).getSchema =
      onDb (Eff.query Sql.getSchema) := by
    funext w
    show (onDb (Eff.query Sql.getSchema) >>= fun schema => pure schema) w = _
    rw [Eff.bind_run]
    unfold onDb Eff.zoom Eff.query
    cases Sql.getSchema w.db <;> rfl
  unfold Query.getSchema
  dsimp only
  rw [hlister, hall]
  exact orFail_query_ok

omit [Ldap.Library] in
theorem user_run (hv : v.canReadAll = true) {arg id : String} (harg : QueryLibrary.urlDecode arg = .ok id)
    {schema : Schema} (hschema : Sql.getSchema w.db = .ok schema) {user : User}
    (huser : Sql.getUserDetails (.new id) w.db = .ok user) :
    Query.user ⟨sqlServices S setup rng out, v⟩ arg w = (.ok (UserObject.fromUser user schema), w) := by
  have hread : v.canRead (.new id) = true := by
    revert hv
    cases hp : v.permission <;> simp [ValidationResults.canReadAll, ValidationResults.canRead, hp]
  have hhandler : getReadableHandler (sqlServices S setup rng out) v (.new id) =
      some (sqlServices S setup rng out) := if_pos hread
  unfold Query.user
  refine Eff.bind_ok.mpr ⟨id, w, ?_, ?_⟩
  · rw [Eff.lift_run, harg]
    rfl
  dsimp only
  rw [hhandler]
  refine Eff.bind_ok.mpr ⟨_, w, rfl, ?_⟩
  refine Eff.bind_ok.mpr ⟨schema, w, (getSchema_ok setup rng out hv).mpr ⟨hschema, rfl⟩, ?_⟩
  exact Eff.bind_ok.mpr ⟨user, w, orFail_query_ok.mpr ⟨huser, rfl⟩, rfl⟩

omit [QueryLibrary] in
theorem mem_users (hv : v.canReadAll = true) {filters : Option RequestFilter} {xs : List UserObject}
    {w' : World} (h : Query.users ⟨sqlServices S setup rng out, v⟩ filters w = (.ok xs, w'))
    {x : UserObject} (hx : x ∈ xs) :
    ∃ schema user, Sql.getSchema w.db = .ok schema ∧
      Sql.getUserDetails x.user.userId w.db = .ok user ∧
      { x with groups := none } = UserObject.fromUser user schema ∧
      x.groups = some ((Sql.orderBy (fun g => g.displayName.raw) (w.db.groupsOf x.user.userId)).map
        fun g => GroupObject.fromGroupDetails g.toGroupDetails schema) := by
  have hhandler : getReadonlyHandler (sqlServices S setup rng out) v =
      some (sqlServices S setup rng out) := if_pos hv
  unfold Query.users at h
  dsimp only at h
  rw [hhandler] at h
  obtain ⟨handler, w₁, hpure, hrest⟩ := Eff.bind_ok.mp h
  cases hpure
  obtain ⟨schema, w₂, hschema, hquery⟩ := Eff.bind_ok.mp hrest
  obtain ⟨hschema, rfl⟩ := (getSchema_ok setup rng out hv).mp hschema
  obtain ⟨domainFilters, w₃, hfilters, hlist⟩ := Eff.bind_ok.mp hquery
  cases (Prod.mk.inj hfilters).2
  obtain ⟨users, w₄, husers, hshown⟩ := Eff.bind_ok.mp hlist
  obtain ⟨husers, rfl⟩ := orFail_query_ok.mp husers
  rw [← Except.ok.inj (Prod.mk.inj hshown).1] at hx
  obtain ⟨u, hu, rfl⟩ := List.mem_map.mp hx
  rw [Sql.listUsers_eq] at husers
  obtain ⟨cond, -, husers⟩ := except_bind_ok.mp husers
  obtain ⟨-, -, husers⟩ := except_bind_ok.mp husers
  obtain ⟨row, -, hshow⟩ := Lib.except_mapM_ok husers u hu
  obtain ⟨hid, hdetails⟩ := Sql.showUser_userId hshow
  have hgroups : u.groups = some ((Sql.orderBy (fun g => g.displayName.raw)
      (w₄.db.groupsOf row.userId)).map GroupRow.toGroupDetails) := by
    obtain ⟨user, -, hshow⟩ := except_bind_ok.mp hshow
    rw [← Except.ok.inj hshow]
  refine ⟨schema, u.user, hschema, ?_, rfl, ?_⟩
  · show Sql.getUserDetails u.user.userId _ = _
    rw [hid]
    exact hdetails
  · show u.groups.map _ = some ((Sql.orderBy _ (w₄.db.groupsOf u.user.userId)).map _)
    rw [hgroups, hid, Option.map_some, List.map_map]
    rfl

/-- For a session that may read all users, `user` answers about every user in `users`, with the same
fields exactly if the user is in no group called `lldap_disabled`. -/
theorem user_and_users_agree_iff (hv : v.canReadAll = true) {filters : Option RequestFilter}
    {xs : List UserObject} {w' : World}
    (h : Query.users ⟨sqlServices S setup rng out, v⟩ filters w = (.ok xs, w')) {x : UserObject}
    (hx : x ∈ xs) {arg id : String} (harg : QueryLibrary.urlDecode arg = .ok id)
    (hid : UserId.new id = x.user.userId) :
    ∃ y, Query.user ⟨sqlServices S setup rng out, v⟩ arg w = (.ok y, w) ∧
      ((∀ f, y.resolve (⟨sqlServices S setup rng out, v⟩ : Context S World) f w =
          x.resolve (⟨sqlServices S setup rng out, v⟩ : Context S World) f w) ↔
        ∀ g ∈ w.db.groupsOf x.user.userId, g.displayName.raw ≠ "lldap_disabled") := by
  obtain ⟨schema, user, hschema, huser, hsame, hgroups⟩ := mem_users setup rng out hv h hx
  refine ⟨_, user_run setup rng out hv harg hschema (hid ▸ huser), ?_⟩
  rw [← hsame]
  have hdisabled : x.isDisabled = true ↔
      ∃ g ∈ w.db.groupsOf x.user.userId, g.displayName.raw = "lldap_disabled" := by
    unfold UserObject.isDisabled
    rw [hgroups]
    simp [GroupObject.fromGroupDetails, GroupRow.toGroupDetails]
  constructor
  · intro hall g hg hname
    have hflag := congrArg Prod.fst (hall .isDisabled)
    have hflag : false = x.isDisabled := FieldValue.flag.inj (Except.ok.inj hflag)
    rw [hdisabled.mpr ⟨g, hg, hname⟩] at hflag
    cases hflag
  · intro hnone f
    by_cases hf : f = .isDisabled
    · subst hf
      have hfalse : x.isDisabled = false := by
        rw [Bool.eq_false_iff]
        intro htrue
        obtain ⟨g, hg, hname⟩ := hdisabled.mp htrue
        exact hnone g hg hname
      show (Except.ok (FieldValue.flag false), w) = (Except.ok (.flag x.isDisabled), w)
      rw [hfalse]
    · rw [resolve_withoutGroups _ x hf]

end

end

section Samples

open Plain

/-- Ids are not escaped; dates and images are shown as nothing. -/
scoped instance plainQueries : QueryLibrary where
  urlDecode s := .ok s
  toRfc3339 _ := ""
  avatarToGraphqlBase64 _ := ""

def oneDisabled : World :=
  world { Store.empty with
    users := ⟨[userRow "bob", userRow "alice"], by decide⟩
    groups := ⟨[groupRow 1 "lldap_disabled"], by decide⟩
    memberships := ⟨[⟨.new "bob", ⟨1⟩⟩], by decide⟩ }

def adminContext : Context Opaque.plainSuite World :=
  ⟨sqlServices Opaque.plainSuite () () outside, ⟨.new "admin", .admin⟩⟩

theorem alice_agrees :
    ∃ xs w', Query.users adminContext none oneDisabled = (.ok xs, w') ∧
      ∃ x ∈ xs, ∃ y, Query.user adminContext "alice" oneDisabled = (.ok y, oneDisabled) ∧
        ∀ f, y.resolve adminContext f oneDisabled = x.resolve adminContext f oneDisabled := by
  have hids : (Query.users adminContext none oneDisabled).1.map
      (fun xs => xs.map fun x => x.user.userId) = .ok [.new "alice", .new "bob"] := by
    decide +kernel
  obtain ⟨xs, hxs, hmap⟩ := Lib.except_map_ok.mp hids
  obtain ⟨x, hx, hid⟩ := List.mem_map.mp (show UserId.new "alice" ∈ _ by rw [hmap]; simp)
  have h : Query.users adminContext none oneDisabled = (.ok xs, _) := Prod.ext hxs rfl
  have harg : QueryLibrary.urlDecode "alice" = .ok "alice" := rfl
  obtain ⟨y, hy, hiff⟩ := user_and_users_agree_iff (S := Opaque.plainSuite) () () outside
    (v := ⟨.new "admin", .admin⟩) rfl h hx harg hid.symm
  refine ⟨xs, _, h, x, hx, y, hy, hiff.mpr ?_⟩
  rw [hid]
  decide +kernel

/-- Bob is disabled in the list of users and not disabled when looked up. -/
theorem bob_disabled_in_listing_only :
    (Query.users adminContext none oneDisabled).1.map
        (fun xs => xs.map fun x => (x.user.userId.asStr, x.isDisabled)) =
      .ok [("alice", false), ("bob", true)] ∧
    (Query.user adminContext "bob" oneDisabled).1.map (fun x => x.isDisabled) = .ok false := by
  decide +kernel

end Samples

end GraphQL
end Klldap
