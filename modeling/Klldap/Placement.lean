import Klldap.GraphQL.OuMoves

/-!
# Klldap.Placement: where users and groups are placed

Every user and group has an organizational unit among its attributes, and the system configuration
lists the ones that there are. Seven requests of the two interfaces write one or the other.
-/

namespace Klldap

open Lib (Eff except_bind_ok)
open Lib.Eff (Frames Keeps)
open Lib.Bincode (utf8)
open Opaque (Suite)
open GraphQL (HasOu ouAttribute)

/-! ## The invariant -/

namespace Sql

variable [External]

/-- The organizational unit stored for every user is in the list, in some letter case, and the
attribute goes by one name, as the migrations leave it. -/
structure UsersPlaced (ous : List String) (db : Store) : Prop where
  listed : ∀ u, (db.users.find? u).isSome = true → ∀ value, userValue db u "ou" = some value →
    HasOu ous (textOr "" value)
  named : UserNamed "ou" db

/-- The same for every group. -/
structure GroupsPlaced (ous : List String) (db : Store) : Prop where
  listed : ∀ g, (db.groups.find? g).isSome = true → ∀ value, groupValue db g "ou" = some value →
    HasOu ous (textOr "" value)
  named : GroupNamed "ou" db

structure Placed (db : Store) : Prop where
  users : UsersPlaced (getAllowedOus db) db
  groups : GroupsPlaced (getAllowedOus db) db

/-- The organizational unit stored for every user and every group is in the list, in some letter
case. -/
def OusListed (db : Store) : Prop :=
  (∀ u, (db.users.find? u).isSome = true → ∀ value, userValue db u "ou" = some value →
    HasOu (getAllowedOus db) (textOr "" value)) ∧
  ∀ g, (db.groups.find? g).isSome = true → ∀ value, groupValue db g "ou" = some value →
    HasOu (getAllowedOus db) (textOr "" value)

theorem Placed.ousListed {db : Store} (h : Placed db) : OusListed db :=
  ⟨h.users.listed, h.groups.listed⟩

theorem UsersPlaced.congr {ous : List String} {db db' : Store} (h : UsersPlaced ous db)
    (husers : db'.users = db.users) (hattrs : db'.userAttributes = db.userAttributes)
    (hschema : db'.userAttributeSchema = db.userAttributeSchema) : UsersPlaced ous db' := by
  refine ⟨fun u hu value hvalue => h.listed u (husers ▸ hu) value ?_,
    ⟨hschema ▸ h.named.schema, hattrs ▸ h.named.rows⟩⟩
  unfold userValue at hvalue ⊢
  rw [← hvalue, hattrs]

theorem GroupsPlaced.congr {ous : List String} {db db' : Store} (h : GroupsPlaced ous db)
    (hgroups : db'.groups = db.groups) (hattrs : db'.groupAttributes = db.groupAttributes)
    (hschema : db'.groupAttributeSchema = db.groupAttributeSchema) : GroupsPlaced ous db' := by
  refine ⟨fun g hg value hvalue => h.listed g (hgroups ▸ hg) value ?_,
    ⟨hschema ▸ h.named.schema, hattrs ▸ h.named.rows⟩⟩
  unfold groupValue at hvalue ⊢
  rw [← hvalue, hattrs]

theorem UsersPlaced.mono {ous ous' : List String} {db : Store} (h : UsersPlaced ous db)
    (hsub : ∀ o ∈ ous, o ∈ ous') : UsersPlaced ous' db :=
  ⟨fun u hu value hvalue => (h.listed u hu value hvalue).mono hsub, h.named⟩

theorem GroupsPlaced.mono {ous ous' : List String} {db : Store} (h : GroupsPlaced ous db)
    (hsub : ∀ o ∈ ous, o ∈ ous') : GroupsPlaced ous' db :=
  ⟨fun g hg value hvalue => (h.listed g hg value hvalue).mono hsub, h.named⟩

omit [External] in
theorem others_userAttribute : ∀ n ∈ ["uidnumber", "gidnumber", "loginshell", "homedirectory",
    "kerberossync"], canonicalUserAttributeName (AttributeName.new n).asStr ≠ .new "ou" := by
  decide +kernel

omit [External] in
theorem gidnumber_groupAttribute :
    canonicalGroupAttributeName (AttributeName.new "gidnumber").asStr ≠ .new "ou" := by
  decide +kernel

variable {now : DateTime} {db db' : Store} {ous : List String} {ou : String}

theorem createUser_placed {request : CreateUserRequest} {before after : List Attribute}
    (hattrs : request.attributes = before ++ ouAttribute ou :: after)
    (hafter : ∀ a ∈ after, canonicalUserAttributeName a.name.asStr ≠ .new "ou")
    (hou : HasOu ous ou) (h : createUser now request db = (.ok (), db'))
    (hp : UsersPlaced ous db) : UsersPlaced ous db' := by
  obtain ⟨schema, settings, attributes, users, hschema, -, -, hdefaults, husers, hrows, -, rfl⟩ :=
    createUser_ok h
  rw [withDefaultOu_of_mem (a := ouAttribute ou) (by simp [hattrs]) rfl] at hdefaults
  obtain ⟨uid, others, huid, rfl, hothers⟩ := withPosixDefaults_ok hdefaults
  have hgiven : givenUser "ou" (request.attributes ++ uid ++ others) = some (ouAttribute ou) := by
    rw [hattrs, List.append_assoc, List.append_assoc, List.cons_append]
    refine lastGiven_append_cons _ (ouAttribute_user ou) fun a ha => ?_
    simp only [List.mem_append] at ha
    rcases ha with ha | ha | ha
    · exact hafter a ha
    · rcases newUidnumber_ok huid with rfl | ⟨next, -, -, rfl⟩
      · cases ha
      · rw [List.mem_singleton.mp ha]
        exact others_userAttribute _ (by simp)
    · obtain ⟨n, hn, hname⟩ := hothers a ha
      rw [hname]
      exact others_userAttribute n (by simp at hn ⊢; tauto)
  refine ⟨fun u hu value hvalue => ?_,
    hp.named.upsertAll _ (fun _ hr => hr) fun r hr => (hrows r hr).1⟩
  rw [userValue_created hschema ou_userAttribute] at hvalue
  split at hvalue
  · rw [hgiven, Option.map_some, Option.some_or] at hvalue
    rw [← Option.some.inj hvalue, ouAttribute_text]
    exact hou
  · rename_i hne
    refine hp.listed u ?_ value hvalue
    rw [← hu, (Lib.Table.find?_insert? husers).2 u, if_neg (fun heq => hne heq.symm)]

theorem createGroup_placed {request : CreateGroupRequest} {before : List Attribute} {id : GroupId}
    (hattrs : request.attributes = before ++ [ouAttribute ou]) (hou : HasOu ous ou)
    (h : createGroup now request db = (.ok id, db')) (hp : GroupsPlaced ous db) :
    GroupsPlaced ous db' := by
  obtain ⟨schema, settings, attributes, groups, hschema, -, -, hdefaults, hgroups, hrows, -, rfl⟩ :=
    createGroup_ok h
  rw [withDefaultOu_of_mem (a := ouAttribute ou) (by simp [hattrs]) rfl] at hdefaults
  have hgiven : givenGroup "ou" attributes = some (ouAttribute ou) := by
    unfold withGroupDefaults at hdefaults
    split at hdefaults
    · obtain ⟨nextGid, -, hdefaults⟩ := except_bind_ok.mp hdefaults
      rw [← Except.ok.inj hdefaults, hattrs, List.append_assoc]
      refine lastGiven_append_cons _ (ouAttribute_group ou) fun a ha => ?_
      rw [List.mem_singleton.mp ha]
      exact gidnumber_groupAttribute
    · rw [← Except.ok.inj hdefaults, hattrs]
      exact lastGiven_append_cons _ (ouAttribute_group ou) fun _ ha => nomatch ha
  refine ⟨fun g hg value hvalue => ?_,
    hp.named.upsertAll _ _ (fun _ hr => hr) fun r hr => (hrows r hr).1⟩
  rw [groupValue_created hschema ou_groupAttribute] at hvalue
  split at hvalue
  · rw [hgiven, Option.map_some, Option.some_or] at hvalue
    rw [← Option.some.inj hvalue, ouAttribute_text]
    exact hou
  · rename_i hne
    refine hp.listed g ?_ value hvalue
    rw [← hg, (Lib.Table.find?_insert? hgroups).2 g, if_neg (fun heq => hne heq.symm)]

theorem MovedUsers.placed {ids : List UserId} (h : MovedUsers ou ids db db') (hou : HasOu ous ou) (hp : UsersPlaced ous db) :
    UsersPlaced ous db' := by
  refine ⟨fun u hu value hvalue => ?_, h.named hp.named⟩
  rw [h.value u] at hvalue
  split at hvalue
  · rw [← Option.some.inj hvalue, textOr_utf8]
    exact hou
  · exact hp.listed u (h.users u ▸ hu) value hvalue

theorem MovedUsers.groupsPlaced {ids : List UserId} (h : MovedUsers ou ids db db') (hp : GroupsPlaced ous db) :
    GroupsPlaced ous db' := by
  obtain ⟨users, attrs, rfl⟩ := h.rest
  exact hp.congr rfl rfl rfl

theorem MovedGroups.placed {ids : List GroupId} (h : MovedGroups ou ids db db') (hou : HasOu ous ou) (hp : GroupsPlaced ous db) :
    GroupsPlaced ous db' := by
  refine ⟨fun g hg value hvalue => ?_, h.named hp.named⟩
  rw [h.value g] at hvalue
  split at hvalue
  · rw [← Option.some.inj hvalue, textOr_utf8]
    exact hou
  · exact hp.listed g (h.groups g ▸ hg) value hvalue

theorem MovedGroups.usersPlaced {ids : List GroupId} (h : MovedGroups ou ids db db') (hp : UsersPlaced ous db) :
    UsersPlaced ous db' := by
  obtain ⟨groups, attrs, rfl⟩ := h.rest
  exact hp.congr rfl rfl rfl

theorem hasOu_erase {nameLower : String} (h : HasOu ous ou) (hne : toLowercase ou ≠ nameLower) :
    HasOu (ous.filter fun o => toLowercase o ≠ nameLower) ou := by
  obtain ⟨o, ho, heq⟩ := h
  exact ⟨o, List.mem_filter.mpr ⟨ho, decide_eq_true (heq ▸ hne)⟩, heq⟩

theorem MovedUsers.erase {ids : List UserId} {nameLower : String} (h : MovedUsers ou ids db db')
    (hou : HasOu ous ou) (hne : toLowercase ou ≠ nameLower) (hp : UsersPlaced ous db)
    (hall : ∀ u, (db.users.find? u).isSome = true → ∀ value, userValue db u "ou" = some value →
      toLowercase (textOr "" value) = nameLower → u ∈ ids) :
    UsersPlaced (ous.filter fun o => toLowercase o ≠ nameLower) db' := by
  refine ⟨fun u hu value hvalue => ?_, h.named hp.named⟩
  rw [h.value u] at hvalue
  rw [h.users u] at hu
  split at hvalue
  · rw [← Option.some.inj hvalue, textOr_utf8]
    exact hasOu_erase hou hne
  · rename_i hnot
    exact hasOu_erase (hp.listed u hu value hvalue) fun heq => hnot (hall u hu value hvalue heq)

theorem MovedGroups.erase {ids : List GroupId} {nameLower : String} (h : MovedGroups ou ids db db')
    (hou : HasOu ous ou) (hne : toLowercase ou ≠ nameLower) (hp : GroupsPlaced ous db)
    (hall : ∀ g, (db.groups.find? g).isSome = true → ∀ value, groupValue db g "ou" = some value →
      toLowercase (textOr "" value) = nameLower → g ∈ ids) :
    GroupsPlaced (ous.filter fun o => toLowercase o ≠ nameLower) db' := by
  refine ⟨fun g hg value hvalue => ?_, h.named hp.named⟩
  rw [h.value g] at hvalue
  rw [h.groups g] at hg
  split at hvalue
  · rw [← Option.some.inj hvalue, textOr_utf8]
    exact hasOu_erase hou hne
  · rename_i hnot
    exact hasOu_erase (hp.listed g hg value hvalue) fun heq => hnot (hall g hg value hvalue heq)

end Sql

section Loops

open Sql

variable [External] {S : Suite} (setup : S.ServerSetup) (rng : S.Coins) (out : Outside)

/-- What the deletion of an organizational unit needs, so as to move everybody who is in it. -/
structure OuDeletable (db : Store) : Prop where
  people : HasOu (getAllowedOus db) "people"
  groups : HasOu (getAllowedOus db) "groups"
  listUsers : ∃ users, Sql.listUsers none false db = .ok users
  listGroups : ∃ groups, Sql.listGroups none db = .ok groups
  userRow : (db.userAttributeSchema.find? (.new "ou")).isSome = true
  groupRow : (db.groupAttributeSchema.find? (.new "ou")).isSome = true

theorem OuDeletable.of_isOk {db : Store} (h :
    (∀ ou ∈ ["people", "groups"], ∃ o ∈ getAllowedOus db, toLowercase o = toLowercase ou) ∧
      (Sql.listUsers none false db).isOk = true ∧ (Sql.listGroups none db).isOk = true ∧
      (db.userAttributeSchema.find? (.new "ou")).isSome = true ∧
      (db.groupAttributeSchema.find? (.new "ou")).isSome = true) : OuDeletable db :=
  ⟨h.1 _ (by simp), h.1 _ (by simp), Lib.exists_of_isOk h.2.1, Lib.exists_of_isOk h.2.2.1, h.2.2.2.1,
    h.2.2.2.2⟩

theorem reassignOu_placed {nameLower : String} {w : World} (hdel : OuDeletable w.db)
    (hpeople : toLowercase "people" ≠ nameLower) (hgroups : toLowercase "groups" ≠ nameLower)
    (hp : Placed w.db) :
    UsersPlaced ((getAllowedOus w.db).filter fun o => toLowercase o ≠ nameLower)
        (GraphQL.reassignOu (sqlServices S setup rng out) nameLower w).2.db ∧
      GroupsPlaced ((getAllowedOus w.db).filter fun o => toLowercase o ≠ nameLower)
        (GraphQL.reassignOu (sqlServices S setup rng out) nameLower w).2.db := by
  obtain ⟨users, hlistUsers⟩ := hdel.listUsers
  obtain ⟨groups, hlistGroups⟩ := hdel.listGroups
  obtain ⟨ids, hmoved, hids⟩ :=
    GraphQL.reassignUsers_moved (fun _ => none) setup rng out nameLower w
  obtain ⟨ids', hmoved', hids'⟩ := GraphQL.reassignGroups_moved (fun _ => none) setup rng out
    nameLower (GraphQL.reassignUsers (sqlServices S setup rng out) nameLower w).2
  change MovedUsers _ _ _ (GraphQL.reassignUsers (sqlServices S setup rng out) nameLower w).2.db
    at hmoved
  change MovedGroups _ _ _ (GraphQL.reassignGroups (sqlServices S setup rng out) nameLower _).2.db
    at hmoved'
  rw [GraphQL.reassignOu_run]
  constructor
  · refine hmoved'.usersPlaced (hmoved.erase hdel.people hpeople hp.users fun u hu value hvalue heq => ?_)
    obtain ⟨x, hx, hid, hou⟩ := listUsers_ou hp.users.named hlistUsers hu hvalue
    exact (hids u).mpr ⟨rfl, ⟨users, hlistUsers, x, hx, hid, hou ▸ heq⟩, rfl, hdel.userRow⟩
  · refine hmoved'.erase hdel.groups hgroups (hmoved.groupsPlaced hp.groups)
      fun g hg value hvalue heq => (hids' g).mpr ⟨rfl, ?_, rfl, ?_⟩
    · obtain ⟨_, _, hdb⟩ := hmoved.rest
      rw [hdb] at hg hvalue
      obtain ⟨x, hx, hid, hou⟩ := listGroups_ou hp.groups.named hlistGroups hg hvalue
      exact (GraphQL.ShowsGroupOu.of_movedUsers nameLower hmoved).mpr
        ⟨groups, hlistGroups, x, hx, hid, hou ▸ heq⟩
    · obtain ⟨_, _, hdb⟩ := hmoved.rest
      rw [hdb]
      exact hdel.groupRow

end Loops

/-! ## Requests -/

section Requests

open Sql

variable [External] {S : Suite} (setup : S.ServerSetup) (rng : S.Coins) (out : Outside)

/-- Everybody stays placed as long as `ou` is in the list, and it stays there. -/
def Stays (ou : String) (db db' : Store) : Prop :=
  Placed db → HasOu (getAllowedOus db) ou → Placed db' ∧ HasOu (getAllowedOus db') ou

instance (ou : String) : Std.Refl (Stays ou) := ⟨fun _ hp hou => ⟨hp, hou⟩⟩

instance (ou : String) : IsTrans Store (Stays ou) :=
  ⟨fun _ _ _ h h' hp hou => h' (h hp hou).1 (h hp hou).2⟩

variable {ou : String}

theorem createUser_stays {request : CreateUserRequest} {before after : List Attribute}
    (hattrs : request.attributes = before ++ ouAttribute ou :: after)
    (hafter : ∀ a ∈ after, canonicalUserAttributeName a.name.asStr ≠ .new "ou") :
    Frames (InvImage (Stays ou) World.db) ((sqlServices S setup rng out).createUser request) := by
  intro w hp hou
  change Placed (Sql.createUser out.now request w.db).2 ∧
    HasOu (getAllowedOus (Sql.createUser out.now request w.db).2) ou
  rcases createUser_atomic out.now request w.db with h | ⟨_, h⟩
  · rw [h]
    exact ⟨hp, hou⟩
  · have husers := createUser_placed hattrs hafter hou h hp.users
    obtain ⟨_, _, _, _, -, -, -, -, -, -, -, hdb⟩ := createUser_ok h
    rw [hdb] at husers ⊢
    exact ⟨⟨husers, hp.groups.congr rfl rfl rfl⟩, hou⟩

theorem createGroup_stays {request : CreateGroupRequest} {before : List Attribute}
    (hattrs : request.attributes = before ++ [ouAttribute ou]) :
    Frames (InvImage (Stays ou) World.db) ((sqlServices S setup rng out).createGroup request) := by
  intro w hp hou
  change Placed (Sql.createGroup out.now request w.db).2 ∧
    HasOu (getAllowedOus (Sql.createGroup out.now request w.db).2) ou
  rcases createGroup_atomic out.now request w.db with h | ⟨_, h⟩
  · rw [h]
    exact ⟨hp, hou⟩
  · have hgroups := createGroup_placed hattrs hou h hp.groups
    obtain ⟨_, _, _, _, -, -, -, -, -, -, -, hdb⟩ := createGroup_ok h
    rw [hdb] at hgroups ⊢
    exact ⟨⟨hp.users.congr rfl rfl rfl, hgroups⟩, hou⟩

theorem moveUser_stays (u : UserId) : Frames (InvImage (Stays ou) World.db)
    ((sqlServices S setup rng out).updateUser (moveUser ou u)) := by
  intro w hp hou
  obtain ⟨ids, hmoved⟩ := updateUser_move setup rng out ou u w
  have husers := hmoved.placed hou hp.users
  have hgroups := hmoved.groupsPlaced hp.groups
  have hlist : getAllowedOus
      ((sqlServices S setup rng out).updateUser (moveUser ou u) w).2.db = getAllowedOus w.db := by
    obtain ⟨_, _, heq⟩ := hmoved.rest
    rw [heq]
    rfl
  rw [← hlist] at husers hgroups hou
  exact ⟨⟨husers, hgroups⟩, hou⟩

theorem moveGroup_stays (g : GroupId) : Frames (InvImage (Stays ou) World.db)
    ((sqlServices S setup rng out).updateGroup (moveGroup ou g)) := by
  intro w hp hou
  obtain ⟨ids, hmoved⟩ := updateGroup_move setup rng out ou g w
  have hgroups := hmoved.placed hou hp.groups
  have husers := hmoved.usersPlaced hp.users
  have hlist : getAllowedOus
      ((sqlServices S setup rng out).updateGroup (moveGroup ou g) w).2.db = getAllowedOus w.db := by
    obtain ⟨_, _, heq⟩ := hmoved.rest
    rw [heq]
    rfl
  rw [← hlist] at husers hgroups hou
  exact ⟨⟨husers, hgroups⟩, hou⟩

def createUserOu (schema : Schema) (user : GraphQL.CreateUserInput) : String :=
  (GraphQL.splitOu
    (fun a => resolveCanonicalName schema.userAttributes a.name = some "ou") "people"
    (GraphQL.consolidateAttributes (user.attributes.getD []) user.firstName user.lastName
      user.avatar schema)).1

def createGroupOu (schema : Schema) (request : GraphQL.CreateGroupInput) : String :=
  (GraphQL.splitOu (fun a => GraphQL.canonicalName schema.groupAttributes a.name = "ou") "groups"
    (request.attributes.getD [])).1

theorem placed_of_admin {α : Type} {v : ValidationResults} {message : String}
    {f : Services S World → GraphQL.Field World α} {w : World} (hp : Placed w.db)
    (hf : Placed (f (sqlServices S setup rng out) w).2.db) :
    Placed ((GraphQL.orUnauthorized message
      (getAdminHandler (sqlServices S setup rng out) v) >>= f) w).2.db := by
  unfold getAdminHandler
  split
  · exact hf
  · exact hp

theorem createUser_keepsPlaced (v : ValidationResults) (user : GraphQL.CreateUserInput) {w : World}
    (hok : ∀ schema, getSchema w.db = .ok schema →
      HasOu (getAllowedOus w.db) (createUserOu schema user)) (hp : Placed w.db) :
    Placed (GraphQL.createUser ⟨sqlServices S setup rng out, v⟩ user w).2.db := by
  refine placed_of_admin setup rng out hp ?_
  refine Eq.mpr (congrArg (fun w => Placed (World.db w)) (query_bind_snd _ _ _ w)) ?_
  cases hschema : getSchema w.db with
  | error e => exact hp
  | ok schema =>
    refine (Frames.bind (R := InvImage (Stays (createUserOu schema user)) World.db)
      (Keeps.lift _).frames (fun unpacked => ?_) w hp (hok schema hschema)).1
    split
    · exact (Keeps.fail _).frames
    · exact (createUser_stays setup rng out rfl (fun _ ha => (List.not_mem_nil ha).elim)).mapErr.bind fun _ =>
        (onDb_query_keeps _).frames.mapErr.bind fun _ => (Keeps.pure _).frames

theorem createGroup_keepsPlaced (v : ValidationResults) (request : GraphQL.CreateGroupInput)
    {w : World} (hok : ∀ schema, getSchema w.db = .ok schema →
      HasOu (getAllowedOus w.db) (createGroupOu schema request)) (hp : Placed w.db) :
    Placed (GraphQL.createGroupWithDetails ⟨sqlServices S setup rng out, v⟩ request w).2.db := by
  refine placed_of_admin setup rng out hp ?_
  refine Eq.mpr (congrArg (fun w => Placed (World.db w)) (query_bind_snd _ _ _ w)) ?_
  cases hschema : getSchema w.db with
  | error e => exact hp
  | ok schema =>
    refine (Frames.bind (R := InvImage (Stays (createGroupOu schema request)) World.db)
      (Keeps.lift _).frames (fun attributes => ?_) w hp (hok schema hschema)).1
    exact (createGroup_stays setup rng out rfl).mapErr.bind fun _ =>
      (onDb_query_keeps _).frames.mapErr.bind fun _ => (Keeps.pure _).frames

theorem changeUserOu_stays (v : ValidationResults) (userIds : List String) (newOu : String) :
    Frames (InvImage (Stays newOu) World.db)
      (GraphQL.changeUserOu ⟨sqlServices S setup rng out, v⟩ userIds newOu) :=
  GraphQL.within_of_admin (Frames.ite (Keeps.fail _).frames
    ((Frames.each fun _ _ => (moveUser_stays setup rng out _).mapErr).bind fun _ =>
      (Keeps.pure _).frames))

theorem changeGroupOu_stays (v : ValidationResults) (groupIds : List Int) (newOu : String) :
    Frames (InvImage (Stays newOu) World.db)
      (GraphQL.changeGroupOu ⟨sqlServices S setup rng out, v⟩ groupIds newOu) :=
  GraphQL.within_of_admin (Frames.ite (Keeps.fail _).frames
    ((Frames.each fun _ _ => (moveGroup_stays setup rng out _).mapErr).bind fun _ =>
      (Keeps.pure _).frames))

theorem createOu_keepsPlaced
    (hjson : ∀ l, External.jsonToStrings (External.stringsToJson l) = some l)
    (v : ValidationResults) (name : String) {w : World} (hp : Placed w.db) :
    Placed (GraphQL.createOu ⟨sqlServices S setup rng out, v⟩ name w).2.db := by
  have houtcome := GraphQL.createOu_outcome setup rng out v name w
  generalize (GraphQL.createOu ⟨sqlServices S setup rng out, v⟩ name w).2 = w' at houtcome ⊢
  cases houtcome with
  | refused => exact hp
  | added hcheck hnew hparent =>
    have hsub : ∀ o ∈ getAllowedOus w.db, o ∈ orderBy id (getAllowedOus w.db ++ [name]) :=
      fun o ho => mem_orderBy.mpr (List.mem_append_left _ ho)
    constructor
    · rw [GraphQL.getAllowedOus_withAllowedOus hjson]
      exact (hp.users.mono hsub).congr rfl rfl rfl
    · rw [GraphQL.getAllowedOus_withAllowedOus hjson]
      exact (hp.groups.mono hsub).congr rfl rfl rfl

theorem deleteOu_keepsPlaced
    (hjson : ∀ l, External.jsonToStrings (External.stringsToJson l) = some l)
    (v : ValidationResults) (name : String) {w : World} (hdel : OuDeletable w.db)
    (hp : Placed w.db) :
    Placed (GraphQL.deleteOu ⟨sqlServices S setup rng out, v⟩ name w).2.db := by
  have houtcome := GraphQL.deleteOu_outcome setup rng out v name w
  generalize (GraphQL.deleteOu ⟨sqlServices S setup rng out, v⟩ name w).2 = w' at houtcome ⊢
  cases houtcome with
  | refused => exact hp
  | removed hpeople hgroups hchildren =>
    obtain ⟨husers, hgroups⟩ :=
      reassignOu_placed setup rng out hdel hpeople.symm hgroups.symm hp
    constructor
    · rw [GraphQL.getAllowedOus_withAllowedOus hjson]
      exact husers.congr rfl rfl rfl
    · rw [GraphQL.getAllowedOus_withAllowedOus hjson]
      exact hgroups.congr rfl rfl rfl

variable [Ldap.Library]

theorem createUserRequest_ou {userId : UserId} {attributes : List (String × Lib.Bytes)}
    {internalOu : String} {request : CreateUserRequest}
    (h : Ldap.createUserRequest userId attributes internalOu = .ok request) :
    ∃ before kerberossync, request.attributes = before ++ ouAttribute internalOu :: [kerberossync] ∧
      kerberossync.name = .new "kerberossync" := by
  unfold Ldap.createUserRequest at h
  obtain ⟨firstName, -, h⟩ := except_bind_ok.mp h
  obtain ⟨first, -, h⟩ := except_bind_ok.mp h
  obtain ⟨lastName, -, h⟩ := except_bind_ok.mp h
  obtain ⟨last, -, h⟩ := except_bind_ok.mp h
  obtain ⟨avatarText, -, h⟩ := except_bind_ok.mp h
  obtain ⟨avatar, -, h⟩ := except_bind_ok.mp h
  obtain ⟨ou, hou, h⟩ := except_bind_ok.mp h
  obtain ⟨ksync, -, h⟩ := except_bind_ok.mp h
  obtain ⟨kerberossync, hsync, h⟩ := except_bind_ok.mp h
  obtain ⟨email, -, h⟩ := except_bind_ok.mp h
  obtain ⟨displayName, -, h⟩ := except_bind_ok.mp h
  have hou : ouAttribute internalOu = ou := Except.ok.inj hou
  subst hou
  rw [← Except.ok.inj h]
  refine ⟨first ++ last ++ avatar, kerberossync, rfl, ?_⟩
  unfold Ldap.kerberossyncAttribute at hsync
  split at hsync
  · exact Ldap.typedAttribute_name hsync
  · exact Ldap.typedAttribute_name hsync

theorem createUserOrGroup_stays (info : Ldap.LdapInfo) (request : Ldap.LdapAddRequest)
    {parts : List (String × String)} (hparts : Ldap.parseDistinguishedName request.dn = .ok parts) :
    Frames (InvImage (Stays (Ldap.getInternalOuFromDnParts parts)) World.db)
      (Ldap.createUserOrGroup (sqlServices S setup rng out) info request) := by
  unfold Ldap.createUserOrGroup
  rw [hparts]
  refine Frames.bind_returns (Keeps.lift _).frames fun dnParts hreturns => ?_
  have hparts : parts = dnParts := Except.ok.inj (Ldap.returns_liftLdap hreturns)
  subst hparts
  split
  · refine (Keeps.lift _).frames.bind fun attributes => ?_
    refine Frames.bind_returns (Keeps.lift _).frames fun user hreturns => ?_
    obtain ⟨before, sync, hattrs, hsync⟩ := createUserRequest_ou (Ldap.returns_liftLdap hreturns)
    have hafter : ∀ a ∈ [sync], canonicalUserAttributeName a.name.asStr ≠ .new "ou" := by
      intro a ha
      rw [List.mem_singleton.mp ha, hsync]
      exact others_userAttribute _ (by simp)
    refine (createUser_stays setup rng out hattrs hafter).mapErr.bind fun _ => ?_
    split
    · exact (Keeps.pure _).frames
    · exact (Kerberos.syncKerberosPrincipal_keepsDb _ _).frames.attempt.bind fun _ =>
        (Keeps.pure _).frames
  · refine Frames.bind_returns (Keeps.lift _).frames fun ou hreturns => ?_
    have hou : ouAttribute (Ldap.getInternalOuFromDnParts parts) = ou :=
      Except.ok.inj (Ldap.returns_liftLdap hreturns)
    subst hou
    exact (createGroup_stays setup rng out (List.nil_append _).symm).mapErr.bind fun _ =>
      (Keeps.pure _).frames
  · exact (Keeps.lift _).frames

theorem doAdd_keepsPlaced (info : Ldap.LdapInfo) (userInfo : Option ValidationResults)
    (request : Ldap.LdapAddRequest) {w : World}
    (hok : ∀ parts, Ldap.parseDistinguishedName request.dn = .ok parts →
      HasOu (getAllowedOus w.db) (Ldap.getInternalOuFromDnParts parts)) (hp : Placed w.db) :
    Placed (Ldap.doAdd (sqlServices S setup rng out) info userInfo request w).2.db := by
  cases hparts : Ldap.parseDistinguishedName request.dn with
  | ok parts =>
    have hframes : Frames (InvImage (Stays (Ldap.getInternalOuFromDnParts parts)) World.db)
        (Ldap.doAdd (sqlServices S setup rng out) info userInfo request) :=
      Ldap.within_of_adminView (createUserOrGroup_stays setup rng out info request hparts)
    exact (hframes w hp (hok parts hparts)).1
  | error e =>
    have hkeeps : Keeps (Ldap.createUserOrGroup (sqlServices S setup rng out) info request) := by
      unfold Ldap.createUserOrGroup
      rw [hparts]
      exact fun _ => rfl
    have hsame : Frames Eq (Ldap.doAdd (sqlServices S setup rng out) info userInfo request) :=
      Ldap.within_of_adminView hkeeps
    rw [← hsame w]
    exact hp

end Requests

/-! ## Runs -/

/-- The requests that write an organizational unit, or the list of them. -/
inductive PlacementRequest where
  | createUser (v : ValidationResults) (user : GraphQL.CreateUserInput)
  | createGroup (v : ValidationResults) (group : GraphQL.CreateGroupInput)
  | add (userInfo : Option ValidationResults) (request : Ldap.LdapAddRequest)
  | changeUserOu (v : ValidationResults) (userIds : List String) (newOu : String)
  | changeGroupOu (v : ValidationResults) (groupIds : List Int) (newOu : String)
  | createOu (v : ValidationResults) (name : String)
  | deleteOu (v : ValidationResults) (name : String)

/-- A request with what the outside answers while it runs. -/
structure PlacementInput (S : Suite) where
  out : Outside
  rng : S.Coins
  request : PlacementRequest

section Runs

open Sql

variable [External] [Ldap.Library] {S : Suite} (setup : S.ServerSetup) (info : Ldap.LdapInfo)

def placementStep (w : World) (i : PlacementInput S) : Bool × World :=
  let h := sqlServices S setup i.rng i.out
  match i.request with
  | .createUser v user => answered (GraphQL.createUser ⟨h, v⟩ user) w
  | .createGroup v group => answered (GraphQL.createGroupWithDetails ⟨h, v⟩ group) w
  | .add userInfo request => answered (Ldap.doAdd h info userInfo request) w
  | .changeUserOu v userIds newOu => answered (GraphQL.changeUserOu ⟨h, v⟩ userIds newOu) w
  | .changeGroupOu v groupIds newOu => answered (GraphQL.changeGroupOu ⟨h, v⟩ groupIds newOu) w
  | .createOu v name => answered (GraphQL.createOu ⟨h, v⟩ name) w
  | .deleteOu v name => answered (GraphQL.deleteOu ⟨h, v⟩ name) w

/-- Users and groups are put where the list has a place, and a name is deleted only when everybody
can be moved. -/
def PlacementOk (db : Store) : PlacementRequest → Prop
  | .createUser _ user => ∀ schema, getSchema db = .ok schema →
    HasOu (getAllowedOus db) (createUserOu schema user)
  | .createGroup _ group => ∀ schema, getSchema db = .ok schema →
    HasOu (getAllowedOus db) (createGroupOu schema group)
  | .add _ request => ∀ parts, Ldap.parseDistinguishedName request.dn = .ok parts →
    HasOu (getAllowedOus db) (Ldap.getInternalOuFromDnParts parts)
  | .changeUserOu _ _ newOu => HasOu (getAllowedOus db) newOu
  | .changeGroupOu _ _ newOu => HasOu (getAllowedOus db) newOu
  | .createOu _ _ => True
  | .deleteOu _ _ => OuDeletable db

theorem placementStep_placed
    (hjson : ∀ l, External.jsonToStrings (External.stringsToJson l) = some l) {w : World}
    {i : PlacementInput S} (hok : PlacementOk w.db i.request) (hp : Placed w.db) :
    Placed (placementStep setup info w i).2.db := by
  obtain ⟨out, rng, request⟩ := i
  unfold placementStep answered
  cases request with
  | createUser v user => exact createUser_keepsPlaced setup rng out v user hok hp
  | createGroup v group => exact createGroup_keepsPlaced setup rng out v group hok hp
  | add userInfo request => exact doAdd_keepsPlaced setup rng out info userInfo request hok hp
  | changeUserOu v userIds newOu =>
    exact (changeUserOu_stays setup rng out v userIds newOu w hp hok).1
  | changeGroupOu v groupIds newOu =>
    exact (changeGroupOu_stays setup rng out v groupIds newOu w hp hok).1
  | createOu v name => exact createOu_keepsPlaced setup rng out hjson v name hp
  | deleteOu v name => exact deleteOu_keepsPlaced setup rng out hjson v name hok hp

/-- In every run that puts users and groups only where the list has a place, and deletes names only
when everybody can be moved, the organizational unit of every user and group stays in the list. -/
theorem ousListed_run
    (hjson : ∀ l, External.jsonToStrings (External.stringsToJson l) = some l) {init : World}
    (h₀ : Placed init.db) {h : List (Lib.Event World (PlacementInput S) Bool)} {w : World}
    (hr : Lib.Run (placementStep setup info) (fun _ w i => PlacementOk w.db i.request) init h w) :
    OusListed w.db :=
  (hr.invariant (P := fun _ w => Placed w.db) h₀ fun _ _ _ hp hok =>
    placementStep_placed setup info hjson hok hp).ousListed

end Runs

/-! ## A place that the list does not have -/

section Samples

open Plain
open Codecs
open Sql

def emptyDirectory : World :=
  world { Store.empty with
    userAttributeSchema := .single ⟨.new "ou", .string, false, true, false, true, true, "[]"⟩
    groupAttributeSchema := .single ⟨.new "ou", .string, false, true, false, true, true, "[]"⟩
    systemConfig := .single ⟨"allowedous", External.stringsToJson ["groups", "people"]⟩ }

theorem emptyDirectory_placed : Placed emptyDirectory.db := by
  refine ⟨⟨fun u hu => ?_, by decide +kernel, fun _ hr => nomatch hr⟩,
    ⟨fun g hg => ?_, by decide +kernel, fun _ hr => nomatch hr⟩⟩
  · cases hu
  · cases hg

def placementInput (request : PlacementRequest) : PlacementInput Opaque.plainSuite :=
  ⟨outside, (), request⟩

def anAdmin : ValidationResults := ⟨UserId.new "admin", .admin⟩

def placeAlice : PlacementInput Opaque.plainSuite :=
  placementInput (.createUser anAdmin ⟨"alice", some "alice@example.com", none, none, none, none, none⟩)

def moveAlice (ou : String) : PlacementInput Opaque.plainSuite :=
  placementInput (.changeUserOu anAdmin ["alice"] ou)

def addSales : PlacementInput Opaque.plainSuite := placementInput (.createOu anAdmin "sales")

def dropSales : PlacementInput Opaque.plainSuite := placementInput (.deleteOu anAdmin "SALES")

def afterPlacements (inputs : List (PlacementInput Opaque.plainSuite)) : World :=
  inputs.foldl (fun w i => (placementStep () ldapInfo w i).2) emptyDirectory

/-- `alice` is created, moved to a new organizational unit, and moved back when it is deleted. -/
theorem ousListed_run_alice :
    userValue (afterPlacements [placeAlice, addSales, moveAlice "Sales", dropSales]).db
      (UserId.new "alice") "ou" = some (utf8 "people") ∧
    OusListed (afterPlacements [placeAlice, addSales, moveAlice "Sales", dropSales]).db := by
  refine ⟨by decide +kernel, ?_⟩
  have hplace : PlacementOk emptyDirectory.db placeAlice.request := by
    intro schema _
    change HasOu _ "people"
    unfold HasOu
    decide +kernel
  have hmove : PlacementOk (afterPlacements [placeAlice, addSales]).db
      (moveAlice "Sales").request := by
    change HasOu _ _
    unfold HasOu
    decide +kernel
  have hdrop : PlacementOk (afterPlacements [placeAlice, addSales, moveAlice "Sales"]).db
      dropSales.request := by
    exact OuDeletable.of_isOk (by decide +kernel)
  have hr : Lib.Run (placementStep (S := Opaque.plainSuite) () ldapInfo)
      (fun _ w i => PlacementOk w.db i.request) emptyDirectory _ _ :=
    (((Lib.Run.nil.snoc placeAlice hplace).snoc addSales trivial).snoc
      (moveAlice "Sales") hmove).snoc dropSales hdrop
  exact ousListed_run () ldapInfo Codecs.lawful.strings emptyDirectory_placed hr

/-- `alice` is moved to a place that does not exist. -/
theorem user_in_no_place :
    Placed emptyDirectory.db ∧
    (∃ h, Lib.Run (placementStep (S := Opaque.plainSuite) () ldapInfo) (fun _ _ _ => True)
      emptyDirectory h (afterPlacements [placeAlice, moveAlice "nowhere"])) ∧
    ¬ OusListed (afterPlacements [placeAlice, moveAlice "nowhere"]).db := by
  refine ⟨emptyDirectory_placed, Lib.Run.nil.extend _ fun _ _ _ _ => trivial, fun h => ?_⟩
  have hvalue := h.1 (UserId.new "alice") (by decide +kernel) (utf8 "nowhere") (by decide +kernel)
  revert hvalue
  unfold HasOu
  decide +kernel

end Samples

end Klldap
