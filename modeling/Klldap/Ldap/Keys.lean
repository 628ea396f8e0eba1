import Klldap.Ldap.Write
import Klldap.Sql.RoundTrip
import Klldap.Sql.Stored

/-!
# Klldap.Ldap.Keys: modifying the keys of a user

A change of `sshPublicKey` takes the values that are texts, before it looks whether there are any.
An addition and a deletion read the stored keys, and all three write the whole list.
-/

namespace Klldap
namespace Ldap

open Lib (Bytes Eff except_bind_ok except_map_ok except_mapError_ok)
open Lib.Bincode (utf8 ofUtf8? ofUtf8?_utf8 utf8_injective utf8_of_ofUtf8?)
open Lib.Text
open Opaque (Suite)

/-! ## Values in order -/

theorem eraseDups_map {α β : Type} [BEq α] [LawfulBEq α] [BEq β] [LawfulBEq β] {f : α → β}
    (hf : f.Injective) (l : List α) : (l.map f).eraseDups = l.eraseDups.map f := by
  match l with
  | [] => rfl
  | a :: l =>
    have hfilter : (l.map f).filter (fun b => !b == f a) = (l.filter fun b => !b == a).map f := by
      rw [List.filter_map]
      congr 2
      funext b
      simp [hf.eq_iff]
    rw [List.map_cons, List.eraseDups_cons, List.eraseDups_cons, hfilter, eraseDups_map hf,
      List.map_cons]
termination_by l.length
decreasing_by simpa using Nat.lt_succ_of_le (List.length_filter_le _ l)

theorem addMissing_eq (existing values : List String) :
    addMissing existing values =
      existing ++ (values.filter fun v => !existing.contains v).eraseDups := by
  unfold addMissing
  induction values generalizing existing with
  | nil => simp
  | cons v values ih =>
    rw [List.foldl_cons, ih, List.filter_cons]
    cases hv : existing.contains v with
    | true => simp
    | false =>
      have hfilter : (values.filter fun w => !(existing ++ [v]).contains w) =
          (values.filter fun w => !existing.contains w).filter fun w => !w == v := by
        rw [List.filter_filter]
        congr 1
        funext w
        cases hw : w == v <;> simp_all
      simp only [Bool.false_eq_true, if_false, Bool.not_false, if_true]
      rw [List.eraseDups_cons, hfilter, List.append_assoc, List.singleton_append]

theorem map_utf8_textsOf {vals : List Bytes} (h : ∀ v ∈ vals, (ofUtf8? v).isSome = true) :
    (textsOf vals).map utf8 = vals := by
  induction vals with
  | nil => rfl
  | cons v vals ih =>
    obtain ⟨s, hs⟩ := Option.isSome_iff_exists.mp (h v List.mem_cons_self)
    rw [textsOf, List.filterMap_cons_some hs, List.map_cons, utf8_of_ofUtf8? hs]
    exact congrArg (v :: ·) (ih fun w hw => h w (List.mem_cons_of_mem v hw))

theorem isSome_of_mem_map_utf8 {l : List String} {v : Bytes} (h : v ∈ l.map utf8) :
    (ofUtf8? v).isSome = true := by
  obtain ⟨s, -, rfl⟩ := List.mem_map.mp h
  simp

theorem mem_textsOf {vals : List Bytes} {s : String} : s ∈ textsOf vals ↔ utf8 s ∈ vals := by
  rw [textsOf, List.mem_filterMap]
  constructor
  · rintro ⟨v, hv, hs⟩
    rwa [utf8_of_ofUtf8? hs]
  · exact fun h => ⟨utf8 s, h, ofUtf8?_utf8 s⟩

theorem textsOf_eq_nil {vals : List Bytes} :
    textsOf vals = [] ↔ ∀ v ∈ vals, (ofUtf8? v).isSome = false := by
  rw [textsOf, List.filterMap_eq_nil_iff]
  exact forall₂_congr fun v _ => by simp

/-! ## What a change asks for -/

/-- What a change of the keys asks for, about their bytes before and after. A deletion without values
is one of the attribute. -/
def KeysChanged (operation : LdapModifyType) (vals old new : List Bytes) : Prop :=
  match operation with
  | .add => new = old ++ (vals.filter fun v => !old.contains v).eraseDups
  | .delete => vals ≠ [] → new = old.filter fun key => !vals.contains key
  | .replace => new = vals

/-- Every value is a text; of a deletion one is, or there is no key to lose. -/
def KeysReadable (operation : LdapModifyType) (vals : List Bytes) (old : List String) : Prop :=
  match operation with
  | .add | .replace => ∀ v ∈ vals, (ofUtf8? v).isSome = true
  | .delete => vals ≠ [] → old ≠ [] → ∃ v ∈ vals, (ofUtf8? v).isSome = true

instance (operation : LdapModifyType) (vals : List Bytes) (old : List String) :
    Decidable (KeysReadable operation vals old) := by
  unfold KeysReadable
  cases operation <;> infer_instance

def keysWritten (operation : LdapModifyType) (vals : List Bytes) (old : List String) :
    List String :=
  match operation with
  | .add => addMissing old (textsOf vals)
  | .delete =>
    if (textsOf vals).isEmpty then [] else old.filter fun key => !(textsOf vals).contains key
  | .replace => textsOf vals

theorem add_changed_iff (vals : List Bytes) (old : List String) :
    KeysChanged .add vals (old.map utf8) ((addMissing old (textsOf vals)).map utf8) ↔
      ∀ v ∈ vals, (ofUtf8? v).isSome = true := by
  constructor
  · intro h v hv
    by_cases hold : v ∈ old.map utf8
    · exact isSome_of_mem_map_utf8 hold
    · have hnew : v ∈ (addMissing old (textsOf vals)).map utf8 := by
        rw [h]
        simp only [List.mem_append, List.mem_eraseDups, List.mem_filter]
        exact .inr ⟨hv, by simpa using hold⟩
      exact isSome_of_mem_map_utf8 hnew
  · intro h
    have hfilter : (vals.filter fun v => !(old.map utf8).contains v) =
        ((textsOf vals).filter fun v => !old.contains v).map utf8 := by
      conv_lhs => rw [← map_utf8_textsOf h]
      rw [List.filter_map]
      congr 2
      funext s
      simp [utf8_injective.eq_iff]
    rw [KeysChanged, hfilter, eraseDups_map utf8_injective, addMissing_eq, List.map_append]

theorem delete_changed_iff (vals : List Bytes) (old : List String) :
    KeysChanged .delete vals (old.map utf8) ((keysWritten .delete vals old).map utf8) ↔
      KeysReadable .delete vals old := by
  have hfilter : ((old.map utf8).filter fun key => !vals.contains key) =
      (old.filter fun key => !(textsOf vals).contains key).map utf8 := by
    rw [List.filter_map]
    congr 2
    funext s
    simp [mem_textsOf]
  unfold KeysChanged KeysReadable keysWritten
  dsimp only
  rw [hfilter]
  refine imp_congr_right fun hvals => ?_
  cases htexts : textsOf vals with
  | nil =>
    have hnone := textsOf_eq_nil.mp htexts
    cases old with
    | nil => simp
    | cons key old => simpa using hnone
  | cons s rest =>
    have hs : s ∈ textsOf vals := by simp [htexts]
    simp only [List.isEmpty_cons, Bool.false_eq_true, if_false, true_iff]
    exact fun _ => ⟨utf8 s, mem_textsOf.mp hs, by simp⟩

theorem keysWritten_changed_iff (operation : LdapModifyType) (vals : List Bytes)
    (old : List String) :
    KeysChanged operation vals (old.map utf8) ((keysWritten operation vals old).map utf8) ↔
      KeysReadable operation vals old := by
  cases operation with
  | add => exact add_changed_iff vals old
  | delete => exact delete_changed_iff vals old
  | replace =>
    constructor
    · intro h v hv
      have h : (textsOf vals).map utf8 = vals := h
      rw [← h] at hv
      exact isSome_of_mem_map_utf8 hv
    · exact map_utf8_textsOf

/-! ## The stored keys -/

theorem keys_schema : ∃ b ∈ PublicSchema.userAttributes, b.name = "sshpublickey" ∧
    b.attributeType = .string ∧ b.isList = true ∧
      ∀ n ∈ b.name :: b.aliases, asciiLower n = "sshpublickey" := by decide +kernel

theorem userNamed_keys (db : Store) : Sql.UserNamed "sshpublickey" db := by
  obtain ⟨b, hb, hname, -, -, hlower⟩ := keys_schema
  have hspelling (name : AttributeName)
      (h : Sql.canonicalUserAttributeName name.asStr = .new "sshpublickey") :
      name = .new "sshpublickey" := by
    rw [← hname] at h
    have hanswers := (getByNameOrAlias_some ((Sql.canonicalUserAttributeName_iff hb name).mp h)).2
    have hasStr : name.asStr = "sshpublickey" := by
      have hlowered : asciiLower name.asStr = name.asStr := name.name.lower
      have hspelled : (b.name :: b.aliases).any (fun n => eqIgnoreAsciiCase n name.asStr) = true :=
        hanswers
      obtain ⟨n, hn, heq⟩ := List.any_eq_true.mp hspelled
      rw [← hlowered, ← eqIgnoreAsciiCase_iff.mp heq]
      exact hlower n hn
    rw [← AttributeName.new_asStr name, hasStr]
  exact ⟨fun r _ h => hspelling _ h, fun r _ h => hspelling _ h⟩

section

variable [External]

def readTexts (bytes : Bytes) : List String :=
  ((ofUtf8? bytes).bind External.jsonToStrings).getD [textOr "" bytes]

theorem deserializeAttributeValue_texts (bytes : Bytes) :
    Klldap.deserializeAttributeValue bytes .string true = .string (.unbounded (readTexts bytes)) := by
  unfold Klldap.deserializeAttributeValue readTexts
  cases (ofUtf8? bytes).bind External.jsonToStrings with
  | none => rfl
  | some l => rfl

def storedKeys (db : Store) (u : UserId) : List String :=
  ((Sql.userValue db u "sshpublickey").map readTexts).getD []

theorem keysOf_eq {db : Store} {u : UserId} {user : User}
    (h : Sql.getUserDetails u db = .ok user) : keysOf user = storedKeys db u := by
  obtain ⟨b, hb, hname, htype, hlist, -⟩ := keys_schema
  have hvalue (a : Attribute) := Sql.getUserDetails_value (a := a) hname (userNamed_keys db) hb
    (by decide) h
  rw [htype, hlist] at hvalue
  unfold keysOf storedKeys
  cases hfind : user.attributes.find? fun a => a.name.asStr = "sshpublickey" with
  | none =>
    cases hstored : Sql.userValue db u "sshpublickey" with
    | none => rfl
    | some bytes =>
      obtain ⟨hmem, -⟩ := (hvalue _).mpr ⟨bytes, hstored, rfl⟩
      exact absurd (decide_eq_true rfl) (List.find?_eq_none.mp hfind _ hmem)
  | some a =>
    have hasStr : a.name.asStr = "sshpublickey" := by simpa using List.find?_some hfind
    obtain ⟨bytes, hstored, rfl⟩ := (hvalue a).mp
      ⟨List.mem_of_find?_eq_some hfind, by rw [← AttributeName.new_asStr a.name, hasStr]⟩
    rw [hstored, deserializeAttributeValue_texts]
    rfl

theorem updateUser_committed {out : Outside} {request : UpdateUserRequest} {w w' : World}
    (h : Sql.updateUser out request w = (.ok (), w')) :
    ∃ kerb, Sql.updateUserWithTransaction out.now request w.db = (.ok kerb, w'.db) := by
  have hdb := Sql.updateUser_db out request w
  rw [h] at hdb
  obtain ⟨kerb, w₁, hrun, -⟩ := Eff.bind_ok.mp h
  have htx := onDb_ok hrun
  rw [htx] at hdb
  refine ⟨kerb, ?_⟩
  rw [Eff.transaction_ok htx]
  exact congrArg (Prod.mk _) hdb.symm

def writeKeys (u : UserId) (keys : List String) : UpdateUserRequest :=
  { noUpdate u with insertAttributes := [⟨.new "sshpublickey", .string (.unbounded keys)⟩] }

theorem keysValue_updated {out : Outside} {update : UpdateUserRequest} {w w' : World}
    (h : Sql.updateUser out update w = (.ok (), w')) :
    ∃ schema changes, Sql.computeUserAttributeChanges update.userId update.insertAttributes
        update.deleteAttributes schema = .ok changes ∧
      Sql.userValue w'.db update.userId "sshpublickey" =
        ((Sql.givenUser "sshpublickey" update.insertAttributes).map
          fun a => Sql.attributeValueToDbBytes a.value).or
          (if changes.removes.contains (.new "sshpublickey") then none
            else Sql.userValue w.db update.userId "sshpublickey") := by
  obtain ⟨kerb, hrun⟩ := updateUser_committed h
  obtain ⟨schema, changes, hschema, hchanges, -, -, -, -, hdb⟩ :=
    Sql.updateUserWithTransaction_ok.mp hrun
  have hn : "sshpublickey" ∈ PublicSchema.userAttributes.map AttributeSchema.name := by decide
  refine ⟨schema, changes, hchanges, ?_⟩
  rw [hdb, Sql.userValue_updated hschema hchanges hn, if_pos rfl]

theorem storedKeys_written (hjson : ∀ l, External.jsonToStrings (External.stringsToJson l) = some l)
    {out : Outside} {u : UserId} {keys : List String} {w w' : World}
    (h : Sql.updateUser out (writeKeys u keys) w = (.ok (), w')) : storedKeys w'.db u = keys := by
  obtain ⟨schema, changes, -, hvalue⟩ := keysValue_updated h
  have hgiven : Sql.givenUser "sshpublickey" (writeKeys u keys).insertAttributes =
      some ⟨.new "sshpublickey", .string (.unbounded keys)⟩ := by
    have hname : Sql.canonicalUserAttributeName (AttributeName.new "sshpublickey").asStr =
        .new "sshpublickey" := by decide +kernel
    rw [Sql.givenUser, Sql.lastGiven, writeKeys, List.reverse_singleton, List.find?_singleton,
      if_pos (decide_eq_true hname)]
  rw [hgiven] at hvalue
  have hvalue : Sql.userValue w'.db u "sshpublickey" =
    some (utf8 (External.stringsToJson keys)) := hvalue
  simp [storedKeys, hvalue, readTexts, hjson]

theorem storedKeys_deleted {out : Outside} {u : UserId} {w w' : World}
    (h : Sql.updateUser out (deleteKeys u) w = (.ok (), w')) : storedKeys w'.db u = [] := by
  obtain ⟨schema, changes, hchanges, hvalue⟩ := keysValue_updated h
  have hremoves : changes.removes.contains (.new "sshpublickey") = true := by
    rw [← Except.ok.inj hchanges]
    rfl
  rw [if_pos hremoves] at hvalue
  have hvalue : Sql.userValue w'.db u "sshpublickey" = none := hvalue
  rw [storedKeys, hvalue]
  rfl

variable [Library]

theorem setKeys_eq (u : UserId) (keys : List String) : setKeys u keys = .ok (writeKeys u keys) := by
  have hparse : keys.mapM (Except.ok : String → Except String String) = .ok keys :=
    (List.mapM_pure (m := Except String) (f := id)).trans (by rw [List.map_id]; rfl)
  simp only [setKeys, typedAttribute, deserializeAttributeValue, parseValues, Bool.not_true,
    Bool.false_and, Bool.false_eq_true, if_false]
  rw [hparse]
  rfl

/-! ## A change -/

variable {S : Suite} {setup : S.ServerSetup} {rng : S.Coins} {out : Outside} {u : UserId}
  {v : ValidationResults} {w w' : World}

omit [External] [Library] in
theorem orRefused_ok {σ : Type} {message : String} {h h' : Services S σ} {c : Bool} {s s' : σ}
    (hrun : orRefused message (if c then some h else none) s = (.ok h', s')) : h' = h ∧ s' = s := by
  cases c with
  | false => cases hrun
  | true =>
    cases hrun
    exact ⟨rfl, rfl⟩

theorem modifyStep_update {change : LdapModify} (hchange : isPasswordChange change = false)
    (h : modifyStep (sqlServices S setup rng out) u v change w = (.ok (), w')) :
    ∃ update w₁, profileUpdate (sqlServices S setup rng out) u change w = (.ok update, w₁) ∧
      Sql.updateUser out update w₁ = (.ok (), w') := by
  unfold modifyStep at h
  obtain ⟨readable, w₁, hreadable, hrest₁⟩ := Eff.bind_ok.mp h
  obtain ⟨rfl, rfl⟩ := orRefused_ok hreadable
  obtain ⟨writeable, w₂, hwriteable, hrest₂⟩ := Eff.bind_ok.mp hrest₁
  obtain ⟨rfl, rfl⟩ := orRefused_ok hwriteable
  obtain ⟨groups, w₃, hgroups, hrest₃⟩ := Eff.bind_ok.mp hrest₂
  obtain ⟨db, hquery, rfl⟩ := Eff.zoom_ok.mp (Eff.mapErr_ok.mp hgroups)
  obtain rfl : _ = db := congrArg Prod.snd hquery
  rw [handleModifyChange, if_neg (by simp [hchange]), modifyProfile] at hrest₃
  split at hrest₃
  · cases hrest₃
  · obtain ⟨update, w₄, hupdate, hrun⟩ := Eff.bind_ok.mp hrest₃
    exact ⟨update, w₄, hupdate, Eff.mapErr_ok.mp hrun⟩

omit [Library] in
theorem currentUser_keys {user : User}
    (h : currentUser (sqlServices S setup rng out) u w = (.ok user, w')) :
    w' = w ∧ keysOf user = storedKeys w.db u := by
  obtain ⟨db, hquery, rfl⟩ := Eff.zoom_ok.mp (Eff.mapErr_ok.mp h)
  have hread : Sql.getUserDetails u w.db = .ok user := congrArg Prod.fst hquery
  obtain rfl : w.db = db := congrArg Prod.snd hquery
  exact ⟨rfl, keysOf_eq hread⟩

theorem profileUpdate_keys {change : LdapModify}
    (hkeys : isSshPublicKey (asciiLower change.modification.atype) = true)
    {update : UpdateUserRequest}
    (h : profileUpdate (sqlServices S setup rng out) u change w = (.ok update, w')) :
    w' = w ∧
      let keys := keysWritten change.operation change.modification.vals (storedKeys w.db u)
      update = writeKeys u keys ∨ update = deleteKeys u ∧ keys = [] := by
  have hset : setAttribute u (asciiLower change.modification.atype)
      (textsOf change.modification.vals) = none := by
    rcases List.mem_pair.mp (List.contains_iff_mem.mp hkeys) with hlower | hlower <;>
      · rw [hlower]
        rfl
  unfold profileUpdate at h
  split at h
  · cases h
  cases hop : change.operation with
  | replace =>
    simp only [hop, liftLdap, replaceUpdate, hset, hkeys, if_true, setKeys_eq] at h
    split at h
    · cases h
    · cases h
      exact ⟨rfl, .inl rfl⟩
  | add =>
    simp only [hop, addUpdate, hkeys, if_true] at h
    split at h
    · cases h
    · obtain ⟨user, w₁, huser, hrest⟩ := Eff.bind_ok.mp h
      obtain ⟨rfl, hstored⟩ := currentUser_keys huser
      rw [setKeys_eq, hstored] at hrest
      cases hrest
      exact ⟨rfl, .inl rfl⟩
  | delete =>
    simp only [hop, deleteUpdate, hkeys, if_true] at h
    split at h
    · rename_i hempty
      cases h
      exact ⟨rfl, .inr ⟨rfl, if_pos hempty⟩⟩
    · rename_i htexts
      obtain ⟨user, w₁, huser, hrest⟩ := Eff.bind_ok.mp h
      obtain ⟨rfl, hstored⟩ := currentUser_keys huser
      rw [hstored] at hrest
      simp only [keysWritten, if_neg htexts]
      split at hrest
      · rename_i hnone
        cases hrest
        exact ⟨rfl, .inr ⟨rfl, List.isEmpty_iff.mp hnone⟩⟩
      · rw [setKeys_eq] at hrest
        cases hrest
        exact ⟨rfl, .inl rfl⟩

/-- A change of the keys that succeeds leaves the keys that it asks for, exactly if its values can
be read. -/
theorem modifyKeys_iff (hjson : ∀ l, External.jsonToStrings (External.stringsToJson l) = some l)
    {change : LdapModify}
    (hkeys : isSshPublicKey (asciiLower change.modification.atype) = true)
    (h : modifyStep (sqlServices S setup rng out) u v change w = (.ok (), w')) :
    KeysChanged change.operation change.modification.vals ((storedKeys w.db u).map utf8)
        ((storedKeys w'.db u).map utf8) ↔
      KeysReadable change.operation change.modification.vals (storedKeys w.db u) := by
  have hpassword : isPasswordChange change = false := by
    rw [isPasswordChange, decide_eq_false_iff_not]
    intro heq
    rw [heq] at hkeys
    exact absurd hkeys (by decide)
  obtain ⟨update, w₁, hupdate, hrun⟩ := modifyStep_update hpassword h
  obtain ⟨rfl, rfl | ⟨rfl, hnil⟩⟩ := profileUpdate_keys hkeys hupdate
  · rw [storedKeys_written hjson hrun, keysWritten_changed_iff]
  · rw [← keysWritten_changed_iff, hnil, storedKeys_deleted hrun]

end

section Samples

open Plain

open Codecs

/-- `bob` with the keys `a` and `b`, in a database that knows the attribute. -/
def twoKeys : Store :=
  { Store.empty with
    users := Lib.Table.empty.upsert (userRow "bob")
    userAttributeSchema :=
      ⟨[⟨.new "sshpublickey", .string, true, true, true, true, false, ""⟩], by decide⟩
    userAttributes := Lib.Table.empty.upsert ⟨.new "bob", .new "sshpublickey",
      Sql.attributeValueToDbBytes (.string (.unbounded ["a", "b"]))⟩ }

def changeKeys (operation : LdapModifyType) (vals : List Bytes) : Except Failure Unit × World :=
  modifyStep (sqlServices Opaque.plainSuite () () outside) (.new "bob")
    ⟨.new "bob", .regular⟩ ⟨operation, ⟨"sshPublicKey", vals⟩⟩ (world twoKeys)

/-- One of the keys is deleted, and the other one stays. -/
theorem deleteKey_bob :
    isSshPublicKey (asciiLower "sshPublicKey") = true ∧ (changeKeys .delete [utf8 "a"]).1 = .ok () ∧
      KeysChanged .delete [utf8 "a"] ((storedKeys twoKeys (.new "bob")).map utf8)
        ((storedKeys (changeKeys .delete [utf8 "a"]).2.db (.new "bob")).map utf8) := by
  have hok : (changeKeys .delete [utf8 "a"]).1 = .ok () := by decide +kernel
  have hkeys : isSshPublicKey (asciiLower "sshPublicKey") = true := by decide +kernel
  refine ⟨hkeys, hok, ?_⟩
  have hpair {x : Except Failure Unit × World} (hx : x.1 = .ok ()) : x = (.ok (), x.2) :=
    Prod.ext hx rfl
  have h := hpair hok
  exact (modifyKeys_iff Codecs.lawful.strings (by exact hkeys) h).mpr (by decide +kernel)

/-- The deletion of a value that is not a text deletes both keys, and an addition leaves it out. -/
theorem deleteKey_loses_keys :
    storedKeys twoKeys (.new "bob") = ["a", "b"] ∧
      (changeKeys .delete [[255]]).1 = .ok () ∧
      storedKeys (changeKeys .delete [[255]]).2.db (.new "bob") = [] ∧
      ¬ KeysChanged .delete [[255]] ((storedKeys twoKeys (.new "bob")).map utf8)
        ((storedKeys (changeKeys .delete [[255]]).2.db (.new "bob")).map utf8) ∧
      (changeKeys .add [utf8 "c", [255]]).1 = .ok () ∧
      storedKeys (changeKeys .add [utf8 "c", [255]]).2.db (.new "bob") = ["a", "b", "c"] := by
  obtain ⟨hold, hdelete, hnew, hadd, hadded⟩ : storedKeys twoKeys (.new "bob") = ["a", "b"] ∧
      (changeKeys .delete [[255]]).1 = .ok () ∧
      storedKeys (changeKeys .delete [[255]]).2.db (.new "bob") = [] ∧
      (changeKeys .add [utf8 "c", [255]]).1 = .ok () ∧
      storedKeys (changeKeys .add [utf8 "c", [255]]).2.db (.new "bob") = ["a", "b", "c"] := by
    decide +kernel
  refine ⟨hold, hdelete, hnew, ?_, hadd, hadded⟩
  rw [hold, hnew]
  intro h
  exact absurd (h (by simp)) (by decide +kernel)

end Samples

end Ldap
end Klldap
