import Klldap.Lib.Interleave
import Klldap.Sql.Numbers
import Klldap.Sql.Stored

/-!
# Klldap.Sql.NumberRaces: users and groups created at the same time

`create_user` and `create_group` look for the next free number in one transaction with the insertion,
but nothing in the database keeps the number free in between. Under read-committed isolation every read
sees what is committed, and what a transaction writes is seen when it commits: a call is a sequence of
reads and then one write (`CreationCall`). Reading the schema counts as one read.
-/

namespace Klldap
namespace Sql

open Lib (Bytes Eff Pool)
open Lib.Bincode (utf8)
open Lib.Text (asciiLower)

/-! ## Creations in pieces -/

/-- What the creations of users and of groups do alike, with requests of type `R`. -/
structure Creation (R : Type) where
  given : R → List Attribute
  fallbackOu : String
  /-- The attributes whose numbers are checked, for a default organizational unit. -/
  checked : R → String → List Attribute
  check : Store → Attribute → Except DomainError Unit
  attributes : R → String → List Attribute
  /-- The attribute that is assigned, and what errors call it. -/
  name : String
  what : String
  taken : Store → Int → Bool
  assigns : PosixSettings → Bool
  start : PosixSettings → Int
  max : PosixSettings → Int
  /-- The other defaults. -/
  complete : PosixSettings → R → List Attribute → List Attribute
  insert : DateTime → R → Schema → List Attribute → Db Unit

/-- What a call has still to do. -/
inductive CreationCall (R : Type) where
  | begins (request : R)
  /-- The allowed organizational units have been read, and the transaction is open. -/
  | opened (request : R) (ou : String)
  | schemaRead (request : R) (ou : String) (schema : Schema)
  /-- The numbers of these attributes are to be checked. -/
  | checking (request : R) (ou : String) (schema : Schema) (settings : PosixSettings)
    (attributes : List Attribute)
  /-- The loop of `next_available_*_number`. -/
  | probing (request : R) (ou : String) (schema : Schema) (settings : PosixSettings) (candidate : Int)
  /-- All reads are done. -/
  | inserting (request : R) (schema : Schema) (attributes : List Attribute)

section

variable [External] {R : Type} (c : Creation R)

def Creation.number (n : Int) : Attribute := ⟨.new c.name, .integer (.singleton n)⟩

def Creation.step (now : DateTime) : CreationCall R → Db (Option (CreationCall R))
  | .begins request => do
    let allowedOus ← Eff.reads getAllowedOus
    pure (some (.opened request (allowedOus.head?.getD c.fallbackOu)))
  | .opened request ou => do
    let schema ← Eff.query getSchema
    pure (some (.schemaRead request ou schema))
  | .schemaRead request ou schema => do
    let settings ← Eff.query getPosixSettings
    pure (some (.checking request ou schema settings (c.checked request ou)))
  | .checking request ou schema settings (a :: rest) => do
    Eff.query fun db => c.check db a
    pure (some (.checking request ou schema settings rest))
  | .checking request ou schema settings [] =>
    if c.assigns settings && !(c.attributes request ou).any (fun a => a.name.asStr = c.name) then
      if c.start settings > c.max settings then
        Eff.fail (.internalError (c.what ++ " start (" ++ toString (c.start settings) ++ ") > max (" ++
          toString (c.max settings) ++ ")"))
      else pure (some (.probing request ou schema settings (c.start settings)))
    else
      pure (some (.inserting request schema (c.complete settings request (c.attributes request ou))))
  | .probing request ou schema settings candidate =>
    if candidate ≤ c.max settings then do
      if ← Eff.reads fun db => c.taken db candidate then
        pure (some (.probing request ou schema settings (wrapI64 (candidate + 1))))
      else
        pure (some (.inserting request schema
          (c.complete settings request (c.attributes request ou ++ [c.number candidate]))))
    else
      Eff.fail (.internalError ("No available " ++ c.what ++ " in range " ++
        toString (c.start settings) ++ "-" ++ toString (c.max settings) ++ " (all taken)"))
  | .inserting request schema attributes => do
    Eff.transaction (c.insert now request schema attributes)
    pure none

/-! ## The whole calls -/

def completeUser (settings : PosixSettings) (request : CreateUserRequest) (attributes : List Attribute) :
    List Attribute :=
  let attributes :=
    if settings.userGidnumberAssign then
      withDefault "gidnumber" (.integer (.singleton settings.userGidnumberStart)) attributes
    else attributes
  let attributes :=
    if settings.userLoginshellAssign then
      withDefault "loginshell" (.string (.singleton settings.userLoginshellDefault)) attributes
    else attributes
  if settings.userHomedirectoryAssign then
    withDefault "homedirectory"
      (.string (.singleton (settings.userHomedirectoryPrefix ++ "/" ++ request.userId.asStr))) attributes
  else attributes

def userCreation : Creation CreateUserRequest where
  given := CreateUserRequest.attributes
  fallbackOu := "people"
  checked request ou := withDefault "ou" (.string (.singleton ou)) request.attributes
  check := checkNewUserNumber
  attributes request ou := withDefault "ou" (.string (.singleton ou)) request.attributes
  name := "uidnumber"
  what := "uidNumber"
  taken := isUidnumberTaken
  assigns := PosixSettings.userUidnumberAssign
  start := PosixSettings.userUidnumberStart
  max := PosixSettings.userUidnumberMax
  complete := completeUser
  insert now request schema attributes := do
    insertUser (newUserRow now request)
    Eff.each insertUserAttribute (newUserAttributeRows schema request.userId attributes)

def groupCreation : Creation CreateGroupRequest where
  given := CreateGroupRequest.attributes
  fallbackOu := "groups"
  checked request _ := request.attributes
  check db := checkGroupNumber db 60000 ""
  attributes request ou := withDefault "ou" (.string (.singleton ou)) request.attributes
  name := "gidnumber"
  what := "gidNumber"
  taken := isGidnumberTaken
  assigns := PosixSettings.groupGidnumberAssign
  start := PosixSettings.groupGidnumberStart
  max := PosixSettings.groupGidnumberMax
  complete _ _ attributes := attributes
  insert now request schema attributes := do
    let groupId ← insertGroup now request.displayName
    let rows ← Eff.lift (attributes.mapM fun a =>
      if isWritable schema.groupAttributes a.name then
        .ok (⟨groupId, storedName schema.groupAttributes a.name,
          attributeValueToDbBytes a.value⟩ : GroupAttributeRow)
      else .error (DomainError.internalError
        ("Group attribute name " ++ a.name.asStr ++ " doesn't exist in the schema")))
    Eff.each insertGroupAttribute rows

/-- The attributes that are stored, when nothing happens between the reads. -/
def Creation.final (request : R) (ou : String) (settings : PosixSettings) (db : Store) :
    Except DomainError (List Attribute) :=
  if c.assigns settings && !(c.attributes request ou).any (fun a => a.name.asStr = c.name) then do
    let n ← nextAvailableNumber c.what (c.taken db) (c.start settings) (c.max settings)
    .ok (c.complete settings request (c.attributes request ou ++ [c.number n]))
  else .ok (c.complete settings request (c.attributes request ou))

def Creation.whole (now : DateTime) (request : R) : Db Unit := do
  let allowedOus ← Eff.reads getAllowedOus
  let ou := allowedOus.head?.getD c.fallbackOu
  Eff.transaction do
    let schema ← Eff.query getSchema
    let settings ← Eff.query getPosixSettings
    Eff.query fun db => (c.checked request ou).forM (c.check db)
    let attributes ← Eff.query (c.final request ou settings)
    c.insert now request schema attributes

theorem createUser_whole (now : DateTime) (request : CreateUserRequest) :
    createUser now request = userCreation.whole now request := by
  have hfinal (settings : PosixSettings) (ou : String) (db : Store) :
      withPosixDefaults db settings request.userId
          (withDefault "ou" (.string (.singleton ou)) request.attributes) =
        userCreation.final request ou settings db := by
    have hpick : (userCreation.assigns settings &&
        !(userCreation.attributes request ou).any (fun a => a.name.asStr = userCreation.name)) =
        (settings.userUidnumberAssign &&
          !(withDefault "ou" (.string (.singleton ou)) request.attributes).any
            (fun a => a.name.asStr = "uidnumber")) := rfl
    unfold withPosixDefaults Creation.final
    rw [hpick]
    by_cases h : (settings.userUidnumberAssign &&
        !(withDefault "ou" (.string (.singleton ou)) request.attributes).any
          (fun a => a.name.asStr = "uidnumber")) = true
    · rw [if_pos h, if_pos h]
      change nextAvailableUidNumber db settings.userUidnumberStart settings.userUidnumberMax >>= _ =
        nextAvailableUidNumber db settings.userUidnumberStart settings.userUidnumberMax >>= _
      cases nextAvailableUidNumber db settings.userUidnumberStart settings.userUidnumberMax with
      | error e => rfl
      | ok n => rfl
    · rw [if_neg h, if_neg h]
      rfl
  unfold createUser Creation.whole
  simp only [hfinal]
  rfl

theorem createGroup_whole (now : DateTime) (request : CreateGroupRequest) :
    (do let _ ← createGroup now request; pure ()) = groupCreation.whole now request := by
  have hfinal (settings : PosixSettings) (ou : String) :
      (if settings.groupGidnumberAssign &&
          !(withDefault "ou" (.string (.singleton ou)) request.attributes).any
            (fun a => a.name.asStr = "gidnumber") then do
        let nextGid ← Eff.query fun db =>
          nextAvailableGidNumber db settings.groupGidnumberStart settings.groupGidnumberMax
        pure (withDefault "ou" (.string (.singleton ou)) request.attributes ++
          [⟨.new "gidnumber", .integer (.singleton nextGid)⟩])
      else pure (withDefault "ou" (.string (.singleton ou)) request.attributes) :
        Db (List Attribute)) = Eff.query (groupCreation.final request ou settings) := by
    funext db
    have hpick : (groupCreation.assigns settings &&
        !(groupCreation.attributes request ou).any (fun a => a.name.asStr = groupCreation.name)) =
        (settings.groupGidnumberAssign &&
          !(withDefault "ou" (.string (.singleton ou)) request.attributes).any
            (fun a => a.name.asStr = "gidnumber")) := rfl
    rw [Eff.query_run, Creation.final, hpick]
    split_ifs
    · rw [Eff.bind_run, Eff.query_run]
      change _ = (nextAvailableGidNumber db settings.groupGidnumberStart settings.groupGidnumberMax >>= _, db)
      cases nextAvailableGidNumber db settings.groupGidnumberStart settings.groupGidnumberMax with
      | error e => rfl
      | ok n => rfl
    · rfl
  have htransaction {α : Type} (m : Db α) :
      (do let _ ← Eff.transaction m; pure ()) = Eff.transaction (do let _ ← m; pure ()) := by
    funext db
    rw [Eff.bind_run]
    unfold Eff.transaction
    rw [Eff.bind_run]
    cases m db with
    | mk r db' => cases r <;> rfl
  unfold createGroup Creation.whole
  simp only [bind_assoc, htransaction]
  refine congrArg (Eff.reads getAllowedOus >>= ·) (funext fun ous => congrArg Eff.transaction ?_)
  refine congrArg (Eff.query getSchema >>= ·) (funext fun schema => ?_)
  refine congrArg (Eff.query getPosixSettings >>= ·) (funext fun settings => ?_)
  refine congrArg (Eff.query _ >>= ·) (funext fun _ => ?_)
  change _ = Eff.query (groupCreation.final request (ous.head?.getD "groups") settings) >>= _
  rw [← hfinal]
  by_cases h : (settings.groupGidnumberAssign &&
      !(withDefault "ou" (.string (.singleton (ous.head?.getD "groups"))) request.attributes).any
        (fun a => a.name.asStr = "gidnumber")) = true
  · simp only [if_pos h, bind_assoc, pure_bind, bind_pure_unit, groupCreation]
  · simp only [if_neg h, bind_assoc, pure_bind, bind_pure_unit, groupCreation]

/-- A call that nothing interrupts ends like this. -/
inductive Creation.Completes (now : DateTime) :
    CreationCall R → Store → Except DomainError Unit × Store → Prop
  | fails {call : CreationCall R} {db db' : Store} {e : DomainError}
      (h : c.step now call db = (.error e, db')) : Completes now call db (.error e, db')
  | ends {call : CreationCall R} {db db' : Store} (h : c.step now call db = (.ok none, db')) :
      Completes now call db (.ok (), db')
  | goesOn {call call' : CreationCall R} {db db' : Store} {r : Except DomainError Unit × Store}
      (h : c.step now call db = (.ok (some call'), db')) (rest : Completes now call' db' r) :
      Completes now call db r

variable {c} {now : DateTime} {request : R} {ou : String} {schema : Schema} {settings : PosixSettings}
  {db : Store}

theorem inserting_completes (attributes : List Attribute) :
    c.Completes now (.inserting request schema attributes) db
      (Eff.transaction (c.insert now request schema attributes) db) := by
  cases hrun : Eff.transaction (c.insert now request schema attributes) db with
  | mk r db' =>
    cases r with
    | error e => exact .fails (by rw [Creation.step, Eff.bind_run, hrun])
    | ok _ => exact .ends (by rw [Creation.step, Eff.bind_run, hrun]; rfl)

theorem probing_completes (hmax : c.max settings < i64Max) {k : Nat} {candidate : Int}
    (hlow : i64Min ≤ candidate) (hk : (c.max settings + 1 - candidate).toNat = k) :
    c.Completes now (.probing request ou schema settings candidate) db
      (match firstFree (c.taken db) k candidate with
      | some n => Eff.transaction (c.insert now request schema
          (c.complete settings request (c.attributes request ou ++ [c.number n]))) db
      | none => (.error (.internalError ("No available " ++ c.what ++ " in range " ++
        toString (c.start settings) ++ "-" ++ toString (c.max settings) ++ " (all taken)")), db)) := by
  induction k generalizing candidate with
  | zero =>
    refine .fails ?_
    rw [Creation.step, if_neg (by omega)]
    rfl
  | succ k ih =>
    have hle : candidate ≤ c.max settings := by omega
    rw [firstFree]
    by_cases htaken : c.taken db candidate = true
    · have hwrap : wrapI64 (candidate + 1) = candidate + 1 := by
        unfold wrapI64
        unfold i64Max at hmax
        unfold i64Min at hlow
        omega
      have hstep : c.step now (.probing request ou schema settings candidate) db =
          (.ok (some (.probing request ou schema settings (candidate + 1))), db) := by
        rw [Creation.step, if_pos hle, Eff.bind_run, Eff.reads_run, htaken, hwrap]
        rfl
      rw [if_pos htaken]
      exact .goesOn hstep (ih (by omega) (by omega))
    · rw [if_neg htaken]
      refine .goesOn ?_ (inserting_completes _)
      rw [Creation.step, if_pos hle, Eff.bind_run, Eff.reads_run]
      dsimp only
      rw [if_neg htaken]
      rfl

theorem checking_completes {attributes : List Attribute} {r : Except DomainError Unit × Store}
    (herror : ∀ e, attributes.forM (c.check db) = .error e → r = (.error e, db))
    (hok : attributes.forM (c.check db) = .ok () →
      c.Completes now (.checking request ou schema settings []) db r) :
    c.Completes now (.checking request ou schema settings attributes) db r := by
  induction attributes with
  | nil => exact hok rfl
  | cons a attributes ih =>
    have hcons : (a :: attributes).forM (c.check db) =
        (c.check db a >>= fun _ => attributes.forM (c.check db)) := rfl
    rw [hcons] at herror hok
    cases hcheck : c.check db a with
    | error e =>
      rw [herror e (by rw [hcheck]; rfl)]
      refine .fails ?_
      rw [Creation.step, Eff.bind_run, Eff.query_run, hcheck]
    | ok _ =>
      rw [hcheck] at herror hok
      have hstep : c.step now (.checking request ou schema settings (a :: attributes)) db =
          (.ok (some (.checking request ou schema settings attributes)), db) := by
        rw [Creation.step, Eff.bind_run, Eff.query_run, hcheck]
        rfl
      exact .goesOn hstep (ih herror hok)

theorem checked_completes (hrange : i64Min ≤ c.start settings ∧ c.max settings < i64Max) :
    c.Completes now (.checking request ou schema settings []) db
      (Eff.transaction (do
        let attributes ← Eff.query (c.final request ou settings)
        c.insert now request schema attributes) db) := by
  rw [Eff.transaction_query_bind]
  unfold Creation.final
  by_cases hassign : (c.assigns settings &&
      !(c.attributes request ou).any (fun a => a.name.asStr = c.name)) = true
  · rw [if_pos hassign]
    unfold nextAvailableNumber
    by_cases hempty : c.start settings > c.max settings
    · rw [if_pos hempty]
      refine .fails ?_
      rw [Creation.step, if_pos hassign, if_pos hempty]
      rfl
    · have hstep : c.step now (.checking request ou schema settings []) db =
          (.ok (some (.probing request ou schema settings (c.start settings))), db) := by
        rw [Creation.step, if_pos hassign, if_neg hempty]
        rfl
      have hprobing : c.Completes now (.probing request ou schema settings (c.start settings)) db _ :=
        probing_completes hrange.2 hrange.1 rfl
      rw [if_neg hempty]
      refine .goesOn hstep ?_
      cases hfree : firstFree (c.taken db) (c.max settings + 1 - c.start settings).toNat
          (c.start settings) with
      | some n =>
        rw [hfree] at hprobing
        exact hprobing
      | none =>
        rw [hfree] at hprobing
        dsimp only
        rw [if_neg hrange.2.ne]
        exact hprobing
  · rw [if_neg hassign]
    refine .goesOn ?_ (inserting_completes _)
    rw [Creation.step, if_neg hassign]
    rfl

theorem Creation.completes (hrange : ∀ settings, getPosixSettings db = .ok settings →
      i64Min ≤ c.start settings ∧ c.max settings < i64Max) :
    c.Completes now (.begins request) db (c.whole now request db) := by
  unfold Creation.whole
  rw [Eff.bind_run, Eff.reads_run]
  dsimp only
  refine .goesOn rfl ?_
  rw [Eff.transaction_query_bind]
  cases hschema : getSchema db with
  | error e => exact .fails (by rw [Creation.step, Eff.bind_run, Eff.query_run, hschema])
  | ok schema =>
    have hopened (ou : String) : c.step now (.opened request ou) db =
        (.ok (some (.schemaRead request ou schema)), db) := by
      rw [Creation.step, Eff.bind_run, Eff.query_run, hschema]
      rfl
    refine .goesOn (hopened _) ?_
    dsimp only
    rw [Eff.transaction_query_bind]
    cases hsettings : getPosixSettings db with
    | error e => exact .fails (by rw [Creation.step, Eff.bind_run, Eff.query_run, hsettings])
    | ok settings =>
      have hread (ou : String) : c.step now (.schemaRead request ou schema) db =
          (.ok (some (.checking request ou schema settings (c.checked request ou))), db) := by
        rw [Creation.step, Eff.bind_run, Eff.query_run, hsettings]
        rfl
      refine .goesOn (hread _) ?_
      dsimp only
      rw [Eff.transaction_query_bind]
      refine checking_completes (fun e he => by rw [he]) fun hok => ?_
      rw [hok]
      exact checked_completes (hrange settings hsettings)

/-! ## Numbers -/

def Creation.unnumbered (c : Creation R) (request : R) : Bool :=
  !(c.given request).any fun a => a.name.asStr = c.name

/-- What the creations have in common about an entry `k` and its number: a number that is not taken is
nobody's, and an insertion adds one entry, which gets the number, and leaves the numbers of the others
alone. -/
structure Creation.Lawful {κ : Type} (c : Creation R) (has : Store → κ → Bool)
    (value : Store → κ → Option Bytes) : Prop where
  unnamed : ∀ request ou, c.unnumbered request = true →
    (c.attributes request ou).any (fun a => a.name.asStr = c.name) = false
  complete : ∀ settings request n l, c.number n ∈ l → c.number n ∈ c.complete settings request l
  free : ∀ db n, c.taken db n = false → ∀ k, value db k ≠ some (utf8 (toString n))
  inserted : ∀ now request schema attributes db db' db₀ n, getSchema db₀ = .ok schema →
    c.number n ∈ attributes → c.insert now request schema attributes db = (.ok (), db') →
    db'.systemConfig = db.systemConfig ∧ ∃ k, (∀ k', has db' k' = true → k' = k ∨ has db k' = true) ∧
      value db' k = some (utf8 (toString n)) ∧ ∀ k', k' ≠ k → value db' k' = value db k'

/-- Every entry that `init` does not have has a number that nobody else has. -/
def Distinct {κ : Type} (has : Store → κ → Bool) (value : Store → κ → Option Bytes)
    (init db : Store) : Prop :=
  ∀ k, has init k = false → has db k = true →
    ∃ n : Int, value db k = some (utf8 (toString n)) ∧
      ∀ k', k' ≠ k → value db k' ≠ some (utf8 (toString n))

def CreationCall.chosen : CreationCall R → Bool
  | .inserting _ _ _ => true
  | _ => false

/-- What is known of a call in flight. The number that it has chosen is still free. -/
def Creation.Asserts (c : Creation R) (db : Store) : CreationCall R → Prop
  | .begins request | .opened request _ => c.unnumbered request = true
  | .schemaRead request _ schema =>
    c.unnumbered request = true ∧ ∃ db₀, getSchema db₀ = .ok schema
  | .checking request _ schema settings _ =>
    c.unnumbered request = true ∧ (∃ db₀, getSchema db₀ = .ok schema) ∧ c.assigns settings = true
  | .probing _ _ schema _ _ => ∃ db₀, getSchema db₀ = .ok schema
  | .inserting _ schema attributes =>
    (∃ db₀, getSchema db₀ = .ok schema) ∧ ∃ n, c.number n ∈ attributes ∧ c.taken db n = false

theorem Creation.Asserts.of_not_chosen {db' : Store} {call : CreationCall R}
    (h : c.Asserts db call) (hchosen : call.chosen = false) : c.Asserts db' call := by
  cases call with
  | inserting request schema attributes => cases hchosen
  | begins request => exact h
  | opened request ou => exact h
  | schemaRead request ou schema => exact h
  | checking request ou schema settings attributes => exact h
  | probing request ou schema settings candidate => exact h

omit [External] in
theorem not_left_error {e : DomainError} {call : CreationCall R} :
    Pool.left (.error e : Except DomainError (Option (CreationCall R))) ≠ some call :=
  fun h => nomatch h

omit [External] in
theorem left_ok {call call' : CreationCall R}
    (h : Pool.left (.ok (some call) : Except DomainError _) = some call') : call = call' :=
  Option.some.inj h

section

variable {κ : Type} {has : Store → κ → Bool} {value : Store → κ → Option Bytes}

theorem Creation.Lawful.step_read (hc : c.Lawful has value) (now : DateTime)
    (hassigns : ∀ settings, getPosixSettings db = .ok settings → c.assigns settings = true)
    {call : CreationCall R} (hcall : c.Asserts db call) (hchosen : call.chosen = false) :
    (c.step now call db).2 = db ∧
      ∀ call', Pool.left (c.step now call db).1 = some call' → c.Asserts db call' := by
  cases call with
  | begins request =>
    refine ⟨rfl, fun call' h => ?_⟩
    obtain rfl := left_ok h
    exact hcall
  | opened request ou =>
    rw [Creation.step, Eff.bind_run, Eff.query_run]
    cases hschema : getSchema db with
    | error e => exact ⟨rfl, fun _ h => absurd h not_left_error⟩
    | ok schema =>
      refine ⟨rfl, fun call' h => ?_⟩
      obtain rfl := left_ok h
      exact ⟨hcall, db, hschema⟩
  | schemaRead request ou schema =>
    rw [Creation.step, Eff.bind_run, Eff.query_run]
    cases hsettings : getPosixSettings db with
    | error e => exact ⟨rfl, fun _ h => absurd h not_left_error⟩
    | ok settings =>
      refine ⟨rfl, fun call' h => ?_⟩
      obtain rfl := left_ok h
      exact ⟨hcall.1, hcall.2, hassigns settings hsettings⟩
  | checking request ou schema settings attributes =>
    obtain ⟨hnumber, hschema, hassign⟩ := hcall
    cases attributes with
    | nil =>
      have hpick : (c.assigns settings &&
          !(c.attributes request ou).any (fun a => a.name.asStr = c.name)) = true := by
        rw [hc.unnamed request ou hnumber, hassign]
        rfl
      rw [Creation.step, if_pos hpick]
      split_ifs
      · exact ⟨rfl, fun _ h => absurd h not_left_error⟩
      · refine ⟨rfl, fun call' h => ?_⟩
        obtain rfl := left_ok h
        exact hschema
    | cons a attributes =>
      rw [Creation.step, Eff.bind_run, Eff.query_run]
      cases c.check db a with
      | error e => exact ⟨rfl, fun _ h => absurd h not_left_error⟩
      | ok _ =>
        refine ⟨rfl, fun call' h => ?_⟩
        obtain rfl := left_ok h
        exact ⟨hnumber, hschema, hassign⟩
  | probing request ou schema settings candidate =>
    rw [Creation.step]
    split_ifs
    · rw [Eff.bind_run, Eff.reads_run]
      dsimp only
      cases htaken : c.taken db candidate with
      | true =>
        refine ⟨rfl, fun call' h => ?_⟩
        obtain rfl := left_ok h
        exact hcall
      | false =>
        refine ⟨rfl, fun call' h => ?_⟩
        obtain rfl := left_ok h
        exact ⟨hcall, candidate, hc.complete _ _ _ _ (by simp), htaken⟩
    · exact ⟨rfl, fun _ h => absurd h not_left_error⟩
  | inserting request schema attributes => cases hchosen

theorem Creation.Lawful.step_insert (hc : c.Lawful has value) (now : DateTime) {init : Store}
    (hdistinct : Distinct has value init db) {attributes : List Attribute}
    (hcall : c.Asserts db (.inserting request schema attributes)) :
    Pool.left (c.step now (.inserting request schema attributes) db).1 = none ∧
      (c.step now (.inserting request schema attributes) db).2.systemConfig = db.systemConfig ∧
      Distinct has value init (c.step now (.inserting request schema attributes) db).2 := by
  obtain ⟨⟨db₀, hschema⟩, n, hn, hfree⟩ := hcall
  rw [Creation.step, Eff.bind_run]
  cases hrun : Eff.transaction (c.insert now request schema attributes) db with
  | mk r db' =>
    cases r with
    | error e =>
      have hsame : db' = db := by
        rcases Eff.Atomic.transaction (c.insert now request schema attributes) db with h | ⟨a, h⟩
        · rwa [hrun] at h
        · rw [hrun] at h
          cases h
      subst hsame
      exact ⟨rfl, rfl, hdistinct⟩
    | ok _ =>
      obtain ⟨hconfig, k, hhas, hvalue, hothers⟩ :=
        hc.inserted now request schema attributes db db' db₀ n hschema hn (Eff.transaction_ok hrun)
      refine ⟨rfl, hconfig, fun k₁ hnew hk₁ => ?_⟩
      by_cases hk : k₁ = k
      · subst hk
        refine ⟨n, hvalue, fun k' hk' => ?_⟩
        change value db' k' ≠ _
        rw [hothers k' hk']
        exact hc.free db n hfree k'
      · obtain ⟨m, hm, hmothers⟩ := hdistinct k₁ hnew ((hhas k₁ hk₁).resolve_left hk)
        refine ⟨m, (hothers k₁ hk).trans hm, fun k' hk' => ?_⟩
        change value db' k' ≠ _
        by_cases hk'k : k' = k
        · subst hk'k
          rw [hvalue]
          intro heq
          exact hc.free db n hfree k₁ (hm.trans heq.symm)
        · rw [hothers k' hk'k]
          exact hmothers k' hk'

/-! ## Runs -/

abbrev CreationMove (R : Type) : Type := Pool.Move DateTime (CreationCall R)

/-- Calls start at their beginning, and their requests do not bring a number. -/
def Creation.starts (c : Creation R) : CreationMove R → Bool
  | .start (.begins request) => c.unnumbered request
  | .start _ => false
  | .advance _ _ => true

def alone (p : Pool Store (CreationCall R)) : CreationMove R → Bool
  | .start _ => true
  | .advance k _ =>
    (p.threads[k]?).all fun call => !call.chosen || p.threads.countP CreationCall.chosen ≤ 1

/-- The interleavings of creations from `init`, with a condition on the moves. -/
abbrev Creations (c : Creation R) (ok : Pool Store (CreationCall R) → CreationMove R → Bool)
    (init : Store) :
    List (Lib.Event (Pool Store (CreationCall R)) (CreationMove R) Unit) →
      Pool Store (CreationCall R) → Prop :=
  Lib.Run (Pool.move c.step) (fun _ p m => c.starts m = true ∧ ok p m = true) ⟨init, []⟩

/-- What every move keeps: the settings, the numbers and what is known of the calls in flight. -/
structure Creation.Fine (c : Creation R) (has : Store → κ → Bool) (value : Store → κ → Option Bytes)
    (init : Store) (p : Pool Store (CreationCall R)) : Prop where
  config : p.shared.systemConfig = init.systemConfig
  distinct : Distinct has value init p.shared
  calls : ∀ call ∈ p.threads, c.Asserts p.shared call

theorem Creation.Lawful.fine (hc : c.Lawful has value) {init : Store}
    (hassigns : ∀ settings, getPosixSettings init = .ok settings → c.assigns settings = true)
    {history} {p : Pool Store (CreationCall R)} (run : Creations c alone init history p) :
    c.Fine has value init p := by
  refine run.invariant (P := fun _ p => c.Fine has value init p) ⟨rfl, ?_, fun _ h => absurd h List.not_mem_nil⟩ ?_
  · intro k hnew hk
    rw [hnew] at hk
    cases hk
  · rintro _ p m hp ⟨hstarts, halone⟩
    cases m with
    | start call =>
      refine ⟨hp.config, hp.distinct, fun call' hcall' => ?_⟩
      rcases List.mem_cons.mp hcall' with rfl | hcall'
      · cases call' with
        | begins request => exact hstarts
        | _ => cases hstarts
      · exact hp.calls call' hcall'
    | advance k now =>
      rcases Pool.move_advance c.step p k now with heq | ⟨l₁, call, l₂, hk, hsplit, heq⟩
      · rw [heq]
        exact hp
      · rw [heq]
        have hcall : c.Asserts p.shared call := hp.calls call (by rw [hsplit]; simp)
        have hsettings : ∀ settings, getPosixSettings p.shared = .ok settings →
            c.assigns settings = true := by
          intro settings hsettings
          refine hassigns settings ?_
          unfold getPosixSettings at hsettings ⊢
          rw [← hp.config]
          exact hsettings
        have hothers (u : CreationCall R) (hu : u ∈ l₁ ∨ u ∈ l₂) : c.Asserts p.shared u := by
          refine hp.calls u ?_
          rw [hsplit]
          rcases hu with hu | hu <;> simp [hu]
        cases hchosen : call.chosen with
        | false =>
          obtain ⟨hdb, hnext⟩ := hc.step_read now hsettings hcall hchosen
          rw [hdb]
          refine ⟨hp.config, hp.distinct, fun u hu => ?_⟩
          simp only [List.append_assoc, List.mem_append, Option.mem_toList] at hu
          rcases hu with hu | hu | hu
          · exact hothers u (.inl hu)
          · exact hnext u hu
          · exact hothers u (.inr hu)
        | true =>
          cases call with
          | inserting request schema attributes =>
            obtain ⟨hleft, hconfig, hdistinct⟩ := hc.step_insert now hp.distinct hcall
            rw [hleft]
            refine ⟨hconfig.trans hp.config, hdistinct, fun u hu => ?_⟩
            have hu : u ∈ l₁ ∨ u ∈ l₂ := by simpa using hu
            have hcount : p.threads.countP CreationCall.chosen ≤ 1 := by
              simpa [alone, hk, hchosen] using halone
            have hnot : u.chosen = false := by
              rw [hsplit, List.countP_append, List.countP_cons_of_pos hchosen] at hcount
              by_contra hne
              have hne : u.chosen = true := by simpa using hne
              rcases hu with hu | hu
              · have := List.countP_pos_iff.mpr ⟨u, hu, hne⟩
                omega
              · have := List.countP_pos_iff.mpr ⟨u, hu, hne⟩
                omega
            exact (hothers u hu).of_not_chosen hnot
          | _ => cases hchosen

end

end

/-! ## Users and groups -/

section

variable [External]

theorem createUser_completes {db : Store} (now : DateTime) (request : CreateUserRequest)
    (hrange : ∀ settings, getPosixSettings db = .ok settings →
      i64Min ≤ settings.userUidnumberStart ∧ settings.userUidnumberMax < i64Max) :
    userCreation.Completes now (.begins request) db (createUser now request db) := by
  rw [createUser_whole]
  exact Creation.completes hrange

theorem createGroup_completes {db : Store} (now : DateTime) (request : CreateGroupRequest)
    (hrange : ∀ settings, getPosixSettings db = .ok settings →
      i64Min ≤ settings.groupGidnumberStart ∧ settings.groupGidnumberMax < i64Max) :
    groupCreation.Completes now (.begins request) db
      ((do let _ ← createGroup now request; pure ()) db) := by
  rw [createGroup_whole]
  exact Creation.completes hrange

def hasUser (db : Store) (u : UserId) : Bool := (db.users.find? u).isSome

def hasGroup (db : Store) (g : GroupId) : Bool := (db.groups.find? g).isSome

omit [External] in
theorem withDefault_unnamed {name other : String} {value : AttributeValue} {l : List Attribute}
    (hne : asciiLower other ≠ name) (h : (l.any fun a => a.name.asStr = name) = false) :
    ((withDefault other value l).any fun a => a.name.asStr = name) = false := by
  unfold withDefault
  split_ifs
  · exact h
  · rw [List.any_append, h]
    simp [hne]

omit [External] in
theorem mem_withDefault {assigns : Bool} {name : String} {value : AttributeValue} {l : List Attribute}
    {a : Attribute} (h : a ∈ l) : a ∈ if assigns then withDefault name value l else l := by
  unfold withDefault
  split_ifs
  · exact h
  · exact List.mem_append_left _ h
  · exact h

def uidnumber : AttributeSchema :=
  PublicSchema.hardcoded "uidnumber" ["uid_number", "uidNumber"] .integer true false false

def gidnumber : AttributeSchema :=
  PublicSchema.hardcoded "gidnumber" ["gid_number", "gidNumber"] .integer true false false

omit [External] in
theorem uidnumber_mem : uidnumber ∈ PublicSchema.userAttributes := by decide

omit [External] in
theorem gidnumber_mem : gidnumber ∈ PublicSchema.groupAttributes := by decide

theorem userCreation_lawful :
    userCreation.Lawful hasUser fun db u => userValue db u "uidnumber" where
  unnamed request ou h :=
    withDefault_unnamed (show asciiLower "ou" ≠ "uidnumber" by decide) (by
      rw [← Bool.not_eq_true']
      exact h)
  complete settings request n l h := mem_withDefault (mem_withDefault (mem_withDefault h))
  free db n h u hu := by
    obtain ⟨r, hr, hvalue⟩ := Option.map_eq_some_iff.mp hu
    have hkey := Lib.Table.key_of_find? hr
    have hall := List.any_eq_false.mp h r (Lib.Table.mem_of_find? hr)
    refine hall ?_
    simp [(Prod.mk.inj hkey).2, hvalue]
  inserted now request schema attributes db db' db₀ n hschema hn h := by
    obtain ⟨_, db₁, hinsert, h⟩ := Eff.bind_ok.mp h
    obtain ⟨users, husers, rfl⟩ := insertUser_ok hinsert
    obtain ⟨-, hnodup, rfl⟩ := each_insertUserAttribute_ok h
    obtain ⟨-, hfind⟩ := Lib.Table.find?_insert? husers
    refine ⟨rfl, request.userId, fun u hu => ?_, ?_, fun u hu => ?_⟩
    · unfold hasUser at hu
      rw [hfind] at hu
      split_ifs at hu with hsame
      · exact .inl hsame.symm
      · exact .inr hu
    · have hname : storedName schema.userAttributes (.new "uidnumber") = .new "uidnumber" :=
        (storedName_user hschema uidnumber_mem _).mpr (by decide)
      have hrow : attributeRow schema request.userId (userCreation.number n) ∈
          newUserAttributeRows schema request.userId attributes := by
        refine List.mem_map.mpr ⟨_, List.mem_filter.mpr ⟨hn, ?_⟩, rfl⟩
        obtain ⟨rest, hrest⟩ := getSchema_userAttributes hschema
        have hstr : (userCreation.number n).name.asStr = "uidnumber" :=
          show asciiLower "uidnumber" = "uidnumber" by decide
        unfold getAttributeType
        rw [hrest, hstr, getByNameOrAlias_append (a := uidnumber) (by decide)]
        rfl
      have hfound := Lib.Table.find?_upsertAll_of_mem db.userAttributes hnodup hrow
      dsimp only [attributeRow, Creation.number, userCreation] at hfound
      rw [hname] at hfound
      unfold userValue
      rw [hfound]
      rfl
    · unfold userValue newUserAttributeRows
      rw [Lib.Table.find?_upsertAll_owned (u := request.userId) db.userAttributes _
        (fun a : Attribute => storedName schema.userAttributes a.name) (fun _ => rfl), if_neg hu]

theorem groupCreation_lawful :
    groupCreation.Lawful hasGroup fun db g => groupValue db g "gidnumber" where
  unnamed request ou h :=
    withDefault_unnamed (show asciiLower "ou" ≠ "gidnumber" by decide) (by
      rw [← Bool.not_eq_true']
      exact h)
  complete _ _ _ _ h := h
  free db n h g hg := by
    obtain ⟨r, hr, hvalue⟩ := Option.map_eq_some_iff.mp hg
    have hkey := Lib.Table.key_of_find? hr
    have hall := List.any_eq_false.mp h r (Lib.Table.mem_of_find? hr)
    refine hall ?_
    simp [(Prod.mk.inj hkey).2, hvalue]
  inserted now request schema attributes db db' db₀ n hschema hn h := by
    obtain ⟨id, db₁, hinsert, h⟩ := Eff.bind_ok.mp h
    have hwhole : (do
        let groupId ← insertGroup now request.displayName
        let rows ← Eff.lift (attributes.mapM fun a =>
          if isWritable schema.groupAttributes a.name then
            .ok (⟨groupId, storedName schema.groupAttributes a.name,
              attributeValueToDbBytes a.value⟩ : GroupAttributeRow)
          else .error (DomainError.internalError
            ("Group attribute name " ++ a.name.asStr ++ " doesn't exist in the schema")))
        Eff.each insertGroupAttribute rows
        pure groupId : Db GroupId) db = (.ok id, db') := by
      obtain ⟨rows, hrows, heach⟩ := Eff.lift_bind_ok.mp h
      exact Eff.bind_ok.mpr ⟨id, db₁, hinsert, Eff.lift_bind_ok.mpr
        ⟨rows, hrows, Eff.bind_ok.mpr ⟨(), db', heach, rfl⟩⟩⟩
    obtain ⟨groups, hgroups, -, hnodup, rfl⟩ := insertGroupRows_ok hwhole
    obtain ⟨-, hfind⟩ := Lib.Table.find?_insert? hgroups
    refine ⟨rfl, id, fun g hg => ?_, ?_, fun g hg => ?_⟩
    · unfold hasGroup at hg
      rw [hfind] at hg
      split_ifs at hg with hsame
      · exact .inl hsame.symm
      · exact .inr hg
    · have hname : storedName schema.groupAttributes (.new "gidnumber") = .new "gidnumber" :=
        (storedName_group hschema gidnumber_mem _).mpr (by decide)
      have hrow : groupAttributeRow schema id (groupCreation.number n) ∈
          attributes.map (groupAttributeRow schema id) := List.mem_map_of_mem hn
      have hfound := Lib.Table.find?_upsertAll_of_mem db.groupAttributes hnodup hrow
      dsimp only [groupAttributeRow, Creation.number, groupCreation] at hfound
      rw [hname] at hfound
      unfold groupValue
      rw [hfound]
      rfl
    · unfold groupValue
      rw [Lib.Table.find?_upsertAll_owned (u := id) db.groupAttributes _
        (fun a : Attribute => storedName schema.groupAttributes a.name) (fun _ => rfl), if_neg hg]

/-- In every interleaving of creations that bring no number themselves, when numbers are assigned: if no
call inserts while another one has chosen its number, every user (every group) that is created has a
number, and nobody else has it. -/
theorem created_numbers_distinct (init : Store) :
    ((∀ settings, getPosixSettings init = .ok settings → settings.userUidnumberAssign = true) →
      ∀ history p, Creations userCreation alone init history p →
        Distinct hasUser (fun db u => userValue db u "uidnumber") init p.shared) ∧
    ((∀ settings, getPosixSettings init = .ok settings → settings.groupGidnumberAssign = true) →
      ∀ history p, Creations groupCreation alone init history p →
        Distinct hasGroup (fun db g => groupValue db g "gidnumber") init p.shared) :=
  ⟨fun hassigns _ _ run => (userCreation_lawful.fine hassigns run).distinct,
    fun hassigns _ _ run => (groupCreation_lawful.fine hassigns run).distinct⟩

end

namespace Numbering

def nobody : Store :=
  { Store.empty with
    userAttributeSchema := ⟨[⟨.new "uidnumber", .integer, false, true, false, true, true, "[]"⟩,
      ⟨.new "ou", .string, false, true, false, true, true, "[]"⟩], by decide⟩
    systemConfig := ⟨[⟨"posix_settings", "wide"⟩], List.nodup_singleton _⟩ }

def newUser (name : String) : CreationCall CreateUserRequest :=
  .begins ⟨.new name, ⟨name ++ "@example.com"⟩, none, []⟩

def afterCreations (moves : List (CreationMove CreateUserRequest)) :
    Pool Store (CreationCall CreateUserRequest) :=
  moves.foldl (fun p m => (Pool.move userCreation.step p m).2) ⟨nobody, []⟩

def serial : List (CreationMove CreateUserRequest) :=
  .start (newUser "alice") :: List.replicate 7 (.advance 0 1) ++
    .start (newUser "bob") :: List.replicate 8 (.advance 0 1)

def overlapping : List (CreationMove CreateUserRequest) :=
  .start (newUser "alice") :: .start (newUser "bob") :: List.replicate 6 (.advance 0 1) ++
    List.replicate 6 (.advance 1 1) ++ [.advance 0 1, .advance 0 1]

theorem nobody_assigns (settings : PosixSettings) (h : getPosixSettings nobody = .ok settings) :
    settings.userUidnumberAssign = true := by
  have hread : getPosixSettings nobody = .ok (settingsUpTo 60000) := by decide +kernel
  rw [hread] at h
  obtain rfl := Except.ok.inj h
  rfl

/-- The second user gets the next number. -/
theorem serial_creations_distinct :
    userValue (afterCreations serial).shared (.new "bob") "uidnumber" = some (utf8 "3001") ∧
      Distinct hasUser (fun db u => userValue db u "uidnumber") nobody (afterCreations serial).shared := by
  refine ⟨by decide +kernel, ?_⟩
  have hchecked : Lib.Run.checkAll (Pool.move userCreation.step)
      (fun p m => userCreation.starts m && alone p m) ⟨nobody, []⟩ serial = true := by decide +kernel
  have hnone : Creations userCreation alone nobody [] ⟨nobody, []⟩ := .nil
  obtain ⟨history, run⟩ := Lib.Run.extend_checked
    (fun _ p m (h : (userCreation.starts m && alone p m) = true) => Bool.and_eq_true_iff.mp h)
    hnone hchecked
  exact (created_numbers_distinct nobody).1 nobody_assigns history _ run

/-- Both users get the same number. -/
theorem overlapping_creations_alike :
    (∃ history, Creations userCreation (fun _ _ => true) nobody history (afterCreations overlapping)) ∧
      userValue (afterCreations overlapping).shared (.new "alice") "uidnumber" = some (utf8 "3000") ∧
      userValue (afterCreations overlapping).shared (.new "bob") "uidnumber" = some (utf8 "3000") := by
  refine ⟨Lib.Run.extend .nil overlapping fun m hm _ _ => ⟨?_, rfl⟩, by decide +kernel, by decide +kernel⟩
  have hall : overlapping.all userCreation.starts = true := by decide +kernel
  exact List.all_eq_true.mp hall m hm

end Numbering

end Sql
end Klldap
