import Klldap.Sql.Config

/-!
# Klldap.Sql.Posix: numbering users and groups

The POSIX part of `sql_user_backend_handler.rs`: which numbers are in use, the search for a free
one, and the five procedures that give every user or every group its number, home or shell anew.
-/

namespace Klldap
namespace Sql

open Lib (Bytes Eff)
open Lib.Bincode (utf8)

/-! ## Writing rows -/

/-- Insert an attribute row or replace its value, as `INSERT .. ON CONFLICT DO UPDATE` does. The
user and the attribute have to exist. -/
def upsertUserAttribute (row : UserAttributeRow) : Db Unit := do
  if ← Eff.reads fun db => (db.users.find? row.userId).isSome &&
      (db.userAttributeSchema.find? row.attributeName).isSome then
    Eff.writes fun db => { db with userAttributes := db.userAttributes.upsert row }
  else Eff.fail constraintFailed

def upsertGroupAttribute (row : GroupAttributeRow) : Db Unit := do
  if ← Eff.reads fun db => (db.groups.find? row.groupId).isSome &&
      (db.groupAttributeSchema.find? row.attributeName).isSome then
    Eff.writes fun db => { db with groupAttributes := db.groupAttributes.upsert row }
  else Eff.fail constraintFailed

def updateUserRow (u : UserId) (f : UserRow → UserRow) (hf : ∀ r, (f r).userId = r.userId) :
    Db Unit := do
  match ← Eff.reads fun db => db.users.find? u with
  | none => Eff.fail recordNotUpdated
  | some _ => Eff.writes fun db => { db with users := db.users.update u f hf }

def updateGroupRow (g : GroupId) (f : GroupRow → GroupRow) (hf : ∀ r, (f r).groupId = r.groupId) :
    Db Unit := do
  match ← Eff.reads fun db => db.groups.find? g with
  | none => Eff.fail recordNotUpdated
  | some _ => Eff.writes fun db => { db with groups := db.groups.update g f hf }

def touchUser (now : DateTime) (u : UserId) : Db Unit :=
  updateUserRow u (fun r => { r with modifiedDate := now }) fun _ => rfl

def touchGroup (now : DateTime) (g : GroupId) : Db Unit :=
  updateGroupRow g (fun r => { r with modifiedDate := now }) fun _ => rfl

def isUidnumberTaken (db : Store) (uid : Int) : Bool :=
  db.userAttributes.rows.any fun r =>
    r.attributeName = .new "uidnumber" && r.value = utf8 (toString uid)

def isGidnumberTaken (db : Store) (gid : Int) : Bool :=
  db.groupAttributes.rows.any fun r =>
    r.attributeName = .new "gidnumber" && r.value = utf8 (toString gid)

/-- The first of `n` candidates, from `candidate` on, that is not taken. -/
def firstFree (taken : Int → Bool) : Nat → Int → Option Int
  | 0, _ => none
  | n + 1, candidate =>
    if taken candidate then firstFree taken n (candidate + 1) else some candidate

def i64Min : Int := -2 ^ 63

def i64Max : Int := 2 ^ 63 - 1

/-- The `i64` that a computation wraps to, as it does in a release build. -/
def wrapI64 (i : Int) : Int := (i + 2 ^ 63) % 2 ^ 64 - 2 ^ 63

def nextAvailableNumber (what : String) (taken : Int → Bool) (start max : Int) :
    Except DomainError Int :=
  if start > max then
    .error (.internalError
      (what ++ " start (" ++ toString start ++ ") > max (" ++ toString max ++ ")"))
  else
    match firstFree taken (max + 1 - start).toNat start with
    | some n => .ok n
    | none =>
      if max = i64Max then
        -- no candidate is greater than `max`: the counter wraps, and the loop goes on from below
        match firstFree taken (2 ^ 64) i64Min with
        | some n => .ok n
        | none => .error (.panicked "the search does not end")
      else
        .error (.internalError ("No available " ++ what ++ " in range " ++ toString start ++
          "-" ++ toString max ++ " (all taken)"))

def nextAvailableUidNumber (db : Store) : Int → Int → Except DomainError Int :=
  nextAvailableNumber "uidNumber" (isUidnumberTaken db)

def nextAvailableGidNumber (db : Store) : Int → Int → Except DomainError Int :=
  nextAvailableNumber "gidNumber" (isGidnumberTaken db)

theorem firstFree_spec {taken : Int → Bool} {n : Nat} {start k : Int}
    (h : firstFree taken n start = some k) :
    taken k = false ∧ start ≤ k ∧ k < start + n ∧ ∀ j, start ≤ j → j < k → taken j = true := by
  induction n generalizing start with
  | zero => cases h
  | succ n ih =>
    simp only [firstFree] at h
    by_cases ht : taken start = true
    · rw [if_pos ht] at h
      obtain ⟨hk, hge, hlt, hmin⟩ := ih h
      refine ⟨hk, by omega, by omega, ?_⟩
      intro j hj hjk
      by_cases hjs : j = start
      · rw [hjs, ht]
      · exact hmin j (by omega) hjk
    · rw [if_neg ht] at h
      cases h
      exact ⟨by simpa using ht, by omega, by omega, fun j hj hjk => by omega⟩

variable [External]

def reassignGidNumbers (now : DateTime) : Db Unit := do
  let settings ← Eff.query getPosixSettings
  Eff.transaction do
    if settings.groupGidnumberAssign then
      let groups ← Eff.reads fun db => orderBy GroupRow.creationDate db.groups.rows
      Eff.each
        (fun (group, i) => do
          upsertGroupAttribute
            ⟨group.groupId, .new "gidnumber",
              utf8 (toString (wrapI64 (settings.groupGidnumberStart + i)))⟩
          touchGroup now group.groupId)
        groups.zipIdx
    else
      Eff.writes fun db =>
        { db with
          groupAttributes := db.groupAttributes.delete fun r => r.attributeName = .new "gidnumber" }

/-- The four procedures for users: with the switch on every user is given the attribute, with the
switch off it is taken from every user. -/
def reassignUserAttribute (name : String) (assign : PosixSettings → Bool)
    (order : List UserRow → List UserRow) (value : PosixSettings → Int → UserId → String)
    (now : DateTime) : Db Unit := do
  let settings ← Eff.query getPosixSettings
  Eff.transaction do
    if assign settings then
      let users ← Eff.reads fun db => order db.users.rows
      Eff.each
        (fun (user, i) => do
          upsertUserAttribute ⟨user.userId, .new name, utf8 (value settings i user.userId)⟩
          touchUser now user.userId)
        users.zipIdx
    else
      Eff.writes fun db =>
        { db with userAttributes := db.userAttributes.delete fun r => r.attributeName = .new name }

def reassignUserUidNumbers : DateTime → Db Unit :=
  reassignUserAttribute "uidnumber" PosixSettings.userUidnumberAssign
    (orderBy UserRow.creationDate)
    fun settings i _ => toString (wrapI64 (settings.userUidnumberStart + i))

-- every user gets the same number
def reassignUserGidNumbers : DateTime → Db Unit :=
  reassignUserAttribute "gidnumber" PosixSettings.userGidnumberAssign id
    fun settings _ _ => toString settings.userGidnumberStart

def reassignUserHomedirectories : DateTime → Db Unit :=
  reassignUserAttribute "homedirectory" PosixSettings.userHomedirectoryAssign id
    fun settings _ user => settings.userHomedirectoryPrefix ++ "/" ++ user.asStr

def reassignUserLoginshells : DateTime → Db Unit :=
  reassignUserAttribute "loginshell" PosixSettings.userLoginshellAssign id
    fun settings _ _ => settings.userLoginshellDefault

end Sql
end Klldap
