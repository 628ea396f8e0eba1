import Klldap.Filter
import Klldap.Lib.Effect
import Klldap.Lib.Trool
import Klldap.Sql.Value
import Klldap.Store

/-!
# Klldap.Sql.Filter: request filters as SQL conditions

`get_user_filter_expr` and `get_group_filter_expr`. A compiled condition gives, for a database and
a row of the table that the query ranges over, a truth value of SQL; the query keeps the rows for
which it is true. Compiling may panic, and a condition that names a column the query does not have
makes the whole query fail once all of it is compiled.
-/

namespace Klldap
namespace Sql

open Lib (Bytes Trool except_bind_ok)
open Lib.Bincode (ofUtf8?)
open Lib.Text

variable [External]

/-! ## Users -/

abbrev UserCond := Store → UserRow → Trool

/-- A text column of a user row. The password hash is not a text, and nothing writes the last two
columns. -/
def columnText (r : UserRow) : UserColumn → Option String
  | .userId => some r.userId.asStr
  | .email => some r.email.raw
  | .lowercaseEmail => some r.lowercaseEmail
  | .displayName => r.displayName
  | .creationDate => some (External.dateColumnText r.creationDate)
  | .uuid => some r.uuid.val
  | .modifiedDate => some (External.dateColumnText r.modifiedDate)
  | .passwordModifiedDate => some (External.dateColumnText r.passwordModifiedDate)
  | .krbPrincipalName => r.krbPrincipalName
  | .passwordHash | .totpSecret | .mfaType => none

/-- A comparison with a column of a user row; `onBytes` is the one with the column of bytes. -/
def columnCond (column : UserColumn) (onText : String → Bool) (onBytes : Bytes → Bool)
    (r : UserRow) : Trool :=
  if column = .passwordHash then .ofOption onBytes r.passwordHash
  else .ofOption onText (columnText r column)

def isDateColumn : UserColumn → Bool
  | .creationDate | .modifiedDate | .passwordModifiedDate => true
  | _ => false

def inGroup (p : GroupRow → Bool) : UserCond := fun db r =>
  .ofBool (db.groups.rows.any fun g => p g && db.isMember r.userId g.groupId)

/-- There is an attribute row of the user under `name` whose value meets `p`. -/
def hasUserAttribute (name : AttributeName) (p : Bytes → Bool) : UserCond := fun db r =>
  .ofBool (db.userAttributes.rows.any fun a =>
    a.userId = r.userId && a.attributeName = name && p a.value)

def attributeCondition (name : AttributeName) (value : Option AttributeValue) : UserCond :=
  hasUserAttribute name fun bytes => value.all fun v => bytes = attributeValueToDbBytes v

def bytesLike (f : SubStringFilter) (bytes : Bytes) : Bool :=
  (ofUtf8? bytes).any fun text => like f.toSqlFilter (asciiLower text)

-- the subquery of the user side names `groups.group_id`, which the users query does not have
def noSuchColumn : DomainError := .databaseError "no such column: groups.group_id"

/-- Both parts are compiled. A panic of either is one of the whole, and comes before the failure of a
query that names a missing column. -/
def compileBoth {α β : Type} : Except DomainError α → Except DomainError β → Except DomainError (α × β)
  | .ok a, .ok b => .ok (a, b)
  | .error (.panicked msg), _ => .error (.panicked msg)
  | _, .error (.panicked msg) => .error (.panicked msg)
  | .error e, _ => .error e
  | .ok _, .error e => .error e

mutual

def getUserFilterExpr : UserRequestFilter → Except DomainError UserCond
  | .true => .ok fun _ _ => .yes
  | .false => .ok fun _ _ => .no
  | .and fs => do
    let cs ← getUserFilterExprs fs
    .ok fun db r => .all (cs.map fun c => c db r)
  | .or fs => do
    let cs ← getUserFilterExprs fs
    .ok fun db r => .any (cs.map fun c => c db r)
  | .not f => do
    let c ← getUserFilterExpr f
    .ok fun db r => (c db r).not
  | .userId u => .ok fun _ r => .ofBool (r.userId = u)
  | .equality column value =>
    if column = .userId then .error (.panicked "User id should be wrapped")
    else if column = .email then .ok fun _ r => .ofBool (r.lowercaseEmail = toLowercase value)
    -- bytes are never equal to a text
    else .ok fun _ r => columnCond column (fun text => text = value) (fun _ => Bool.false) r
  | .attributeEquality name value => .ok (attributeCondition name (some value))
  | .memberOf group =>
    .ok (inGroup fun g => g.lowercaseDisplayName = toLowercase group.raw)
  | .memberOfId groupId => .ok (inGroup fun g => g.groupId = groupId)
  | .userIdSubString f => .ok fun _ r => .ofBool (like f.toSqlFilter r.userId.asStr)
  | .subString column f => .ok fun _ r =>
    columnCond column (fun text => like f.toSqlFilter (asciiLower text)) (bytesLike f) r
  | .customAttributePresent name => .ok (attributeCondition name none)
  | .greaterOrEqual column value =>
    if isDateColumn column then
      .ok fun _ r => .ofOption (fun text => value ≤ text) (columnText r column)
    else .error (.panicked "GreaterOrEqual only supported on date columns")
  | .lessOrEqual column value =>
    if isDateColumn column then
      .ok fun _ r => .ofOption (fun text => text ≤ value) (columnText r column)
    else .error (.panicked "LessOrEqual only supported on date columns")
  | .attributeGreaterOrEqual _ _ => .error noSuchColumn
  | .attributeLessOrEqual _ _ => .error noSuchColumn
  | .attributeSubString name f => .ok (hasUserAttribute name (bytesLike f))

def getUserFilterExprs : List UserRequestFilter → Except DomainError (List UserCond)
  | [] => .ok []
  | f :: fs => do
    let (c, cs) ← compileBoth (getUserFilterExpr f) (getUserFilterExprs fs)
    .ok (c :: cs)

end

section

variable {α β : Type} {x : Except DomainError α} {y : Except DomainError β}

omit [External]

theorem compileBoth_ok {a : α} {b : β} : compileBoth x y = .ok (a, b) ↔ x = .ok a ∧ y = .ok b := by
  unfold compileBoth
  split <;> simp

theorem compileBoth_error {e : DomainError} (h : compileBoth x y = .error e) :
    x = .error e ∨ y = .error e := by
  unfold compileBoth at h
  split at h <;> cases h <;> simp

end

theorem getUserFilterExprs_cons {f : UserRequestFilter} {fs : List UserRequestFilter}
    {cs : List UserCond} (h : getUserFilterExprs (f :: fs) = .ok cs) :
    ∃ c cs', getUserFilterExpr f = .ok c ∧ getUserFilterExprs fs = .ok cs' ∧ cs = c :: cs' := by
  rw [getUserFilterExprs] at h
  obtain ⟨⟨c, cs'⟩, hboth, h⟩ := except_bind_ok.mp h
  cases h
  obtain ⟨hc, hcs⟩ := compileBoth_ok.mp hboth
  exact ⟨c, cs', hc, hcs, rfl⟩

abbrev GroupCond := Store → GroupRow → Trool

def hasGroupAttribute (name : AttributeName) (p : Bytes → Bool) : GroupCond := fun db g =>
  .ofBool (db.groupAttributes.rows.any fun a =>
    a.groupId = g.groupId && a.attributeName = name && p a.value)

def groupAttributeCondition (name : AttributeName) (value : Option AttributeValue) : GroupCond :=
  hasGroupAttribute name fun bytes => value.all fun v => bytes = attributeValueToDbBytes v

/-- A comparison with a date column of the group table, false of every other column name. -/
def groupDateCond (column : String) (p : String → Bool) : GroupCond := fun _ g =>
  if asciiLower column = "creationdate" then .ofBool (p (External.dateColumnText g.creationDate))
  else if asciiLower column = "modifieddate" then
    .ofBool (p (External.dateColumnText g.modifiedDate))
  else .no

mutual

def getGroupFilterExpr : GroupRequestFilter → GroupCond
  | .true => fun _ _ => .yes
  | .false => fun _ _ => .no
  | .and fs => fun db g => .all (getGroupFilterExprs fs db g)
  | .or fs => fun db g => .any (getGroupFilterExprs fs db g)
  | .not f => fun db g => (getGroupFilterExpr f db g).not
  | .displayName name => fun _ g => .ofBool (g.lowercaseDisplayName = toLowercase name.raw)
  | .groupId id => fun _ g => .ofBool (g.groupId = id)
  | .uuid uuid => fun _ g => .ofBool (g.uuid = uuid)
  | .member user => fun db g => .ofBool (db.isMember user g.groupId)
  | .displayNameSubString f => fun _ g =>
    .ofBool (like f.toSqlFilter (asciiLower g.lowercaseDisplayName))
  | .attributeEquality name value => groupAttributeCondition name (some value)
  | .customAttributePresent name => groupAttributeCondition name none
  | .greaterOrEqual column value => groupDateCond column fun text => value ≤ text
  | .lessOrEqual column value => groupDateCond column fun text => text ≤ value
  -- a stored value is a blob, which orders after every text
  | .attributeGreaterOrEqual name _ => hasGroupAttribute name fun _ => true
  | .attributeLessOrEqual name _ => hasGroupAttribute name fun _ => false
  | .attributeSubString name f => hasGroupAttribute name (bytesLike f)

def getGroupFilterExprs : List GroupRequestFilter → Store → GroupRow → List Trool
  | [] => fun _ _ => []
  | f :: fs => fun db g => getGroupFilterExpr f db g :: getGroupFilterExprs fs db g

end

theorem getGroupFilterExpr_and_member {f : GroupRequestFilter} {u : UserId} {db : Store}
    {g : GroupRow} (h : (getGroupFilterExpr (.and [f, .member u]) db g).holds = true) :
    db.isMember u g.groupId = true := by
  simp only [getGroupFilterExpr, getGroupFilterExprs, Trool.all, Trool.holds_and,
    Bool.and_eq_true, Trool.holds_ofBool] at h
  exact h.2.1

end Sql
end Klldap
