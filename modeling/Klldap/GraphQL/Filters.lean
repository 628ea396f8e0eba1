import Klldap.GraphQL.Helpers
import Klldap.Ldap.Translation
import Klldap.Plain
import Klldap.Sql.Calm

/-!
# Klldap.GraphQL.Filters: request filters, and compiling what the front ends make

`crates/graphql-server/src/query/filters.rs`: the filter of a GraphQL query as a filter of the
backend. The backend's compiler panics on an unwrapped user id and on an order comparison with a
column that is not a date; neither front end builds such a filter.
-/

namespace Klldap

open Lib (except_bind_ok except_bind_error)

namespace GraphQL

/-! ## The request filter of a query -/

structure EqualityConstraint where
  field : String
  value : String
deriving DecidableEq

/-- Only one of the fields can be set at a time. -/
inductive RequestFilter where
  | mk (any : Option (List RequestFilter)) (all : Option (List RequestFilter))
      (not : Option RequestFilter) (eq : Option EqualityConstraint) (memberOf : Option String)
      (memberOfId : Option Int)

section

variable [External] [Ldap.Library]

def equalityFilter (schema : Schema) (eq : EqualityConstraint) :
    Except FieldError UserRequestFilter :=
  let canonicalField := (resolveCanonicalName schema.userAttributes eq.field).getD eq.field
  match Ldap.getSchemaManager.mapUserField (.new canonicalField) schema with
  | .noMatch => anyhow ("Unknown request filter: " ++ eq.field)
  | .primaryField .userId => .ok (.userId (.new eq.value))
  | .primaryField column => .ok (.equality column eq.value)
  | .attr name typ false =>
    match Ldap.deserializeAttributeValue [eq.value] typ false with
    | .ok value => .ok (.attributeEquality name value)
    | .error _ => anyhow ("While deserializing attribute " ++ name.asStr)
  | .attr _ _ true => anyhow "Equality not supported for list fields"
  | .memberOf => .ok (.memberOf ⟨eq.value⟩)
  | .objectClass | .dn | .entryDn | .entryUuid =>
    anyhow "Ldap fields not supported in request filter"

mutual

def tryIntoDomainFilter (schema : Schema) : RequestFilter → Except FieldError UserRequestFilter
  | .mk none none none (some eq) none none => equalityFilter schema eq
  | .mk (some any) none none none none none => do
    let fs ← tryIntoDomainFilters schema any
    .ok (.or fs)
  | .mk none (some all) none none none none => do
    let fs ← tryIntoDomainFilters schema all
    .ok (.and fs)
  | .mk none none (some f) none none none => do
    let f ← tryIntoDomainFilter schema f
    .ok (.not f)
  | .mk none none none none (some group) none => .ok (.memberOf ⟨group⟩)
  | .mk none none none none none (some groupId) => .ok (.memberOfId ⟨groupId⟩)
  | .mk none none none none none none => anyhow "No field specified in request filter"
  | _ => anyhow "Multiple fields specified in request filter"

def tryIntoDomainFilters (schema : Schema) :
    List RequestFilter → Except FieldError (List UserRequestFilter)
  | [] => .ok []
  | f :: fs => do
    let c ← tryIntoDomainFilter schema f
    let cs ← tryIntoDomainFilters schema fs
    .ok (c :: cs)

end

end

end GraphQL

/-! ## Filters that compile -/

mutual

/-- No condition of the filter makes the compiler panic. -/
def UserRequestFilter.Compilable : UserRequestFilter → Prop
  | .and fs => EachCompilable fs
  | .or fs => EachCompilable fs
  | .not f => f.Compilable
  | .equality column _ => column ≠ .userId
  | .greaterOrEqual column _ => Sql.isDateColumn column = true
  | .lessOrEqual column _ => Sql.isDateColumn column = true
  | _ => True

def EachCompilable : List UserRequestFilter → Prop
  | [] => True
  | f :: fs => f.Compilable ∧ EachCompilable fs

end

theorem eachCompilable_iff {fs : List UserRequestFilter} :
    EachCompilable fs ↔ ∀ f ∈ fs, f.Compilable := by
  induction fs with
  | nil => simp [EachCompilable]
  | cons f fs ih => simp [EachCompilable, ih]

open UserRequestFilter (Compilable)

section

variable [External]

mutual

theorem getUserFilterExpr_calm : ∀ f : UserRequestFilter, f.Compilable → ∀ e,
    Sql.getUserFilterExpr f = .error e → e.Calm
  | .and fs, hf, e, h => by
    rw [Sql.getUserFilterExpr] at h
    rcases except_bind_error.mp h with h | ⟨_, -, h⟩
    · exact getUserFilterExprs_calm fs hf e h
    · cases h
  | .or fs, hf, e, h => by
    rw [Sql.getUserFilterExpr] at h
    rcases except_bind_error.mp h with h | ⟨_, -, h⟩
    · exact getUserFilterExprs_calm fs hf e h
    · cases h
  | .not f, hf, e, h => by
    rw [Sql.getUserFilterExpr] at h
    rcases except_bind_error.mp h with h | ⟨_, -, h⟩
    · exact getUserFilterExpr_calm f hf e h
    · cases h
  | .equality column value, hf, e, h => by
    have hf : column ≠ .userId := hf
    rw [Sql.getUserFilterExpr, if_neg hf] at h
    split at h <;> cases h
  | .greaterOrEqual column value, hf, e, h => by
    have hf : Sql.isDateColumn column = true := hf
    rw [Sql.getUserFilterExpr, if_pos hf] at h
    cases h
  | .lessOrEqual column value, hf, e, h => by
    have hf : Sql.isDateColumn column = true := hf
    rw [Sql.getUserFilterExpr, if_pos hf] at h
    cases h
  | .attributeGreaterOrEqual _ _, _, e, h | .attributeLessOrEqual _ _, _, e, h => by
    rw [Sql.getUserFilterExpr] at h
    cases h
    exact fun _ => nofun
  | .true, _, e, h | .false, _, e, h | .userId _, _, e, h | .userIdSubString _, _, e, h
  | .attributeEquality _ _, _, e, h | .subString _ _, _, e, h | .memberOf _, _, e, h
  | .memberOfId _, _, e, h | .customAttributePresent _, _, e, h | .attributeSubString _ _, _, e, h => by
    rw [Sql.getUserFilterExpr] at h
    cases h

theorem getUserFilterExprs_calm : ∀ fs : List UserRequestFilter, EachCompilable fs → ∀ e,
    Sql.getUserFilterExprs fs = .error e → e.Calm
  | [], _, e, h => by
    rw [Sql.getUserFilterExprs] at h
    cases h
  | f :: fs, hfs, e, h => by
    rw [Sql.getUserFilterExprs] at h
    rcases except_bind_error.mp h with h | ⟨_, -, h⟩
    · rcases Sql.compileBoth_error h with h | h
      · exact getUserFilterExpr_calm f hfs.1 e h
      · exact getUserFilterExprs_calm fs hfs.2 e h
    · cases h

end

/-! ## What LDAP makes -/

omit [External] in
theorem compilable_closed :
    Ldap.Simplifies.Closed Ldap.UserFilter.joinAnd Ldap.UserFilter.joinOr Ldap.UserFilter.negate
      Compilable := by
  have hand : ∀ fs, (∀ f ∈ fs, Compilable f) → Compilable (.and fs) :=
    fun fs hfs => eachCompilable_iff.mpr hfs
  have hor : ∀ fs, (∀ f ∈ fs, Compilable f) → Compilable (.or fs) :=
    fun fs hfs => eachCompilable_iff.mpr hfs
  have htrue : Compilable .true := trivial
  have hfalse : Compilable .false := trivial
  have hconjuncts : ∀ f : UserRequestFilter, f.Compilable →
      ∀ g ∈ Ldap.UserFilter.conjuncts f, g.Compilable := by
    intro f hf
    cases f with
    | and fs => exact eachCompilable_iff.mp hf
    | _ => simpa [Ldap.UserFilter.conjuncts] using hf
  have hdisjuncts : ∀ f : UserRequestFilter, f.Compilable →
      ∀ g ∈ Ldap.UserFilter.disjuncts f, g.Compilable := by
    intro f hf
    cases f with
    | or fs => exact eachCompilable_iff.mp hf
    | _ => simpa [Ldap.UserFilter.disjuncts] using hf
  refine ⟨fun cs hcs => Ldap.joinParts_closed hconjuncts htrue hand hcs,
    fun cs hcs => Ldap.joinParts_closed hdisjuncts hfalse hor hcs, fun c hc => ?_⟩
  cases c with
  | true | false => trivial
  | _ => exact hc

variable [Ldap.Library]

theorem attributeEquality_compilable (name : AttributeName) (typ : AttributeType) (isList : Bool)
    (value : String) :
    (Ldap.getUserAttributeEqualityFilter name typ isList value).Compilable := by
  unfold Ldap.getUserAttributeEqualityFilter Ldap.attributeEqualityFilter
  split
  · exact ⟨trivial, trivial, trivial⟩
  · trivial

theorem userEqualityFilter_compilable {info : Ldap.LdapInfo} {schema : Schema}
    {field : AttributeName} {value : String} {c : UserRequestFilter}
    (h : Ldap.userEqualityFilter info schema field value = .ok c) : c.Compilable := by
  unfold Ldap.userEqualityFilter at h
  dsimp only at h
  split at h
  · cases h
    split <;> trivial
  split at h
  · cases h
    split <;> trivial
  split at h
  · cases h
    trivial
  · cases h
    exact fun hcolumn => by cases hcolumn
  · rename_i column huser hemail hfield
    cases h
    exact huser
  · cases h
    exact attributeEquality_compilable _ _ _ _
  · cases h
    trivial
  · cases h
    trivial
  · split at h <;> cases h <;> trivial
  · split at h <;> cases h <;> trivial
  · split at h <;> cases h <;> trivial
  · split at h
    · cases h
      exact fun hcolumn => by cases hcolumn
    · cases h

omit [External] [Ldap.Library] in
theorem userOrderFilter_compilable {op : String}
    {onColumn : UserColumn → String → UserRequestFilter}
    {onAttribute : AttributeName → String → UserRequestFilter} {schema : Schema}
    {field : AttributeName} {value : String} {c : UserRequestFilter}
    (h : Ldap.userOrderFilter op onColumn onAttribute schema field value = .ok c)
    (hcolumn : ∀ column value, Sql.isDateColumn column = true → (onColumn column value).Compilable)
    (hattribute : ∀ name value, (onAttribute name value).Compilable) :
    c.Compilable := by
  unfold Ldap.userOrderFilter at h
  split at h
  · cases h
    exact hcolumn _ _ rfl
  · cases h
    exact hcolumn _ _ rfl
  · cases h
    exact hcolumn _ _ rfl
  · cases h
    exact hattribute _ _
  · cases h

omit [External] [Ldap.Library] in
theorem userPresentFilter_compilable (schema : Schema) (field : AttributeName) :
    (Ldap.userPresentFilter schema field).Compilable := by
  unfold Ldap.userPresentFilter
  split
  · trivial
  split
  · trivial
  split <;> trivial

omit [External] in
theorem userSubstringFilter_compilable {schema : Schema} {field : AttributeName}
    {f : SubStringFilter} {c : UserRequestFilter}
    (h : Ldap.userSubstringFilter schema field f = .ok c) : c.Compilable := by
  unfold Ldap.userSubstringFilter at h
  dsimp only at h
  split at h <;> cases h <;> trivial

theorem convertUserLeaf_compilable {info : Ldap.LdapInfo} {schema : Schema} {l : Ldap.LdapFilter}
    {c : UserRequestFilter} (h : Ldap.convertUserLeaf info schema l = .ok c) : c.Compilable := by
  cases l with
  | equality field value =>
    simp only [Ldap.convertUserLeaf] at h
    split at h
    · rw [← Except.ok.inj h, Ldap.userClassFilter]
      split <;> trivial
    · exact userEqualityFilter_compilable h
  | greaterOrEqual field value =>
    simp only [Ldap.convertUserLeaf] at h
    exact userOrderFilter_compilable h (fun _ _ hdate => hdate) fun _ _ => trivial
  | lessOrEqual field value =>
    simp only [Ldap.convertUserLeaf] at h
    exact userOrderFilter_compilable h (fun _ _ hdate => hdate) fun _ _ => trivial
  | present field =>
    simp only [Ldap.convertUserLeaf] at h
    generalize AttributeName.new field = name at h
    rw [← Except.ok.inj h]
    exact userPresentFilter_compilable schema name
  | substring field f =>
    simp only [Ldap.convertUserLeaf] at h
    exact userSubstringFilter_compilable h
  | and | or | not | approx | extensible =>
    simp only [Ldap.convertUserLeaf, Ldap.unwilling, reduceCtorEq] at h

theorem convertUserFilter_compilable {info : Ldap.LdapInfo} {schema : Schema} {f : Ldap.LdapFilter}
    {c : UserRequestFilter} (h : Ldap.convertUserFilter info schema f = .ok c) : c.Compilable := by
  refine (Ldap.convertUserFilter_simplifies info schema).closed compilable_closed
    (fun l hl c hc => ?_) f c h
  have hleaf : Ldap.convertUserFilter info schema l = Ldap.convertUserLeaf info schema l := by
    cases l with
    | and | or | not => exact hl.elim
    | _ =>
      rw [Ldap.convertUserFilter]
      all_goals
        intro _ h
        cases h
  rw [hleaf] at hc
  exact convertUserLeaf_compilable hc

/-! ## What GraphQL makes -/

theorem equalityFilter_compilable {schema : Schema} {eq : GraphQL.EqualityConstraint}
    {c : UserRequestFilter} (h : GraphQL.equalityFilter schema eq = .ok c) : c.Compilable := by
  unfold GraphQL.equalityFilter at h
  dsimp only at h
  split at h
  · cases h
  · cases h
    trivial
  · rename_i column huser hfield
    cases h
    exact huser
  · split at h
    · cases h
      trivial
    · cases h
  · cases h
  · cases h
    trivial
  · cases h
  · cases h
  · cases h
  · cases h

mutual

theorem tryIntoDomainFilter_compilable (schema : Schema) : ∀ (f : GraphQL.RequestFilter)
    (c : UserRequestFilter), GraphQL.tryIntoDomainFilter schema f = .ok c → c.Compilable
  | .mk any all not eq memberOf memberOfId, c, h => by
    unfold GraphQL.tryIntoDomainFilter at h
    split at h
    · exact equalityFilter_compilable h
    · rename_i fs heq
      cases heq
      obtain ⟨cs, hcs, h⟩ := except_bind_ok.mp h
      cases h
      exact tryIntoDomainFilters_compilable schema fs cs hcs
    · rename_i fs heq
      cases heq
      obtain ⟨cs, hcs, h⟩ := except_bind_ok.mp h
      cases h
      exact tryIntoDomainFilters_compilable schema fs cs hcs
    · rename_i f heq
      cases heq
      obtain ⟨c', hc', h⟩ := except_bind_ok.mp h
      cases h
      exact tryIntoDomainFilter_compilable schema f c' hc'
    · cases h
      trivial
    · cases h
      trivial
    · cases h
    · cases h

theorem tryIntoDomainFilters_compilable (schema : Schema) : ∀ (fs : List GraphQL.RequestFilter)
    (cs : List UserRequestFilter), GraphQL.tryIntoDomainFilters schema fs = .ok cs →
    EachCompilable cs
  | [], cs, h => by
    rw [GraphQL.tryIntoDomainFilters] at h
    cases h
    trivial
  | f :: fs, cs, h => by
    rw [GraphQL.tryIntoDomainFilters] at h
    obtain ⟨c, hc, h⟩ := except_bind_ok.mp h
    obtain ⟨cs', hcs', h⟩ := except_bind_ok.mp h
    cases h
    exact ⟨tryIntoDomainFilter_compilable schema f c hc,
      tryIntoDomainFilters_compilable schema fs cs' hcs'⟩

end

/-- Every filter that the translation of an LDAP filter or of a GraphQL request filter returns is
compiled without a panic. -/
theorem frontEnds_compile (info : Ldap.LdapInfo) (schema : Schema) :
    (∀ f c, Ldap.convertUserFilter info schema f = .ok c →
      ∀ msg, Sql.getUserFilterExpr c ≠ .error (.panicked msg)) ∧
    ∀ f c, GraphQL.tryIntoDomainFilter schema f = .ok c →
      ∀ msg, Sql.getUserFilterExpr c ≠ .error (.panicked msg) := by
  refine ⟨fun f c hc msg h => ?_, fun f c hc msg h => ?_⟩
  · exact getUserFilterExpr_calm c (convertUserFilter_compilable hc) _ h msg rfl
  · exact getUserFilterExpr_calm c (tryIntoDomainFilter_compilable schema f c hc) _ h msg rfl

end

section Samples

open Plain

/-- Everybody but `alice` who was created since a date, as an LDAP filter. -/
def sinceFilter : Ldap.LdapFilter :=
  .and [.not (.equality "UID" "alice"), .greaterOrEqual "createTimestamp" "2024"]

/-- The members of a group named `alice`, as a request filter. -/
def namedFilter : GraphQL.RequestFilter :=
  .mk none (some [.mk none none none (some ⟨"displayName", "alice"⟩) none none,
    .mk none none none none (some "staff") none]) none none none none

/-- Both are translated, and compiled without a panic. -/
theorem frontEnds_compile_samples :
    (∃ c, Ldap.convertUserFilter ldapInfo PublicSchema.get sinceFilter = .ok c ∧
      ∀ msg, Sql.getUserFilterExpr c ≠ .error (.panicked msg)) ∧
    ∃ c, GraphQL.tryIntoDomainFilter PublicSchema.get namedFilter = .ok c ∧
      ∀ msg, Sql.getUserFilterExpr c ≠ .error (.panicked msg) := by
  have hldap : (Ldap.convertUserFilter ldapInfo PublicSchema.get sinceFilter).isOk = true := by
    decide +kernel
  have hgraphql : (GraphQL.tryIntoDomainFilter PublicSchema.get namedFilter).isOk = true := by
    decide +kernel
  obtain ⟨c, hc⟩ := Lib.exists_of_isOk hldap
  obtain ⟨c', hc'⟩ := Lib.exists_of_isOk hgraphql
  exact ⟨⟨c, hc, (frontEnds_compile ldapInfo PublicSchema.get).1 _ c hc⟩,
    ⟨c', hc', (frontEnds_compile ldapInfo PublicSchema.get).2 _ c' hc'⟩⟩

end Samples

end Klldap
