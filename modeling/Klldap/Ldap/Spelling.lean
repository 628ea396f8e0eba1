import Klldap.Ldap.Scopes

/-!
# Klldap.Ldap.Spelling: two spellings of one base

Bases that are read as the same RDNs may still differ in letter case and in blanks around the
separators. Most of a search looks at the RDNs, but the entries under a container, the entry of a
user or a group and the name of the subschema entry are compared with the text.
-/

namespace Klldap
namespace Ldap

open Lib (Eff)
open Lib.Eff (Keeps)
open Lib.Text
open Opaque (Suite)

/-! ## Results -/

def Failure.code : Failure → Option LdapResultCode
  | .ldap e => some e.code
  | .panicked _ => none

def resultOf : Except Failure (List LdapOp) → Option LdapResultCode × List LdapSearchResultEntry
  | .ok ops =>
    (ops.getLast?.bind fun op =>
      match op with
      | .searchResultDone r => some r.code
      | _ => none, entriesOf ops)
  | .error e => (e.code, [])

@[simp] theorem resultOf_found (es : List LdapSearchResultEntry) :
    resultOf (.ok (found es)) = (some .success, es) := by
  rw [resultOf, entriesOf_found, found, List.getLast?_concat]
  rfl

theorem resultOf_success : resultOf (.ok [makeSearchSuccess]) = (some .success, []) := rfl

section

variable {α : Type} {x y : Except Failure α} {f g : α → Except Failure (List LdapOp)}

theorem resultOf_bind_iff (hxy : x.mapError Failure.code = y.mapError Failure.code) :
    resultOf (x >>= f) = resultOf (y >>= g) ↔ ∀ a, x = .ok a → resultOf (f a) = resultOf (g a) := by
  cases x with
  | error e =>
    cases y with
    | error e' =>
      have hcode : e.code = e'.code := Except.error.inj hxy
      exact iff_of_true (congrArg (·, []) hcode) nofun
    | ok b => cases hxy
  | ok a =>
    cases y with
    | error e' => cases hxy
    | ok b =>
      cases hxy
      refine ⟨fun heq b hb => ?_, fun hall => hall a rfl⟩
      cases hb
      exact heq

end

theorem code_ofDomain (wrap : DomainError → LdapError) (e : DomainError) :
    (Failure.ofDomain wrap e).code =
      match e with
      | .panicked _ => none
      | e => some (wrap e).code := by
  cases e <;> rfl

/-! ## Spellings -/

def LdapSearchRequest.withBase (request : LdapSearchRequest) (base : String) : LdapSearchRequest :=
  { request with base := base }

section

variable (request : LdapSearchRequest) (base : String)

@[simp] theorem withBase_base : (request.withBase base).base = base := rfl

@[simp] theorem withBase_scope : (request.withBase base).scope = request.scope := rfl

@[simp] theorem withBase_filter : (request.withBase base).filter = request.filter := rfl

@[simp] theorem withBase_attrs : (request.withBase base).attrs = request.attrs := rfl

end

theorem getUserOrGroupId_congr {dn dn' : String}
    (h : parseDistinguishedName dn = parseDistinguishedName dn') (baseTree : List Rdn) :
    getUserOrGroupIdFromDistinguishedName dn baseTree =
      getUserOrGroupIdFromDistinguishedName dn' baseTree := by
  rw [getUserOrGroupIdFromDistinguishedName, getUserOrGroupIdFromDistinguishedName, h]

section

variable {baseTree : List Rdn} {baseDnStr dn dn' : String}

theorem getUserId_ok {userId : UserId} :
    getUserIdFromDistinguishedName dn baseTree baseDnStr = .ok userId ↔
      getUserOrGroupIdFromDistinguishedName dn baseTree = .user userId := by
  unfold getUserIdFromDistinguishedName
  split <;> simp_all

theorem getGroupId_ok {name : GroupName} :
    getGroupIdFromDistinguishedName dn baseTree baseDnStr = .ok name ↔
      getUserOrGroupIdFromDistinguishedName dn baseTree = .group name := by
  unfold getGroupIdFromDistinguishedName
  split <;> simp_all

end

section

variable [External] [Library] {S : Suite} {σ : Type} {backend : UserRestrictedLister S σ}
  {ldapInfo : LdapInfo} {request : LdapSearchRequest} {base' : String} {s : σ}

theorem getUserList_code (schema : Schema) (filter : LdapFilter) (getGroups : Bool)
    (base base' : String) :
    (getUserList ldapInfo schema backend.listUsers filter getGroups base s).1.mapError Failure.code =
      (getUserList ldapInfo schema backend.listUsers filter getGroups base' s).1.mapError
        Failure.code := by
  simp only [getUserList, liftLdap, (Keeps.lift _).bind_fst, Eff.lift_run]
  cases convertUserFilter ldapInfo schema filter with
  | error e => simp only [Except.mapError, bind, Except.bind]
  | ok f =>
    simp only [Except.mapError, bind, Except.bind, Eff.mapErr]
    cases (backend.listUsers (some f) getGroups s).1 with
    | ok users => rfl
    | error e => simp only [code_ofDomain]

theorem getGroupsList_code (schema : Schema) (filter : LdapFilter) (base base' : String) :
    (getGroupsList ldapInfo schema backend.listGroups filter base s).1.mapError Failure.code =
      (getGroupsList ldapInfo schema backend.listGroups filter base' s).1.mapError
        Failure.code := by
  simp only [getGroupsList, liftLdap, (Keeps.lift _).bind_fst, Eff.lift_run]
  cases convertGroupFilter ldapInfo schema filter with
  | error e => simp only [Except.mapError, bind, Except.bind]
  | ok f =>
    simp only [Except.mapError, bind, Except.bind, Eff.mapErr]
    cases (backend.listGroups (some f) s).1 with
    | ok groups => rfl
    | error e => simp only [code_ofDomain]

omit [External] [Library] in
theorem mapError_bind_congr {α β : Type} {x y : Except Failure α}
    (h : x.mapError Failure.code = y.mapError Failure.code) (f : α → Except Failure β) :
    (x >>= f).mapError Failure.code = (y >>= f).mapError Failure.code := by
  cases x <;> cases y <;> simp_all [Except.mapError, bind, Except.bind]

theorem foundUsers_code (h : ReadsOnly backend) :
    (foundUsers backend ldapInfo request s).1.mapError Failure.code =
      (foundUsers backend ldapInfo (request.withBase base') s).1.mapError Failure.code := by
  rw [foundUsers_fst h, foundUsers_fst h]
  exact mapError_bind_congr (getUserList_code _ _ _ _ _) _

theorem foundGroups_code (h : ReadsOnly backend) :
    (foundGroups backend ldapInfo request s).1.mapError Failure.code =
      (foundGroups backend ldapInfo (request.withBase base') s).1.mapError Failure.code := by
  rw [foundGroups_fst h, foundGroups_fst h]
  exact mapError_bind_congr (getGroupsList_code _ _ _ _) _

/-! ## Searches at two spellings -/

omit [External] [Library] in
theorem filter_eq_iff {es : List LdapSearchResultEntry} {p q : LdapSearchResultEntry → Bool} :
    es.filter p = es.filter q ↔ ∀ e ∈ es, p e = q e := by
  refine ⟨fun heq e he => ?_, fun hpq => List.filter_congr hpq⟩
  have hmem : e ∈ es.filter p ↔ e ∈ es.filter q := by rw [heq]
  simp only [List.mem_filter, he, true_and] at hmem
  exact Bool.eq_iff_iff.mpr hmem

theorem searchRoot_spelling (h : ReadsOnly backend) (allowedOus : List String) :
    resultOf (searchRoot backend ldapInfo request allowedOus s).1 =
      resultOf (searchRoot backend ldapInfo (request.withBase base') allowedOus s).1 := by
  rw [searchRoot_fst h, searchRoot_fst h]
  simp only [withBase_scope, withBase_filter, withBase_attrs]
  by_cases hbase : request.scope = .base
  · simp only [hbase, if_true]
  · by_cases hsub : request.scope = .subtree
    · simp only [hsub, reduceCtorEq, if_true, if_false]
      rw [resultOf_bind_iff (foundUsers_code h)]
      intro users _
      rw [resultOf_bind_iff (foundGroups_code h)]
      exact fun _ _ => rfl
    · simp only [hbase, hsub, if_false]

theorem searchContainer_spelling (h : ReadsOnly backend) {allowedOus : List String}
    {dnParts : List Rdn} :
    resultOf (searchContainer backend ldapInfo request allowedOus dnParts s).1 =
        resultOf (searchContainer backend ldapInfo (request.withBase base') allowedOus dnParts
          s).1 ↔
      (request.scope ≠ .base → ∀ users groups, Listed backend ldapInfo request s users groups →
        ∀ e, e ∈ users ∨ e ∈ groups →
          underBase request dnParts e = underBase (request.withBase base') dnParts e) := by
  rw [searchContainer_fst h, searchContainer_fst h]
  simp only [withBase_scope, withBase_filter, withBase_attrs]
  by_cases hbase : request.scope = .base
  · simp [hbase]
  · simp only [hbase, if_false, ne_eq, not_false_eq_true, true_implies]
    rw [resultOf_bind_iff (foundUsers_code h)]
    simp only [resultOf_bind_iff (foundGroups_code h), resultOf_found, Prod.mk.injEq, true_and,
      List.append_assoc, List.append_cancel_left_eq, ← List.filter_append, filter_eq_iff,
      List.mem_append]
    exact ⟨fun hall users groups hl => hall users hl.1 groups hl.2,
      fun hall users hu groups hg => hall users groups ⟨hu, hg⟩⟩

/-- The searches at a user and at a group have one form: read the name, see whether it exists, and
keep the entries found at it. -/
def leafAnswer {α β : Type} (name : LdapResult α) (existing : α → Except Failure (List β))
    (entries : Except Failure (List LdapSearchResultEntry)) (p : LdapSearchResultEntry → Bool) :
    Except Failure (List LdapOp) :=
  match name with
  | .error _ => .ok [makeSearchSuccess]
  | .ok a => do
    let rows ← existing a
    if rows.isEmpty then .error noSuchObject
    else do
      let es ← entries
      .ok (found (es.filter p))

theorem searchUser_leafAnswer (h : ReadsOnly backend) :
    (searchUser backend ldapInfo request s).1 =
      leafAnswer (getUserIdFromDistinguishedName request.base ldapInfo.baseDn ldapInfo.baseDnStr)
        (fun userId => (getUserList ldapInfo PublicSchema.get backend.listUsers
          (.equality "uid" userId.asStr) true request.base s).1)
        (foundUsers backend ldapInfo request s).1 (isAtBase request) := by
  rw [searchUser_fst h]
  cases getUserIdFromDistinguishedName request.base ldapInfo.baseDn ldapInfo.baseDnStr with
  | error e => simp only [leafAnswer]
  | ok userId => simp only [leafAnswer]

theorem searchGroup_leafAnswer (h : ReadsOnly backend) :
    (searchGroup backend ldapInfo request s).1 =
      leafAnswer (getGroupIdFromDistinguishedName request.base ldapInfo.baseDn ldapInfo.baseDnStr)
        (fun name => (getGroupsList ldapInfo PublicSchema.get backend.listGroups
          (.equality (getSchemaManager.getCanonicalName "cn") name.raw) request.base s).1)
        (foundGroups backend ldapInfo request s).1 (isAtBase request) := by
  rw [searchGroup_fst h]
  cases getGroupIdFromDistinguishedName request.base ldapInfo.baseDn ldapInfo.baseDnStr with
  | error e => simp only [leafAnswer]
  | ok name => simp only [leafAnswer]

omit [External] [Library] in
theorem leafAnswer_spelling {α β : Type} {name name' : LdapResult α}
    {existing existing' : α → Except Failure (List β)}
    {entries entries' : Except Failure (List LdapSearchResultEntry)}
    {p q : LdapSearchResultEntry → Bool} (hname : ∀ a, name = .ok a ↔ name' = .ok a)
    (hexisting : ∀ a,
      (existing a).mapError Failure.code = (existing' a).mapError Failure.code)
    (hentries : entries.mapError Failure.code = entries'.mapError Failure.code) :
    resultOf (leafAnswer name existing entries p) =
        resultOf (leafAnswer name' existing' entries' q) ↔
      ∀ a rows es, name = .ok a → existing a = .ok rows → rows.isEmpty = false →
        entries = .ok es → ∀ e ∈ es, p e = q e := by
  cases name with
  | error e =>
    cases name' with
    | error e' => exact iff_of_true rfl nofun
    | ok a => simp at hname
  | ok a =>
    obtain rfl := (hname a).mp rfl
    simp only [leafAnswer]
    rw [resultOf_bind_iff (hexisting a)]
    have hrest : ∀ rows : List β,
        resultOf (if rows.isEmpty then .error noSuchObject
            else entries >>= fun es => .ok (found (es.filter p))) =
          resultOf (if rows.isEmpty then .error noSuchObject
            else entries' >>= fun es => .ok (found (es.filter q))) ↔
        (rows.isEmpty = false → ∀ es, entries = .ok es → ∀ e ∈ es, p e = q e) := by
      intro rows
      cases rows with
      | nil => simp
      | cons row rows =>
        simp only [List.isEmpty_cons, Bool.false_eq_true, if_false, true_implies]
        rw [resultOf_bind_iff hentries]
        simp only [resultOf_found, Prod.mk.injEq, true_and, filter_eq_iff]
    simp only [hrest, Except.ok.injEq]
    constructor
    · rintro hall a rows es rfl hrows hne hes
      exact hall rows hrows hne es hes
    · intro hall rows hrows hne es hes
      exact hall a rows es rfl hrows hne hes

/-- When two spellings of a base of a given kind give the same answer. -/
def SameEntries (backend : UserRestrictedLister S σ) (ldapInfo : LdapInfo)
    (request : LdapSearchRequest) (base' : String) (dnParts : List Rdn) (s : σ) : SearchScope → Prop
  | .container => request.scope ≠ .base →
    ∀ users groups, Listed backend ldapInfo request s users groups →
      ∀ e, e ∈ users ∨ e ∈ groups →
        underBase request dnParts e = underBase (request.withBase base') dnParts e
  | .leafUser => ∀ userId existing users,
    getUserIdFromDistinguishedName request.base ldapInfo.baseDn ldapInfo.baseDnStr = .ok userId →
    (getUserList ldapInfo PublicSchema.get backend.listUsers (.equality "uid" userId.asStr) true
      request.base s).1 = .ok existing → existing.isEmpty = false →
    (foundUsers backend ldapInfo request s).1 = .ok users →
    ∀ e ∈ users, isAtBase request e = isAtBase (request.withBase base') e
  | .leafGroup => ∀ name existing groups,
    getGroupIdFromDistinguishedName request.base ldapInfo.baseDn ldapInfo.baseDnStr = .ok name →
    (getGroupsList ldapInfo PublicSchema.get backend.listGroups
      (.equality (getSchemaManager.getCanonicalName "cn") name.raw) request.base s).1 =
        .ok existing → existing.isEmpty = false →
    (foundGroups backend ldapInfo request s).1 = .ok groups →
    ∀ e ∈ groups, isAtBase request e = isAtBase (request.withBase base') e
  | .root | .invalid | .unknown => True

/-- The only entry that is found at a base of a given kind is the subschema entry: no organizational
unit is accepted by the filter, and one user or group is listed, with the name and the attributes of
that entry. -/
def OnlySubschema (backend : UserRestrictedLister S σ) (ldapInfo : LdapInfo)
    (request : LdapSearchRequest) (allowedOus : List String) (dnParts : List Rdn) (s : σ) :
    SearchScope → Prop
  | .root => request.scope = .subtree ∧ ∃ users groups,
    Listed backend ldapInfo request s users groups ∧
      (∀ ou ∈ allowedOus, ouMatchesFilter ou request.filter = false) ∧
      users ++ groups = [makeLdapSubschemaEntry ldapInfo.baseDnStr]
  | .container => request.scope ≠ .base ∧ ∃ users groups,
    Listed backend ldapInfo request s users groups ∧
      (∀ ou ∈ ousBelow (getInternalOuFromDnParts dnParts) request.scope allowedOus,
        ouMatchesFilter ou request.filter = false) ∧
      (users ++ groups).filter (underBase request dnParts) =
        [makeLdapSubschemaEntry ldapInfo.baseDnStr]
  | .leafUser => ∃ userId existing users,
    getUserIdFromDistinguishedName request.base ldapInfo.baseDn ldapInfo.baseDnStr = .ok userId ∧
    (getUserList ldapInfo PublicSchema.get backend.listUsers (.equality "uid" userId.asStr) true
      request.base s).1 = .ok existing ∧ existing.isEmpty = false ∧
    (foundUsers backend ldapInfo request s).1 = .ok users ∧
    users.filter (isAtBase request) = [makeLdapSubschemaEntry ldapInfo.baseDnStr]
  | .leafGroup => ∃ name existing groups,
    getGroupIdFromDistinguishedName request.base ldapInfo.baseDn ldapInfo.baseDnStr = .ok name ∧
    (getGroupsList ldapInfo PublicSchema.get backend.listGroups
      (.equality (getSchemaManager.getCanonicalName "cn") name.raw) request.base s).1 =
        .ok existing ∧ existing.isEmpty = false ∧
    (foundGroups backend ldapInfo request s).1 = .ok groups ∧
    groups.filter (isAtBase request) = [makeLdapSubschemaEntry ldapInfo.baseDnStr]
  | .invalid | .unknown => False

omit [External] [Library] in
theorem resultOf_bind_single {α : Type} {x : Except Failure α}
    {f : α → Except Failure (List LdapOp)} {e : LdapSearchResultEntry} :
    resultOf (x >>= f) = (some .success, [e]) ↔
      ∃ a, x = .ok a ∧ resultOf (f a) = (some .success, [e]) := by
  cases x with
  | error err => simp [bind, Except.bind, resultOf]
  | ok a => simp [bind, Except.bind]

omit [External] in
theorem units_append_eq {ous : List String} {rows : List LdapSearchResultEntry} :
    ouEntries ldapInfo request ous ++ rows = [makeLdapSubschemaEntry ldapInfo.baseDnStr] ↔
      (∀ ou ∈ ous, ouMatchesFilter ou request.filter = false) ∧
        rows = [makeLdapSubschemaEntry ldapInfo.baseDnStr] := by
  constructor
  · intro heq
    have hnone := ouEntries_subschema_iff.mp fun e he =>
      List.mem_singleton.mp (heq ▸ List.mem_append_left rows he)
    refine ⟨hnone, ?_⟩
    have hnil : ouEntries ldapInfo request ous = [] := List.eq_nil_iff_forall_not_mem.mpr fun e he => by
      obtain ⟨ou, hou, hmatch, -⟩ := mem_ouEntries.mp he
      rw [hnone ou hou] at hmatch
      cases hmatch
    rw [hnil] at heq
    exact heq
  · rintro ⟨hnone, hrows⟩
    have hnil : ouEntries ldapInfo request ous = [] := List.eq_nil_iff_forall_not_mem.mpr fun e he => by
      obtain ⟨ou, hou, hmatch, -⟩ := mem_ouEntries.mp he
      rw [hnone ou hou] at hmatch
      cases hmatch
    rw [hnil, hrows]
    rfl

omit [External] [Library] in
theorem leafAnswer_single {α β : Type} {name : LdapResult α} {existing : α → Except Failure (List β)}
    {entries : Except Failure (List LdapSearchResultEntry)} {p : LdapSearchResultEntry → Bool}
    {e : LdapSearchResultEntry} :
    resultOf (leafAnswer name existing entries p) = (some .success, [e]) ↔
      ∃ a rows es, name = .ok a ∧ existing a = .ok rows ∧ rows.isEmpty = false ∧
        entries = .ok es ∧ es.filter p = [e] := by
  cases name with
  | error err => simp [leafAnswer, resultOf_success]
  | ok a =>
    simp only [leafAnswer, resultOf_bind_single, Except.ok.injEq]
    constructor
    · rintro ⟨rows, hrows, hrest⟩
      cases hempty : rows.isEmpty with
      | true =>
        rw [hempty, if_pos rfl] at hrest
        cases hrest
      | false =>
        rw [hempty, if_neg (by decide), resultOf_bind_single] at hrest
        obtain ⟨es, hes, hrest⟩ := hrest
        rw [resultOf_found] at hrest
        exact ⟨a, rows, es, rfl, hrows, hempty, hes, congrArg Prod.snd hrest⟩
    · rintro ⟨a', rows, es, rfl, hrows, hempty, hes, hfilter⟩
      refine ⟨rows, hrows, ?_⟩
      rw [hempty, if_neg (by decide), resultOf_bind_single]
      exact ⟨es, hes, by rw [resultOf_found, hfilter]⟩

theorem searchRoot_single (h : ReadsOnly backend) {allowedOus : List String} {dnParts : List Rdn} :
    resultOf (searchRoot backend ldapInfo request allowedOus s).1 =
        (some .success, [makeLdapSubschemaEntry ldapInfo.baseDnStr]) ↔
      OnlySubschema backend ldapInfo request allowedOus dnParts s .root := by
  rw [searchRoot_fst h, OnlySubschema]
  by_cases hsub : request.scope = .subtree
  · simp only [hsub, reduceCtorEq, if_false, if_true, true_and, resultOf_bind_single, resultOf_found,
      Prod.mk.injEq, List.append_assoc]
    constructor
    · rintro ⟨users, husers, groups, hgroups, heq⟩
      exact ⟨users, groups, ⟨husers, hgroups⟩, units_append_eq.mp heq⟩
    · rintro ⟨users, groups, ⟨husers, hgroups⟩, heq⟩
      exact ⟨users, husers, groups, hgroups, units_append_eq.mpr heq⟩
  · refine iff_of_false ?_ fun hroot => hsub hroot.1
    by_cases hbase : request.scope = .base
    · simp only [hbase, if_true, resultOf_found, Prod.mk.injEq, List.cons.injEq, and_true, true_and]
      intro heq
      have hlonger := (isRowName_subschema ldapInfo.baseDnStr).longer
      rw [← heq] at hlonger
      exact lt_irrefl _ hlonger
    · simp only [hbase, hsub, if_false, resultOf_found, Prod.mk.injEq, true_and]
      intro heq
      have hunits : ouEntries ldapInfo request (getDirectChildOus "" allowedOus) ++ [] =
          [makeLdapSubschemaEntry ldapInfo.baseDnStr] := by
        rw [List.append_nil]
        exact heq
      cases (units_append_eq.mp hunits).2

theorem searchContainer_single (h : ReadsOnly backend) {allowedOus : List String}
    {dnParts : List Rdn} :
    resultOf (searchContainer backend ldapInfo request allowedOus dnParts s).1 =
        (some .success, [makeLdapSubschemaEntry ldapInfo.baseDnStr]) ↔
      OnlySubschema backend ldapInfo request allowedOus dnParts s .container := by
  rw [searchContainer_fst h, OnlySubschema]
  by_cases hbase : request.scope = .base
  · refine iff_of_false ?_ fun hcontainer => hcontainer.1 hbase
    simp only [hbase, if_true, resultOf_found, Prod.mk.injEq, true_and]
    intro heq
    have hunits : ouEntries ldapInfo request [getInternalOuFromDnParts dnParts] ++ [] =
        [makeLdapSubschemaEntry ldapInfo.baseDnStr] := by
      rw [List.append_nil]
      exact heq
    cases (units_append_eq.mp hunits).2
  · simp only [hbase, if_false, ne_eq, not_false_eq_true, true_and, resultOf_bind_single,
      resultOf_found, Prod.mk.injEq, List.append_assoc, List.filter_append]
    constructor
    · rintro ⟨users, husers, groups, hgroups, heq⟩
      exact ⟨users, groups, ⟨husers, hgroups⟩, units_append_eq.mp heq⟩
    · rintro ⟨users, groups, ⟨husers, hgroups⟩, heq⟩
      exact ⟨users, husers, groups, hgroups, units_append_eq.mpr heq⟩

theorem doSearch_single (h : ReadsOnly backend) {allowedOus : List String} {dnParts : List Rdn}
    (hparse : parseDistinguishedName request.base = .ok dnParts) :
    resultOf (doSearch backend ldapInfo request allowedOus s).1 =
        (some .success, [makeLdapSubschemaEntry ldapInfo.baseDnStr]) ↔
      OnlySubschema backend ldapInfo request allowedOus dnParts s
        (getSearchScope ldapInfo.baseDn dnParts request.scope allowedOus) := by
  rw [doSearch_of_parse hparse]
  cases getSearchScope ldapInfo.baseDn dnParts request.scope allowedOus with
  | root => exact searchRoot_single h
  | container => exact searchContainer_single h
  | leafUser =>
    simp only [searchAs, searchUser_leafAnswer h]
    exact leafAnswer_single
  | leafGroup =>
    simp only [searchAs, searchGroup_leafAnswer h]
    exact leafAnswer_single
  | invalid => exact iff_of_false (by simp [searchAs, resultOf_success]) id
  | unknown => exact iff_of_false (by simp [searchAs, resultOf_success]) id

theorem doSearch_spelling (h : ReadsOnly backend) {allowedOus : List String} {dnParts : List Rdn}
    (hparse : parseDistinguishedName request.base = .ok dnParts)
    (hparse' : parseDistinguishedName base' = .ok dnParts) :
    resultOf (doSearch backend ldapInfo request allowedOus s).1 =
        resultOf (doSearch backend ldapInfo (request.withBase base') allowedOus s).1 ↔
      SameEntries backend ldapInfo request base' dnParts s
        (getSearchScope ldapInfo.baseDn dnParts request.scope allowedOus) := by
  have hname := getUserOrGroupId_congr (hparse.trans hparse'.symm) ldapInfo.baseDn
  have hdo : doSearch backend ldapInfo (request.withBase base') allowedOus = _ :=
    doSearch_of_parse hparse'
  rw [doSearch_of_parse hparse, hdo, withBase_scope]
  cases getSearchScope ldapInfo.baseDn dnParts request.scope allowedOus with
  | root => exact iff_of_true (searchRoot_spelling h allowedOus) trivial
  | container => exact searchContainer_spelling h
  | leafUser =>
    simp only [searchAs, searchUser_leafAnswer h, withBase_base]
    refine leafAnswer_spelling (fun userId => ?_) (fun userId => ?_) (foundUsers_code h)
    · rw [getUserId_ok, getUserId_ok, hname]
    · exact getUserList_code _ _ _ _ _
  | leafGroup =>
    simp only [searchAs, searchGroup_leafAnswer h, withBase_base]
    refine leafAnswer_spelling (fun name => ?_) (fun name => ?_) (foundGroups_code h)
    · rw [getGroupId_ok, getGroupId_ok, hname]
    · exact getGroupsList_code _ _ _ _
  | invalid => exact iff_of_true rfl trivial
  | unknown => exact iff_of_true rfl trivial

end

section

variable [External] [Library] {S : Suite} {setup : S.ServerSetup} {rng : S.Coins} {out : Outside}
  {ldapInfo : LdapInfo} {userInfo : Option ValidationResults} {request : LdapSearchRequest}
  {base' : String} {w : World}

/-- When two spellings of a base give the same answer: neither or both stand for the subschema entry
(or the only row that the other search finds has the name and the attributes of that entry), and no user or group that is found has a name
that is compared differently with the two texts. -/
structure SpellingsAgree (setup : S.ServerSetup) (rng : S.Coins) (out : Outside)
    (ldapInfo : LdapInfo) (userInfo : Option ValidationResults) (request : LdapSearchRequest)
    (base' : String) (dnParts : List Rdn) (w : World) : Prop where
  left : isSubschemaEntryRequest request = true →
    isSubschemaEntryRequest (request.withBase base') = false → ∃ v, userInfo = some v ∧
      OnlySubschema (listerOf setup rng out v) ldapInfo (request.withBase base')
        (Sql.getAllowedOus w.db) dnParts w
        (getSearchScope ldapInfo.baseDn dnParts request.scope (Sql.getAllowedOus w.db))
  right : isSubschemaEntryRequest request = false →
    isSubschemaEntryRequest (request.withBase base') = true → ∃ v, userInfo = some v ∧
      OnlySubschema (listerOf setup rng out v) ldapInfo request (Sql.getAllowedOus w.db) dnParts w
        (getSearchScope ldapInfo.baseDn dnParts request.scope (Sql.getAllowedOus w.db))
  bound : isSubschemaEntryRequest request = false →
    isSubschemaEntryRequest (request.withBase base') = false → ∀ v, userInfo = some v →
      SameEntries (listerOf setup rng out v) ldapInfo request base' dnParts w
        (getSearchScope ldapInfo.baseDn dnParts request.scope (Sql.getAllowedOus w.db))

theorem bound_single (request : LdapSearchRequest) {dnParts : List Rdn}
    (hparse : parseDistinguishedName request.base = .ok dnParts) :
    resultOf (doBoundSearch (sqlServices S setup rng out) ldapInfo userInfo request w).1 =
        (some .success, [makeLdapSubschemaEntry ldapInfo.baseDnStr]) ↔
      ∃ v, userInfo = some v ∧
        OnlySubschema (listerOf setup rng out v) ldapInfo request (Sql.getAllowedOus w.db) dnParts w
          (getSearchScope ldapInfo.baseDn dnParts request.scope (Sql.getAllowedOus w.db)) := by
  cases userInfo with
  | none =>
    refine iff_of_false (by simp [doBoundSearch, resultOf]) ?_
    rintro ⟨_, h, -⟩
    cases h
  | some v =>
    simp only [doBoundSearch_fst]
    rw [doSearch_single listerOf_readsOnly hparse]
    simp

omit [External] [Library] in
theorem isRootDseRequest_of_parse {dnParts : List Rdn}
    (h : parseDistinguishedName request.base = .ok dnParts) : isRootDseRequest request = false := by
  rw [isRootDseRequest]
  by_cases hempty : request.base = ""
  · rw [hempty] at h
    cases h
  · simp [hempty]

/-- Two bases that are read as the same RDNs give the same result code and the same entries exactly
under the condition above. -/
theorem spelling_iff {dnParts : List Rdn}
    (hparse : parseDistinguishedName request.base = .ok dnParts)
    (hparse' : parseDistinguishedName base' = .ok dnParts) :
    resultOf (doSearchOrDse (sqlServices S setup rng out) ldapInfo userInfo request w).1 =
        resultOf (doSearchOrDse (sqlServices S setup rng out) ldapInfo userInfo
          (request.withBase base') w).1 ↔
      SpellingsAgree setup rng out ldapInfo userInfo request base' dnParts w := by
  have hdse' : isRootDseRequest (request.withBase base') = false := isRootDseRequest_of_parse hparse'
  rw [doSearchOrDse, doSearchOrDse, isRootDseRequest_of_parse hparse, hdse']
  have hschema : resultOf ((pure (found [makeLdapSubschemaEntry ldapInfo.baseDnStr]) :
      Eff World Failure (List LdapOp)) w).1 =
        (some .success, [makeLdapSubschemaEntry ldapInfo.baseDnStr]) := by
    rw [Eff.pure_run, resultOf_found]
  cases hleft : isSubschemaEntryRequest request with
  | true =>
    cases hright : isSubschemaEntryRequest (request.withBase base') with
    | true =>
      simp only [Bool.false_eq_true, if_true, if_false]
      refine iff_of_true True.intro ⟨?_, ?_, ?_⟩ <;> simp [hleft, hright]
    | false =>
      simp only [Bool.false_eq_true, if_true, if_false, hschema]
      constructor
      · intro heq
        exact ⟨fun _ _ => (bound_single (request.withBase base') hparse').mp heq.symm, by simp [hleft], by simp [hleft]⟩
      · intro hagree
        exact ((bound_single (request.withBase base') hparse').mpr (hagree.left hleft hright)).symm
  | false =>
    cases hright : isSubschemaEntryRequest (request.withBase base') with
    | true =>
      simp only [Bool.false_eq_true, if_true, if_false, hschema]
      constructor
      · intro heq
        exact ⟨by simp [hleft], fun _ _ => (bound_single request hparse).mp heq, by simp [hright]⟩
      · intro hagree
        exact (bound_single request hparse).mpr (hagree.right hleft hright)
    | false =>
      simp only [Bool.false_eq_true, if_false]
      have hcond : SpellingsAgree setup rng out ldapInfo userInfo request base' dnParts w ↔
          ∀ v, userInfo = some v →
            SameEntries (listerOf setup rng out v) ldapInfo request base' dnParts w
              (getSearchScope ldapInfo.baseDn dnParts request.scope (Sql.getAllowedOus w.db)) :=
        ⟨fun hagree => hagree.bound hleft hright,
          fun hbound => ⟨by simp [hleft], by simp [hright], fun _ _ => hbound⟩⟩
      rw [hcond]
      cases userInfo with
      | none => exact iff_of_true rfl fun v h => by cases h
      | some v =>
        simp only [doBoundSearch_fst]
        rw [doSearch_spelling listerOf_readsOnly hparse hparse']
        simp

theorem sameEntries_of_lower {σ : Type} {backend : UserRestrictedLister S σ} {dnParts : List Rdn}
    {s : σ} (h : asciiLower request.base = asciiLower base') (kind : SearchScope) :
    SameEntries backend ldapInfo request base' dnParts s kind := by
  have hat : ∀ e, isAtBase request e = isAtBase (request.withBase base') e := by
    intro e
    unfold isAtBase
    rw [withBase_base, h]
  have hunder : ∀ e, underBase request dnParts e = underBase (request.withBase base') dnParts e := by
    intro e
    unfold underBase
    rw [withBase_base, withBase_scope, h]
  cases kind with
  | container => exact fun _ _ _ _ e _ => hunder e
  | leafUser => exact fun _ _ _ _ _ _ _ e _ => hat e
  | leafGroup => exact fun _ _ _ _ _ _ _ e _ => hat e
  | root => trivial
  | invalid => trivial
  | unknown => trivial

end

open Plain in
/-- The case of letters does not matter at a container. -/
theorem case_of_people :
    resultOf (searchByAlice (namesAt "ou=people,dc=example,dc=com" .subtree) unitStore) =
      resultOf (searchByAlice (namesAt "OU=People,DC=example,DC=com" .subtree) unitStore) := by
  have hparse : ∀ base ∈ ["ou=people,dc=example,dc=com", "OU=People,DC=example,DC=com"],
      parseDistinguishedName base = .ok [("ou", "people"), ("dc", "example"), ("dc", "com")] := by
    decide
  have hspelled : namesAt "OU=People,DC=example,DC=com" .subtree =
      (namesAt "ou=people,dc=example,dc=com" .subtree).withBase "OU=People,DC=example,DC=com" := rfl
  rw [searchByAlice, searchByAlice, hspelled]
  refine (spelling_iff (hparse _ ?_) (hparse _ ?_)).mpr ⟨?_, ?_, fun _ _ v _ => ?_⟩
  · exact List.mem_cons_self
  · exact List.mem_cons_of_mem _ List.mem_cons_self
  · exact fun h => absurd h (by decide)
  · exact fun _ h => absurd h (by decide)
  · exact sameEntries_of_lower (by decide) _

def allBelow (base : String) : LdapSearchRequest := ⟨base, .subtree, .and [], ["1.1"]⟩

open Plain in
/-- A blank after a comma hides what is under a container. -/
theorem blank_hides_people :
    parseDistinguishedName "ou=people, dc=example,dc=com" =
      parseDistinguishedName "ou=people,dc=example,dc=com" ∧
    resultOf (searchByAlice (allBelow "ou=people, dc=example,dc=com") unitStore) ≠
      resultOf (searchByAlice (allBelow "ou=people,dc=example,dc=com") unitStore) := by
  decide +kernel

end Ldap
end Klldap
