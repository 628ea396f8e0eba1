import Klldap.Ldap.Filters

/-!
# Klldap.Ldap.Translation: the simplified filter means what the LDAP filter means

The translation of a filter drops neutral parts, opens parts of the same kind, unwraps single parts
and folds negated constants. None of this changes what the filter says of an entry, whichever of its
leaf conditions hold.
-/

namespace Klldap
namespace Ldap

open Lib (except_bind_ok except_bind_error)

/-! ## Trees and their leaves -/

/-- The filter is no connective. -/
def LdapFilter.IsLeaf : LdapFilter → Prop
  | .and _ | .or _ | .not _ => False
  | _ => True

mutual

def LdapFilter.leaves : LdapFilter → List LdapFilter
  | .and fs => leavesOf fs
  | .or fs => leavesOf fs
  | .not f => f.leaves
  | f => [f]

def LdapFilter.leavesOf : List LdapFilter → List LdapFilter
  | [] => []
  | f :: fs => f.leaves ++ leavesOf fs

end

mutual

def LdapFilter.eval (leaf : LdapFilter → Bool) : LdapFilter → Bool
  | .and fs => (evalEach leaf fs).all id
  | .or fs => (evalEach leaf fs).any id
  | .not f => !f.eval leaf
  | f => leaf f

def LdapFilter.evalEach (leaf : LdapFilter → Bool) : List LdapFilter → List Bool
  | [] => []
  | f :: fs => f.eval leaf :: evalEach leaf fs

end

mutual

/-- The truth of a backend filter under an assignment of truth values to its conditions. -/
def UserFilter.eval (holds : UserRequestFilter → Bool) : UserRequestFilter → Bool
  | .true => true
  | .false => false
  | .and fs => (evalEach holds fs).all id
  | .or fs => (evalEach holds fs).any id
  | .not f => !eval holds f
  | f => holds f

def UserFilter.evalEach (holds : UserRequestFilter → Bool) : List UserRequestFilter → List Bool
  | [] => []
  | f :: fs => eval holds f :: evalEach holds fs

end

mutual

def GroupFilter.eval (holds : GroupRequestFilter → Bool) : GroupRequestFilter → Bool
  | .true => true
  | .false => false
  | .and fs => (evalEach holds fs).all id
  | .or fs => (evalEach holds fs).any id
  | .not f => !eval holds f
  | f => holds f

def GroupFilter.evalEach (holds : GroupRequestFilter → Bool) : List GroupRequestFilter → List Bool
  | [] => []
  | f :: fs => eval holds f :: evalEach holds fs

end

theorem LdapFilter.evalEach_eq (leaf : LdapFilter → Bool) (fs : List LdapFilter) :
    evalEach leaf fs = fs.map (eval leaf) := by
  induction fs with
  | nil => rfl
  | cons f fs ih => rw [evalEach, ih, List.map_cons]

theorem UserFilter.evalEach_eq (holds : UserRequestFilter → Bool) (fs : List UserRequestFilter) :
    evalEach holds fs = fs.map (eval holds) := by
  induction fs with
  | nil => rfl
  | cons f fs ih => rw [evalEach, ih, List.map_cons]

theorem GroupFilter.evalEach_eq (holds : GroupRequestFilter → Bool) (fs : List GroupRequestFilter) :
    evalEach holds fs = fs.map (eval holds) := by
  induction fs with
  | nil => rfl
  | cons f fs ih => rw [evalEach, ih, List.map_cons]

theorem joinParts_all {α : Type} {isNeutral : α → Bool} {parts : α → List α} {neutral : α}
    {build : List α → α} (ev : α → Bool) (hneutral : ∀ f, isNeutral f = true → ev f = true)
    (hparts : ∀ f, (parts f).all ev = ev f) (hnone : ev neutral = true)
    (hbuild : ∀ fs, ev (build fs) = fs.all ev) (converted : List α) :
    ev (joinParts isNeutral parts neutral build converted) = converted.all ev := by
  have hkept : ((converted.filter fun f => !isNeutral f).flatMap parts).all ev =
      converted.all ev := by
    induction converted with
    | nil => rfl
    | cons f fs ih =>
      by_cases hf : isNeutral f = true
      · simp [hf, hneutral f hf, ih]
      · simp [hf, hparts f, ih]
  rw [← hkept]
  unfold joinParts
  split
  · rename_i h
    rw [h, hnone]
    rfl
  · rename_i f h
    simp [h]
  · rw [hbuild]

theorem joinParts_any {α : Type} {isNeutral : α → Bool} {parts : α → List α} {neutral : α}
    {build : List α → α} {ev : α → Bool} (hneutral : ∀ f, isNeutral f = true → ev f = false)
    (hparts : ∀ f, (parts f).any ev = ev f) (hnone : ev neutral = false)
    (hbuild : ∀ fs, ev (build fs) = fs.any ev) (converted : List α) :
    ev (joinParts isNeutral parts neutral build converted) = converted.any ev := by
  have hdual : (!ev (joinParts isNeutral parts neutral build converted)) =
      converted.all fun f => !ev f :=
    joinParts_all (fun f => !ev f) (fun f hf => by simp [hneutral f hf])
      (fun f => by rw [← hparts f, List.not_any_eq_all_not]) (by simp [hnone])
      (fun fs => by rw [hbuild, List.not_any_eq_all_not]) converted
  rw [← List.not_any_eq_all_not] at hdual
  simpa using hdual

theorem joinParts_closed {α : Type} {isNeutral : α → Bool} {parts : α → List α} {neutral : α}
    {build : List α → α} {P : α → Prop} (hparts : ∀ f, P f → ∀ g ∈ parts f, P g)
    (hnone : P neutral) (hbuild : ∀ fs, (∀ f ∈ fs, P f) → P (build fs)) {converted : List α}
    (h : ∀ f ∈ converted, P f) : P (joinParts isNeutral parts neutral build converted) := by
  have hall : ∀ g ∈ (converted.filter fun f => !isNeutral f).flatMap parts, P g := by
    intro g hg
    obtain ⟨f, hf, hg⟩ := List.mem_flatMap.mp hg
    exact hparts f (h f (List.mem_of_mem_filter hf)) g hg
  unfold joinParts
  split
  · exact hnone
  · rename_i f heq
    exact hall f (by simp [heq])
  · exact hbuild _ hall

/-! ## Translations -/

/-- A translation of trees: leaves are translated by themselves, and the parts of a connective are
joined to something that means the same. -/
structure Simplifies {α : Type} (convert : LdapFilter → LdapResult α)
    (convertAll : List LdapFilter → LdapResult (List α)) (joinAnd joinOr : List α → α)
    (negate : α → α) : Prop where
  and : ∀ fs, convert (.and fs) = (convertAll fs).map joinAnd
  or : ∀ fs, convert (.or fs) = (convertAll fs).map joinOr
  not : ∀ f, convert (.not f) = (convert f).map negate
  nil : convertAll [] = .ok []
  cons : ∀ f fs, convertAll (f :: fs) = convert f >>= fun c => (convertAll fs).map (c :: ·)

/-- The joins and the negation mean what they should. -/
structure Truthful {α : Type} (joinAnd joinOr : List α → α) (negate : α → α) (ev : α → Bool) :
    Prop where
  and : ∀ cs, ev (joinAnd cs) = cs.all ev
  or : ∀ cs, ev (joinOr cs) = cs.any ev
  not : ∀ c, ev (negate c) = !ev c

namespace Simplifies

variable {α : Type} {convert : LdapFilter → LdapResult α}
  {convertAll : List LdapFilter → LdapResult (List α)} {joinAnd joinOr : List α → α}
  {negate : α → α}

theorem map_error {β γ : Type} {x : LdapResult β} {f : β → γ} :
    (∃ e, x.map f = .error e) ↔ ∃ e, x = .error e := by
  cases x <;> simp [Except.map]

mutual

theorem error_iff (h : Simplifies convert convertAll joinAnd joinOr negate) : ∀ f : LdapFilter,
    (∃ e, convert f = .error e) ↔ ∃ l ∈ f.leaves, ∃ e, convert l = .error e
  | .and fs => by
    rw [h.and, map_error, LdapFilter.leaves]
    exact errorAll_iff h fs
  | .or fs => by
    rw [h.or, map_error, LdapFilter.leaves]
    exact errorAll_iff h fs
  | .not f => by
    rw [h.not, map_error, LdapFilter.leaves]
    exact error_iff h f
  | .equality _ _ | .substring _ _ | .greaterOrEqual _ _ | .lessOrEqual _ _ | .present _
  | .approx _ _ | .extensible _ _ _ _ => by simp [LdapFilter.leaves]

theorem errorAll_iff (h : Simplifies convert convertAll joinAnd joinOr negate) :
    ∀ fs : List LdapFilter, (∃ e, convertAll fs = .error e) ↔
      ∃ l ∈ LdapFilter.leavesOf fs, ∃ e, convert l = .error e
  | [] => by simp [h.nil, LdapFilter.leavesOf]
  | f :: fs => by
    have hhead := error_iff h f
    have htail := errorAll_iff h fs
    rw [h.cons, LdapFilter.leavesOf]
    simp only [List.mem_append, or_and_right, exists_or, ← hhead, ← htail]
    cases hf : convert f with
    | error e => simp [Bind.bind, Except.bind]
    | ok c =>
      simp only [Bind.bind, Except.bind, reduceCtorEq, exists_false, false_or]
      exact map_error

end

def leafValue (convert : LdapFilter → LdapResult α) (ev : α → Bool) (l : LdapFilter) : Bool :=
  match convert l with
  | .ok c => ev c
  | .error _ => false

variable {ev : α → Bool}

mutual

theorem eval_eq (h : Simplifies convert convertAll joinAnd joinOr negate)
    (ht : Truthful joinAnd joinOr negate ev) : ∀ (f : LdapFilter) (c : α), convert f = .ok c → ev c = f.eval (leafValue convert ev)
  | .and fs, c, hc => by
    rw [h.and] at hc
    obtain ⟨cs, hcs, rfl⟩ := Lib.except_map_ok.mp hc
    rw [ht.and, LdapFilter.eval, ← evalAll_eq h ht fs cs hcs, List.all_map]
    rfl
  | .or fs, c, hc => by
    rw [h.or] at hc
    obtain ⟨cs, hcs, rfl⟩ := Lib.except_map_ok.mp hc
    rw [ht.or, LdapFilter.eval, ← evalAll_eq h ht fs cs hcs, List.any_map]
    rfl
  | .not f, c, hc => by
    rw [h.not] at hc
    obtain ⟨c', hc', rfl⟩ := Lib.except_map_ok.mp hc
    rw [ht.not, LdapFilter.eval, eval_eq h ht f c' hc']
  | .equality _ _, c, hc | .substring _ _, c, hc | .greaterOrEqual _ _, c, hc
  | .lessOrEqual _ _, c, hc | .present _, c, hc | .approx _ _, c, hc
  | .extensible _ _ _ _, c, hc => by
    simp only [LdapFilter.eval, leafValue, hc]

theorem evalAll_eq (h : Simplifies convert convertAll joinAnd joinOr negate)
    (ht : Truthful joinAnd joinOr negate ev) :
    ∀ (fs : List LdapFilter) (cs : List α), convertAll fs = .ok cs →
      cs.map ev = LdapFilter.evalEach (leafValue convert ev) fs
  | [], cs, hcs => by
    rw [h.nil] at hcs
    cases hcs
    rfl
  | f :: fs, cs, hcs => by
    rw [h.cons] at hcs
    obtain ⟨c, hc, hcs⟩ := except_bind_ok.mp hcs
    obtain ⟨cs', hcs', rfl⟩ := Lib.except_map_ok.mp hcs
    rw [List.map_cons, LdapFilter.evalEach, eval_eq h ht f c hc, evalAll_eq h ht fs cs' hcs']

end

/-- The joins and the negation keep a property of filters. -/
structure Closed (joinAnd joinOr : List α → α) (negate : α → α) (P : α → Prop) : Prop where
  and : ∀ cs, (∀ c ∈ cs, P c) → P (joinAnd cs)
  or : ∀ cs, (∀ c ∈ cs, P c) → P (joinOr cs)
  not : ∀ c, P c → P (negate c)

variable {P : α → Prop}

mutual

theorem closed (h : Simplifies convert convertAll joinAnd joinOr negate)
    (hP : Closed joinAnd joinOr negate P)
    (hleaf : ∀ l : LdapFilter, l.IsLeaf → ∀ c, convert l = .ok c → P c) : ∀ f : LdapFilter,
    ∀ c, convert f = .ok c → P c
  | .and fs, c, hc => by
    rw [h.and] at hc
    obtain ⟨cs, hcs, rfl⟩ := Lib.except_map_ok.mp hc
    exact hP.and cs (closedAll h hP hleaf fs cs hcs)
  | .or fs, c, hc => by
    rw [h.or] at hc
    obtain ⟨cs, hcs, rfl⟩ := Lib.except_map_ok.mp hc
    exact hP.or cs (closedAll h hP hleaf fs cs hcs)
  | .not f, c, hc => by
    rw [h.not] at hc
    obtain ⟨c', hc', rfl⟩ := Lib.except_map_ok.mp hc
    exact hP.not c' (closed h hP hleaf f c' hc')
  | .equality _ _, c, hc | .substring _ _, c, hc | .greaterOrEqual _ _, c, hc
  | .lessOrEqual _ _, c, hc | .present _, c, hc | .approx _ _, c, hc
  | .extensible _ _ _ _, c, hc => by
    refine hleaf _ ?_ c hc
    trivial

theorem closedAll (h : Simplifies convert convertAll joinAnd joinOr negate)
    (hP : Closed joinAnd joinOr negate P)
    (hleaf : ∀ l : LdapFilter, l.IsLeaf → ∀ c, convert l = .ok c → P c) : ∀ fs : List LdapFilter,
    ∀ cs, convertAll fs = .ok cs → ∀ c ∈ cs, P c
  | [], cs, hcs, c, hc => by
    rw [h.nil] at hcs
    cases hcs
    cases hc
  | f :: fs, cs, hcs, c, hc => by
    rw [h.cons] at hcs
    obtain ⟨c₀, hc₀, hcs⟩ := except_bind_ok.mp hcs
    obtain ⟨cs', hcs', rfl⟩ := Lib.except_map_ok.mp hcs
    rcases List.mem_cons.mp hc with rfl | hc
    · exact closed h hP hleaf f c hc₀
    · exact closedAll h hP hleaf fs cs' hcs' c hc

end

end Simplifies

section

variable [External] [Library] (ldapInfo : LdapInfo) (schema : Schema)

theorem convertUserFilter_simplifies :
    Simplifies (convertUserFilter ldapInfo schema) (convertUserFilters ldapInfo schema)
      UserFilter.joinAnd UserFilter.joinOr UserFilter.negate := by
  refine ⟨fun fs => ?_, fun fs => ?_, fun f => ?_, ?_, fun f fs => ?_⟩
  · rw [convertUserFilter]
    rfl
  · rw [convertUserFilter]
    rfl
  · rw [convertUserFilter]
    rfl
  · rw [convertUserFilters]
  · rw [convertUserFilters]
    rfl

theorem convertGroupFilter_simplifies :
    Simplifies (convertGroupFilter ldapInfo schema) (convertGroupFilters ldapInfo schema)
      GroupFilter.joinAnd GroupFilter.joinOr GroupFilter.negate := by
  refine ⟨fun fs => ?_, fun fs => ?_, fun f => ?_, ?_, fun f fs => ?_⟩
  · rw [convertGroupFilter]
    rfl
  · rw [convertGroupFilter]
    rfl
  · rw [convertGroupFilter]
    rfl
  · rw [convertGroupFilters]
  · rw [convertGroupFilters]
    rfl

end

theorem userFilter_truthful (holds : UserRequestFilter → Bool) :
    Truthful UserFilter.joinAnd UserFilter.joinOr UserFilter.negate (UserFilter.eval holds) := by
  refine ⟨joinParts_all _ (fun f hf => ?_) (fun f => ?_) rfl fun fs => ?_,
    joinParts_any (fun f hf => ?_) (fun f => ?_) rfl fun fs => ?_, fun c => ?_⟩
  · cases f <;> first | rfl | cases hf
  · cases f <;> simp [UserFilter.conjuncts, UserFilter.eval, UserFilter.evalEach_eq, List.all_map]
  · simp [UserFilter.eval, UserFilter.evalEach_eq, List.all_map]
  · cases f <;> first | rfl | cases hf
  · cases f <;> simp [UserFilter.disjuncts, UserFilter.eval, UserFilter.evalEach_eq, List.any_map]
  · simp [UserFilter.eval, UserFilter.evalEach_eq, List.any_map]
  · cases c <;> simp [UserFilter.negate, UserFilter.eval]

theorem groupFilter_truthful (holds : GroupRequestFilter → Bool) :
    Truthful GroupFilter.joinAnd GroupFilter.joinOr GroupFilter.negate (GroupFilter.eval holds) := by
  refine ⟨joinParts_all _ (fun f hf => ?_) (fun f => ?_) rfl fun fs => ?_,
    joinParts_any (fun f hf => ?_) (fun f => ?_) rfl fun fs => ?_, fun c => ?_⟩
  · cases f <;> first | rfl | cases hf
  · cases f <;> simp [GroupFilter.conjuncts, GroupFilter.eval, GroupFilter.evalEach_eq, List.all_map]
  · simp [GroupFilter.eval, GroupFilter.evalEach_eq, List.all_map]
  · cases f <;> first | rfl | cases hf
  · cases f <;> simp [GroupFilter.disjuncts, GroupFilter.eval, GroupFilter.evalEach_eq, List.any_map]
  · simp [GroupFilter.eval, GroupFilter.evalEach_eq, List.any_map]
  · cases c <;> simp [GroupFilter.negate, GroupFilter.eval]

/-- A translation into backend filters with truth values `ev` preserves meaning: it fails exactly if
the translation of a leaf does, and what it returns has, under every assignment of truth values to
conditions, the value of the tree whose leaves are replaced by their own translations. -/
def PreservesMeaning {α : Type} (convert : LdapFilter → LdapResult α)
    (ev : (α → Bool) → α → Bool) : Prop :=
  ∀ f : LdapFilter, ((∃ e, convert f = .error e) ↔ ∃ l ∈ f.leaves, ∃ e, convert l = .error e) ∧
    ∀ c, convert f = .ok c → ∀ holds, ev holds c = f.eval (Simplifies.leafValue convert (ev holds))

/-- Both translations preserve meaning, for every base and every schema. -/
theorem convertFilters_meaning [External] [Library] (ldapInfo : LdapInfo) (schema : Schema) :
    PreservesMeaning (convertUserFilter ldapInfo schema) UserFilter.eval ∧
      PreservesMeaning (convertGroupFilter ldapInfo schema) GroupFilter.eval := by
  have huser := convertUserFilter_simplifies ldapInfo schema
  have hgroup := convertGroupFilter_simplifies ldapInfo schema
  refine ⟨fun f => ⟨huser.error_iff f, fun c hc holds => ?_⟩,
    fun f => ⟨hgroup.error_iff f, fun c hc holds => ?_⟩⟩
  · exact huser.eval_eq (userFilter_truthful holds) f c hc
  · exact hgroup.eval_eq (groupFilter_truthful holds) f c hc

end Ldap
end Klldap
