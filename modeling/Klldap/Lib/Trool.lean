import Mathlib

/-!
# Trool: the three-valued logic of SQL conditions

A comparison with `NULL` is neither true nor false. A `WHERE` clause keeps the rows for which the
condition is true, so a negation of an unknown condition keeps as little as the condition itself.
-/

namespace Lib

inductive Trool where
  | no | unknown | yes
deriving DecidableEq

namespace Trool

def ofBool (b : Bool) : Trool := if b then .yes else .no

def ofOption {α : Type} (p : α → Bool) : Option α → Trool
  | none => .unknown
  | some a => ofBool (p a)

def and : Trool → Trool → Trool
  | .no, _ | _, .no => .no
  | .yes, .yes => .yes
  | _, _ => .unknown

def or : Trool → Trool → Trool
  | .yes, _ | _, .yes => .yes
  | .no, .no => .no
  | _, _ => .unknown

def not : Trool → Trool
  | .no => .yes
  | .unknown => .unknown
  | .yes => .no

def all : List Trool → Trool
  | [] => .yes
  | t :: ts => t.and (all ts)

def any : List Trool → Trool
  | [] => .no
  | t :: ts => t.or (any ts)

def holds : Trool → Bool
  | .yes => true
  | _ => false

@[simp] theorem holds_yes : yes.holds = true := rfl

@[simp] theorem holds_ofBool (b : Bool) : (ofBool b).holds = b := by
  cases b <;> rfl

@[simp] theorem holds_and (s t : Trool) : (s.and t).holds = (s.holds && t.holds) := by
  cases s <;> cases t <;> rfl

@[simp] theorem holds_or (s t : Trool) : (s.or t).holds = (s.holds || t.holds) := by
  cases s <;> cases t <;> rfl

/-! ## Known values -/

theorem ofBool_ne_unknown (b : Bool) : ofBool b ≠ .unknown := by
  cases b <;> nofun

theorem holds_iff {t : Trool} : t.holds = true ↔ t = .yes := by
  cases t <;> simp [holds]

theorem holds_not_iff {t : Trool} : t.not.holds = true ↔ t = .no := by
  cases t <;> simp [holds, not]

theorem not_ne_unknown {t : Trool} (h : t ≠ .unknown) : t.not ≠ .unknown := by
  cases t <;> simp_all [not]

theorem all_ne_unknown {ts : List Trool} (h : ∀ t ∈ ts, t ≠ .unknown) : all ts ≠ .unknown := by
  induction ts with
  | nil => exact nofun
  | cons t ts ih =>
    have ht := h t List.mem_cons_self
    have hts := ih fun s hs => h s (List.mem_cons_of_mem t hs)
    rw [all]
    cases t <;> cases hall : all ts <;> simp_all [Trool.and]

theorem any_ne_unknown {ts : List Trool} (h : ∀ t ∈ ts, t ≠ .unknown) : any ts ≠ .unknown := by
  induction ts with
  | nil => exact nofun
  | cons t ts ih =>
    have ht := h t List.mem_cons_self
    have hts := ih fun s hs => h s (List.mem_cons_of_mem t hs)
    rw [any]
    cases t <;> cases hany : any ts <;> simp_all [Trool.or]

end Trool

end Lib
