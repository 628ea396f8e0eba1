import Mathlib

/-!
# Run: histories of a reactive system

A system answers one input at a time. Its runs are kept with their whole history, oldest event
first, so that a property can speak of what happened *earlier*. The inputs a run may take are
limited by a predicate on the history, the state and the input (what the environment can do, or
the condition under which a property is promised).

- `Run.invariant`: what holds at the start and is kept by every admissible step holds after
  every run.
- `Run.event`: every event of a run is one admissible step taken after the run before it.
-/

namespace Lib

/-- One exchange of a run: the state it found, the input, the answer, the state it left. -/
structure Event (σ ι ο : Type) where
  pre : σ
  input : ι
  output : ο
  post : σ

section Run

variable {σ ι ο : Type}

def eventAt (step : σ → ι → ο × σ) (s : σ) (i : ι) : Event σ ι ο :=
  ⟨s, i, (step s i).1, (step s i).2⟩

/-- The runs of `step` from `init` whose inputs are all admissible, with their histories. -/
inductive Run (step : σ → ι → ο × σ) (ok : List (Event σ ι ο) → σ → ι → Prop) (init : σ) :
    List (Event σ ι ο) → σ → Prop
  | nil : Run step ok init [] init
  | snoc {h : List (Event σ ι ο)} {s : σ} (i : ι) :
      Run step ok init h s → ok h s i →
      Run step ok init (h ++ [eventAt step s i]) (step s i).2

namespace Run

variable {step : σ → ι → ο × σ} {ok ok' : List (Event σ ι ο) → σ → ι → Prop} {init : σ}

theorem invariant {P : List (Event σ ι ο) → σ → Prop} (h₀ : P [] init)
    (hstep : ∀ h s i, P h s → ok h s i → P (h ++ [eventAt step s i]) (step s i).2)
    {h : List (Event σ ι ο)} {s : σ} (hr : Run step ok init h s) : P h s := by
  induction hr with
  | nil => exact h₀
  | snoc i _ hok ih => exact hstep _ _ i ih hok

theorem extend {h : List (Event σ ι ο)} {s : σ} (hr : Run step ok init h s) (l : List ι)
    (hok : ∀ i ∈ l, ∀ h s, ok h s i) :
    ∃ h', Run step ok init h' (l.foldl (fun s i => (step s i).2) s) := by
  induction l generalizing h s with
  | nil => exact ⟨h, hr⟩
  | cons i l ih =>
    exact ih (hr.snoc i (hok i (by simp) h s)) fun j hj => hok j (by simp [hj])

def checkAll (step : σ → ι → ο × σ) (check : σ → ι → Bool) : σ → List ι → Bool
  | _, [] => true
  | s, i :: l => check s i && checkAll step check (step s i).2 l

theorem extend_checked {check : σ → ι → Bool} (hcheck : ∀ h s i, check s i = true → ok h s i)
    {h : List (Event σ ι ο)} {s : σ} (hr : Run step ok init h s) {l : List ι}
    (hl : checkAll step check s l = true) :
    ∃ h', Run step ok init h' (l.foldl (fun s i => (step s i).2) s) := by
  induction l generalizing h s with
  | nil => exact ⟨h, hr⟩
  | cons i l ih =>
    rw [checkAll, Bool.and_eq_true] at hl
    exact ih (hr.snoc i (hcheck h s i hl.1)) hl.2

theorem event {h h₁ h₂ : List (Event σ ι ο)} {e : Event σ ι ο} {s : σ}
    (hr : Run step ok init h s) (hh : h = h₁ ++ e :: h₂) :
    Run step ok init h₁ e.pre ∧ ok h₁ e.pre e.input ∧ e = eventAt step e.pre e.input := by
  induction hr generalizing h₂ with
  | nil => simp at hh
  | snoc i hr hok ih =>
    rcases List.eq_nil_or_concat h₂ with rfl | ⟨h₂', e', rfl⟩
    · obtain ⟨rfl, heq⟩ := List.append_inj' hh rfl
      cases heq
      exact ⟨hr, hok, rfl⟩
    · rw [List.concat_eq_append, ← List.cons_append, ← List.append_assoc] at hh
      exact ih (List.append_inj' hh rfl).1

end Run

end Run

end Lib
