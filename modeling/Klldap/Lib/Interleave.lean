import Klldap.Lib.Effect
import Klldap.Lib.Run

/-!
# Interleave: threads over a shared state

Any number of threads share a state. A thread is what it has still to do: one atomic step of it runs
on the shared state, may fail, and leaves what is to do afterwards, or nothing. Threads start at any
time and advance in any order.

- `Pool.Sound`: what to prove of the steps of one thread for an invariant of the shared state, an
  assertion about each thread and a relation between any two threads.
- `Pool.invariant`: then all three hold after every run.
-/

namespace Lib

structure Pool (σ θ : Type) where
  shared : σ
  threads : List θ

namespace Pool

variable {σ ε ι θ : Type}

inductive Move (ι θ : Type) where
  | start (t : θ)
  | advance (k : Nat) (i : ι)

def left (r : Except ε (Option θ)) : Option θ := (r.toOption).join

def move (step : ι → θ → Eff σ ε (Option θ)) (p : Pool σ θ) : Move ι θ → Unit × Pool σ θ
  | .start t => ((), { p with threads := t :: p.threads })
  | .advance k i =>
    match p.threads[k]? with
    | none => ((), p)
    | some t =>
      let r := step i t p.shared
      ((), ⟨r.2, p.threads.take k ++ (left r.1).toList ++ p.threads.drop (k + 1)⟩)

theorem move_advance (step : ι → θ → Eff σ ε (Option θ)) (p : Pool σ θ) (k : Nat) (i : ι) :
    (move step p (.advance k i)).2 = p ∨
      ∃ l₁ t l₂, p.threads[k]? = some t ∧ p.threads = l₁ ++ t :: l₂ ∧
        (move step p (.advance k i)).2 =
          ⟨(step i t p.shared).2, l₁ ++ (left (step i t p.shared).1).toList ++ l₂⟩ := by
  cases ht : p.threads[k]? with
  | none =>
    simp only [move, ht, true_or]
  | some t =>
    simp only [move, ht]
    refine .inr ⟨p.threads.take k, t, p.threads.drop (k + 1), rfl, ?_, rfl⟩
    obtain ⟨hk, rfl⟩ := List.getElem?_eq_some_iff.mp ht
    rw [List.getElem_cons_drop, List.take_append_drop]

/-- The invariant `I` of the shared state, the assertion `J` about each thread, and the relation `C`
between any two of them. -/
structure Holds (I : σ → Prop) (J : σ → θ → Prop) (C : θ → θ → Prop) (p : Pool σ θ) : Prop where
  shared : I p.shared
  threads : ∀ t ∈ p.threads, J p.shared t
  pairwise : p.threads.Pairwise C

/-- A step of one thread that meets `ok` keeps the invariant and its own assertion, does not interfere
with the assertions of the threads it is related to, and leaves the thread related to them. -/
structure Sound (step : ι → θ → Eff σ ε (Option θ)) (ok : ι → θ → σ → Prop) (I : σ → Prop)
    (J : σ → θ → Prop) (C : θ → θ → Prop) : Prop where
  symm : ∀ t u, C t u → C u t
  invariant : ∀ i t s, ok i t s → I s → J s t → I (step i t s).2
  own : ∀ i t s t', ok i t s → I s → J s t → left (step i t s).1 = some t' → J (step i t s).2 t'
  others : ∀ i t s u, ok i t s → I s → J s t → C t u → J s u → J (step i t s).2 u
  related : ∀ i t s t' u, ok i t s → I s → J s t → J s u → left (step i t s).1 = some t' →
    C t u → C t' u

variable {step : ι → θ → Eff σ ε (Option θ)} {ok : ι → θ → σ → Prop} {I : σ → Prop} {J : σ → θ → Prop} {C : θ → θ → Prop}
  {p : Pool σ θ}

theorem Holds.start (h : Holds I J C p) {t : θ} (hJ : J p.shared t)
    (hC : ∀ u ∈ p.threads, C t u) : Holds I J C (move step p (.start t)).2 where
  shared := h.shared
  threads u hu := by
    rcases List.mem_cons.mp hu with rfl | hu
    · exact hJ
    · exact h.threads u hu
  pairwise := List.pairwise_cons.mpr ⟨hC, h.pairwise⟩

theorem Holds.advance_at (hs : Sound step ok I J C) {s : σ} {l₁ l₂ : List θ} {t : θ}
    (h : Holds I J C ⟨s, l₁ ++ t :: l₂⟩) {i : ι} (hok : ok i t s) :
    Holds I J C ⟨(step i t s).2, l₁ ++ (left (step i t s).1).toList ++ l₂⟩ := by
  have hJ : J s t := h.threads t (by simp)
  obtain ⟨hl₁, hl₂, hcross⟩ := List.pairwise_append.mp h.pairwise
  obtain ⟨htl₂, hl₂⟩ := List.pairwise_cons.mp hl₂
  have hother {u : θ} (hu : u ∈ l₁ ∨ u ∈ l₂) : C t u := by
    rcases hu with hu | hu
    · exact hs.symm u t (hcross u hu t List.mem_cons_self)
    · exact htl₂ u hu
  have hasserts {u : θ} (hu : u ∈ l₁ ∨ u ∈ l₂) : J s u := by
    refine h.threads u ?_
    rcases hu with hu | hu <;> simp [hu]
  have hrest {u : θ} (hu : u ∈ l₁ ∨ u ∈ l₂) : J (step i t s).2 u :=
    hs.others i t s u hok h.shared hJ (hother hu) (hasserts hu)
  refine ⟨hs.invariant i t s hok h.shared hJ, fun u hu => ?_, ?_⟩
  · simp only [List.append_assoc, List.mem_append, Option.mem_toList] at hu
    rcases hu with hu | hu | hu
    · exact hrest (.inl hu)
    · exact hs.own i t s u hok h.shared hJ hu
    · exact hrest (.inr hu)
  · cases hleft : left (step i t s).1 with
    | none =>
      simp only [Option.toList_none, List.append_nil]
      exact List.pairwise_append.mpr ⟨hl₁, hl₂, fun a ha b hb => hcross a ha b (by simp [hb])⟩
    | some t' =>
      have hrel {u : θ} (hu : u ∈ l₁ ∨ u ∈ l₂) : C t' u :=
        hs.related i t s t' u hok h.shared hJ (hasserts hu) hleft (hother hu)
      simp only [Option.toList_some, List.append_assoc, List.singleton_append]
      refine List.pairwise_append.mpr ⟨hl₁, List.pairwise_cons.mpr ⟨fun b hb => ?_, hl₂⟩, ?_⟩
      · exact hrel (.inr hb)
      · intro a ha b hb
        rcases List.mem_cons.mp hb with rfl | hb
        · exact hs.symm b a (hrel (.inl ha))
        · exact hcross a ha b (by simp [hb])

theorem Holds.advance (hs : Sound step ok I J C) (h : Holds I J C p) {k : Nat} {i : ι}
    (hok : ∀ t, p.threads[k]? = some t → ok i t p.shared) :
    Holds I J C (move step p (.advance k i)).2 := by
  rcases move_advance step p k i with heq | ⟨l₁, t, l₂, hk, hsplit, heq⟩
  · rw [heq]
    exact h
  · have hat : Holds I J C ⟨p.shared, l₁ ++ t :: l₂⟩ := hsplit ▸ h
    rw [heq]
    exact hat.advance_at hs (hok t hk)

theorem invariant (hs : Sound step ok I J C) {init : Pool σ θ} (hinit : Holds I J C init)
    {okMove : List (Event (Pool σ θ) (Move ι θ) Unit) → Pool σ θ → Move ι θ → Prop}
    (hstart : ∀ h p t, Holds I J C p → okMove h p (.start t) →
      J p.shared t ∧ ∀ u ∈ p.threads, C t u)
    (hadvance : ∀ h p k i, okMove h p (.advance k i) → ∀ t, p.threads[k]? = some t → ok i t p.shared)
    {history : List (Event (Pool σ θ) (Move ι θ) Unit)}
    (run : Run (move step) okMove init history p) : Holds I J C p := by
  refine run.invariant (P := fun _ p => Holds I J C p) hinit fun h p m hp hok => ?_
  cases m with
  | start t => exact hp.start (hstart h p t hp hok).1 (hstart h p t hp hok).2
  | advance k i => exact hp.advance hs (hadvance h p k i hok)

end Pool

end Lib
