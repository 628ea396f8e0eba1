import Klldap.Lib.Effect

/-!
# Relational: two computations that can fail

`ExceptRel Q x y`: `x` and `y` fail alike or return results related by `Q`.
-/

namespace Lib

/-- The same failure, or results related by `Q`. -/
inductive ExceptRel {ε α β : Type} (Q : α → β → Prop) : Except ε α → Except ε β → Prop where
  | error (e : ε) : ExceptRel Q (.error e) (.error e)
  | ok {a : α} {b : β} (h : Q a b) : ExceptRel Q (.ok a) (.ok b)

theorem ExceptRel.of_map_eq {ε α β : Type} {x y : Except ε α} {g : α → β}
    (h : x.map g = y.map g) : ExceptRel (fun a b => g a = g b) x y := by
  cases x <;> cases y <;> simp only [Except.map, reduceCtorEq, Except.error.injEq,
    Except.ok.injEq] at h
  · subst h
    exact .error _
  · exact .ok h

theorem ExceptRel.refl {ε α : Type} {Q : α → α → Prop} (h : ∀ a, Q a a) (x : Except ε α) :
    ExceptRel Q x x := by
  cases x with
  | error e => exact .error e
  | ok a => exact .ok (h a)

theorem ExceptRel.mono {ε α β : Type} {Q Q' : α → β → Prop} {x : Except ε α} {y : Except ε β}
    (h : ExceptRel Q x y) (hQ : ∀ a b, Q a b → Q' a b) : ExceptRel Q' x y := by
  cases h with
  | error e => exact .error e
  | ok h => exact .ok (hQ _ _ h)

theorem ExceptRel.bind {ε α β γ δ : Type} {Q : α → β → Prop} {P : γ → δ → Prop} {x : Except ε α}
    {y : Except ε β} {f : α → Except ε γ} {g : β → Except ε δ} (h : ExceptRel Q x y)
    (hf : ∀ a b, Q a b → ExceptRel P (f a) (g b)) : ExceptRel P (x >>= f) (y >>= g) := by
  cases h with
  | error e => exact .error e
  | ok h => exact hf _ _ h

theorem ExceptRel.mapM {ε α β : Type} {P : Prop} {f g : α → Except ε β} {l : List α}
    (h : ∀ a ∈ l, ExceptRel (fun b c => P → b = c) (f a) (g a)) :
    ExceptRel (fun bs cs => P → bs = cs) (l.mapM f) (l.mapM g) := by
  induction l with
  | nil => exact .ok fun _ => rfl
  | cons a l ih =>
    simp only [List.mapM_cons]
    refine (h a List.mem_cons_self).bind fun b c hbc => ?_
    refine (ih fun x hx => h x (List.mem_cons_of_mem a hx)).bind fun bs cs hbcs => ?_
    exact .ok fun hP => by rw [hbc hP, hbcs hP]

theorem mapM_filter_congr {ε α β : Type} {f g : α → Except ε β} {p : β → Bool} {l : List α}
    (h : ∀ a ∈ l, ExceptRel (fun b c => p b = p c ∧ (p b = true → b = c)) (f a) (g a)) :
    (l.mapM f).map (List.filter p) = (l.mapM g).map (List.filter p) := by
  induction l with
  | nil => rfl
  | cons a l ih =>
    have ih := ih fun b hb => h b (List.mem_cons_of_mem a hb)
    have ha := h a List.mem_cons_self
    simp only [List.mapM_cons]
    revert ha ih
    generalize f a = x, g a = y, l.mapM f = xs, l.mapM g = ys
    intro ih ha
    cases ha with
    | error e => rfl
    | ok hbc =>
      obtain ⟨hp, hbc⟩ := hbc
      cases xs <;> cases ys <;> simp only [Except.map, reduceCtorEq, Except.error.injEq,
        Except.ok.injEq] at ih
      · exact congrArg Except.error ih
      · rename_i b c bs cs
        refine congrArg Except.ok ?_
        cases hb : p b with
        | false => simp [hb, hp ▸ hb, ih]
        | true => simp [hbc hb ▸ hb, hbc hb, ih]

end Lib
