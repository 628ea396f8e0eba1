import Mathlib

/-!
# Effect: state passing with errors, and what a computation may do to its state

A computation of type `Eff σ ε α` takes a state to a result or an error *and* a new state: the
writes made before an error stay. A transaction is the one construct that takes them back.

- `bind_ok` peels a successful sequence into its successful parts.
- `Frames R m`: whatever `m` answers, the state it leaves is `R`-related to the state it found.
  For a reflexive and transitive `R` the rules below close `Frames R` under every construct of
  the language, so the effect of a long procedure is read off its primitive writes.
- `Keeps m`: the case where `m` writes nothing at all.
-/

namespace Lib

/-- A stateful computation that may fail. The state survives the failure. -/
def Eff (σ ε α : Type) : Type := σ → Except ε α × σ

theorem except_bind_ok {ε α β : Type} {x : Except ε α} {f : α → Except ε β} {b : β} :
    (x >>= f) = .ok b ↔ ∃ a, x = .ok a ∧ f a = .ok b := by
  cases x with
  | error e => simp [Bind.bind, Except.bind]
  | ok a => simp [Bind.bind, Except.bind]

theorem except_bind_error {ε α β : Type} {x : Except ε α} {f : α → Except ε β} {e : ε} :
    (x >>= f) = .error e ↔ x = .error e ∨ ∃ a, x = .ok a ∧ f a = .error e := by
  cases x with
  | error e' => simp [Bind.bind, Except.bind]
  | ok a => simp [Bind.bind, Except.bind]

theorem except_mapError_ok {ε ε' α : Type} {x : Except ε α} {f : ε → ε'} {a : α} :
    x.mapError f = .ok a ↔ x = .ok a := by
  cases x <;> simp [Except.mapError]

theorem except_map_ok {ε α β : Type} {x : Except ε α} {f : α → β} {b : β} :
    x.map f = .ok b ↔ ∃ a, x = .ok a ∧ f a = b := by
  cases x <;> simp [Except.map]

theorem exists_of_isOk {ε α : Type} {x : Except ε α} (h : x.isOk = true) : ∃ a, x = .ok a := by
  cases x with
  | ok a => exact ⟨a, rfl⟩
  | error e => cases h

theorem except_mapM_ok {ε α β : Type} {f : α → Except ε β} {l : List α} {bs : List β}
    (h : l.mapM f = .ok bs) : ∀ b ∈ bs, ∃ a ∈ l, f a = .ok b := by
  induction l generalizing bs with
  | nil =>
    cases h
    simp
  | cons a l ih =>
    rw [List.mapM_cons] at h
    obtain ⟨b, hb, h⟩ := except_bind_ok.mp h
    obtain ⟨bs', hbs, h⟩ := except_bind_ok.mp h
    cases h
    intro c hc
    rcases List.mem_cons.mp hc with rfl | hc
    · exact ⟨a, by simp, hb⟩
    · obtain ⟨a', ha', hf⟩ := ih hbs c hc
      exact ⟨a', by simp [ha'], hf⟩

theorem except_mapM_mem {ε α β : Type} {f : α → Except ε β} {l : List α} {bs : List β}
    (h : l.mapM f = .ok bs) : ∀ a ∈ l, ∃ b ∈ bs, f a = .ok b := by
  induction l generalizing bs with
  | nil => simp
  | cons a l ih =>
    rw [List.mapM_cons] at h
    obtain ⟨b, hb, h⟩ := except_bind_ok.mp h
    obtain ⟨bs', hbs, h⟩ := except_bind_ok.mp h
    cases h
    intro c hc
    rcases List.mem_cons.mp hc with rfl | hc
    · exact ⟨b, List.mem_cons_self, hb⟩
    · obtain ⟨b', hb', hf⟩ := ih hbs c hc
      exact ⟨b', List.mem_cons_of_mem b hb', hf⟩

theorem except_mapM_map {ε α β : Type} {f : α → Except ε β} {g : α → β} {l : List α} {bs : List β}
    (h : l.mapM f = .ok bs) (hf : ∀ a b, f a = .ok b → b = g a) : bs = l.map g := by
  induction l generalizing bs with
  | nil =>
    cases h
    rfl
  | cons a l ih =>
    rw [List.mapM_cons] at h
    obtain ⟨b, hb, h⟩ := except_bind_ok.mp h
    obtain ⟨bs', hbs, h⟩ := except_bind_ok.mp h
    cases h
    rw [List.map_cons, ← hf a b hb, ← ih hbs]

theorem except_mapM_error {ε α β : Type} {f : α → Except ε β} {l : List α} {e : ε}
    (h : l.mapM f = .error e) : ∃ a ∈ l, f a = .error e := by
  induction l with
  | nil => cases h
  | cons a l ih =>
    rw [List.mapM_cons] at h
    rcases except_bind_error.mp h with h | ⟨b, -, h⟩
    · exact ⟨a, by simp, h⟩
    · rcases except_bind_error.mp h with h | ⟨bs, -, h⟩
      · obtain ⟨a', ha', hf⟩ := ih h
        exact ⟨a', by simp [ha'], hf⟩
      · cases h

theorem except_mapM_length {ε α β : Type} {f : α → Except ε β} {l : List α} {bs : List β}
    (h : l.mapM f = .ok bs) : l.length = bs.length := by
  induction l generalizing bs with
  | nil =>
    cases h
    rfl
  | cons a l ih =>
    rw [List.mapM_cons] at h
    obtain ⟨b, -, h⟩ := except_bind_ok.mp h
    obtain ⟨bs', hbs, h⟩ := except_bind_ok.mp h
    cases h
    simp [ih hbs]

theorem except_mapM_congr {ε α β : Type} {f g : α → Except ε β} {l : List α} (h : ∀ a ∈ l, f a = g a) :
    l.mapM f = l.mapM g := by
  induction l with
  | nil => rfl
  | cons a l ih =>
    rw [List.mapM_cons, List.mapM_cons, h a List.mem_cons_self,
      ih fun a' ha' => h a' (List.mem_cons_of_mem a ha')]

theorem except_mapM_keys {ε α β κ : Type} {f : α → Except ε β} {k : α → κ} {k' : β → κ} {l : List α}
    {bs : List β} (h : l.mapM f = .ok bs) (hk : ∀ a b, f a = .ok b → k' b = k a) :
    bs.map k' = l.map k := by
  induction l generalizing bs with
  | nil =>
    cases h
    rfl
  | cons a l ih =>
    rw [List.mapM_cons] at h
    obtain ⟨b, hb, h⟩ := except_bind_ok.mp h
    obtain ⟨bs', hbs, h⟩ := except_bind_ok.mp h
    cases h
    rw [List.map_cons, List.map_cons, hk a b hb, ih hbs]

theorem except_isOk_bind {ε α β : Type} {x : Except ε α} {f : α → Except ε β} :
    (x >>= f).isOk = true ↔ ∃ a, x = .ok a ∧ (f a).isOk = true := by
  cases x with
  | error e => simp [bind, Except.bind, Except.isOk, Except.toBool]
  | ok a => simp [bind, Except.bind]

theorem except_isOk_mapM {ε α β : Type} {f : α → Except ε β} {l : List α} :
    (l.mapM f).isOk = true ↔ ∀ a ∈ l, (f a).isOk = true := by
  induction l with
  | nil => simp [pure, Except.pure, Except.isOk, Except.toBool]
  | cons a l ih =>
    rw [List.mapM_cons, except_isOk_bind, List.forall_mem_cons]
    constructor
    · rintro ⟨b, hb, h⟩
      obtain ⟨bs, hbs, -⟩ := except_isOk_bind.mp h
      exact ⟨by rw [hb]; rfl, ih.mp (by rw [hbs]; rfl)⟩
    · rintro ⟨ha, hl⟩
      obtain ⟨b, hb⟩ := exists_of_isOk ha
      obtain ⟨bs, hbs⟩ := exists_of_isOk (ih.mpr hl)
      exact ⟨b, hb, except_isOk_bind.mpr ⟨bs, hbs, rfl⟩⟩

theorem except_find?_of_mapM {ε α β : Type} {f : α → Except ε β} {p : β → Bool} {q : α → Bool}
    (hpq : ∀ x b, f x = .ok b → p b = q x) {l : List α} {bs : List β}
    (h : l.mapM f = .ok bs) {b : β} :
    bs.find? p = some b ↔ ∃ x, l.find? q = some x ∧ f x = .ok b := by
  induction l generalizing bs with
  | nil =>
    cases h
    simp
  | cons x l ih =>
    rw [List.mapM_cons] at h
    obtain ⟨c, hc, h⟩ := except_bind_ok.mp h
    obtain ⟨cs, hcs, h⟩ := except_bind_ok.mp h
    cases h
    rw [List.find?_cons, List.find?_cons, hpq x c hc]
    cases hq : q x with
    | true =>
      simp only [Option.some.injEq, exists_eq_left', hc, Except.ok.injEq]
    | false => exact ih hcs

theorem except_forM_ok {ε α : Type} {f : α → Except ε Unit} {l : List α} :
    l.forM f = .ok () ↔ ∀ a ∈ l, f a = .ok () := by
  induction l with
  | nil => simp [pure, Except.pure]
  | cons a l ih =>
    rw [List.forM, except_bind_ok, List.forall_mem_cons, ← ih]
    exact ⟨fun ⟨_, ha, hl⟩ => ⟨ha, hl⟩, fun ⟨ha, hl⟩ => ⟨(), ha, hl⟩⟩

theorem mapError_map_congr {ε ε' α β : Type} {x y : Except ε α} {g : α → β} {f : ε → ε'}
    (h : x.map g = y.map g) : (x.mapError f).map g = (y.mapError f).map g := by
  cases x <;> cases y <;> simp_all [Except.map, Except.mapError]

theorem bind_congr_of_map {ε α β γ : Type} {x y : Except ε α} {g : α → β} (h : x.map g = y.map g)
    (f : β → Except ε γ) : (x >>= fun a => f (g a)) = y >>= fun a => f (g a) := by
  cases x <;> cases y <;> simp_all [Except.map, bind, Except.bind]

theorem except_map_mapM {ε α β γ : Type} (f : α → Except ε β) (g : β → γ) (l : List α) :
    (l.mapM f).map (List.map g) = l.mapM fun a => (f a).map g := by
  induction l with
  | nil => rfl
  | cons a l ih =>
    rw [List.mapM_cons, List.mapM_cons, ← ih]
    cases f a with
    | error e => rfl
    | ok b => cases l.mapM f <;> rfl

namespace Eff

variable {σ ε ε' α β : Type}

instance : Monad (Eff σ ε) where
  pure a := fun s => (.ok a, s)
  bind m f := fun s =>
    match m s with
    | (.ok a, s') => f a s'
    | (.error e, s') => (.error e, s')

instance : LawfulMonad (Eff σ ε) := by
  refine LawfulMonad.mk' _ (fun m => ?_) (fun a f => rfl) (fun m f g => ?_)
  · funext s
    change (match m s with | (.ok a, s') => (.ok a, s') | (.error e, s') => (.error e, s')) = m s
    cases m s with
    | mk r s' => cases r <;> rfl
  · funext s
    change (match (match m s with | (.ok a, s') => f a s' | (.error e, s') => (.error e, s')) with
        | (.ok b, s') => g b s' | (.error e, s') => (.error e, s')) =
      (match m s with | (.ok a, s') => (f a >>= g) s' | (.error e, s') => (.error e, s'))
    cases m s with
    | mk r s' => cases r <;> rfl

def fail (e : ε) : Eff σ ε α := fun s => (.error e, s)

def orFails (failure : Option ε) (m : Eff σ ε α) : Eff σ ε α :=
  match failure with
  | none => m
  | some e => fail e

def reads (f : σ → α) : Eff σ ε α := fun s => (.ok (f s), s)

def query (f : σ → Except ε α) : Eff σ ε α := fun s => (f s, s)

def writes (f : σ → σ) : Eff σ ε Unit := fun s => (.ok (), f s)

def lift (r : Except ε α) : Eff σ ε α := fun s => (r, s)

/-- Run `m` and hand back its answer, error or not, as a value. -/
def attempt (m : Eff σ ε α) : Eff σ ε' (Except ε α) := fun s => (.ok (m s).1, (m s).2)

def mapErr (f : ε → ε') (m : Eff σ ε α) : Eff σ ε' α := fun s => ((m s).1.mapError f, (m s).2)

/-- Run `m` as a transaction: its writes are undone when it fails. -/
def transaction (m : Eff σ ε α) : Eff σ ε α := fun s =>
  match m s with
  | (.ok a, s') => (.ok a, s')
  | (.error e, _) => (.error e, s)

def zoom {τ : Type} (get : σ → τ) (set : σ → τ → σ) (m : Eff τ ε α) : Eff σ ε α := fun s =>
  ((m (get s)).1, set s (m (get s)).2)

/-- Run `f` on every element in turn, stopping at the first error. -/
def each (f : α → Eff σ ε Unit) : List α → Eff σ ε Unit
  | [] => pure ()
  | a :: as => do
    f a
    each f as

/-! ## Running -/

@[simp] theorem pure_run (a : α) (s : σ) : (pure a : Eff σ ε α) s = (.ok a, s) := rfl

@[simp] theorem fail_run (e : ε) (s : σ) : (fail e : Eff σ ε α) s = (.error e, s) := rfl

@[simp] theorem reads_run (f : σ → α) (s : σ) : (reads f : Eff σ ε α) s = (.ok (f s), s) := rfl

@[simp] theorem query_run (f : σ → Except ε α) (s : σ) : query f s = (f s, s) := rfl

@[simp] theorem writes_run (f : σ → σ) (s : σ) : (writes f : Eff σ ε Unit) s = (.ok (), f s) := rfl

@[simp] theorem lift_run (r : Except ε α) (s : σ) : (lift r : Eff σ ε α) s = (r, s) := rfl

theorem bind_run (m : Eff σ ε α) (f : α → Eff σ ε β) (s : σ) :
    (m >>= f) s =
      match m s with
      | (.ok a, s') => f a s'
      | (.error e, s') => (.error e, s') := rfl

theorem bind_ok {m : Eff σ ε α} {f : α → Eff σ ε β} {s s' : σ} {b : β} :
    (m >>= f) s = (.ok b, s') ↔ ∃ a s₁, m s = (.ok a, s₁) ∧ f a s₁ = (.ok b, s') := by
  rw [bind_run]
  constructor
  · intro h
    split at h
    · rename_i a s₁ hm
      exact ⟨a, s₁, hm, h⟩
    · cases h
  · rintro ⟨a, s₁, hm, hf⟩
    rw [hm]
    exact hf

theorem query_bind_ok {f : σ → Except ε α} {g : α → Eff σ ε β} {s s' : σ} {b : β} :
    (query f >>= g) s = (.ok b, s') ↔ ∃ a, f s = .ok a ∧ g a s = (.ok b, s') := by
  rw [bind_run, query_run]
  cases f s with
  | error e => simp
  | ok a => simp

theorem lift_bind_ok {r : Except ε α} {g : α → Eff σ ε β} {s s' : σ} {b : β} :
    (lift r >>= g) s = (.ok b, s') ↔ ∃ a, r = .ok a ∧ g a s = (.ok b, s') :=
  query_bind_ok

theorem mapErr_ok {m : Eff σ ε α} {f : ε → ε'} {s s' : σ} {a : α} :
    m.mapErr f s = (.ok a, s') ↔ m s = (.ok a, s') := by
  unfold mapErr
  cases m s with
  | mk r s₁ =>
    cases r with
    | error e => simp [Except.mapError]
    | ok b => simp [Except.mapError]

theorem zoom_ok {τ : Type} {get : σ → τ} {set : σ → τ → σ} {m : Eff τ ε α} {s s' : σ} {a : α} :
    zoom get set m s = (.ok a, s') ↔ ∃ t, m (get s) = (.ok a, t) ∧ s' = set s t := by
  unfold zoom
  cases m (get s) with
  | mk r t =>
    simp only [Prod.mk.injEq]
    constructor
    · rintro ⟨rfl, rfl⟩
      exact ⟨t, ⟨rfl, rfl⟩, rfl⟩
    · rintro ⟨t', ⟨rfl, rfl⟩, rfl⟩
      exact ⟨rfl, rfl⟩

theorem transaction_ok {m : Eff σ ε α} {s s' : σ} {a : α}
    (h : m.transaction s = (.ok a, s')) : m s = (.ok a, s') := by
  unfold transaction at h
  split at h
  · rename_i a' s₁ hm
    cases h
    exact hm
  · cases h

theorem transaction_query_bind (f : σ → Except ε α) (g : α → Eff σ ε β) (s : σ) :
    transaction (query f >>= g) s =
      match f s with
      | .ok a => transaction (g a) s
      | .error e => (.error e, s) := by
  unfold transaction
  rw [bind_run, query_run]
  cases f s with
  | ok a => rfl
  | error e => rfl

/-! ## Frames -/

/-- Whatever `m` answers, it moves the state along `R`. -/
def Frames (R : σ → σ → Prop) (m : Eff σ ε α) : Prop := ∀ s, R s (m s).2

/-- `m` leaves the state as it found it. -/
def Keeps (m : Eff σ ε α) : Prop := Frames Eq m

theorem Keeps.fail (e : ε) : Keeps (Eff.fail e : Eff σ ε α) := fun _ => rfl

theorem Keeps.pure (a : α) : Keeps (Pure.pure a : Eff σ ε α) := fun _ => rfl

theorem Keeps.reads (f : σ → α) : Keeps (Eff.reads f : Eff σ ε α) := fun _ => rfl

theorem Keeps.query (f : σ → Except ε α) : Keeps (Eff.query f) := fun _ => rfl

theorem Keeps.lift (r : Except ε α) : Keeps (Eff.lift r : Eff σ ε α) := fun _ => rfl

theorem Frames.run {R : σ → σ → Prop} {m : Eff σ ε α} (h : Frames R m) {s s' : σ} {r : Except ε α}
    (hr : m s = (r, s')) : R s s' := by
  have hs := h s
  rwa [hr] at hs

theorem Frames.mono {R S : σ → σ → Prop} {m : Eff σ ε α} (h : Frames R m)
    (hRS : ∀ s s', R s s' → S s s') : Frames S m :=
  fun s => hRS _ _ (h s)

theorem Frames.mapErr {R : σ → σ → Prop} {m : Eff σ ε α} {f : ε → ε'} (h : Frames R m) :
    Frames R (m.mapErr f) := h

theorem Frames.attempt {R : σ → σ → Prop} {m : Eff σ ε α} (h : Frames R m) :
    Frames R (m.attempt : Eff σ ε' _) := h

theorem Frames.writes {R : σ → σ → Prop} {f : σ → σ} (h : ∀ s, R s (f s)) :
    Frames R (Eff.writes f : Eff σ ε Unit) := h

theorem Keeps.frames {R : σ → σ → Prop} [Std.Refl R] {m : Eff σ ε α} (h : Keeps m) :
    Frames R m := by
  intro s
  have hs : s = (m s).2 := h s
  rw [← hs]
  exact refl_of R s

/-- `a` is an answer that `m` gives in some state. -/
def Returns (m : Eff σ ε α) (a : α) : Prop := ∃ s s', m s = (.ok a, s')

theorem Frames.bind_returns {R : σ → σ → Prop} [IsTrans σ R] {m : Eff σ ε α} {f : α → Eff σ ε β}
    (hm : Frames R m) (hf : ∀ a, Returns m a → Frames R (f a)) : Frames R (m >>= f) := by
  intro s
  rw [bind_run]
  have h₁ := hm s
  split
  · rename_i a s' heq
    rw [heq] at h₁
    exact trans_of R h₁ (hf a ⟨s, s', heq⟩ s')
  · rename_i e s' heq
    rw [heq] at h₁
    exact h₁

theorem Frames.bind {R : σ → σ → Prop} [IsTrans σ R] {m : Eff σ ε α} {f : α → Eff σ ε β}
    (hm : Frames R m) (hf : ∀ a, Frames R (f a)) : Frames R (m >>= f) :=
  hm.bind_returns fun a _ => hf a

theorem Frames.bind_comp {Q R T : σ → σ → Prop} {m : Eff σ ε α} {f : α → Eff σ ε β}
    (hm : Frames Q m) (hf : ∀ a, Frames R (f a)) (hT : ∀ s s₁, Q s s₁ → T s s₁)
    (hcomp : ∀ s s₁ s₂, Q s s₁ → R s₁ s₂ → T s s₂) : Frames T (m >>= f) := by
  intro s
  rw [bind_run]
  have h₁ := hm s
  split
  · rename_i a s' heq
    rw [heq] at h₁
    exact hcomp _ _ _ h₁ (hf a s')
  · rename_i e s' heq
    rw [heq] at h₁
    exact hT _ _ h₁

theorem Frames.zoom {τ : Type} {get : σ → τ} {set : σ → τ → σ} {Q : τ → τ → Prop}
    {R : σ → σ → Prop} {m : Eff τ ε α} (h : Frames Q m) (hQR : ∀ s t, Q (get s) t → R s (set s t)) :
    Frames R (zoom get set m) :=
  fun s => hQR s _ (h (get s))

instance {τ : Type} {Q : τ → τ → Prop} [Std.Refl Q] {get : σ → τ} : Std.Refl (InvImage Q get) where
  refl s := refl_of Q (get s)

theorem Frames.zoom_part {τ : Type} {get : σ → τ} {set : σ → τ → σ} {Q : τ → τ → Prop}
    {m : Eff τ ε α} (h : Frames Q m) (hget : ∀ s t, get (set s t) = t) :
    Frames (InvImage Q get) (Eff.zoom get set m) :=
  h.zoom fun s t ht => by
    unfold InvImage
    rw [hget]
    exact ht

theorem Keeps.zoom {τ : Type} {get : σ → τ} {set : σ → τ → σ} {m : Eff τ ε α} (h : Keeps m)
    (hset : ∀ s, set s (get s) = s) : Keeps (zoom get set m) :=
  Frames.zoom h fun s t (ht : get s = t) => by rw [← ht, hset]

theorem Frames.reads_option {R : σ → σ → Prop} [Std.Refl R] [IsTrans σ R] {τ : Type}
    {get : σ → Option τ} {f : Option τ → Eff σ ε α} (hnone : Frames R (f none))
    (hsome : ∀ t, Frames R (f (some t))) : Frames R (Eff.reads get >>= f) := by
  refine (Keeps.reads get).frames.bind fun found => ?_
  cases found with
  | none => exact hnone
  | some t => exact hsome t

theorem Frames.ite {R : σ → σ → Prop} {c : Prop} [Decidable c] {m m' : Eff σ ε α}
    (hm : Frames R m) (hm' : Frames R m') : Frames R (if c then m else m') := by
  split
  · exact hm
  · exact hm'

theorem Keeps.bind_fst {m : Eff σ ε α} {f : α → Eff σ ε β} (h : Keeps m) (s : σ) :
    ((m >>= f) s).1 = (m s).1 >>= fun a => (f a s).1 := by
  have hs : s = (m s).2 := h s
  rw [bind_run]
  revert hs
  rcases m s with ⟨r, s'⟩
  rintro rfl
  cases r with
  | error e => rfl
  | ok a => rfl

theorem Frames.transaction {R : σ → σ → Prop} [Std.Refl R] {m : Eff σ ε α} (h : Frames R m) :
    Frames R m.transaction := by
  intro s
  have h₁ := h s
  unfold Eff.transaction
  split
  · rename_i a s' heq
    rw [heq] at h₁
    exact h₁
  · exact refl_of R s

theorem transaction_cases (m : Eff σ ε α) (s : σ) :
    (m.transaction s).2 = s ∨ ∃ a, m s = (.ok a, (m.transaction s).2) := by
  unfold Eff.transaction
  split
  · rename_i a s' heq
    exact .inr ⟨a, heq⟩
  · exact .inl rfl

/-- `m` leaves the state as it found it, unless it succeeds. -/
def Atomic (m : Eff σ ε α) : Prop := ∀ s, (m s).2 = s ∨ ∃ a, m s = (.ok a, (m s).2)

theorem Atomic.transaction (m : Eff σ ε α) : Atomic m.transaction := by
  intro s
  unfold Eff.transaction
  cases m s with
  | mk r s' =>
    cases r with
    | ok a => exact .inr ⟨a, rfl⟩
    | error e => exact .inl rfl

theorem Atomic.bind {m : Eff σ ε α} {f : α → Eff σ ε β} (hm : Keeps m)
    (hf : ∀ a, Atomic (f a)) : Atomic (m >>= f) := by
  intro s
  have hs : s = (m s).2 := hm s
  rw [bind_run]
  cases h : m s with
  | mk r s' =>
    rw [h] at hs
    subst hs
    cases r with
    | ok a => exact hf a s
    | error e => exact .inl rfl

theorem Atomic.frames {R : σ → σ → Prop} [Std.Refl R] {m : Eff σ ε α} (hm : Atomic m)
    (hok : ∀ s a s', m s = (.ok a, s') → R s s') : Frames R m := by
  intro s
  rcases hm s with hs | ⟨a, hs⟩
  · rw [hs]
    exact refl_of R s
  · exact hok s a _ hs

theorem Frames.each {R : σ → σ → Prop} [Std.Refl R] [IsTrans σ R] {f : α → Eff σ ε Unit}
    {l : List α} (h : ∀ a ∈ l, Frames R (f a)) : Frames R (Eff.each f l) := by
  induction l with
  | nil => exact (Keeps.pure ()).frames
  | cons a l ih =>
    exact (h a (by simp)).bind fun _ => ih fun b hb => h b (by simp [hb])

theorem each_ok {f : α → Eff σ ε Unit} {P : α → σ → Prop} {g : σ → α → σ}
    (hf : ∀ a s s', f a s = (.ok (), s') ↔ P a s ∧ s' = g s a)
    (hP : ∀ a b s, P a (g s b) ↔ P a s) {l : List α} {s s' : σ} :
    each f l s = (.ok (), s') ↔ (∀ a ∈ l, P a s) ∧ s' = l.foldl g s := by
  induction l generalizing s with
  | nil => simp [each, eq_comm]
  | cons a l ih =>
    rw [each, bind_ok]
    constructor
    · rintro ⟨_, s₁, ha, hl⟩
      obtain ⟨hPa, rfl⟩ := (hf a s s₁).mp ha
      obtain ⟨hPl, rfl⟩ := ih.mp hl
      refine ⟨?_, rfl⟩
      intro b hb
      rcases List.mem_cons.mp hb with rfl | hb
      · exact hPa
      · exact (hP b a s).mp (hPl b hb)
    · rintro ⟨hPl, rfl⟩
      refine ⟨(), g s a, (hf a s _).mpr ⟨hPl a List.mem_cons_self, rfl⟩, ih.mpr ⟨?_, rfl⟩⟩
      intro b hb
      exact (hP b a s).mpr (hPl b (List.mem_cons_of_mem a hb))

/-- Every error that `m` ends in satisfies `P`. -/
def ErrorsIn (P : ε → Prop) (m : Eff σ ε α) : Prop := ∀ s e, (m s).1 = .error e → P e

theorem ErrorsIn.pure {P : ε → Prop} (a : α) : ErrorsIn P (Pure.pure a : Eff σ ε α) :=
  fun _ _ h => nomatch h

theorem ErrorsIn.reads {P : ε → Prop} (f : σ → α) : ErrorsIn P (Eff.reads f) :=
  fun _ _ h => nomatch h

theorem ErrorsIn.writes {P : ε → Prop} (f : σ → σ) : ErrorsIn P (Eff.writes f) :=
  fun _ _ h => nomatch h

theorem ErrorsIn.attempt {P : ε' → Prop} (m : Eff σ ε α) : ErrorsIn P m.attempt :=
  fun _ _ h => nomatch h

theorem ErrorsIn.fail {P : ε → Prop} {e : ε} (h : P e) : ErrorsIn P (Eff.fail e : Eff σ ε α) := by
  rintro s e' heq
  cases heq
  exact h

theorem ErrorsIn.lift {P : ε → Prop} {r : Except ε α} (h : ∀ e, r = .error e → P e) :
    ErrorsIn P (Eff.lift r : Eff σ ε α) := fun _ e heq => h e heq

theorem ErrorsIn.query {P : ε → Prop} {f : σ → Except ε α} (h : ∀ s e, f s = .error e → P e) :
    ErrorsIn P (Eff.query f) := h

theorem ErrorsIn.bind {P : ε → Prop} {m : Eff σ ε α} {f : α → Eff σ ε β} (hm : ErrorsIn P m)
    (hf : ∀ a, ErrorsIn P (f a)) : ErrorsIn P (m >>= f) := by
  intro s e h
  rw [bind_run] at h
  split at h
  · exact hf _ _ e h
  · rename_i s' heq
    cases h
    exact hm s e (by rw [heq])

theorem ErrorsIn.attempt_bind {P : ε' → Prop} {Q : ε → Prop} {m : Eff σ ε α}
    {f : Except ε α → Eff σ ε' β} (hm : ErrorsIn Q m) (hok : ∀ a, ErrorsIn P (f (.ok a)))
    (herror : ∀ e, Q e → ErrorsIn P (f (.error e))) : ErrorsIn P (m.attempt >>= f) := by
  intro s e h
  rw [bind_run, Eff.attempt] at h
  cases hr : (m s).1 with
  | ok a =>
    rw [hr] at h
    exact hok a _ e h
  | error e' =>
    rw [hr] at h
    exact herror e' (hm s e' hr) _ e h

theorem ErrorsIn.mapErr {P : ε' → Prop} {m : Eff σ ε α} {f : ε → ε'}
    (h : ErrorsIn (fun e => P (f e)) m) : ErrorsIn P (m.mapErr f) := by
  intro s e heq
  unfold Eff.mapErr at heq
  cases hm : (m s).1 with
  | ok a => simp [hm, Except.mapError] at heq
  | error e' =>
    simp only [hm, Except.mapError, Except.error.injEq] at heq
    exact heq ▸ h s e' hm

theorem ErrorsIn.mono {P Q : ε → Prop} {m : Eff σ ε α} (h : ErrorsIn P m) (hPQ : ∀ e, P e → Q e) :
    ErrorsIn Q m := fun s e heq => hPQ e (h s e heq)

theorem ErrorsIn.zoom {τ : Type} {get : σ → τ} {set : σ → τ → σ} {P : ε → Prop} {m : Eff τ ε α}
    (h : ErrorsIn P m) : ErrorsIn P (Eff.zoom get set m) := fun s e heq => h (get s) e heq

end Eff

end Lib
