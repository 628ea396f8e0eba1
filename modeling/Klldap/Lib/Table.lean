import Mathlib

/-!
# Table: rows under a primary key

A table is a list of rows no two of which have the same key. The key condition is a field of the
table, so every operation below delivers it and no client has to prove it again.

- `find?` reads the row under a key, and an operation's effect is stated as what `find?` reads
  afterwards.
- `insert?` refuses a key that is taken; `update` rewrites the row under one key; `delete` drops
  the rows that meet a condition; `upsert` inserts or replaces; `rekey?` rewrites keys and refuses
  a clash.
-/

namespace Lib

/-- Rows of type `α` with pairwise distinct keys. -/
structure Table (α κ : Type) (key : α → κ) where
  rows : List α
  nodup : (rows.map key).Nodup

namespace Table

variable {α κ : Type} {key : α → κ} [DecidableEq κ]

instance [DecidableEq α] : DecidableEq (Table α κ key) := fun t t' =>
  decidable_of_iff (t.rows = t'.rows) (by
    cases t
    cases t'
    simp)

def empty : Table α κ key := ⟨[], List.nodup_nil⟩

def single (r : α) : Table α κ key := ⟨[r], List.nodup_singleton (key r)⟩

def find? (t : Table α κ key) (k : κ) : Option α := t.rows.find? fun r => key r = k

def delete (t : Table α κ key) (p : α → Bool) : Table α κ key :=
  ⟨t.rows.filter fun r => !p r, t.nodup.sublist (List.filter_sublist.map key)⟩

def mapRows (t : Table α κ key) (f : α → α) (hf : ∀ r, key (f r) = key r) : Table α κ key :=
  ⟨t.rows.map f, by
    have hk : (t.rows.map f).map key = t.rows.map key := by
      rw [List.map_map]
      exact List.map_congr_left fun r _ => hf r
    rw [hk]
    exact t.nodup⟩

/-- Rewrite the rows that meet `p` by a function that keeps keys. -/
def updateWhere (t : Table α κ key) (p : α → Bool) (f : α → α) (hf : ∀ r, key (f r) = key r) :
    Table α κ key :=
  t.mapRows (fun r => if p r then f r else r) (by
    intro r
    split
    · exact hf r
    · rfl)

/-- Rewrite the row under `k` by a function that keeps keys. -/
def update (t : Table α κ key) (k : κ) (f : α → α) (hf : ∀ r, key (f r) = key r) :
    Table α κ key :=
  t.updateWhere (fun r => key r = k) f hf

def append (t : Table α κ key) (r : α) (h : key r ∉ t.rows.map key) : Table α κ key :=
  ⟨t.rows ++ [r], by
    rw [List.map_append, List.nodup_append]
    refine ⟨t.nodup, by simp, ?_⟩
    intro a ha b hb hab
    simp only [List.map_cons, List.map_nil, List.mem_singleton] at hb
    exact h (hb ▸ hab ▸ ha)⟩

def insert? (t : Table α κ key) (r : α) : Option (Table α κ key) :=
  if h : key r ∈ t.rows.map key then none else some (t.append r h)

def upsert (t : Table α κ key) (r : α) : Table α κ key :=
  if h : key r ∈ t.rows.map key then
    t.mapRows (fun r' => if key r' = key r then r else r') (by
      intro r'
      split
      · rename_i heq
        exact heq.symm
      · rfl)
  else t.append r h

/-! ## Reading -/

theorem find?_eq_none {t : Table α κ key} {k : κ} : t.find? k = none ↔ k ∉ t.rows.map key := by
  simp [find?]

theorem key_of_find? {t : Table α κ key} {k : κ} {r : α} (h : t.find? k = some r) : key r = k := by
  simpa using List.find?_some h

theorem mem_of_find? {t : Table α κ key} {k : κ} {r : α} (h : t.find? k = some r) : r ∈ t.rows :=
  List.mem_of_find?_eq_some h

theorem find?_of_mem {t : Table α κ key} {r : α} (h : r ∈ t.rows) : t.find? (key r) = some r := by
  cases hf : t.find? (key r) with
  | none => exact absurd (List.mem_map_of_mem h) (find?_eq_none.mp hf)
  | some r' => rw [List.inj_on_of_nodup_map t.nodup (mem_of_find? hf) h (key_of_find? hf)]

theorem isSome_find?_of_mem {t : Table α κ key} {r : α} (hr : r ∈ t.rows) :
    (t.find? (key r)).isSome = true := by
  rw [find?_of_mem hr]
  rfl

theorem filter_key (t : Table α κ key) (k : κ) (p : α → Bool) :
    (t.rows.filter fun r => p r && decide (key r = k)) = ((t.find? k).filter p).toList := by
  obtain ⟨rows, hnd⟩ := t
  simp only [find?]
  induction rows with
  | nil => rfl
  | cons r rows ih =>
    rw [List.map_cons, List.nodup_cons] at hnd
    by_cases hk : key r = k
    · have hrest : (rows.filter fun r => p r && decide (key r = k)) = [] := by
        rw [List.filter_eq_nil_iff]
        intro r' hr'
        have hne : key r' ≠ k := fun h => hnd.1 (hk.trans h.symm ▸ List.mem_map_of_mem hr')
        simp [hne]
      cases hp : p r <;> simp [hk, hp, hrest, Option.filter]
    · simpa [hk] using ih hnd.2

theorem find?_mapRows (t : Table α κ key) (f : α → α) (hf : ∀ r, key (f r) = key r) (k : κ) :
    (t.mapRows f hf).find? k = (t.find? k).map f := by
  simp only [find?, mapRows, List.find?_map]
  congr 2
  funext r
  simp [hf]

theorem find?_update (t : Table α κ key) (k k' : κ) (f : α → α) (hf : ∀ r, key (f r) = key r) :
    (t.update k f hf).find? k' = if k' = k then (t.find? k').map f else t.find? k' := by
  simp only [update, updateWhere, find?_mapRows]
  cases h : t.find? k' with
  | none => simp
  | some r =>
    have hk := key_of_find? h
    by_cases hkk : k' = k
    · simp [hk, hkk]
    · simp [hk, hkk]

theorem find?_delete_of_ne {t : Table α κ key} {p : α → Bool} {k : κ}
    (hp : ∀ r, key r = k → p r = false) : (t.delete p).find? k = t.find? k := by
  simp only [find?, delete, List.find?_filter]
  congr 1
  funext r
  by_cases hr : key r = k
  · simp [hr, hp r hr]
  · simp [hr]

omit [DecidableEq κ] in
theorem eq_iff_rows_eq {t t' : Table α κ key} : t = t' ↔ t.rows = t'.rows := by
  cases t
  cases t'
  simp

omit [DecidableEq κ] in
theorem delete_eq_self {t : Table α κ key} {p : α → Bool} :
    t.delete p = t ↔ ∀ r ∈ t.rows, p r = false := by
  rw [eq_iff_rows_eq, delete, List.filter_eq_self]
  simp

omit [DecidableEq κ] in
theorem updateWhere_eq_self {t : Table α κ key} {p : α → Bool} {f : α → α}
    (hf : ∀ r, key (f r) = key r) :
    t.updateWhere p f hf = t ↔ ∀ r ∈ t.rows, p r = true → f r = r := by
  have hmap : ∀ l : List α, l.map (fun r => if p r then f r else r) = l ↔
      ∀ r ∈ l, (if p r then f r else r) = id r := by
    intro l
    rw [← List.map_inj_left, List.map_id]
  rw [eq_iff_rows_eq, updateWhere, mapRows, hmap]
  refine forall₂_congr fun r _ => ?_
  by_cases hp : p r = true
  · simp [hp]
  · simp [hp]

theorem find?_append (t : Table α κ key) (r : α) (h : key r ∉ t.rows.map key) (k : κ) :
    (t.append r h).find? k = if key r = k then some r else t.find? k := by
  simp only [append, find?, List.find?_append, List.find?_singleton]
  by_cases hk : key r = k
  · have hnone : t.rows.find? (fun r' => key r' = k) = none := by
      simpa [find?] using find?_eq_none.mpr (hk ▸ h)
    simp [hk, hnone]
  · simp [hk]

theorem find?_upsert (t : Table α κ key) (r : α) (k : κ) :
    (t.upsert r).find? k = if key r = k then some r else t.find? k := by
  unfold upsert
  split
  · rename_i hmem
    rw [find?_mapRows]
    cases hf : t.find? k with
    | none =>
      have hk : key r ≠ k := fun heq => find?_eq_none.mp hf (heq ▸ hmem)
      simp [hk]
    | some r' =>
      have hk := key_of_find? hf
      simp only [Option.map_some, hk, eq_comm]
      split <;> rfl
  · exact find?_append t r _ k

theorem find?_delete (t : Table α κ key) (p : α → Bool) (k : κ) :
    (t.delete p).find? k = (t.find? k).filter fun r => !p r := by
  cases hf : t.find? k with
  | none =>
    rw [Option.filter_none, find?_eq_none]
    intro hmem
    obtain ⟨r, hr, hk⟩ := List.mem_map.mp hmem
    exact find?_eq_none.mp hf (hk ▸ List.mem_map_of_mem (List.mem_of_mem_filter hr))
  | some r =>
    have hk : key r = k := key_of_find? hf
    by_cases hp : p r = true
    · have hnone : (t.delete p).find? k = none := by
        rw [find?_eq_none]
        intro hmem
        obtain ⟨r', hr', hk'⟩ := List.mem_map.mp hmem
        obtain ⟨hmem', hp'⟩ := List.mem_filter.mp hr'
        have heq : r' = r :=
          List.inj_on_of_nodup_map t.nodup hmem' (mem_of_find? hf) (hk'.trans hk.symm)
        rw [heq, hp] at hp'
        cases hp'
      simp [hnone, hp, Option.filter]
    · have hmem : r ∈ (t.delete p).rows :=
        List.mem_filter.mpr ⟨mem_of_find? hf, by simpa using hp⟩
      have hfind := find?_of_mem hmem
      rw [hk] at hfind
      simp [hfind, hp, Option.filter]

theorem rows_insert? {t t' : Table α κ key} {r : α} (h : t.insert? r = some t') :
    t'.rows = t.rows ++ [r] := by
  unfold insert? at h
  split at h
  · cases h
  · cases h
    rfl

theorem find?_insert? {t t' : Table α κ key} {r : α} (h : t.insert? r = some t') :
    t.find? (key r) = none ∧ ∀ k, t'.find? k = if key r = k then some r else t.find? k := by
  unfold insert? at h
  split at h
  · cases h
  · rename_i hfree
    cases h
    exact ⟨find?_eq_none.mpr hfree, find?_append t r hfree⟩

theorem isSome_find?_update (t : Table α κ key) (k k' : κ) (f : α → α)
    (hf : ∀ r, key (f r) = key r) :
    ((t.update k f hf).find? k').isSome = (t.find? k').isSome := by
  rw [find?_update]
  split
  · rw [Option.isSome_map]
  · rfl

def upsertAll (t : Table α κ key) (rows : List α) : Table α κ key := rows.foldl upsert t

theorem find?_upsertAll (t : Table α κ key) (rows : List α) (k : κ) :
    (t.upsertAll rows).find? k = (rows.reverse.find? fun r => key r = k).or (t.find? k) := by
  unfold upsertAll
  induction rows generalizing t with
  | nil => simp
  | cons r rows ih =>
    rw [List.foldl_cons, ih, List.reverse_cons, List.find?_append, find?_upsert, Option.or_assoc]
    congr 1
    by_cases hk : key r = k
    · simp [hk]
    · simp [hk]

theorem find?_upsertAll_of_mem (t : Table α κ key) {rows : List α} (h : (rows.map key).Nodup) {r : α}
    (hr : r ∈ rows) : (t.upsertAll rows).find? (key r) = some r := by
  have hnodup : (rows.reverse.map key).Nodup := by
    rw [List.map_reverse]
    exact List.nodup_reverse.mpr h
  have hfind : rows.reverse.find? (fun r' => key r' = key r) = some r :=
    find?_of_mem (t := ⟨rows.reverse, hnodup⟩) (List.mem_reverse.mpr hr)
  rw [find?_upsertAll, hfind, Option.some_or]

theorem mem_upsertAll {t : Table α κ key} {rows : List α} {r : α}
    (h : r ∈ (t.upsertAll rows).rows) : r ∈ rows ∨ r ∈ t.rows := by
  have hfind := find?_of_mem h
  rw [find?_upsertAll] at hfind
  rcases Option.or_eq_some_iff.mp hfind with hnew | ⟨-, hold⟩
  · exact .inl (List.mem_reverse.mp (List.mem_of_find?_eq_some hnew))
  · exact .inr (mem_of_find? hold)

/-! ## Updates that rewrite keys -/

/-- `UPDATE` that may rewrite keys. It fails as a whole when two rows would have the same. -/
def rekey? (t : Table α κ key) (p : α → Bool) (f : α → α) : Option (Table α κ key) :=
  if h : ((t.rows.map fun r => if p r then f r else r).map key).Nodup then some ⟨_, h⟩ else none

theorem rekey?_isSome_iff {t : Table α κ key} {p : α → Bool} {f : α → α} :
    (t.rekey? p f).isSome ↔ ∀ r ∈ t.rows, ∀ r' ∈ t.rows, p r = true →
      key (f r) = key (if p r' then f r' else r') → r = r' := by
  have hinj := List.inj_on_of_nodup_map t.nodup
  unfold rekey?
  split_ifs with h
  · rw [List.map_map] at h
    have hinj' := List.inj_on_of_nodup_map h
    refine iff_of_true rfl fun r hr r' hr' hp heq => hinj' hr hr' ?_
    simpa [hp] using heq
  · refine iff_of_false (by simp) fun hno => h ?_
    rw [List.map_map]
    refine (List.Nodup.of_map key t.nodup).map_on fun r hr r' hr' heq => ?_
    simp only [Function.comp_apply] at heq
    by_cases hp : p r = true
    · exact hno r hr r' hr' hp (by simpa [hp] using heq)
    · by_cases hp' : p r' = true
      · exact (hno r' hr' r hr hp' (by simpa [hp'] using heq.symm)).symm
      · exact hinj hr hr' (by simpa [hp, hp'] using heq)

theorem mem_rekey? {t t' : Table α κ key} {p : α → Bool} {f : α → α} (h : t.rekey? p f = some t')
    {r : α} : r ∈ t'.rows ↔ ∃ r' ∈ t.rows, (if p r' then f r' else r') = r := by
  unfold rekey? at h
  split_ifs at h
  obtain rfl := Option.some.inj h
  exact List.mem_map

end Table

/-! ## Rows with an owner

Tables whose key is an owner and a name: the rows of one owner are written together. -/

section Owned

variable {α β κ ν : Type} [DecidableEq κ] [DecidableEq ν] {key : α → κ × ν}

theorem Table.find?_upsertAll_owned (t : Table α (κ × ν) key) (l : List β) {f : β → α} {u : κ}
    (name : β → ν) (hf : ∀ b, key (f b) = (u, name b)) (v : κ) (n : ν) :
    (t.upsertAll (l.map f)).find? (v, n) =
      if v = u then ((l.reverse.find? fun b => name b = n).map f).or (t.find? (v, n))
      else t.find? (v, n) := by
  rw [Table.find?_upsertAll, ← List.map_reverse, List.find?_map]
  by_cases hv : v = u
  · subst hv
    have hsame : ((fun r => decide (key r = (v, n))) ∘ f) = fun b => decide (name b = n) := by
      funext b
      simp [hf]
    rw [hsame, if_pos rfl]
  · have hnone : l.reverse.find? ((fun r => decide (key r = (v, n))) ∘ f) = none :=
      List.find?_eq_none.mpr fun b _ => by simp [hf, Ne.symm hv]
    rw [hnone, if_neg hv, Option.map_none, Option.none_or]

theorem Table.find?_delete_owned (t : Table α (κ × ν) key) {p : α → Bool} {u : κ} {q : ν → Bool}
    (hp : ∀ r, p r = (decide ((key r).1 = u) && q (key r).2)) (v : κ) (n : ν) :
    (t.delete p).find? (v, n) = if v = u ∧ q n = true then none else t.find? (v, n) := by
  rw [Table.find?_delete]
  cases hf : t.find? (v, n) with
  | none => simp
  | some r =>
    have hkey := Table.key_of_find? hf
    have hr : p r = (decide (v = u) && q n) := by rw [hp, hkey]
    by_cases hv : v = u
    · cases hq : q n <;> simp [Option.filter, hr, hv, hq]
    · simp [Option.filter, hr, hv]

end Owned

end Lib
