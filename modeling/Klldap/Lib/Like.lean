import Klldap.Lib.Text

/-!
# Like: the patterns of `LIKE`

`likeList` matches a pattern against a text letter case aside. The lemmas say how a text splits when
it matches: at a `%`, and at a stretch of plain characters. A text that holds the parts of a pattern
in order matches it (`likeList_wild_of_parts`), and when the parts are plain no other text does
(`parts_of_likeList_wild`).
-/

namespace Lib

namespace Text

/-- The two lists differ in letter case at most. -/
def SameLetters (a b : List Char) : Prop := a.map Char.toLower = b.map Char.toLower

def isWild (c : Char) : Bool := c = '%' || c = '_'

theorem SameLetters.length {a b : List Char} (h : SameLetters a b) : a.length = b.length := by
  simpa using congrArg List.length h

theorem sameLetters_append {a b a' b' : List Char} (h : SameLetters a a') (h' : SameLetters b b') :
    SameLetters (a ++ b) (a' ++ b') := by
  unfold SameLetters at h h' ⊢
  rw [List.map_append, List.map_append, h, h']

@[simp] theorem sameLetters_map_toLower {a b : List Char} :
    SameLetters a (b.map Char.toLower) ↔ SameLetters a b := by
  simp [SameLetters, Function.comp_def, Char.toLower_toLower_eq_toLower]

/-! ## Patterns by their first character -/

theorem likeList_percent_eq (ps ts : List Char) :
    likeList ('%' :: ps) ts = ts.tails.any fun s => likeList ps s := by
  rw [likeList.eq_def]
  exact if_pos rfl

theorem likeList_nil {p : Char} (hp : p ≠ '%') (ps : List Char) : likeList (p :: ps) [] = false := by
  rw [likeList.eq_def]
  exact if_neg hp

theorem likeList_cons {p : Char} (hp : p ≠ '%') (ps : List Char) (t : Char) (ts : List Char) :
    likeList (p :: ps) (t :: ts) = ((p = '_' || p.toLower = t.toLower) && likeList ps ts) := by
  rw [likeList.eq_def]
  exact if_neg hp

theorem likeList_map_toLower (ps ts : List Char) :
    likeList ps (ts.map Char.toLower) = likeList ps ts := by
  induction ps generalizing ts with
  | nil => simp [likeList]
  | cons p ps ih =>
    by_cases hp : p = '%'
    · rw [hp, likeList_percent_eq, likeList_percent_eq, List.map_tails, List.any_map]
      exact List.any_congr rfl fun s => ih s
    · cases ts with
      | nil => rfl
      | cons t ts =>
        rw [List.map_cons, likeList_cons hp, likeList_cons hp, Char.toLower_toLower_eq_toLower, ih]

theorem likeList_percent {ps ts : List Char} :
    likeList ('%' :: ps) ts = true ↔ ∃ a b, ts = a ++ b ∧ likeList ps b = true := by
  rw [likeList_percent_eq, List.any_eq_true]
  constructor
  · rintro ⟨b, hb, hlike⟩
    obtain ⟨a, rfl⟩ := (List.mem_tails _ _).mp hb
    exact ⟨a, b, rfl, hlike⟩
  · rintro ⟨a, b, rfl, hlike⟩
    exact ⟨b, (List.mem_tails _ _).mpr ⟨a, rfl⟩, hlike⟩

theorem likeList_same {p q a b : List Char} (ha : SameLetters a p) (h : likeList q b = true) :
    likeList (p ++ q) (a ++ b) = true := by
  induction p generalizing a with
  | nil =>
    rw [List.length_eq_zero_iff.mp ha.length]
    exact h
  | cons c p ih =>
    cases a with
    | nil => cases ha.length
    | cons t a =>
      obtain ⟨ht, hrest⟩ := List.cons.inj (show t.toLower :: _ = c.toLower :: _ from ha)
      have hrest : SameLetters a p := hrest
      rw [List.cons_append, List.cons_append]
      by_cases hc : c = '%'
      · rw [hc]
        exact likeList_percent.mpr ⟨[t], a ++ b, rfl, ih hrest⟩
      · rw [likeList_cons hc, ih hrest, ht]
        simp

theorem likeList_plain {p q ts : List Char} (hp : ∀ c ∈ p, isWild c = false)
    (h : likeList (p ++ q) ts = true) :
    ∃ a b, ts = a ++ b ∧ SameLetters a p ∧ likeList q b = true := by
  induction p generalizing ts with
  | nil => exact ⟨[], ts, rfl, rfl, h⟩
  | cons c p ih =>
    have hc : isWild c = false := hp c List.mem_cons_self
    simp only [isWild, Bool.or_eq_false_iff, decide_eq_false_iff_not] at hc
    rw [List.cons_append] at h
    cases ts with
    | nil =>
      rw [likeList_nil hc.1] at h
      cases h
    | cons t ts =>
      rw [likeList_cons hc.1] at h
      simp only [hc.2, decide_false, Bool.false_or, Bool.and_eq_true, decide_eq_true_eq] at h
      obtain ⟨hct, h⟩ := h
      obtain ⟨a, b, rfl, ha, hlike⟩ := ih (fun d hd => hp d (List.mem_cons_of_mem c hd)) h
      refine ⟨t :: a, b, rfl, ?_, hlike⟩
      unfold SameLetters at ha ⊢
      rw [List.map_cons, List.map_cons, ha, hct]

theorem mem_of_likeList {ps ts : List Char} (h : likeList ps ts = true) {c : Char} (hc : c ∈ ps)
    (hwild : isWild c = false) : c.toLower ∈ ts.map Char.toLower := by
  induction ps generalizing ts with
  | nil => cases hc
  | cons p ps ih =>
    by_cases hp : p = '%'
    · have hc : c ∈ ps := by
        refine (List.mem_cons.mp hc).resolve_left fun hcp => ?_
        rw [hcp, hp] at hwild
        cases hwild
      rw [hp] at h
      obtain ⟨a, b, rfl, hrest⟩ := likeList_percent.mp h
      rw [List.map_append]
      exact List.mem_append_right _ (ih hrest hc)
    · cases ts with
      | nil =>
        rw [likeList_nil hp] at h
        cases h
      | cons t ts =>
        rw [likeList_cons hp, Bool.and_eq_true, Bool.or_eq_true, decide_eq_true_eq,
          decide_eq_true_eq] at h
        rcases List.mem_cons.mp hc with rfl | hc
        · rcases h.1 with rfl | hct
          · cases hwild
          · rw [hct]
            exact List.mem_cons_self
        · exact List.mem_cons_of_mem _ (ih h.2 hc)

/-! ## Parts with anything between them -/

/-- The parts stand in the text in order, none overlapping the next. -/
def PartsInOrder : List (List Char) → List Char → Prop
  | [], _ => True
  | p :: ps, text => ∃ a p' rest, text = a ++ (p' ++ rest) ∧ SameLetters p' p ∧ PartsInOrder ps rest

@[simp] theorem partsInOrder_map_toLower {parts : List (List Char)} {text : List Char} :
    PartsInOrder (parts.map (List.map Char.toLower)) text ↔ PartsInOrder parts text := by
  induction parts generalizing text with
  | nil => rfl
  | cons p parts ih => simp only [List.map_cons, PartsInOrder, sameLetters_map_toLower, ih]

/-- The parts, each with a `%` after it, and the last part. -/
def wild (parts : List (List Char)) (last : List Char) : List Char :=
  parts.foldr (fun p rest => p ++ '%' :: rest) last

theorem mem_wild {parts : List (List Char)} {last : List Char} {c : Char}
    (h : c ∈ parts.flatten ++ last) : c ∈ wild parts last := by
  induction parts with
  | nil => exact h
  | cons p parts ih =>
    rw [List.flatten_cons, List.append_assoc] at h
    refine List.mem_append.mpr ((List.mem_append.mp h).imp_right fun hc => ?_)
    exact List.mem_cons_of_mem _ (ih hc)

theorem likeList_wild_of_parts {parts : List (List Char)} {last middle z : List Char}
    (hmiddle : PartsInOrder parts middle) (hz : SameLetters z last) :
    likeList ('%' :: wild parts last) (middle ++ z) = true := by
  induction parts generalizing middle with
  | nil =>
    have hlast : likeList (last ++ []) (z ++ []) = true := likeList_same hz rfl
    rw [List.append_nil, List.append_nil] at hlast
    exact likeList_percent.mpr ⟨middle, z, rfl, hlast⟩
  | cons p parts ih =>
    obtain ⟨a, p', rest, rfl, hp', hrest⟩ := hmiddle
    refine likeList_percent.mpr ⟨a, p' ++ (rest ++ z), by simp, ?_⟩
    exact likeList_same hp' (ih hrest)

theorem parts_of_likeList_wild {parts : List (List Char)} {last ts : List Char}
    (hparts : ∀ p ∈ parts, ∀ c ∈ p, isWild c = false) (hlast : ∀ c ∈ last, isWild c = false)
    (h : likeList ('%' :: wild parts last) ts = true) :
    ∃ middle z, ts = middle ++ z ∧ PartsInOrder parts middle ∧ SameLetters z last := by
  induction parts generalizing ts with
  | nil =>
    obtain ⟨a, b, rfl, hrest⟩ := likeList_percent.mp h
    rw [wild, List.foldr_nil, ← List.append_nil last] at hrest
    obtain ⟨z, e, rfl, hz, he⟩ := likeList_plain hlast hrest
    rw [likeList, List.isEmpty_iff] at he
    rw [he, List.append_nil]
    exact ⟨a, z, rfl, trivial, hz⟩
  | cons p parts ih =>
    obtain ⟨a, b, rfl, hpart⟩ := likeList_percent.mp h
    obtain ⟨p', rest, rfl, hp', hrest⟩ := likeList_plain (hparts p List.mem_cons_self) hpart
    obtain ⟨middle, z, rfl, hmiddle, hz⟩ :=
      ih (fun q hq => hparts q (List.mem_cons_of_mem p hq)) hrest
    exact ⟨a ++ (p' ++ middle), z, by simp, ⟨a, p', middle, rfl, hp', hmiddle⟩, hz⟩

theorem PartsInOrder.flatten {parts : List (List Char)} {text : List Char}
    (h : PartsInOrder parts text) : parts.flatten.length ≤ text.length ∧
      (text.length = parts.flatten.length → SameLetters text parts.flatten) := by
  induction parts generalizing text with
  | nil =>
    refine ⟨by simp, fun hlength => ?_⟩
    rw [List.length_eq_zero_iff.mp hlength]
    rfl
  | cons p parts ih =>
    obtain ⟨a, p', rest, rfl, hp', hrest⟩ := h
    have hlength := hp'.length
    obtain ⟨hle, hsame⟩ := ih hrest
    simp only [List.flatten_cons, List.length_append] at hle hsame ⊢
    refine ⟨by omega, fun heq => ?_⟩
    have ha : a = [] := List.length_eq_zero_iff.mp (by omega)
    rw [ha, List.nil_append]
    exact sameLetters_append hp' (hsame (by omega))

/-- A text for a pattern: nothing for a `%`, and `x` for a `_`. -/
def fill (p : List Char) : List Char :=
  (p.filter (· ≠ '%')).map fun c => if c = '_' then 'x' else c

@[simp] theorem fill_append (l l' : List Char) : fill (l ++ l') = fill l ++ fill l' := by
  simp [fill]

@[simp] theorem fill_percent (l : List Char) : fill ('%' :: l) = fill l := by
  simp [fill]

theorem fill_wild (parts : List (List Char)) (last : List Char) :
    fill (wild parts last) = fill (parts.flatten ++ last) := by
  induction parts with
  | nil => rfl
  | cons p parts ih =>
    have hwild : wild (p :: parts) last = p ++ '%' :: wild parts last := rfl
    rw [hwild, fill_append, fill_percent, ih, List.flatten_cons, List.append_assoc, fill_append p]

theorem likeList_fill {p q ts : List Char} (h : likeList q ts = true) :
    likeList (p ++ q) (fill p ++ ts) = true := by
  induction p with
  | nil => exact h
  | cons c p ih =>
    by_cases hpercent : c = '%'
    · subst hpercent
      rw [fill_percent]
      exact likeList_percent.mpr ⟨[], fill p ++ ts, rfl, ih⟩
    · have hfill : fill (c :: p) = (if c = '_' then 'x' else c) :: fill p := by
        simp [fill, hpercent]
      rw [hfill, List.cons_append, List.cons_append, likeList_cons hpercent]
      by_cases hunderscore : c = '_'
      · simp [hunderscore, ih]
      · simp [hunderscore, ih]

theorem fill_ne {p : List Char} {c : Char} (hc : c ∈ p) (hwild : isWild c = true) :
    ¬ SameLetters (fill p) p := by
  intro h
  have hlower : '_' ∉ (fill p).map Char.toLower := by
    simp only [fill, List.map_map, List.mem_map, Function.comp_apply, not_exists, not_and]
    intro d _ hd
    split at hd
    · exact absurd hd (by decide)
    · rename_i hd'
      exact hd' ((toLower_eq_iff (by decide) d).mp hd)
  have hlength : (p.filter (· ≠ '%')).length = p.length := by simpa [fill] using h.length
  have hpercent : c ≠ '%' := by
    simpa using List.length_filter_eq_length_iff.mp hlength c hc
  have hunderscore : c = '_' := by simpa [isWild, hpercent] using hwild
  unfold SameLetters at h
  rw [h] at hlower
  exact hlower (List.mem_map.mpr ⟨'_', hunderscore ▸ hc, by decide⟩)

end Text

end Lib
