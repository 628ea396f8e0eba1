import Mathlib

/-!
# Text: string operations as functions on lists of characters

The library's own string operations walk byte positions and do not reduce in the kernel. The
operations here go through the list of characters, so that they compute and so that induction on
the list proves things about them.

- `asciiLower` folds the letters `A`-`Z` and nothing else; it is idempotent.
- `splitOnce` cuts at the first occurrence of a character, `splitOn` at every one.
- `trim`, `parseI64` and `parseI32` follow the operations of the same names on Unicode strings.
-/

namespace Lib

namespace Text

def asciiLower (s : String) : String := String.ofList (s.toList.map Char.toLower)

@[simp] theorem toList_asciiLower (s : String) :
    (asciiLower s).toList = s.toList.map Char.toLower := by
  simp [asciiLower]

@[simp] theorem asciiLower_idem (s : String) : asciiLower (asciiLower s) = asciiLower s := by
  rw [← String.toList_inj]
  simp [Char.toLower_toLower_eq_toLower]

/-- The parts of a list before and after the first element that is `c`. -/
def splitOnceList (c : Char) : List Char → Option (List Char × List Char)
  | [] => none
  | x :: xs =>
    if x = c then some ([], xs)
    else (splitOnceList c xs).map fun p => (x :: p.1, p.2)

/-- The parts of a string before and after the first occurrence of `c`. -/
def splitOnce (c : Char) (s : String) : Option (String × String) :=
  (splitOnceList c s.toList).map fun p => (String.ofList p.1, String.ofList p.2)

def splitList (c : Char) : List Char → List (List Char)
  | [] => [[]]
  | x :: xs =>
    if x = c then [] :: splitList c xs
    else
      match splitList c xs with
      | [] => [[x]]
      | p :: ps => (x :: p) :: ps

def splitOn (c : Char) (s : String) : List String := (splitList c s.toList).map String.ofList

def join (sep : String) : List String → String
  | [] => ""
  | [s] => s
  | s :: ss => s ++ sep ++ join sep ss

def startsWith (p s : String) : Bool := p.toList.isPrefixOf s.toList

def endsWith (p s : String) : Bool := p.toList.isSuffixOf s.toList

def hasInfix (p s : String) : Bool := s.toList.tails.any p.toList.isPrefixOf

def hasChar (c : Char) (s : String) : Bool := s.toList.contains c

def isWhitespace (c : Char) : Bool :=
  [0x09, 0x0A, 0x0B, 0x0C, 0x0D, 0x20, 0x85, 0xA0, 0x1680, 0x2028, 0x2029, 0x202F, 0x205F,
    0x3000].contains c.toNat || (0x2000 ≤ c.toNat && c.toNat ≤ 0x200A)

def trim (s : String) : String :=
  String.ofList ((s.toList.dropWhile isWhitespace).reverse.dropWhile isWhitespace).reverse

def parseDigits (cs : List Char) : Option Nat :=
  if cs = [] || cs.any (fun c => !c.isDigit) then none
  else some (cs.foldl (fun n c => 10 * n + (c.toNat - 48)) 0)

/-- The signed integer that a string denotes in decimal, of `bits` bits besides the sign. -/
def parseSigned (bits : Nat) (s : String) : Option Int :=
  match s.toList with
  | '-' :: cs => (parseDigits cs).bind fun n => if n ≤ 2 ^ bits then some (-n) else none
  | '+' :: cs => (parseDigits cs).bind fun n => if n < 2 ^ bits then some n else none
  | cs => (parseDigits cs).bind fun n => if n < 2 ^ bits then some n else none

def parseI64 (s : String) : Option Int := parseSigned 63 s

def parseI32 (s : String) : Option Int := parseSigned 31 s

/-- The `LIKE` of SQL: `%` stands for any characters, `_` for one, and ASCII case is ignored. -/
def likeList : List Char → List Char → Bool
  | [], ts => ts.isEmpty
  | p :: ps, ts =>
    if p = '%' then ts.tails.any fun s => likeList ps s
    else
      match ts with
      | [] => false
      | t :: ts => (p = '_' || p.toLower = t.toLower) && likeList ps ts

def like (pattern text : String) : Bool := likeList pattern.toList text.toList

/-! ## Splitting and joining -/

section

variable {c : Char} {xs ys : List Char}

theorem splitList_cons_self (c : Char) (xs : List Char) :
    splitList c (c :: xs) = [] :: splitList c xs := if_pos rfl

theorem splitList_cons_of_ne {x : Char} {p : List Char} {ps : List (List Char)} (hx : x ≠ c)
    (h : splitList c xs = p :: ps) : splitList c (x :: xs) = (x :: p) :: ps := by
  rw [splitList, if_neg hx, h]

theorem exists_splitList (c : Char) (xs : List Char) : ∃ p ps, splitList c xs = p :: ps := by
  induction xs with
  | nil => exact ⟨[], [], rfl⟩
  | cons x xs ih =>
    by_cases hx : x = c
    · exact ⟨[], splitList c xs, hx ▸ splitList_cons_self x xs⟩
    · obtain ⟨p, ps, h⟩ := ih
      exact ⟨x :: p, ps, splitList_cons_of_ne hx h⟩

theorem splitList_ne_nil (c : Char) (xs : List Char) : splitList c xs ≠ [] := by
  obtain ⟨p, ps, h⟩ := exists_splitList c xs
  simp [h]

theorem splitList_append (c : Char) (xs ys : List Char) :
    splitList c (xs ++ c :: ys) = splitList c xs ++ splitList c ys := by
  induction xs with
  | nil => exact splitList_cons_self c ys
  | cons x xs ih =>
    rw [List.cons_append]
    by_cases hx : x = c
    · rw [hx, splitList_cons_self, splitList_cons_self, ih, List.cons_append]
    · obtain ⟨p, ps, h⟩ := exists_splitList c xs
      rw [h, List.cons_append] at ih
      rw [splitList_cons_of_ne hx h, splitList_cons_of_ne hx ih, List.cons_append]

theorem splitList_append_of_not_mem {p : List Char} {ps : List (List Char)} (h : c ∉ xs)
    (hys : splitList c ys = p :: ps) : splitList c (xs ++ ys) = (xs ++ p) :: ps := by
  induction xs with
  | nil => exact hys
  | cons x xs ih =>
    have hx : x ≠ c := fun hx => h (hx ▸ List.mem_cons_self)
    exact splitList_cons_of_ne hx (ih fun hxs => h (List.mem_cons_of_mem x hxs))

theorem splitList_of_not_mem (h : c ∉ xs) : splitList c xs = [xs] := by
  have happend := splitList_append_of_not_mem h (show splitList c [] = [[]] from rfl)
  rwa [List.append_nil] at happend

theorem not_mem_of_mem_splitList {p : List Char} (hp : p ∈ splitList c xs) : c ∉ p := by
  induction xs generalizing p with
  | nil =>
    cases List.mem_singleton.mp hp
    simp
  | cons x xs ih =>
    by_cases hx : x = c
    · rw [hx, splitList_cons_self] at hp
      rcases List.mem_cons.mp hp with rfl | hp
      · simp
      · exact ih hp
    · obtain ⟨q, qs, hq⟩ := exists_splitList c xs
      rw [splitList_cons_of_ne hx hq] at hp
      rw [hq] at ih
      rcases List.mem_cons.mp hp with rfl | hp
      · simpa [Ne.symm hx] using ih List.mem_cons_self
      · exact ih (List.mem_cons_of_mem q hp)

theorem mem_of_mem_splitList {p : List Char} (hp : p ∈ splitList c xs) {x : Char} (hx : x ∈ p) :
    x ∈ xs := by
  induction xs generalizing p with
  | nil =>
    cases List.mem_singleton.mp hp
    exact hx
  | cons y ys ih =>
    by_cases hy : y = c
    · rw [hy, splitList_cons_self] at hp
      rcases List.mem_cons.mp hp with rfl | hp
      · cases hx
      · exact List.mem_cons_of_mem y (ih hp hx)
    · obtain ⟨q, qs, hq⟩ := exists_splitList c ys
      rw [splitList_cons_of_ne hy hq] at hp
      rw [hq] at ih
      rcases List.mem_cons.mp hp with rfl | hp
      · rcases List.mem_cons.mp hx with rfl | hx
        · exact List.mem_cons_self
        · exact List.mem_cons_of_mem y (ih List.mem_cons_self hx)
      · exact List.mem_cons_of_mem y (ih (List.mem_cons_of_mem q hp) hx)

theorem splitList_map {f : Char → Char} (hf : ∀ x, f x = c ↔ x = c) (xs : List Char) :
    splitList c (xs.map f) = (splitList c xs).map (List.map f) := by
  induction xs with
  | nil => rfl
  | cons x xs ih =>
    rw [List.map_cons]
    by_cases hx : x = c
    · rw [hx, (hf c).mpr rfl, splitList_cons_self, splitList_cons_self, ih]
      rfl
    · obtain ⟨p, ps, h⟩ := exists_splitList c xs
      rw [h, List.map_cons] at ih
      rw [splitList_cons_of_ne hx h, splitList_cons_of_ne (fun hfx => hx ((hf x).mp hfx)) ih]
      rfl

end

/-- A separator as a string. -/
def IsSep (sep : String) (c : Char) : Prop := sep.toList = [c]

section

variable {sep : String} {c : Char}

theorem splitOn_append (hsep : IsSep sep c) (s t : String) :
    splitOn c (s ++ sep ++ t) = splitOn c s ++ splitOn c t := by
  have hlist : (s ++ sep ++ t).toList = s.toList ++ c :: t.toList := by
    simp [show sep.toList = [c] from hsep]
  rw [splitOn, hlist, splitList_append, List.map_append]
  rfl

theorem splitOn_of_not_hasChar {s : String} (h : hasChar c s = false) : splitOn c s = [s] := by
  have hmem : c ∉ s.toList := by simpa [hasChar] using h
  simp [splitOn, splitList_of_not_mem hmem]

theorem splitOn_append_of_not_hasChar {s t p : String} {ps : List String}
    (hs : hasChar c s = false) (ht : splitOn c t = p :: ps) :
    splitOn c (s ++ t) = (s ++ p) :: ps := by
  have hmem : c ∉ s.toList := by simpa [hasChar] using hs
  obtain ⟨q, qs, hq, rfl, rfl⟩ := List.map_eq_cons_iff.mp ht
  rw [splitOn, String.toList_append, splitList_append_of_not_mem hmem hq, List.map_cons,
    String.ofList_append, String.ofList_toList]

theorem not_hasChar_of_mem_splitOn {s p : String} (hp : p ∈ splitOn c s) : hasChar c p = false := by
  obtain ⟨q, hq, rfl⟩ := List.mem_map.mp hp
  simpa [hasChar] using not_mem_of_mem_splitList hq

theorem toList_subset_of_mem_splitOn {s p : String} (hp : p ∈ splitOn c s) :
    p.toList ⊆ s.toList := by
  obtain ⟨q, hq, rfl⟩ := List.mem_map.mp hp
  rw [String.toList_ofList]
  exact fun x hx => mem_of_mem_splitList hq hx

theorem hasChar_of_mem_splitOn {s p : String} {d : Char} (hs : hasChar d s = false)
    (hp : p ∈ splitOn c s) : hasChar d p = false := by
  have hs : d ∉ s.toList := by simpa [hasChar] using hs
  simpa [hasChar] using fun hd => hs (toList_subset_of_mem_splitOn hp hd)

theorem splitOn_ne_nil (c : Char) (s : String) : splitOn c s ≠ [] := by
  simpa [splitOn] using splitList_ne_nil c s.toList

theorem join_cons_cons (sep s t : String) (ts : List String) :
    join sep (s :: t :: ts) = s ++ sep ++ join sep (t :: ts) := rfl

theorem splitOn_join (hsep : IsSep sep c) {ss : List String} (hne : ss ≠ [])
    (h : ∀ s ∈ ss, hasChar c s = false) : splitOn c (join sep ss) = ss := by
  induction ss with
  | nil => exact absurd rfl hne
  | cons s ts ih =>
    have hs : hasChar c s = false := h s List.mem_cons_self
    cases ts with
    | nil => exact splitOn_of_not_hasChar hs
    | cons t ts =>
      rw [join_cons_cons, splitOn_append hsep, splitOn_of_not_hasChar hs,
        ih (by simp) fun x hx => h x (List.mem_cons_of_mem s hx)]
      rfl

theorem join_splitList (hsep : IsSep sep c) (xs : List Char) :
    join sep ((splitList c xs).map String.ofList) = String.ofList xs := by
  have hcons : ∀ (x : Char) (p : List Char) (ps : List String),
      join sep (String.ofList (x :: p) :: ps) = String.ofList [x] ++ join sep (String.ofList p :: ps) := by
    intro x p ps
    cases ps with
    | nil => simp [join]
    | cons q qs => simp [join_cons_cons, ← String.toList_inj]
  induction xs with
  | nil => rfl
  | cons x xs ih =>
    have hx : String.ofList (x :: xs) = String.ofList [x] ++ String.ofList xs := by
      simp
    obtain ⟨p, ps, hs⟩ := exists_splitList c xs
    rw [hs, List.map_cons] at ih
    by_cases hxc : x = c
    · rw [hxc, splitList_cons_self, hs, List.map_cons, List.map_cons, join_cons_cons, ih, ← hxc, hx]
      simp [← String.toList_inj, hxc, show sep.toList = [c] from hsep]
    · rw [splitList_cons_of_ne hxc hs, List.map_cons, hcons, ih, hx]

theorem join_splitOn (hsep : IsSep sep c) (s : String) : join sep (splitOn c s) = s := by
  rw [splitOn, join_splitList hsep, String.ofList_toList]

theorem eq_of_splitOn_eq_singleton (hsep : IsSep sep c) {s t : String} (h : splitOn c s = [t]) :
    s = t := by
  rw [← join_splitOn hsep s, h]
  rfl

theorem append_cons_inj_of_not_mem {l l' r r' : List Char} (h : c ∉ l) (h' : c ∉ l') :
    l ++ c :: r = l' ++ c :: r' ↔ l = l' ∧ r = r' := by
  induction l generalizing l' with
  | nil =>
    cases l' with
    | nil => simp
    | cons x l' =>
      have hx : c ≠ x := fun hx => h' (by simp [hx])
      simp [hx]
  | cons x l ih =>
    cases l' with
    | nil =>
      have hx : x ≠ c := fun hx => h (by simp [hx])
      simp [hx]
    | cons y l' =>
      have hl : c ∉ l := fun hl => h (by simp [hl])
      have hl' : c ∉ l' := fun hl => h' (by simp [hl])
      simp [ih hl hl', and_assoc]

theorem not_hasChar_append {s t : String} (hs : hasChar c s = false) (ht : hasChar c t = false) :
    hasChar c (s ++ t) = false := by
  simp_all [hasChar]

theorem append_sep_inj (hsep : IsSep sep c) {s s' t t' : String} (h : hasChar c s = false)
    (h' : hasChar c s' = false) : s ++ sep ++ t = s' ++ sep ++ t' ↔ s = s' ∧ t = t' := by
  have hmem : c ∉ s.toList := by simpa [hasChar] using h
  have hmem' : c ∉ s'.toList := by simpa [hasChar] using h'
  have hlist : s.toList ++ c :: t.toList = s'.toList ++ c :: t'.toList ↔
      s.toList = s'.toList ∧ t.toList = t'.toList :=
    append_cons_inj_of_not_mem hmem hmem'
  simpa [← String.toList_inj, show sep.toList = [c] from hsep] using hlist

theorem join_append {ss ts : List String} (sep : String) (hs : ss ≠ []) (ht : ts ≠ []) :
    join sep (ss ++ ts) = join sep ss ++ sep ++ join sep ts := by
  induction ss with
  | nil => exact absurd rfl hs
  | cons s ss ih =>
    cases ss with
    | nil =>
      cases ts with
      | nil => exact absurd rfl ht
      | cons t ts => rfl
    | cons s' ss =>
      rw [List.cons_append, List.cons_append, join_cons_cons, ← List.cons_append, ih (by simp),
        join_cons_cons]
      simp only [String.append_assoc]

end

@[simp] theorem hasChar_append (c : Char) (s t : String) :
    hasChar c (s ++ t) = (hasChar c s || hasChar c t) := by
  simp [hasChar, Bool.decide_or]

/-! ## Letter case and white space -/

@[simp] theorem asciiLower_append (s t : String) :
    asciiLower (s ++ t) = asciiLower s ++ asciiLower t := by
  rw [← String.toList_inj]
  simp

theorem isAlpha_of_isUpper {x : Char} (h : x.isUpper = true) : x.isAlpha = true := by
  simp [Char.isAlpha, h]

theorem toLower_eq_iff {c : Char} (hc : c.isAlpha = false) (x : Char) : x.toLower = c ↔ x = c := by
  by_cases hx : x.isUpper = true
  · have hx : x.isAlpha = true := isAlpha_of_isUpper hx
    constructor <;> rintro rfl
    · simp [hx] at hc
    · simp [hx] at hc
  · rw [Char.toLower_eq_of_not_isUpper (by simpa using hx)]

theorem isWhitespace_of_isAlphanum {x : Char} (h : x.isAlphanum = true) :
    isWhitespace x = false := by
  have hx : ((65 ≤ x.toNat ∧ x.toNat ≤ 90) ∨ (97 ≤ x.toNat ∧ x.toNat ≤ 122)) ∨
      (48 ≤ x.toNat ∧ x.toNat ≤ 57) := by
    simpa [Char.isAlphanum, Char.isAlpha, Char.isUpper, Char.isLower, Char.isDigit,
      UInt32.le_iff_toNat_le] using h
  simp only [isWhitespace, List.contains_eq_mem, List.mem_cons, List.not_mem_nil, or_false,
    Bool.or_eq_false_iff, Bool.and_eq_false_iff, decide_eq_false_iff_not]
  omega

theorem isWhitespace_of_isAlpha {x : Char} (h : x.isAlpha = true) : isWhitespace x = false :=
  isWhitespace_of_isAlphanum (by simp [Char.isAlphanum, h])

theorem isWhitespace_toLower (x : Char) : isWhitespace x.toLower = isWhitespace x := by
  by_cases hx : x.isUpper = true
  · have hx : x.isAlpha = true := isAlpha_of_isUpper hx
    rw [isWhitespace_of_isAlpha hx, isWhitespace_of_isAlpha (by simpa using hx)]
  · rw [Char.toLower_eq_of_not_isUpper (by simpa using hx)]

theorem toList_trim (s : String) :
    (trim s).toList = (s.toList.dropWhile isWhitespace).rdropWhile isWhitespace := by
  simp [trim, List.rdropWhile]

theorem trim_asciiLower (s : String) : trim (asciiLower s) = asciiLower (trim s) := by
  have hcomp : isWhitespace ∘ Char.toLower = isWhitespace := funext isWhitespace_toLower
  rw [← String.toList_inj]
  simp [trim, List.dropWhile_map, ← List.map_reverse, hcomp]

@[simp] theorem trim_trim (s : String) : trim (trim s) = trim s := by
  rw [← String.toList_inj, toList_trim, toList_trim]
  generalize s.toList = l
  have hhead : ((l.dropWhile isWhitespace).rdropWhile isWhitespace).dropWhile isWhitespace =
      (l.dropWhile isWhitespace).rdropWhile isWhitespace := by
    rw [List.dropWhile_eq_self_iff]
    intro hpos
    have hfront := List.rdropWhile_prefix isWhitespace (l.dropWhile isWhitespace)
    rw [hfront.getElem hpos]
    exact List.dropWhile_get_zero_not _ l (hpos.trans_le hfront.length_le)
  rw [hhead, List.rdropWhile_idempotent]

theorem trim_eq_self {s : String} (h : ∀ x ∈ s.toList, isWhitespace x = false) : trim s = s := by
  have hdrop : s.toList.dropWhile isWhitespace = s.toList := by
    rw [List.dropWhile_eq_self_iff]
    intro hpos
    simp [h _ (List.getElem_mem hpos)]
  rw [← String.toList_inj, toList_trim, hdrop, List.rdropWhile_eq_self_iff]
  intro hne
  simp [h _ (List.getLast_mem hne)]

theorem trim_eq_empty {s : String} : trim s = "" ↔ ∀ x ∈ s.toList, isWhitespace x = true := by
  have hnil : trim s = "" ↔ (trim s).toList = [] := by rw [← String.toList_inj]; rfl
  rw [hnil, toList_trim, List.rdropWhile_eq_nil_iff]
  constructor
  · intro h x hx
    by_cases hmem : x ∈ s.toList.dropWhile isWhitespace
    · exact h x hmem
    · have hsplit : x ∈ s.toList.takeWhile isWhitespace ++ s.toList.dropWhile isWhitespace := by
        rwa [List.takeWhile_append_dropWhile]
      exact List.mem_takeWhile_imp ((List.mem_append.mp hsplit).resolve_right hmem)
  · exact fun h x hx => h x ((List.dropWhile_sublist _).subset hx)

theorem hasChar_trim {c : Char} {s : String} (h : hasChar c s = false) : hasChar c (trim s) = false := by
  have hmem : c ∉ s.toList := by simpa [hasChar] using h
  have hsub : (trim s).toList.Sublist s.toList := by
    rw [toList_trim]
    exact (List.rdropWhile_prefix _ _).sublist.trans (List.dropWhile_sublist _)
  simpa [hasChar] using fun hc => hmem (hsub.subset hc)

theorem hasChar_asciiLower {c : Char} (hc : c.isAlpha = false) (s : String) :
    hasChar c (asciiLower s) = hasChar c s := by
  simp [hasChar, toLower_eq_iff hc]

theorem splitOn_asciiLower {c : Char} (hc : c.isAlpha = false) (s : String) :
    splitOn c (asciiLower s) = (splitOn c s).map asciiLower := by
  simp only [splitOn, toList_asciiLower, splitList_map (toLower_eq_iff hc), List.map_map]
  congr 1
  funext l
  simp [asciiLower]

end Text

end Lib
