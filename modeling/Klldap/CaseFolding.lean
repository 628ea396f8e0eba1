import Klldap.Plain

/-!
# Klldap.CaseFolding: strings compared without regard to case

Group names, emails and object classes (`make_case_insensitive_comparable_string`) are compared by folding
one character after the other, and hashed by folding the whole string. The two foldings differ in one
place: a capital sigma at the end of a word.
-/

namespace Klldap

/-! ## Order -/

theorem compareChars_eq_iff {cs ds : List Char} : compareChars cs ds = .eq ↔ cs = ds := by
  induction cs generalizing ds with
  | nil => cases ds <;> simp [compareChars]
  | cons c cs ih =>
    cases ds with
    | nil => simp [compareChars]
    | cons d ds =>
      rw [compareChars, List.cons.injEq, ← ih, ← Char.toNat_inj]
      split
      · next hlt => exact iff_of_false (by simp) fun h => hlt.ne h.1
      split
      · next hgt => exact iff_of_false (by simp) fun h => hgt.ne' h.1
      · next hle hge => exact (and_iff_right (Nat.le_antisymm (not_lt.mp hge) (not_lt.mp hle))).symm

theorem compareChars_swap (cs ds : List Char) : compareChars ds cs = (compareChars cs ds).swap := by
  induction cs generalizing ds with
  | nil => cases ds <;> rfl
  | cons c cs ih =>
    cases ds with
    | nil => rfl
    | cons d ds =>
      rw [compareChars, compareChars, ih]
      split
      · next hlt => rw [if_neg (not_lt.mpr hlt.le)]; rfl
      · split <;> rfl

theorem compareChars_trans {cs ds es : List Char} (hcd : compareChars cs ds ≠ .gt)
    (hde : compareChars ds es ≠ .gt) : compareChars cs es ≠ .gt := by
  induction cs generalizing ds es with
  | nil => cases es <;> simp [compareChars]
  | cons c cs ih =>
    cases ds with
    | nil => exact absurd rfl hcd
    | cons d ds =>
      cases es with
      | nil => exact absurd rfl hde
      | cons e es =>
        rw [compareChars] at hcd hde ⊢
        by_cases hlt : c.toNat < e.toNat
        · simp [hlt]
        have hle : c.toNat ≤ d.toNat := by
          by_contra hgt
          rw [if_neg (by omega), if_pos (by omega)] at hcd
          exact hcd rfl
        have hle' : d.toNat ≤ e.toNat := by
          by_contra hgt
          rw [if_neg (by omega), if_pos (by omega)] at hde
          exact hde rfl
        rw [if_neg (by omega), if_neg (by omega)] at hcd hde ⊢
        exact ih hcd hde

section

variable [External]

def foldedChars (s : String) : List Char := s.toList.flatMap charToLowercase

theorem compareStr_eq_iff {s t : String} :
    compareStrCaseInsensitive s t = .eq ↔ foldedChars s = foldedChars t := compareChars_eq_iff

def hashWith (hasher : String → UInt64) (s : String) : UInt64 := hasher (toLowercase s)

/-! ## Sigmas at the end of words -/

def ignorableThenCased (cased ignorable : Char → Bool) (cs : List Char) : Bool :=
  ((cs.dropWhile ignorable).head?.map cased).getD false

def isWordFinal (cased ignorable : Char → Bool) (before after : List Char) : Bool :=
  ignorableThenCased cased ignorable before && !ignorableThenCased cased ignorable after

/-- `str::to_lowercase`; the characters before the current one come last first. -/
def lowerFrom (fold : Char → List Char) (cased ignorable : Char → Bool) :
    List Char → List Char → List Char
  | _, [] => []
  | before, c :: cs =>
    (if c = 'Σ' then [if isWordFinal cased ignorable before cs then 'ς' else 'σ'] else fold c) ++
      lowerFrom fold cased ignorable (c :: before) cs

/-- For each folded character, whether it comes from a capital sigma at the end of a word. -/
def finalMarks (cased ignorable : Char → Bool) : List Char → List Char → List Bool
  | _, [] => []
  | before, c :: cs =>
    (if c = 'Σ' then [isWordFinal cased ignorable before cs]
      else (charToLowercase c).map fun _ => false) ++ finalMarks cased ignorable (c :: before) cs

/-- The places of the capital sigmas at the end of words, in the folded string. -/
def finalSigmas (cased ignorable : Char → Bool) (s : String) : List Bool :=
  finalMarks cased ignorable [] s.toList

/-- How the library folds strings, given the classes of characters it looks at. -/
structure FoldsSigma (cased ignorable : Char → Bool) : Prop where
  charSigma : charToLowercase 'Σ' = ['σ']
  str : ∀ s, toLowercase s = String.ofList (lowerFrom charToLowercase cased ignorable [] s.toList)

def markedChar (c : Char) (final : Bool) : Char := if final then 'ς' else c

/-- A mark stands at a sigma only. -/
def Marks : List Char → List Bool → Prop :=
  List.Forall₂ fun c final => final = true → c = 'σ'

omit [External] in
theorem marks_append {cs ds : List Char} {ms ns : List Bool} (hc : Marks cs ms) (hd : Marks ds ns) :
    Marks (cs ++ ds) (ms ++ ns) := List.rel_append hc hd

omit [External] in
theorem marks_false (cs : List Char) : Marks cs (cs.map fun _ => false) := by
  induction cs with
  | nil => exact .nil
  | cons c cs ih => exact .cons (fun h => by cases h) ih

omit [External] in
theorem zipWith_markedChar_false (cs : List Char) :
    List.zipWith markedChar cs (cs.map fun _ => false) = cs := by
  induction cs with
  | nil => rfl
  | cons c cs ih =>
    rw [List.map_cons, List.zipWith_cons_cons, ih]
    rfl

omit [External] in
theorem zipWith_markedChar_inj {cs : List Char} {ms ns : List Bool} (hms : Marks cs ms)
    (hns : Marks cs ns) :
    List.zipWith markedChar cs ms = List.zipWith markedChar cs ns ↔ ms = ns := by
  induction hms generalizing ns with
  | nil =>
    cases hns
    simp
  | cons hm hms ih =>
    cases hns with
    | cons hn hns =>
      rename_i c m cs ms n ns
      rw [List.zipWith_cons_cons, List.zipWith_cons_cons, List.cons.injEq, List.cons.injEq, ih hns]
      refine and_congr_left fun _ => ?_
      cases m <;> cases n <;> simp_all [markedChar]

section

variable {cased ignorable : Char → Bool} (law : FoldsSigma cased ignorable)

include law

theorem lowerFrom_marked (cs before : List Char) :
    Marks (cs.flatMap charToLowercase) (finalMarks cased ignorable before cs) ∧
      lowerFrom charToLowercase cased ignorable before cs = List.zipWith markedChar (cs.flatMap charToLowercase)
        (finalMarks cased ignorable before cs) := by
  induction cs generalizing before with
  | nil => exact ⟨.nil, rfl⟩
  | cons c cs ih =>
    obtain ⟨hmarks, hlower⟩ := ih (c :: before)
    rw [List.flatMap_cons, finalMarks, lowerFrom]
    by_cases hc : c = 'Σ'
    · rw [if_pos hc, if_pos hc, hc, law.charSigma]
      refine ⟨marks_append (.cons (fun _ => rfl) .nil) (hc ▸ hmarks), ?_⟩
      rw [← hc, hlower]
      rfl
    · rw [if_neg hc, if_neg hc]
      refine ⟨marks_append (marks_false _) hmarks, ?_⟩
      rw [List.zipWith_append (by simp), zipWith_markedChar_false, hlower]

theorem toLowercase_eq_iff {s t : String} (h : foldedChars s = foldedChars t) :
    toLowercase s = toLowercase t ↔
      finalSigmas cased ignorable s = finalSigmas cased ignorable t := by
  obtain ⟨hs, hlowerS⟩ := lowerFrom_marked law s.toList []
  obtain ⟨ht, hlowerT⟩ := lowerFrom_marked law t.toList []
  rw [show s.toList.flatMap charToLowercase = t.toList.flatMap charToLowercase from h] at hs hlowerS
  rw [law.str, law.str, String.ofList_inj, hlowerS, hlowerT, zipWith_markedChar_inj hs ht]
  rfl

/-- Equality is an equivalence, the order is total and agrees with it, and two equal strings have equal
hashes, whatever the hasher, exactly if their word-final capital sigmas stand at the same places. -/
theorem caseInsensitive_contract_iff :
    Equivalence (fun s t : String => compareStrCaseInsensitive s t = .eq) ∧
    (∀ s t, compareStrCaseInsensitive t s = (compareStrCaseInsensitive s t).swap) ∧
    (∀ s t u, compareStrCaseInsensitive s t ≠ .gt → compareStrCaseInsensitive t u ≠ .gt →
      compareStrCaseInsensitive s u ≠ .gt) ∧
    ∀ s t, (compareStrCaseInsensitive s t = .eq → ∀ hasher, hashWith hasher s = hashWith hasher t) ↔
      (compareStrCaseInsensitive s t = .eq →
        finalSigmas cased ignorable s = finalSigmas cased ignorable t) := by
  refine ⟨⟨fun s => ?_, fun h => ?_, fun h h' => ?_⟩, fun s t => ?_, fun s t u hst htu => ?_,
    fun s t => ?_⟩
  · exact compareStr_eq_iff.mpr rfl
  · exact compareStr_eq_iff.mpr (compareStr_eq_iff.mp h).symm
  · exact compareStr_eq_iff.mpr ((compareStr_eq_iff.mp h).trans (compareStr_eq_iff.mp h'))
  · exact compareChars_swap _ _
  · exact compareChars_trans hst htu
  · refine imp_congr_right fun heq => ?_
    rw [← toLowercase_eq_iff law (compareStr_eq_iff.mp heq)]
    constructor
    · intro h
      by_contra hne
      have hhash := h fun x => if x = toLowercase s then 1 else 0
      simp [hashWith, Ne.symm hne] at hhash
    · exact fun h hasher => congrArg hasher h

end

theorem lowerFrom_of_no_sigma {cased ignorable : Char → Bool} {cs : List Char} (h : 'Σ' ∉ cs)
    (before : List Char) : lowerFrom charToLowercase cased ignorable before cs = cs.flatMap charToLowercase := by
  induction cs generalizing before with
  | nil => rfl
  | cons c cs ih =>
    have hc : c ≠ 'Σ' := by
      rintro rfl
      exact h List.mem_cons_self
    rw [lowerFrom, if_neg hc, ih fun hcs => h (List.mem_cons_of_mem c hcs), List.flatMap_cons]

end

namespace Greek

def letters : List Char := ['Α', 'α', 'Σ', 'σ', 'ς']

def charLower : Char → List Char
  | 'Α' => ['α']
  | 'Σ' => ['σ']
  | c => [c]

def fold (c : Char) : List Char := if isAscii c then [c.toLower] else charLower c

/-- A library that knows two Greek letters. -/
scoped instance external : External := { Plain.external with
  charLower := charLower
  strLower s := String.ofList (lowerFrom fold letters.contains (fun _ => false) [] s.toList) }

theorem foldsSigma : FoldsSigma letters.contains fun _ => false where
  charSigma := by decide
  str s := by
    unfold toLowercase
    split
    · next hascii =>
      have hchar : ∀ c ∈ s.toList, isAscii c = true := List.all_eq_true.mp hascii
      have hsigma : 'Σ' ∉ s.toList := fun hmem => absurd (hchar _ hmem) (by decide)
      have hfold : s.toList.flatMap charToLowercase = s.toList.map Char.toLower := by
        rw [List.map_eq_flatMap]
        exact List.flatMap_congr fun c hc => if_pos (hchar c hc)
      rw [lowerFrom_of_no_sigma hsigma, hfold, Lib.Text.asciiLower]
    · rfl

/-- Equal words that are folded to different strings. -/
theorem final_sigmas_apart :
    compareStrCaseInsensitive "ΑΣ" "ασ" = .eq ∧ toLowercase "ΑΣ" = "ας" ∧ toLowercase "ασ" = "ασ" ∧
      ∃ hasher, hashWith hasher "ΑΣ" ≠ hashWith hasher "ασ" := by
  have hcapital : toLowercase "ΑΣ" = "ας" := by decide +kernel
  have hsmall : toLowercase "ασ" = "ασ" := by decide +kernel
  refine ⟨by decide +kernel, hcapital, hsmall, fun s => if s = "ας" then 1 else 0, ?_⟩
  rw [hashWith, hashWith, hcapital, hsmall]
  decide

theorem inner_sigmas_hash_alike :
    compareStrCaseInsensitive "ΣΑ" "σα" = .eq ∧
      ∀ hasher : String → UInt64, hashWith hasher "ΣΑ" = hashWith hasher "σα" := by
  have hcompare : compareStrCaseInsensitive "ΣΑ" "σα" = .eq := by decide +kernel
  exact ⟨hcompare, ((caseInsensitive_contract_iff foldsSigma).2.2.2 "ΣΑ" "σα").mpr
    (fun _ => by decide +kernel) hcompare⟩

end Greek

end Klldap
