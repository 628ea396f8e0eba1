import Klldap.Filter
import Klldap.Lib.Like

/-!
# Klldap.Sql.Substring: substring filters as patterns

`SubStringFilter::to_sql_filter` writes the parts of a filter into a pattern as they are.
-/

namespace Klldap
namespace SubStringFilter

open Lib.Text

def parts (f : SubStringFilter) : List String := f.initial.toList ++ (f.any ++ f.final.toList)

def joined (f : SubStringFilter) : List Char := f.parts.flatMap String.toList

/-- The text starts with the first part, ends with the last, and between them holds the others in
order, letter case aside. -/
def Matches (f : SubStringFilter) (text : String) : Prop :=
  ∃ a middle z, text.toList = a ++ (middle ++ z) ∧ SameLetters a (f.initial.getD "").toList ∧
    PartsInOrder (f.any.map String.toList) middle ∧ SameLetters z (f.final.getD "").toList

theorem joined_eq (f : SubStringFilter) :
    f.joined = (f.initial.getD "").toList ++
      ((f.any.map String.toList).flatten ++ (f.final.getD "").toList) := by
  have hoption (o : Option String) : o.toList.flatMap String.toList = (o.getD "").toList := by
    cases o with
    | none => rfl
    | some s => simp
  rw [joined, parts, List.flatMap_append, List.flatMap_append, hoption, hoption, List.flatMap_def]

/-! ## The pattern -/

theorem toList_toSqlFilter (f : SubStringFilter) :
    f.toSqlFilter.toList = (f.initial.getD "").toList.map Char.toLower ++
      '%' :: wild ((f.any.map String.toList).map (List.map Char.toLower))
        ((f.final.getD "").toList.map Char.toLower) := by
  have hany (l : List String) (s : String) (last : List Char) :
      (l.foldl (fun pattern part => pattern ++ (asciiLower part ++ "%")) s).toList ++ last =
        s.toList ++ wild ((l.map String.toList).map (List.map Char.toLower)) last := by
    induction l generalizing s with
    | nil => rfl
    | cons p l ih =>
      rw [List.foldl_cons, ih]
      simp [wild]
  have helim (o : Option String) : (o.elim "" asciiLower).toList = (o.getD "").toList.map Char.toLower := by
    cases o with
    | none => rfl
    | some s => exact toList_asciiLower s
  simp only [toSqlFilter, String.toList_append, helim, hany]
  simp

theorem like_toSqlFilter (f : SubStringFilter) (text : String) :
    like f.toSqlFilter (asciiLower text) = likeList f.toSqlFilter.toList text.toList := by
  rw [like, toList_asciiLower, likeList_map_toLower]

theorem like_of_matches {f : SubStringFilter} {text : String} (h : f.Matches text) :
    like f.toSqlFilter (asciiLower text) = true := by
  obtain ⟨a, middle, z, htext, ha, hmiddle, hz⟩ := h
  rw [like_toSqlFilter, toList_toSqlFilter, htext]
  refine likeList_same (sameLetters_map_toLower.mpr ha) (likeList_wild_of_parts ?_ ?_)
  · exact partsInOrder_map_toLower.mpr hmiddle
  · exact sameLetters_map_toLower.mpr hz

theorem isWild_toLower (c : Char) : isWild c.toLower = isWild c := by
  simp only [isWild, toLower_eq_iff (show '%'.isAlpha = false by decide),
    toLower_eq_iff (show '_'.isAlpha = false by decide)]

theorem matches_of_like {f : SubStringFilter} {text : String}
    (hplain : ∀ c ∈ f.joined, isWild c = false) (h : like f.toSqlFilter (asciiLower text) = true) : f.Matches text := by
  have hlower {l : List Char} (hl : ∀ c ∈ l, isWild c = false) :
      ∀ c ∈ l.map Char.toLower, isWild c = false := by
    simpa [isWild_toLower] using hl
  rw [joined_eq, List.forall_mem_append, List.forall_mem_append] at hplain
  obtain ⟨hinitial, hany, hfinal⟩ := hplain
  rw [like_toSqlFilter, toList_toSqlFilter] at h
  obtain ⟨a, rest, htext, ha, hrest⟩ := likeList_plain (hlower hinitial) h
  have hany : ∀ p ∈ (f.any.map String.toList).map (List.map Char.toLower), ∀ c ∈ p,
      isWild c = false := by
    intro p hp
    obtain ⟨q, hq, rfl⟩ := List.mem_map.mp hp
    exact hlower fun c hc => hany c (List.mem_flatten_of_mem hq hc)
  obtain ⟨middle, z, rfl, hmiddle, hz⟩ := parts_of_likeList_wild hany (hlower hfinal) hrest
  exact ⟨a, middle, z, htext, sameLetters_map_toLower.mp ha, partsInOrder_map_toLower.mp hmiddle,
    sameLetters_map_toLower.mp hz⟩

/-! ## Wildcards in the parts -/

theorem Matches.sameLetters {f : SubStringFilter} {text : String} (h : f.Matches text)
    (hlength : text.toList.length ≤ f.joined.length) : SameLetters text.toList f.joined := by
  obtain ⟨a, middle, z, htext, ha, hmiddle, hz⟩ := h
  obtain ⟨hle, hsame⟩ := hmiddle.flatten
  have halength := ha.length
  have hzlength := hz.length
  rw [htext, joined_eq] at hlength ⊢
  simp only [List.length_append] at hlength
  exact sameLetters_append ha (sameLetters_append (hsame (by omega)) hz)

theorem fill_toSqlFilter (f : SubStringFilter) :
    fill f.toSqlFilter.toList = fill (f.joined.map Char.toLower) := by
  rw [toList_toSqlFilter, fill_append, fill_percent, fill_wild, ← fill_append, joined_eq]
  simp [List.map_flatten]

theorem not_matches_fill {f : SubStringFilter} {c : Char} (hc : c ∈ f.joined)
    (hwild : isWild c = true) : ¬ f.Matches (String.ofList (fill f.toSqlFilter.toList)) := by
  intro h
  rw [fill_toSqlFilter] at h
  have hlength : (fill (f.joined.map Char.toLower)).length ≤ f.joined.length := by
    rw [fill, List.length_map]
    exact (List.length_filter_le _ _).trans (List.length_map _).le
  have hsame := h.sameLetters (by rwa [String.toList_ofList])
  rw [String.toList_ofList, ← sameLetters_map_toLower] at hsame
  exact fill_ne (List.mem_map.mpr ⟨c, hc, rfl⟩) (by rwa [isWild_toLower]) hsame

theorem isAscii_of_isAlpha {c : Char} (h : c.isAlpha = true) : isAscii c = true := by
  have hc : (65 ≤ c.toNat ∧ c.toNat ≤ 90) ∨ (97 ≤ c.toNat ∧ c.toNat ≤ 122) := by
    simpa [Char.isAlpha, Char.isUpper, Char.isLower, UInt32.le_iff_toNat_le] using h
  simp only [isAscii, decide_eq_true_eq]
  omega

theorem isAscii_toLower (c : Char) : isAscii c.toLower = isAscii c := by
  by_cases hc : c.isUpper = true
  · have hc : c.isAlpha = true := isAlpha_of_isUpper hc
    rw [isAscii_of_isAlpha hc, isAscii_of_isAlpha (by simpa using hc)]
  · rw [Char.toLower_eq_of_not_isUpper (by simpa using hc)]

theorem not_like_of_not_isAscii {f : SubStringFilter} {text : String} {c : Char} (hc : c ∈ f.joined)
    (hascii : isAscii c = false) (htext : text.toList.all isAscii = true) :
    like f.toSqlFilter (asciiLower text) = false := by
  rw [← Bool.not_eq_true]
  intro h
  have hmem : c.toLower ∈ f.toSqlFilter.toList := by
    rw [joined_eq] at hc
    rw [toList_toSqlFilter]
    rcases List.mem_append.mp hc with hc | hc
    · exact List.mem_append_left _ (List.mem_map_of_mem hc)
    · refine List.mem_append_right _ (List.mem_cons_of_mem _ (mem_wild ?_))
      rw [← List.map_flatten, ← List.map_append]
      exact List.mem_map_of_mem hc
  have hplain : isWild c.toLower = false := by
    rw [isWild_toLower, isWild]
    have hpercent : c ≠ '%' := by rintro rfl; cases hascii
    have hunderscore : c ≠ '_' := by rintro rfl; cases hascii
    simp [hpercent, hunderscore]
  rw [like_toSqlFilter] at h
  obtain ⟨t, ht, heq⟩ := List.mem_map.mp (mem_of_likeList h hmem hplain)
  have hlower : isAscii t = isAscii c := by
    rw [← isAscii_toLower t, heq, isAscii_toLower, isAscii_toLower]
  rw [List.all_eq_true.mp htext t ht, hascii] at hlower
  cases hlower

/-- For the texts of ASCII, the pattern of a filter stands for the filter exactly when none of its
parts has a wildcard, or when one of them is not ASCII and nothing can match. -/
theorem like_toSqlFilter_iff (f : SubStringFilter) :
    (∀ text : String, text.toList.all isAscii = true →
      (like f.toSqlFilter (asciiLower text) = true ↔ f.Matches text)) ↔
    ((∀ part ∈ f.parts, part.toList.all isAscii = true) →
      ∀ part ∈ f.parts, ∀ c ∈ part.toList, isWild c = false) := by
  constructor
  · intro h hascii part hpart c hc
    have hjoined : c ∈ f.joined := List.mem_flatMap.mpr ⟨part, hpart, hc⟩
    rw [← Bool.not_eq_true]
    intro hwild
    refine not_matches_fill hjoined hwild ((h _ ?_).mp ?_)
    · rw [String.toList_ofList, fill_toSqlFilter, List.all_eq_true]
      intro x hx
      obtain ⟨d, hd, rfl⟩ := List.mem_map.mp hx
      split
      · rfl
      · obtain ⟨e, he, rfl⟩ := List.mem_map.mp (List.mem_filter.mp hd).1
        obtain ⟨part, hpart, he⟩ := List.mem_flatMap.mp he
        rw [isAscii_toLower]
        exact List.all_eq_true.mp (hascii part hpart) e he
    · rw [like_toSqlFilter, String.toList_ofList]
      have hfill : likeList (f.toSqlFilter.toList ++ []) (fill f.toSqlFilter.toList ++ []) = true :=
        likeList_fill rfl
      rwa [List.append_nil, List.append_nil] at hfill
  · intro h text htext
    by_cases hascii : ∀ part ∈ f.parts, part.toList.all isAscii = true
    · refine ⟨matches_of_like fun c hc => ?_, like_of_matches⟩
      obtain ⟨part, hpart, hc⟩ := List.mem_flatMap.mp hc
      exact h hascii part hpart c hc
    · simp only [not_forall, List.all_eq_true, exists_prop, Bool.not_eq_true] at hascii
      obtain ⟨part, hpart, c, hc, hascii⟩ := hascii
      have hjoined : c ∈ f.joined := List.mem_flatMap.mpr ⟨part, hpart, hc⟩
      have hnone := not_like_of_not_isAscii hjoined hascii htext
      constructor
      · intro hlike
        rw [hnone] at hlike
        cases hlike
      · exact like_of_matches

/-- The part `_` is found in every text. -/
theorem underscore_not_found :
    like (toSqlFilter ⟨none, ["_"], none⟩) (asciiLower "a") = true ∧
      ¬ Matches ⟨none, ["_"], none⟩ "a" := by
  refine ⟨by decide, fun h => ?_⟩
  have hsame : "a".toList.map Char.toLower = ['_'].map Char.toLower := h.sameLetters (by decide)
  exact absurd hsame (by decide)

end SubStringFilter
end Klldap
