import Klldap.Lib.Text

/-!
# Lines: the lines and the words of a text

- `wordsBy` cuts at the characters of a class and keeps no empty word; `words` cuts at white space.
- `lines` cuts after every line feed, without the line ends.
- `entries` are the lines that are not blank, trimmed. White space around the text does not change
  them (`entries_trim`), and trimmed lines that are joined are found again (`entries_join`).
-/

namespace Lib
namespace Text

/-! ## Words -/

/-- The words of a list of characters, after the part of the current word that was read. -/
def wordsList (space : Char → Bool) : List Char → List Char → List (List Char)
  | word, [] => if word = [] then [] else [word]
  | word, x :: xs =>
    if space x then (if word = [] then [] else [word]) ++ wordsList space [] xs
    else wordsList space (word ++ [x]) xs

def wordsBy (space : Char → Bool) (s : String) : List String :=
  (wordsList space [] s.toList).map String.ofList

def words (s : String) : List String := wordsBy isWhitespace s

section

variable {space : Char → Bool}

theorem wordsList_append {xs : List Char} (h : ∀ x ∈ xs, space x = false) (word ys : List Char) :
    wordsList space word (xs ++ ys) = wordsList space (word ++ xs) ys := by
  induction xs generalizing word with
  | nil => simp
  | cons x xs ih =>
    rw [List.cons_append, wordsList, if_neg (by simp [h x List.mem_cons_self]),
      ih fun y hy => h y (List.mem_cons_of_mem x hy)]
    simp

theorem wordsList_space {x : Char} (hx : space x = true) {word : List Char} (hword : word ≠ [])
    (xs : List Char) : wordsList space word (x :: xs) = word :: wordsList space [] xs := by
  rw [wordsList, if_pos hx, if_neg hword, List.singleton_append]

theorem wordsList_space_nil {x : Char} (hx : space x = true) (xs : List Char) :
    wordsList space [] (x :: xs) = wordsList space [] xs := by
  rw [wordsList, if_pos hx, if_pos rfl, List.nil_append]

theorem space_of_mem_wordsList {word xs : List Char} (hword : ∀ x ∈ word, space x = false)
    {w : List Char} (hw : w ∈ wordsList space word xs) : ∀ x ∈ w, space x = false := by
  induction xs generalizing word with
  | nil =>
    rw [wordsList] at hw
    split at hw
    · cases hw
    · cases List.mem_singleton.mp hw
      exact hword
  | cons x xs ih =>
    rw [wordsList] at hw
    split at hw
    · rcases List.mem_append.mp hw with hw | hw
      · split at hw
        · cases hw
        · cases List.mem_singleton.mp hw
          exact hword
      · exact ih (by simp) hw
    · next hx =>
      refine ih (fun y hy => ?_) hw
      rcases List.mem_append.mp hy with hy | hy
      · exact hword y hy
      · cases List.mem_singleton.mp hy
        simpa using hx

theorem space_of_mem_wordsBy {s w : String} (hw : w ∈ wordsBy space s) :
    ∀ x ∈ w.toList, space x = false := by
  obtain ⟨l, hl, rfl⟩ := List.mem_map.mp hw
  rw [String.toList_ofList]
  exact space_of_mem_wordsList (by simp) hl

theorem exists_wordsList {word : List Char} (hword : word ≠ []) (xs : List Char) :
    ∃ w ws, wordsList space word xs = w :: ws ∧ word <+: w := by
  induction xs generalizing word with
  | nil => exact ⟨word, [], if_neg hword, List.prefix_rfl⟩
  | cons x xs ih =>
    cases hx : space x with
    | true => exact ⟨word, _, wordsList_space hx hword xs, List.prefix_rfl⟩
    | false =>
      obtain ⟨w, ws, hw, hstart⟩ := @ih (word ++ [x]) (by simp)
      refine ⟨w, ws, ?_, (List.prefix_append word [x]).trans hstart⟩
      rw [wordsList, if_neg (by simp [hx]), hw]

theorem wordsList_eq_nil_iff {xs : List Char} :
    wordsList space [] xs = [] ↔ ∀ c ∈ xs, space c = true := by
  induction xs with
  | nil => simp [wordsList]
  | cons x xs ih =>
    cases hx : space x with
    | true =>
      rw [wordsList_space_nil hx, ih]
      simp [hx]
    | false =>
      have hword : [] ++ [x] ≠ [] := by simp
      obtain ⟨w, ws, hw, -⟩ := @exists_wordsList space _ hword xs
      rw [wordsList, if_neg (by simp [hx]), hw]
      simp [hx]

theorem length_wordsList_iff {word : List Char} (hword : word ≠ []) (xs : List Char) :
    (wordsList space word xs).length = 1 ↔
      ∀ c ∈ xs.dropWhile fun c => !space c, space c = true := by
  induction xs generalizing word with
  | nil => simp [wordsList, hword]
  | cons x xs ih =>
    cases hx : space x with
    | true =>
      rw [wordsList_space hx hword, List.dropWhile_cons_of_neg (by simp [hx]), List.length_cons,
        Nat.add_eq_right, List.length_eq_zero_iff, wordsList_eq_nil_iff]
      simp [hx]
    | false =>
      rw [List.dropWhile_cons_of_pos (by simp [hx]), ← @ih (word ++ [x]) (by simp), wordsList,
        if_neg (by simp [hx])]

theorem wordsBy_cons {w sep : String} {c : Char} (hsep : IsSep sep c) (hc : space c = true)
    (hne : w ≠ "") (h : ∀ x ∈ w.toList, space x = false) (s : String) :
    wordsBy space (w ++ sep ++ s) = w :: wordsBy space s := by
  have hnil : w.toList ≠ [] := fun hnil => hne (String.toList_inj.mp (hnil.trans rfl))
  have hlist : (w ++ sep ++ s).toList = w.toList ++ c :: s.toList := by
    simp [show sep.toList = [c] from hsep]
  rw [wordsBy, hlist, wordsList_append h, List.nil_append, wordsList_space hc hnil, List.map_cons,
    String.ofList_toList]
  rfl

end

theorem no_space_of_all {s : String} (h : (s.toList.all fun c => !isWhitespace c) = true) :
    ∀ c ∈ s.toList, isWhitespace c = false := by
  intro c hc
  simpa using List.all_eq_true.mp h c hc

theorem trim_ofList_cons {c : Char} (hc : isWhitespace c = true) (xs : List Char) :
    trim (String.ofList (c :: xs)) = trim (String.ofList xs) := by
  simp [trim, hc]

theorem trim_ofList_concat {c : Char} (hc : isWhitespace c = true) (xs : List Char) :
    trim (String.ofList (xs ++ [c])) = trim (String.ofList xs) := by
  rw [← String.toList_inj, toList_trim, toList_trim, String.toList_ofList, String.toList_ofList,
    List.dropWhile_append]
  split
  · next hblank =>
    have hnil : xs.dropWhile isWhitespace = [] := by simpa using hblank
    simp [hnil, hc]
  · exact List.rdropWhile_concat_pos _ _ _ hc

/-! ## Lines -/

def stripCr (s : String) : String :=
  if endsWith "\r" s then String.ofList s.toList.dropLast else s

/-- The lines of a text; a line feed at its end does not open another line. -/
def lines (s : String) : List String :=
  let parts := splitOn '\n' s
  parts.dropLast.map stripCr ++ parts.getLast?.toList.filter fun s => s ≠ ""

def entries (s : String) : List String := ((lines s).map trim).filter fun s => s ≠ ""

def entriesList (xs : List Char) : List String :=
  ((splitList '\n' xs).map fun l => trim (String.ofList l)).filter fun s => s ≠ ""

theorem trim_stripCr (s : String) : trim (stripCr s) = trim s := by
  unfold stripCr
  split
  · next hend =>
    have hsuffix : ['\r'] <:+ s.toList := by
      simpa [endsWith, show ("\r" : String).toList = ['\r'] by decide] using hend
    obtain ⟨xs, hxs⟩ := hsuffix
    have hs : s = String.ofList (xs ++ ['\r']) := by rw [hxs, String.ofList_toList]
    rw [← hxs, List.dropLast_concat, hs]
    exact (trim_ofList_concat (by decide) xs).symm
  · rfl

theorem entries_eq (s : String) : entries s = entriesList s.toList := by
  have hne := splitOn_ne_nil '\n' s
  have hlast : ∀ t : String, ((([t].filter fun s => s ≠ "").map trim).filter fun s => s ≠ "") =
      [trim t].filter fun s => s ≠ "" := by
    intro t
    by_cases ht : t = ""
    · simp [ht, show trim "" = "" by decide]
    · simp [ht]
  have hsplit : ((splitOn '\n' s).map trim).filter (fun s => s ≠ "") = entriesList s.toList := by
    rw [splitOn, entriesList, List.map_map]
    rfl
  rw [entries, lines, List.getLast?_eq_some_getLast hne, List.map_append, List.filter_append,
    List.map_map, Option.toList_some, hlast, ← hsplit]
  conv_rhs => rw [← List.dropLast_append_getLast hne, List.map_append, List.filter_append]
  rw [List.map_singleton, show trim ∘ stripCr = trim from funext trim_stripCr]

theorem entriesList_cons {c : Char} (hc : isWhitespace c = true) (xs : List Char) :
    entriesList (c :: xs) = entriesList xs := by
  unfold entriesList
  by_cases hnl : c = '\n'
  · rw [hnl, splitList_cons_self, List.map_cons, List.filter_cons_of_neg]
    simp [show trim "" = "" by decide]
  · obtain ⟨p, ps, h⟩ := exists_splitList '\n' xs
    rw [splitList_cons_of_ne hnl h, h, List.map_cons, List.map_cons, trim_ofList_cons hc]

theorem splitList_concat {c d : Char} (hd : d ≠ c) (xs : List Char) :
    ∃ init last, splitList c xs = init ++ [last] ∧
      splitList c (xs ++ [d]) = init ++ [last ++ [d]] := by
  induction xs with
  | nil => exact ⟨[], [], rfl, splitList_cons_of_ne hd rfl⟩
  | cons x xs ih =>
    obtain ⟨init, last, hxs, hxsd⟩ := ih
    rw [List.cons_append]
    by_cases hx : x = c
    · exact ⟨[] :: init, last, by rw [hx, splitList_cons_self, hxs, List.cons_append],
        by rw [hx, splitList_cons_self, hxsd, List.cons_append]⟩
    · cases init with
      | nil => exact ⟨[], x :: last, splitList_cons_of_ne hx hxs, splitList_cons_of_ne hx hxsd⟩
      | cons p init =>
        exact ⟨(x :: p) :: init, last, splitList_cons_of_ne hx hxs, splitList_cons_of_ne hx hxsd⟩

theorem entriesList_concat {c : Char} (hc : isWhitespace c = true) (xs : List Char) :
    entriesList (xs ++ [c]) = entriesList xs := by
  unfold entriesList
  by_cases hnl : c = '\n'
  · rw [hnl, splitList_append]
    simp [splitList, show trim "" = "" by decide]
  · obtain ⟨init, last, hxs, hxsc⟩ := splitList_concat hnl xs
    rw [hxs, hxsc, List.map_append, List.map_append, List.map_singleton, List.map_singleton,
      trim_ofList_concat hc]

theorem entriesList_dropWhile (xs : List Char) :
    entriesList (xs.dropWhile isWhitespace) = entriesList xs := by
  induction xs with
  | nil => rfl
  | cons x xs ih =>
    by_cases hx : isWhitespace x = true
    · rw [List.dropWhile_cons_of_pos hx, ih, entriesList_cons hx]
    · rw [List.dropWhile_cons_of_neg hx]

theorem entriesList_rdropWhile (xs : List Char) :
    entriesList (xs.rdropWhile isWhitespace) = entriesList xs := by
  induction xs using List.reverseRecOn with
  | nil => rfl
  | append_singleton xs x ih =>
    by_cases hx : isWhitespace x = true
    · rw [List.rdropWhile_concat_pos _ _ _ hx, ih, entriesList_concat hx]
    · rw [List.rdropWhile_concat_neg _ _ _ hx]

theorem entries_trim (s : String) : entries (trim s) = entries s := by
  rw [entries_eq, entries_eq, toList_trim, entriesList_rdropWhile, entriesList_dropWhile]

theorem isSep_newline : IsSep "\n" '\n' := by unfold IsSep; decide

theorem entries_join {ls : List String} (hne : ls ≠ [])
    (h : ∀ l ∈ ls, hasChar '\n' l = false ∧ trim l = l) :
    entries (join "\n" ls) = ls.filter fun s => s ≠ "" := by
  have hsplit := splitOn_join isSep_newline hne fun l hl => (h l hl).1
  have hentries : entries (join "\n" ls) =
      ((splitOn '\n' (join "\n" ls)).map trim).filter fun s => s ≠ "" := by
    rw [entries_eq, splitOn, List.map_map]
    rfl
  rw [hentries, hsplit, List.map_congr_left fun l hl => (h l hl).2, List.map_id']

theorem not_hasChar_of_mem_lines {s l : String} (hl : l ∈ lines s) : hasChar '\n' l = false := by
  rcases List.mem_append.mp hl with hl | hl
  · obtain ⟨p, hp, rfl⟩ := List.mem_map.mp hl
    have hchar := not_hasChar_of_mem_splitOn (List.dropLast_subset _ hp)
    unfold stripCr
    split
    · have hmem : '\n' ∉ p.toList := by simpa [hasChar] using hchar
      simpa [hasChar] using fun hc => hmem (List.dropLast_subset _ hc)
    · exact hchar
  · have hmem := (List.mem_filter.mp hl).1
    exact not_hasChar_of_mem_splitOn (List.mem_of_getLast? (Option.mem_toList.mp hmem))

end Text
end Lib
