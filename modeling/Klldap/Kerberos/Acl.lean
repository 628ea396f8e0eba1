import Klldap.Kerberos
import Klldap.Lib.Lines

/-!
# Klldap.Kerberos.Acl: the access control list of the KDC

`ensure_kadm5_acl` in `crates/kerberos/src/bin/kerberos_manager.rs`. At every start the manager reads
`kadm5.acl`, leaves it alone if two scans of its lines find nothing wrong, and otherwise repairs it line
by line or writes it anew from the template.

The file is seen as `entries`, its trimmed lines that are not blank; a repair rewrites the entries one
by one (`outputLines_foldl`).
-/

namespace Klldap
namespace Kerberos

open Lib.Text

/-! ## Reading the file -/

def isComment (trimmed : String) : Bool := startsWith "#" trimmed || startsWith ";" trimmed

def hasSufficientAdminEntry (content adminPrinc : String) : Bool :=
  (lines content).any fun line =>
    let trimmed := trim line
    if trimmed = "" || isComment trimmed then false
    else (words trimmed).head? = some adminPrinc && hasChar '*' trimmed

def looksLikeEntry (trimmed : String) : Bool :=
  match words trimmed with
  | principal :: _ :: _ => hasChar '@' principal || hasChar '/' principal
  | _ => false

def aclStructureLooksValid (content : String) : Bool :=
  let dataLines := ((lines content).map trim).filter fun trimmed =>
    !(trimmed = "" || isComment trimmed)
  let validLines := dataLines.filter looksLikeEntry
  if dataLines.length = 0 then false else 0 < validLines.length

structure Repair where
  outputLines : List String
  sawAdminWithStar : Bool
  badDataLines : Nat
  totalDataLines : Nat

def repairLine (adminPrinc requiredLine : String) (r : Repair) (line : String) : Repair :=
  let trimmed := trim line
  if trimmed = "" then { r with outputLines := r.outputLines ++ [""] }
  else if isComment trimmed then { r with outputLines := r.outputLines ++ [trimmed] }
  else
    let r := { r with totalDataLines := r.totalDataLines + 1 }
    match words trimmed with
    | principal :: _ :: _ =>
      if principal = adminPrinc then
        { r with outputLines := r.outputLines ++ [requiredLine], sawAdminWithStar := true }
      else { r with outputLines := r.outputLines ++ [trimmed] }
    | _ => { r with badDataLines := r.badDataLines + 1 }

def repairLines (content adminPrinc requiredLine : String) : Repair :=
  (lines content).foldl (repairLine adminPrinc requiredLine) ⟨[], false, 0, 0⟩

/-- The quotient of the counts is compared with a half; no count above two is ever divided. -/
def Repair.tooGarbled (r : Repair) : Bool :=
  0 < r.totalDataLines && (2 < r.badDataLines || r.totalDataLines < 2 * r.badDataLines)

def Repair.withRequired (requiredLine : String) (r : Repair) : List String :=
  if r.sawAdminWithStar then r.outputLines else r.outputLines ++ [requiredLine]

def endNewline (s : String) : String := if endsWith "\n" s then s else s ++ "\n"

def bestEffortRepairOrStandardize (content adminPrinc requiredLine : String) : Option String :=
  let r := repairLines content adminPrinc requiredLine
  if r.tooGarbled then none else some (endNewline (join "\n" (r.withRequired requiredLine)))

def adminPrinc (realm : String) : String := "admin/admin@" ++ realm

def requiredLine (adminPrinc : String) : String := adminPrinc ++ "    *"

/-- `kadm5.template.acl`; rendering drops the line feed at its end. -/
def renderTemplate (realmName : String) : String := "admin/admin@" ++ realmName ++ "    *"

def leftAlone (content adminPrinc : String) : Bool :=
  hasSufficientAdminEntry content adminPrinc && aclStructureLooksValid content

/-- The content of a file that exists and can be read, after the manager has looked at it. -/
def ensureKadm5Acl (lib : CaseLib) (realmName content : String) : String :=
  let admin := adminPrinc (lib.toUppercase realmName)
  if leftAlone content admin then content
  else
    match bestEffortRepairOrStandardize content admin (requiredLine admin) with
    | some repaired => if trim repaired ≠ trim content then repaired else content
    | none => renderTemplate realmName

def dataLines (content : String) : List String :=
  (entries content).filter fun trimmed => !isComment trimmed

def firstLineOf (principal content : String) : Option String :=
  (dataLines content).find? fun line => (words line).head? = some principal

def permissions (line : String) : Option String := (words line).tail.head?

/-- The first data line of the principal grants everything. -/
def GrantsAll (principal content : String) : Prop :=
  ∃ line, firstLineOf principal content = some line ∧ permissions line = some "*"

/-- Comments, and data lines with at least two columns of other principals. -/
def isOthers (principal trimmed : String) : Bool :=
  isComment trimmed ||
    match words trimmed with
    | p :: _ :: _ => p ≠ principal
    | _ => false

theorem mem_dataLines {content line : String} :
    line ∈ dataLines content ↔ line ∈ (lines content).map trim ∧ line ≠ "" ∧ isComment line = false := by
  rw [dataLines, entries, List.filter_filter, List.mem_filter]
  refine and_congr_right fun _ => ?_
  rw [Bool.and_eq_true, Bool.not_eq_true', decide_eq_true_eq, and_comm]

theorem hasSufficientAdminEntry_iff {content principal : String} :
    hasSufficientAdminEntry content principal = true ↔
      ∃ line ∈ dataLines content, (words line).head? = some principal ∧ hasChar '*' line = true := by
  simp only [hasSufficientAdminEntry, List.any_eq_true, mem_dataLines]
  constructor
  · rintro ⟨line, hline, h⟩
    split at h
    · cases h
    · next hdata =>
      simp only [Bool.or_eq_true, decide_eq_true_eq, not_or, Bool.not_eq_true] at hdata
      exact ⟨trim line, ⟨List.mem_map.mpr ⟨line, hline, rfl⟩, hdata⟩, by simpa using h⟩
  · rintro ⟨_, ⟨hmem, hdata⟩, h⟩
    obtain ⟨line, hline, rfl⟩ := List.mem_map.mp hmem
    refine ⟨line, hline, ?_⟩
    rw [if_neg (by simpa using hdata)]
    simpa using h

theorem aclStructureLooksValid_iff {content : String} :
    aclStructureLooksValid content = true ↔
      ∃ line ∈ dataLines content, looksLikeEntry line = true := by
  have hdata : (((lines content).map trim).filter fun trimmed =>
      !(trimmed = "" || isComment trimmed)) = dataLines content := by
    rw [dataLines, entries, List.filter_filter]
    congr 1
    funext trimmed
    by_cases h : trimmed = "" <;> simp [h]
  unfold aclStructureLooksValid
  simp only [hdata]
  constructor
  · intro h
    split at h
    · cases h
    · obtain ⟨line, hline⟩ := List.exists_mem_of_length_pos (of_decide_eq_true h)
      exact ⟨line, List.mem_filter.mp hline⟩
  · rintro ⟨line, hline, hentry⟩
    have hmem := List.mem_filter.mpr ⟨hline, hentry⟩
    rw [if_neg (List.length_pos_of_mem hline).ne']
    exact decide_eq_true (List.length_pos_of_mem hmem)

theorem no_space_of_head_words {principal line : String} (h : (words line).head? = some principal) :
    ∀ c ∈ principal.toList, isWhitespace c = false :=
  space_of_mem_wordsBy (List.mem_of_head? h)

/-! ## The required line -/

theorem no_space_adminPrinc {realm : String} :
    (∀ c ∈ (adminPrinc realm).toList, isWhitespace c = false) ↔
      ∀ c ∈ realm.toList, isWhitespace c = false := by
  have happend : ∀ p s : String, (∀ c ∈ p.toList, isWhitespace c = false) →
      ((∀ c ∈ (p ++ s).toList, isWhitespace c = false) ↔ ∀ c ∈ s.toList, isWhitespace c = false) := by
    intro p s hp
    rw [String.toList_append]
    exact ⟨fun h c hc => h c (List.mem_append_right _ hc),
      fun h c hc => (List.mem_append.mp hc).elim (hp c) (h c)⟩
  exact happend "admin/admin@" realm (no_space_of_all (by decide +kernel))

section

variable {realm : String} (hrealm : ∀ c ∈ realm.toList, isWhitespace c = false)

theorem toList_requiredLine (realm : String) : (requiredLine (adminPrinc realm)).toList =
    'a' :: ("dmin/admin@" : String).toList ++ realm.toList ++ "    ".toList ++ ['*'] := by
  simp only [requiredLine, adminPrinc, String.toList_append]
  rw [show ("admin/admin@" : String).toList = 'a' :: ("dmin/admin@" : String).toList by decide,
    show ("    *" : String).toList = "    ".toList ++ ['*'] by decide]
  simp

theorem isComment_requiredLine (realm : String) :
    isComment (requiredLine (adminPrinc realm)) = false := by
  simp [isComment, startsWith, toList_requiredLine, List.isPrefixOf]

theorem trim_requiredLine (realm : String) :
    trim (requiredLine (adminPrinc realm)) = requiredLine (adminPrinc realm) := by
  rw [← String.toList_inj, toList_trim, toList_requiredLine, List.cons_append, List.cons_append,
    List.cons_append, List.dropWhile_cons_of_neg (by decide), ← List.cons_append,
    List.rdropWhile_concat_neg _ _ _ (by decide)]

theorem requiredLine_ne_empty (realm : String) : requiredLine (adminPrinc realm) ≠ "" := by
  intro h
  have hlist := congrArg String.toList h
  rw [toList_requiredLine] at hlist
  cases hlist

include hrealm

theorem words_requiredLine : words (requiredLine (adminPrinc realm)) = [adminPrinc realm, "*"] := by
  have hne : adminPrinc realm ≠ "" := by
    intro h
    have hlist := congrArg String.toList h
    rw [adminPrinc, String.toList_append] at hlist
    cases hlist
  have hsep : IsSep " " ' ' := by unfold IsSep; decide
  have hline : requiredLine (adminPrinc realm) = adminPrinc realm ++ " " ++ "   *" := by
    rw [requiredLine, String.append_assoc]
    rfl
  rw [words, hline, wordsBy_cons hsep (by decide) hne (no_space_adminPrinc.mpr hrealm)]
  congr 1

theorem not_hasChar_requiredLine : hasChar '\n' (requiredLine (adminPrinc realm)) = false := by
  have hmem : '\n' ∉ realm.toList := fun h => absurd (hrealm _ h) (by decide)
  simp [hasChar, toList_requiredLine, hmem]

theorem isOthers_requiredLine :
    isOthers (adminPrinc realm) (requiredLine (adminPrinc realm)) = false := by
  simp [isOthers, isComment_requiredLine, words_requiredLine hrealm]

theorem leftAlone_of_requiredLine {content : String}
    (h : requiredLine (adminPrinc realm) ∈ entries content) :
    leftAlone content (adminPrinc realm) = true := by
  have hdata : requiredLine (adminPrinc realm) ∈ dataLines content :=
    List.mem_filter.mpr ⟨h, by simp [isComment_requiredLine]⟩
  have hwords := words_requiredLine hrealm
  have hstar : hasChar '*' (requiredLine (adminPrinc realm)) = true := by
    simp [hasChar, toList_requiredLine]
  have hslash : hasChar '/' (adminPrinc realm) = true := by
    have hfixed : '/' ∈ ("admin/admin@" : String).toList := by decide
    simp only [hasChar, adminPrinc, String.toList_append, List.contains_eq_mem, List.mem_append,
      hfixed, true_or, decide_true]
  rw [leftAlone, Bool.and_eq_true, hasSufficientAdminEntry_iff, aclStructureLooksValid_iff]
  refine ⟨⟨_, hdata, by rw [hwords]; rfl, hstar⟩, _, hdata, ?_⟩
  simp [looksLikeEntry, hwords, hslash]

theorem grantsAll_of_requiredLine {content : String}
    (hmem : requiredLine (adminPrinc realm) ∈ entries content)
    (hall : ∀ line ∈ dataLines content, (words line).head? = some (adminPrinc realm) →
      line = requiredLine (adminPrinc realm)) :
    GrantsAll (adminPrinc realm) content := by
  have hwords := words_requiredLine hrealm
  have hdata : requiredLine (adminPrinc realm) ∈ dataLines content :=
    List.mem_filter.mpr ⟨hmem, by simp [isComment_requiredLine]⟩
  cases hfirst : firstLineOf (adminPrinc realm) content with
  | none =>
    have hno := List.find?_eq_none.mp hfirst _ hdata
    simp [hwords] at hno
  | some line =>
    have hhead := List.find?_some hfirst
    have hline := hall line (List.mem_of_find?_eq_some hfirst) (by simpa using hhead)
    refine ⟨line, hfirst, ?_⟩
    rw [hline, permissions, hwords]
    rfl

end

/-! ## What a repair leaves -/

def outputOf (adminPrinc requiredLine trimmed : String) : List String :=
  if trimmed = "" then [""]
  else if isComment trimmed then [trimmed]
  else
    match words trimmed with
    | principal :: _ :: _ => if principal = adminPrinc then [requiredLine] else [trimmed]
    | _ => []

section

variable {admin required : String}

theorem repairLine_outputLines (r : Repair) (line : String) :
    (repairLine admin required r line).outputLines =
      r.outputLines ++ outputOf admin required (trim line) := by
  unfold repairLine outputOf
  dsimp only
  by_cases hempty : trim line = ""
  · simp [hempty]
  by_cases hcomment : isComment (trim line) = true
  · simp [hempty, hcomment]
  simp only [hempty, hcomment, if_false, Bool.false_eq_true]
  rcases words (trim line) with _ | ⟨principal, _ | ⟨second, rest⟩⟩
  · simp
  · simp
  · dsimp only
    split <;> rfl

theorem outputLines_foldl (ls : List String) (r : Repair) :
    (ls.foldl (repairLine admin required) r).outputLines =
      r.outputLines ++ (ls.map trim).flatMap (outputOf admin required) := by
  induction ls generalizing r with
  | nil => simp
  | cons l ls ih => rw [List.foldl_cons, ih, repairLine_outputLines]; simp

theorem sawAdmin_repairLine {r : Repair} {line : String}
    (h : (repairLine admin required r line).sawAdminWithStar = true) :
    r.sawAdminWithStar = true ∨ required ∈ outputOf admin required (trim line) := by
  unfold repairLine at h
  unfold outputOf
  dsimp only at h
  generalize trim line = t at h ⊢
  by_cases hempty : t = ""
  · rw [if_pos hempty] at h
    exact .inl h
  by_cases hcomment : isComment t = true
  · rw [if_neg hempty, if_pos hcomment] at h
    exact .inl h
  rw [if_neg hempty, if_neg hcomment] at h ⊢
  generalize words t = ws at h ⊢
  rcases ws with _ | ⟨principal, _ | ⟨second, rest⟩⟩
  · exact .inl h
  · exact .inl h
  · by_cases hadmin : principal = admin
    · exact .inr (by simp [hadmin])
    · simp only [hadmin, if_false] at h
      exact .inl h

theorem sawAdmin_foldl (ls : List String) {r : Repair}
    (hr : r.sawAdminWithStar = true → required ∈ r.outputLines)
    (h : (ls.foldl (repairLine admin required) r).sawAdminWithStar = true) :
    required ∈ (ls.foldl (repairLine admin required) r).outputLines := by
  induction ls generalizing r with
  | nil => exact hr h
  | cons l ls ih =>
    refine ih (fun hsaw => ?_) h
    rw [repairLine_outputLines]
    rcases sawAdmin_repairLine hsaw with hbefore | hnow
    · exact List.mem_append_left _ (hr hbefore)
    · exact List.mem_append_right _ hnow

theorem required_mem_withRequired (content : String) :
    required ∈ (repairLines content admin required).withRequired required := by
  unfold Repair.withRequired
  split
  · next hsaw => exact sawAdmin_foldl _ (by simp) hsaw
  · simp

theorem mem_withRequired {content line : String}
    (h : line ∈ (repairLines content admin required).withRequired required) :
    line = required ∨ ∃ t ∈ (lines content).map trim, line ∈ outputOf admin required t := by
  have houtput : (repairLines content admin required).outputLines =
      ((lines content).map trim).flatMap (outputOf admin required) := by
    rw [repairLines, outputLines_foldl, List.nil_append]
  unfold Repair.withRequired at h
  rw [houtput] at h
  split at h
  · exact .inr (List.mem_flatMap.mp h)
  · rcases List.mem_append.mp h with h | h
    · exact .inr (List.mem_flatMap.mp h)
    · exact .inl (List.mem_singleton.mp h)

theorem mem_outputOf {trimmed line : String} (h : line ∈ outputOf admin required trimmed) :
    line = required ∨ line = trimmed ∧
      (isComment line = false → (words line).head? ≠ some admin) := by
  unfold outputOf at h
  split at h
  · next hempty =>
    have hline := List.mem_singleton.mp h
    have hwords : words "" = [] := by decide
    exact .inr ⟨hline.trans hempty.symm, fun _ => by simp [hline, hwords]⟩
  split at h
  · next hcomment =>
    have hline := List.mem_singleton.mp h
    exact .inr ⟨hline, fun hno => absurd (hline ▸ hcomment) (by simp [hno])⟩
  split at h
  · next principal second rest hwords =>
    split at h
    · exact .inl (List.mem_singleton.mp h)
    · next hother =>
      have hline := List.mem_singleton.mp h
      exact .inr ⟨hline, fun _ => by simpa [hline, hwords] using hother⟩
  · cases h

end

section

variable {realm : String} (hrealm : ∀ c ∈ realm.toList, isWhitespace c = false)

theorem entries_endNewline (s : String) : entries (endNewline s) = entries s := by
  unfold endNewline
  split
  · rfl
  · rw [entries_eq, entries_eq, String.toList_append,
      show ("\n" : String).toList = ['\n'] by decide, entriesList_concat (by decide)]

include hrealm

theorem entries_repaired {content repaired : String}
    (h : bestEffortRepairOrStandardize content (adminPrinc realm) (requiredLine (adminPrinc realm)) =
      some repaired) :
    entries repaired = ((repairLines content (adminPrinc realm)
      (requiredLine (adminPrinc realm))).withRequired (requiredLine (adminPrinc realm))).filter
        fun s => s ≠ "" := by
  unfold bestEffortRepairOrStandardize at h
  dsimp only at h
  split at h
  · cases h
  · rw [← Option.some.inj h, entries_endNewline]
    refine entries_join (List.ne_nil_of_mem (required_mem_withRequired content)) fun line hline => ?_
    have hrequired : hasChar '\n' (requiredLine (adminPrinc realm)) = false ∧
        trim (requiredLine (adminPrinc realm)) = requiredLine (adminPrinc realm) :=
      ⟨not_hasChar_requiredLine hrealm, trim_requiredLine realm⟩
    rcases mem_withRequired hline with rfl | ⟨t, ht, houtput⟩
    · exact hrequired
    rcases mem_outputOf houtput with rfl | ⟨rfl, -⟩
    · exact hrequired
    · obtain ⟨l, hl, rfl⟩ := List.mem_map.mp ht
      exact ⟨hasChar_trim (not_hasChar_of_mem_lines hl), trim_trim l⟩

theorem requiredLine_mem_repaired {content repaired : String}
    (h : bestEffortRepairOrStandardize content (adminPrinc realm) (requiredLine (adminPrinc realm)) =
      some repaired) : requiredLine (adminPrinc realm) ∈ entries repaired := by
  rw [entries_repaired hrealm h]
  exact List.mem_filter.mpr ⟨required_mem_withRequired content,
    by simpa using requiredLine_ne_empty realm⟩

theorem grantsAll_repaired {content repaired : String}
    (h : bestEffortRepairOrStandardize content (adminPrinc realm) (requiredLine (adminPrinc realm)) =
      some repaired) : GrantsAll (adminPrinc realm) repaired := by
  refine grantsAll_of_requiredLine hrealm (requiredLine_mem_repaired hrealm h)
    fun line hline hhead => ?_
  obtain ⟨hentry, hdata⟩ := List.mem_filter.mp hline
  rw [entries_repaired hrealm h] at hentry
  rcases mem_withRequired (List.mem_filter.mp hentry).1 with rfl | ⟨t, -, houtput⟩
  · rfl
  rcases mem_outputOf houtput with rfl | ⟨rfl, hother⟩
  · rfl
  · exact absurd hhead (hother (by simpa using hdata))

theorem leftAlone_of_trim_eq {content repaired : String}
    (h : bestEffortRepairOrStandardize content (adminPrinc realm) (requiredLine (adminPrinc realm)) =
      some repaired) (htrim : trim repaired = trim content) :
    leftAlone content (adminPrinc realm) = true := by
  refine leftAlone_of_requiredLine hrealm ?_
  rw [← entries_trim content, ← htrim, entries_trim]
  exact requiredLine_mem_repaired hrealm h

theorem entries_requiredLine :
    entries (requiredLine (adminPrinc realm)) = [requiredLine (adminPrinc realm)] := by
  have h := entries_join (List.cons_ne_nil (requiredLine (adminPrinc realm)) []) fun line hline => by
    cases List.mem_singleton.mp hline
    exact ⟨not_hasChar_requiredLine hrealm, trim_requiredLine realm⟩
  rw [List.filter_cons_of_pos (by simpa using requiredLine_ne_empty realm), List.filter_nil] at h
  exact h

theorem filter_isOthers_outputOf (trimmed : String) :
    (outputOf (adminPrinc realm) (requiredLine (adminPrinc realm)) trimmed).filter
      (isOthers (adminPrinc realm)) = [trimmed].filter (isOthers (adminPrinc realm)) := by
  unfold outputOf
  split
  · next hempty => rw [hempty]
  split
  · rfl
  · next hcomment =>
    split
    · next principal second rest hwords =>
      split
      · next hadmin =>
        have hown : isOthers (adminPrinc realm) trimmed = false := by
          simp [isOthers, hcomment, hwords, hadmin]
        simp [isOthers_requiredLine hrealm, hown]
      · rfl
    · next hshort =>
      have hno : isOthers (adminPrinc realm) trimmed = false := by
        unfold isOthers
        split
        · next p second rest hwords => exact absurd hwords (hshort p second rest)
        · simpa using hcomment
      simp [hno]

omit hrealm in
theorem isOthers_empty (principal : String) : isOthers principal "" = false := by
  have hwords : words "" = [] := by decide
  rw [isOthers, hwords]
  rfl

omit hrealm in
theorem filter_isOthers_entries (content : String) :
    (entries content).filter (isOthers (adminPrinc realm)) =
      ((lines content).map trim).filter (isOthers (adminPrinc realm)) := by
  rw [entries, List.filter_filter]
  refine List.filter_congr fun line _ => ?_
  by_cases h : line = ""
  · simp [h, isOthers_empty]
  · simp [h]

theorem filter_isOthers_repaired {content repaired : String}
    (h : bestEffortRepairOrStandardize content (adminPrinc realm) (requiredLine (adminPrinc realm)) =
      some repaired) :
    (entries repaired).filter (isOthers (adminPrinc realm)) =
      (entries content).filter (isOthers (adminPrinc realm)) := by
  have hflat : ∀ ls : List String,
      (ls.flatMap (outputOf (adminPrinc realm) (requiredLine (adminPrinc realm)))).filter
        (isOthers (adminPrinc realm)) = ls.filter (isOthers (adminPrinc realm)) := by
    intro ls
    induction ls with
    | nil => rfl
    | cons l ls ih =>
      rw [List.flatMap_cons, List.filter_append, ih, filter_isOthers_outputOf hrealm,
        ← List.filter_append]
      rfl
  have houtput : ∀ r : Repair, (r.withRequired (requiredLine (adminPrinc realm))).filter
      (isOthers (adminPrinc realm)) = r.outputLines.filter (isOthers (adminPrinc realm)) := by
    intro r
    unfold Repair.withRequired
    split
    · rfl
    · simp [isOthers_requiredLine hrealm]
  rw [entries_repaired hrealm h, List.filter_filter, filter_isOthers_entries content, ← hflat]
  have hfilter : ∀ ls : List String, (ls.filter fun s => isOthers (adminPrinc realm) s &&
      decide (s ≠ "")) = ls.filter (isOthers (adminPrinc realm)) := by
    intro ls
    refine List.filter_congr fun line _ => ?_
    by_cases hline : line = ""
    · simp [hline, isOthers_empty]
    · simp [hline]
  rw [hfilter, houtput, repairLines, outputLines_foldl, List.nil_append]

end

/-! ## The rights of the local admin -/

section

variable [External] {lib : CaseLib}

theorem toUppercase_deriveRealm (hupper : ∀ s, lib.toUppercase (lib.toUppercase s) = lib.toUppercase s)
    (env : Env) :
    lib.toUppercase (deriveRealmFromBaseDn lib env) = deriveRealmFromBaseDn lib env := hupper _

omit [External] in
theorem ensureKadm5Acl_cases {realm : String} (hrealm : ∀ c ∈ realm.toList, isWhitespace c = false)
    (hupper : lib.toUppercase realm = realm) (content : String) :
    (leftAlone content (adminPrinc realm) = true ∧ ensureKadm5Acl lib realm content = content) ∨
    (leftAlone content (adminPrinc realm) = false ∧
      (repairLines content (adminPrinc realm) (requiredLine (adminPrinc realm))).tooGarbled = false ∧
      bestEffortRepairOrStandardize content (adminPrinc realm) (requiredLine (adminPrinc realm)) =
        some (ensureKadm5Acl lib realm content)) ∨
    (leftAlone content (adminPrinc realm) = false ∧
      (repairLines content (adminPrinc realm) (requiredLine (adminPrinc realm))).tooGarbled = true ∧
      ensureKadm5Acl lib realm content = requiredLine (adminPrinc realm)) := by
  unfold ensureKadm5Acl
  rw [hupper]
  dsimp only
  cases halone : leftAlone content (adminPrinc realm) with
  | true => exact .inl ⟨rfl, by rw [if_pos rfl]⟩
  | false =>
    refine .inr ?_
    rw [if_neg (by simp)]
    cases hrepair : bestEffortRepairOrStandardize content (adminPrinc realm)
        (requiredLine (adminPrinc realm)) with
    | none =>
      refine .inr ⟨rfl, ?_, rfl⟩
      unfold bestEffortRepairOrStandardize at hrepair
      dsimp only at hrepair
      split at hrepair
      · assumption
      · cases hrepair
    | some repaired =>
      have hgarbled : (repairLines content (adminPrinc realm)
          (requiredLine (adminPrinc realm))).tooGarbled = false := by
        have hsome := hrepair
        unfold bestEffortRepairOrStandardize at hsome
        dsimp only at hsome
        split at hsome
        · cases hsome
        · next hgarbled => simpa using hgarbled
      have hchanged : trim repaired ≠ trim content := by
        intro htrim
        rw [leftAlone_of_trim_eq hrealm hrepair htrim] at halone
        cases halone
      refine .inl ⟨rfl, hgarbled, ?_⟩
      dsimp only
      rw [if_pos hchanged]

/-- The manager runs with the realm derived from the environment. Afterwards the first data line of the
local admin exists and grants everything exactly if the realm has no white space in it and a file that
was left alone did not begin the admin's lines with one that grants less. -/
theorem ensureKadm5Acl_grants_iff
    (hupper : ∀ s, lib.toUppercase (lib.toUppercase s) = lib.toUppercase s) (env : Env)
    (content : String) :
    GrantsAll (adminPrinc (deriveRealmFromBaseDn lib env))
        (ensureKadm5Acl lib (deriveRealmFromBaseDn lib env) content) ↔
      (∀ c ∈ (deriveRealmFromBaseDn lib env).toList, isWhitespace c = false) ∧
      (leftAlone content (adminPrinc (deriveRealmFromBaseDn lib env)) = true →
        ∀ line, firstLineOf (adminPrinc (deriveRealmFromBaseDn lib env)) content = some line →
          permissions line = some "*") := by
  have hidem := toUppercase_deriveRealm hupper env
  generalize deriveRealmFromBaseDn lib env = realm at hidem ⊢
  by_cases hrealm : ∀ c ∈ realm.toList, isWhitespace c = false
  · rw [and_iff_right hrealm]
    rcases ensureKadm5Acl_cases hrealm hidem content with
      ⟨halone, hresult⟩ | ⟨halone, -, hresult⟩ | ⟨halone, -, hresult⟩
    · rw [hresult]
      constructor
      · rintro ⟨line, hfirst, hstar⟩ - line' hline'
        rw [hfirst] at hline'
        cases hline'
        exact hstar
      · intro h
        have hentry := (Bool.and_eq_true _ _ ▸ halone).1
        obtain ⟨line, hline, hhead, -⟩ := hasSufficientAdminEntry_iff.mp hentry
        cases hfirst : firstLineOf (adminPrinc realm) content with
        | none => exact absurd hhead (by simpa using List.find?_eq_none.mp hfirst line hline)
        | some first => exact ⟨first, hfirst, h halone first hfirst⟩
    · exact iff_of_true (grantsAll_repaired hrealm hresult) fun h => by rw [halone] at h; cases h
    · refine iff_of_true ?_ fun h => by rw [halone] at h; cases h
      rw [hresult]
      refine grantsAll_of_requiredLine hrealm (by simp [entries_requiredLine hrealm])
        fun line hline _ => ?_
      simpa [entries_requiredLine hrealm] using (List.mem_filter.mp hline).1
  · refine iff_of_false ?_ fun h => hrealm h.1
    rintro ⟨line, hfirst, -⟩
    have hhead : (words line).head? = some (adminPrinc realm) := by
      simpa using List.find?_some hfirst
    exact hrealm (no_space_adminPrinc.mp (no_space_of_head_words hhead))

omit [External] in
/-- A second run changes nothing. Unless the first one wrote the file from the template, comments and
data lines of other principals with at least two columns are still there, in their order and trimmed. -/
theorem ensureKadm5Acl_stable (lib : CaseLib) (realmName content : String)
    (hrealm : ∀ c ∈ realmName.toList, isWhitespace c = false)
    (htemplate : renderTemplate realmName = requiredLine (adminPrinc (lib.toUppercase realmName))) :
    ensureKadm5Acl lib realmName (ensureKadm5Acl lib realmName content) =
      ensureKadm5Acl lib realmName content ∧
    (¬(leftAlone content (adminPrinc (lib.toUppercase realmName)) = false ∧
        (repairLines content (adminPrinc (lib.toUppercase realmName))
          (requiredLine (adminPrinc (lib.toUppercase realmName)))).tooGarbled = true) →
      (entries (ensureKadm5Acl lib realmName content)).filter
          (isOthers (adminPrinc (lib.toUppercase realmName))) =
        (entries content).filter (isOthers (adminPrinc (lib.toUppercase realmName)))) := by
  have hupper : lib.toUppercase realmName = realmName := by
    have hlist := congrArg String.toList htemplate
    simp only [renderTemplate, requiredLine, adminPrinc, String.toList_append,
      List.append_cancel_right_eq, List.append_cancel_left_eq] at hlist
    exact (String.toList_inj.mp hlist).symm
  rw [hupper]
  have hstays : ∀ {result : String}, requiredLine (adminPrinc realmName) ∈ entries result →
      ensureKadm5Acl lib realmName result = result := by
    intro result hmem
    rcases ensureKadm5Acl_cases hrealm hupper result with ⟨-, h⟩ | ⟨halone, -⟩ | ⟨halone, -⟩
    · exact h
    · rw [leftAlone_of_requiredLine hrealm hmem] at halone
      cases halone
    · rw [leftAlone_of_requiredLine hrealm hmem] at halone
      cases halone
  rcases ensureKadm5Acl_cases hrealm hupper content with
    ⟨-, hresult⟩ | ⟨-, -, hresult⟩ | ⟨halone, hgarbled, hresult⟩
  · rw [hresult, hresult]
    exact ⟨rfl, fun _ => rfl⟩
  · exact ⟨hstays (requiredLine_mem_repaired hrealm hresult),
      fun _ => filter_isOthers_repaired hrealm hresult⟩
  · refine ⟨hstays ?_, fun h => absurd ⟨halone, hgarbled⟩ h⟩
    rw [hresult]
    simp [entries_requiredLine hrealm]

end

/-! ## The files of `example.com` -/

open Plain

theorem isAscii_toUpper {c : Char} (h : isAscii c = true) : isAscii c.toUpper = true := by
  simp only [isAscii, decide_eq_true_eq] at h ⊢
  unfold Char.toUpper
  split
  · next hlower =>
    have hle : 97 ≤ c.toNat := UInt32.le_iff_toNat_le.mp hlower.1
    have hshift : ('A'.val - 'a'.val).toNat = 2 ^ 32 - 32 := by decide
    change (c.val + ('A'.val - 'a'.val)).toNat < 128
    rw [UInt32.toNat_add, hshift]
    change (c.toNat + (2 ^ 32 - 32)) % 2 ^ 32 < 128
    omega
  · exact h

theorem plainCase_idem (s : String) :
    plainCase.toUppercase (plainCase.toUppercase s) = plainCase.toUppercase s := by
  unfold CaseLib.toUppercase
  split
  · next hascii =>
    have hupper : (asciiUpper s).toList.all isAscii = true := by
      rw [asciiUpper, String.toList_ofList, List.all_map]
      exact List.all_eq_true.mpr fun c hc => isAscii_toUpper (List.all_eq_true.mp hascii c hc)
    rw [if_pos hupper, ← String.toList_inj]
    simp [asciiUpper, Char.toUpper_toUpper_eq_toUpper]
  · next hother => exact if_neg hother

example : deriveRealmFromBaseDn plainCase (envOf "dc=example,dc=com") = "EXAMPLE.COM" := by
  decide +kernel

/-- A file with entries of other principals and a weak one of the local admin. -/
def weakAcl : String :=
  "# local\nbackup/admin@EXAMPLE.COM    i\nadmin/admin@EXAMPLE.COM    l\n*/admin@EXAMPLE.COM    c\n"

theorem weak_acl_granted :
    GrantsAll (adminPrinc (deriveRealmFromBaseDn plainCase (envOf "dc=example,dc=com")))
      (ensureKadm5Acl plainCase (deriveRealmFromBaseDn plainCase (envOf "dc=example,dc=com"))
        weakAcl) := by
  have hrealm : deriveRealmFromBaseDn plainCase (envOf "dc=example,dc=com") = "EXAMPLE.COM" := by
    decide +kernel
  refine (ensureKadm5Acl_grants_iff plainCase_idem (envOf "dc=example,dc=com") weakAcl).mpr ⟨?_, ?_⟩
  · rw [hrealm]
    exact no_space_of_all (by decide +kernel)
  · rw [hrealm]
    intro h
    exact absurd h (by decide +kernel)

example : permissions "admin/admin@EXAMPLE.COM    l    *" = some "l" := by decide +kernel

/-- The third column restricts the line to a target; the star in it is taken for the permissions. -/
theorem star_in_target_left_alone :
    let content := "admin/admin@EXAMPLE.COM    l    *\n"
    deriveRealmFromBaseDn plainCase (envOf "dc=example,dc=com") = "EXAMPLE.COM" ∧
      ensureKadm5Acl plainCase "EXAMPLE.COM" content = content ∧
      firstLineOf (adminPrinc "EXAMPLE.COM") content = some "admin/admin@EXAMPLE.COM    l    *" ∧
      permissions "admin/admin@EXAMPLE.COM    l    *" = some "l" ∧
      ¬ GrantsAll (adminPrinc "EXAMPLE.COM") (ensureKadm5Acl plainCase "EXAMPLE.COM" content) := by
  intro content
  have hensure : ensureKadm5Acl plainCase "EXAMPLE.COM" content = content := by decide +kernel
  have hfirst : firstLineOf (adminPrinc "EXAMPLE.COM") content =
      some "admin/admin@EXAMPLE.COM    l    *" := by decide +kernel
  have hlist : permissions "admin/admin@EXAMPLE.COM    l    *" = some "l" := by decide +kernel
  refine ⟨by decide +kernel, hensure, hfirst, hlist, ?_⟩
  rw [hensure]
  rintro ⟨line, hline, hstar⟩
  rw [hfirst] at hline
  cases hline
  rw [hlist] at hstar
  exact absurd hstar (by decide)

example : firstLineOf (adminPrinc "EXAMPLE.COM") "# local\nadmin/admin@EXAMPLE.COM *" =
    some "admin/admin@EXAMPLE.COM *" := by
  decide +kernel

/-- A file with a comment, another principal and a weak line of the admin. -/
theorem weak_acl_stable :
    let content := "# local\n  bob@EXAMPLE.COM   l\nadmin/admin@EXAMPLE.COM l"
    ensureKadm5Acl plainCase "EXAMPLE.COM" (ensureKadm5Acl plainCase "EXAMPLE.COM" content) =
      ensureKadm5Acl plainCase "EXAMPLE.COM" content :=
  (ensureKadm5Acl_stable plainCase "EXAMPLE.COM"
    "# local\n  bob@EXAMPLE.COM   l\nadmin/admin@EXAMPLE.COM l"
    (no_space_of_all (by decide +kernel)) (by decide +kernel)).1

end Kerberos
end Klldap
