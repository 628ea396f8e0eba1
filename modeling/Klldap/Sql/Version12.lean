import Klldap.Principals

/-!
# Klldap.Sql.Version12: attribute rows in the migration to version 12

`migrate_to_v12` gives every user a `kerberossync` and every entry an `ou`, writes some forms of
`kerberossync` anew, and then moves the rows that stand under an alias of a built-in attribute to its
name: for each alias one `UPDATE` of the whole table, whose failure is ignored, and a `DELETE` of what is
left under the alias. The other statements of the step do not write attribute rows.
-/

namespace Klldap
namespace Sql

open Lib (Bytes Table)
open Lib.Bincode (utf8 ofUtf8?)
open Lib.Text (asciiLower parseI64)

/-! ## The tables -/

/-- What the value column holds. SQLite keeps the class of a value whatever the type of the column. -/
inductive Cell where
  | text (s : String)
  | blob (b : Bytes)
deriving DecidableEq

def Cell.bytes : Cell → Bytes
  | .text s => utf8 s
  | .blob b => b

/-- A row of `user_attributes` or of `group_attributes`. -/
structure RawRow (κ : Type) where
  owner : κ
  name : AttributeName
  value : Cell
deriving DecidableEq

/-- The primary key of `migrate_to_v5`. -/
abbrev RawTable (κ : Type) : Type := Table (RawRow κ) (κ × AttributeName) fun r => (r.owner, r.name)

/-- What the step reads and writes of attributes: the ids of users and groups, and the two tables. -/
structure AttributeStore where
  users : List UserId
  groups : List GroupId
  userAttributes : RawTable UserId
  groupAttributes : RawTable GroupId

section

variable {κ : Type} [DecidableEq κ]

def value? (t : RawTable κ) (o : κ) (n : String) : Option Cell :=
  (t.rows.find? fun r => r.owner = o ∧ r.name.asStr = n).map RawRow.value

/-- `INSERT … SELECT … WHERE NOT EXISTS`: no key that is inserted is taken. -/
def insertDefault (owners : List κ) (n : String) (value : Cell) (t : RawTable κ) : RawTable κ :=
  t.upsertAll ((owners.filter fun o => (t.find? (o, .new n)).isNone).map fun o => ⟨o, .new n, value⟩)

/-- How the database compares a blob with a text. SQLite takes them for different and folds the bytes in
`lower()`, MySQL compares the bytes. -/
structure BlobRules where
  eq : Bytes → String → Bool
  lowerEq : Bytes → String → Bool

def sqliteBlobs : BlobRules where
  eq _ _ := false
  lowerEq b s := (ofUtf8? b).map asciiLower = some s

def normalizes (rules : BlobRules) : Cell → Bool
  | .text s => s = "0" || s = "1" || asciiLower s = "true"
  | .blob b => rules.eq b "0" || rules.eq b "1" || rules.lowerEq b "true"

def kerbZero : Cell := .blob (utf8 "0")

def normalizeKerb (rules : BlobRules) (t : RawTable κ) : RawTable κ :=
  t.updateWhere (fun r => r.name.asStr = "kerberossync" && normalizes rules r.value)
    (fun r => { r with value := kerbZero }) fun _ => rfl

/-- `UPDATE … SET name = canonical WHERE name = alias`, whose error is ignored. -/
def migrateAlias (canonical : String) (t : RawTable κ) (s : String) : RawTable κ :=
  (t.rekey? (fun r => r.name.asStr = s) fun r => { r with name := .new canonical }).getD t

def normalizeAlias (canonical : String) (t : RawTable κ) (s : String) : RawTable κ :=
  (migrateAlias canonical t s).delete fun r => r.name.asStr = s

def normalizeAliases (attributes : AttributeList) (t : RawTable κ) : RawTable κ :=
  attributes.foldl (fun t attr => attr.aliases.foldl (normalizeAlias attr.name) t) t

end

def migrateToV12 (rules : BlobRules) (db : AttributeStore) : AttributeStore :=
  { db with
    userAttributes := normalizeAliases PublicSchema.get.userAttributes
      (insertDefault db.users "ou" (.text "people")
        (normalizeKerb rules (insertDefault db.users "kerberossync" kerbZero db.userAttributes)))
    groupAttributes := normalizeAliases PublicSchema.get.groupAttributes
      (insertDefault db.groups "ou" (.text "groups") db.groupAttributes) }

/-! ## Values under a name -/

section

variable {κ : Type} [DecidableEq κ]

theorem asStr_eq_iff {a : AttributeName} {n : String} (hn : asciiLower n = n) :
    a.asStr = n ↔ a = .new n := by
  constructor
  · rintro rfl
    exact (AttributeName.new_asStr a).symm
  · rintro rfl
    rw [AttributeName.asStr_new, hn]

theorem asciiLower_asStr (a : AttributeName) : asciiLower a.asStr = a.asStr := by
  rw [← AttributeName.asStr_new, AttributeName.new_asStr]

theorem value?_eq_some {t : RawTable κ} {o : κ} {n : String} {v : Cell} :
    value? t o n = some v ↔ ∃ r ∈ t.rows, r.owner = o ∧ r.name.asStr = n ∧ r.value = v := by
  unfold value?
  rw [Option.map_eq_some_iff]
  constructor
  · rintro ⟨r, hr, rfl⟩
    have hfound := List.find?_some hr
    simp only [decide_eq_true_eq] at hfound
    exact ⟨r, List.mem_of_find?_eq_some hr, hfound.1, hfound.2, rfl⟩
  · rintro ⟨r, hr, ho, hname, rfl⟩
    cases hfind : t.rows.find? fun r => r.owner = o ∧ r.name.asStr = n with
    | none =>
      have := List.find?_eq_none.mp hfind r hr
      simp [ho, hname] at this
    | some r' =>
      have hfound := List.find?_some hfind
      simp only [decide_eq_true_eq] at hfound
      refine ⟨r', rfl, congrArg RawRow.value ?_⟩
      refine List.inj_on_of_nodup_map t.nodup (List.mem_of_find?_eq_some hfind) hr ?_
      have hsame : r'.name = r.name := by
        rw [← AttributeName.new_asStr r'.name, hfound.2, ← hname, AttributeName.new_asStr]
      rw [hfound.1, ho, hsame]

theorem value?_isSome {t : RawTable κ} {o : κ} {n : String} :
    (value? t o n).isSome ↔ ∃ r ∈ t.rows, r.owner = o ∧ r.name.asStr = n := by
  rw [Option.isSome_iff_exists]
  simp only [value?_eq_some]
  constructor
  · rintro ⟨v, r, hr, ho, hname, -⟩
    exact ⟨r, hr, ho, hname⟩
  · rintro ⟨r, hr, ho, hname⟩
    exact ⟨r.value, r, hr, ho, hname, rfl⟩

theorem asciiLower_of_isSome {t : RawTable κ} {o : κ} {n : String} (h : (value? t o n).isSome) :
    asciiLower n = n := by
  obtain ⟨r, -, -, rfl⟩ := value?_isSome.mp h
  exact asciiLower_asStr r.name

theorem value?_of_not_folded {t : RawTable κ} {o : κ} {n : String} (hn : asciiLower n ≠ n) :
    value? t o n = none := by
  by_contra h
  exact hn (asciiLower_of_isSome (Option.isSome_iff_ne_none.mpr h))

theorem value?_find? {t : RawTable κ} {o : κ} {n : String} (hn : asciiLower n = n) :
    value? t o n = (t.find? (o, .new n)).map RawRow.value := by
  unfold value? Table.find?
  refine congrArg (Option.map RawRow.value) (congrArg (List.find? · t.rows) (funext fun r => ?_))
  simp only [asStr_eq_iff hn, Prod.mk.injEq]

theorem value?_insertDefault (owners : List κ) {n : String} (value : Cell) (hn : asciiLower n = n)
    (t : RawTable κ) (o : κ) (n' : String) :
    value? (insertDefault owners n value t) o n' =
      if n' = n ∧ o ∈ owners then some ((value? t o n).getD value) else value? t o n' := by
  by_cases hn' : asciiLower n' = n'
  · rw [value?_find? hn', value?_find? hn', value?_find? hn, insertDefault, Table.find?_upsertAll]
    cases hnew : List.find? (fun r : RawRow κ => (r.owner, r.name) = (o, AttributeName.new n'))
        (((owners.filter fun o => (t.find? (o, .new n)).isNone).map fun o => ⟨o, .new n, value⟩).reverse)
        with
    | some r =>
      obtain ⟨o', ho', rfl⟩ := List.mem_map.mp (List.mem_reverse.mp (List.mem_of_find?_eq_some hnew))
      obtain ⟨howner, habsent⟩ := List.mem_filter.mp ho'
      have hkey := List.find?_some hnew
      simp only [Prod.mk.injEq, decide_eq_true_eq] at hkey
      obtain ⟨rfl, hname⟩ := hkey
      have hsame : n = n' := by
        rw [← hn, ← hn', ← AttributeName.asStr_new, hname, AttributeName.asStr_new]
      rw [if_pos ⟨hsame.symm, howner⟩, Option.isNone_iff_eq_none.mp habsent]
      rfl
    | none =>
      rw [Option.none_or]
      split_ifs with h
      · obtain ⟨rfl, ho⟩ := h
        cases hold : t.find? (o, .new n') with
        | some r => rfl
        | none =>
          refine absurd rfl (of_decide_eq_false (eq_false_of_ne_true
            (List.find?_eq_none.mp hnew ⟨o, .new n', value⟩ ?_)))
          exact List.mem_reverse.mpr (List.mem_map.mpr
            ⟨o, List.mem_filter.mpr ⟨ho, by rw [hold]; rfl⟩, rfl⟩)
      · rfl
  · have hne : n' ≠ n := by
      rintro rfl
      exact hn' hn
    rw [value?_of_not_folded hn', value?_of_not_folded hn', if_neg fun h => hne h.1]

theorem value?_normalizeKerb (rules : BlobRules) (t : RawTable κ) (o : κ) (n : String) :
    value? (normalizeKerb rules t) o n =
      if n = "kerberossync" then
        (value? t o n).map fun v => if normalizes rules v then kerbZero else v
      else value? t o n := by
  unfold value? normalizeKerb Table.updateWhere Table.mapRows
  rw [List.find?_map]
  have hsame : ((fun r : RawRow κ => decide (r.owner = o ∧ r.name.asStr = n)) ∘ fun r =>
      if (r.name.asStr = "kerberossync" && normalizes rules r.value) = true then
        { r with value := kerbZero } else r) = fun r => decide (r.owner = o ∧ r.name.asStr = n) := by
    funext r
    simp only [Function.comp_apply]
    split_ifs <;> rfl
  rw [hsame]
  cases hfind : t.rows.find? fun r => r.owner = o ∧ r.name.asStr = n with
  | none => simp
  | some r =>
    have hname : r.name.asStr = n := by
      have hfound := List.find?_some hfind
      simp only [decide_eq_true_eq] at hfound
      exact hfound.2
    by_cases hn : n = "kerberossync"
    · cases hnorm : normalizes rules r.value <;> simp [hname, hn, hnorm]
    · simp [hname, hn]

theorem value?_delete (t : RawTable κ) (s : String) (o : κ) (n : String) :
    value? (t.delete fun r => r.name.asStr = s) o n = if n = s then none else value? t o n := by
  refine Option.ext fun v => ?_
  split_ifs with h
  · subst h
    refine iff_of_false (fun hv => ?_) (by simp)
    obtain ⟨r, hr, -, hname, -⟩ := value?_eq_some.mp hv
    have := (List.mem_filter.mp hr).2
    simp [hname] at this
  · rw [value?_eq_some, value?_eq_some]
    constructor
    · rintro ⟨r, hr, hrest⟩
      exact ⟨r, (List.mem_filter.mp hr).1, hrest⟩
    · rintro ⟨r, hr, ho, hname, hv⟩
      exact ⟨r, List.mem_filter.mpr ⟨hr, by simp [hname, h]⟩, ho, hname, hv⟩

/-! ## One alias -/

/-- Some owner has a value under `s` and under one of the names. -/
def clashes (t : RawTable κ) (names : List String) (s : String) : Bool :=
  t.rows.any fun r => r.name.asStr = s && names.any fun n => (value? t r.owner n).isSome

theorem clashes_iff {t : RawTable κ} {names : List String} {s : String} :
    clashes t names s = true ↔
      ∃ o, (value? t o s).isSome ∧ ∃ n ∈ names, (value? t o n).isSome := by
  simp only [clashes, List.any_eq_true, Bool.and_eq_true, decide_eq_true_eq]
  constructor
  · rintro ⟨r, hr, hs, hn⟩
    exact ⟨r.owner, value?_isSome.mpr ⟨r, hr, rfl, hs⟩, hn⟩
  · rintro ⟨o, hs, hn⟩
    obtain ⟨r, hr, rfl, hname⟩ := value?_isSome.mp hs
    exact ⟨r, hr, hname, hn⟩

theorem migrateAlias_isSome_iff {c s : String} (hc : asciiLower c = c) (hne : s ≠ c)
    (t : RawTable κ) :
    (t.rekey? (fun r => r.name.asStr = s) fun r => { r with name := .new c }).isSome ↔
      ¬clashes t [c] s = true := by
  rw [Table.rekey?_isSome_iff, clashes_iff]
  constructor
  · rintro hno ⟨o, hs, n, hn, hcan⟩
    obtain rfl := List.mem_singleton.mp hn
    obtain ⟨r, hr, rfl, hname⟩ := value?_isSome.mp hs
    obtain ⟨r', hr', ho, hname'⟩ := value?_isSome.mp hcan
    have hkept : r'.name.asStr ≠ s := by
      rw [hname']
      exact hne.symm
    have hsame : r = r' := by
      refine hno r hr r' hr' (by simpa using hname) ?_
      rw [if_neg (by simpa using hkept), ho, ← (asStr_eq_iff hc).mp hname']
    exact hkept (hsame ▸ hname)
  · intro hno r hr r' hr' hp heq
    have hname : r.name.asStr = s := by simpa using hp
    by_cases hname' : r'.name.asStr = s
    · have ho : r.owner = r'.owner := by simpa [hname'] using heq
      refine List.inj_on_of_nodup_map t.nodup hr hr' ?_
      have hn : r.name = r'.name := by
        rw [← AttributeName.new_asStr r.name, hname, ← hname', AttributeName.new_asStr]
      rw [ho, hn]
    · obtain ⟨ho, hn⟩ : r.owner = r'.owner ∧ AttributeName.new c = r'.name := by
        simpa [hname'] using heq
      refine absurd ⟨r.owner, value?_isSome.mpr ⟨r, hr, rfl, hname⟩, c, List.mem_singleton_self c, ?_⟩ hno
      exact value?_isSome.mpr ⟨r', hr', ho.symm, (asStr_eq_iff hc).mpr hn.symm⟩

theorem migrateAlias_clash {c s : String} (hc : asciiLower c = c) (hne : s ≠ c)
    {t : RawTable κ} (h : clashes t [c] s = true) : migrateAlias c t s = t := by
  unfold migrateAlias
  cases hre : t.rekey? (fun r => r.name.asStr = s) fun r => { r with name := .new c } with
  | none => rfl
  | some t' => exact absurd h ((migrateAlias_isSome_iff hc hne t).mp (by rw [hre]; rfl))

theorem value?_migrateAlias {c s : String} (hc : asciiLower c = c) (hne : s ≠ c) {t : RawTable κ}
    (h : ¬clashes t [c] s = true) (o : κ) {n : String} (hn : n ≠ s) :
    value? (migrateAlias c t s) o n =
      if n = c then (value? t o c).or (value? t o s) else value? t o n := by
  obtain ⟨t', ht'⟩ := Option.isSome_iff_exists.mp ((migrateAlias_isSome_iff hc hne t).mpr h)
  have hmigrated : migrateAlias c t s = t' := by rw [migrateAlias, ht', Option.getD_some]
  rw [hmigrated]
  refine Option.ext fun v => ?_
  have hmem : value? t' o n = some v ↔
      (n = c ∧ value? t o s = some v) ∨ value? t o n = some v := by
    simp only [value?_eq_some, Table.mem_rekey? ht']
    constructor
    · rintro ⟨r, ⟨r', hr', rfl⟩, ho, hname, hv⟩
      by_cases hs : r'.name.asStr = s
      · simp only [hs, decide_true, if_true, AttributeName.asStr_new, hc] at ho hname hv
        exact .inl ⟨hname.symm, r', hr', ho, hs, hv⟩
      · simp only [hs, decide_false, Bool.false_eq_true, if_false] at ho hname hv
        exact .inr ⟨r', hr', ho, hname, hv⟩
    · rintro (⟨rfl, r, hr, ho, hs, hv⟩ | ⟨r, hr, ho, hname, hv⟩)
      · exact ⟨{ r with name := .new n }, ⟨r, hr, by simp [hs]⟩, ho, by simp [hc], hv⟩
      · have hs : r.name.asStr ≠ s := by rwa [hname]
        exact ⟨r, ⟨r, hr, by simp [hs]⟩, ho, hname, hv⟩
  rw [hmem]
  split_ifs with hnc
  · subst hnc
    cases hcan : value? t o n with
    | none => simp
    | some w =>
      have hs : value? t o s = none := by
        by_contra hsome
        exact h (clashes_iff.mpr
          ⟨o, Option.isSome_iff_ne_none.mpr hsome, n, List.mem_singleton_self n, by rw [hcan]; rfl⟩)
      simp [hs]
  · simp [hnc]

theorem value?_normalizeAlias {c s : String} (hc : asciiLower c = c) (hne : s ≠ c) (t : RawTable κ)
    (o : κ) :
    value? (normalizeAlias c t s) o c =
        (if clashes t [c] s = true then value? t o c else (value? t o c).or (value? t o s)) ∧
      ∀ n, n ≠ c → n ≠ s → value? (normalizeAlias c t s) o n = value? t o n := by
  unfold normalizeAlias
  by_cases hclash : clashes t [c] s = true
  · rw [migrateAlias_clash hc hne hclash, if_pos hclash, value?_delete, if_neg hne.symm]
    exact ⟨rfl, fun n _ hn => by rw [value?_delete, if_neg hn]⟩
  · rw [if_neg hclash, value?_delete, if_neg hne.symm, value?_migrateAlias hc hne hclash o hne.symm,
      if_pos rfl]
    refine ⟨rfl, fun n hnc hn => ?_⟩
    rw [value?_delete, if_neg hn, value?_migrateAlias hc hne hclash o hn, if_neg hnc]

/-! ## The aliases of one attribute -/

/-- The aliases whose rows are moved, when those of `names` have been moved already: an alias is passed
over when somebody has a value under it and under one of them. -/
def takenOver (t : RawTable κ) : List String → List String → List String
  | _, [] => []
  | names, s :: aliases =>
    if clashes t names s then takenOver t names aliases
    else s :: takenOver t (names ++ [s]) aliases

theorem mem_of_takenOver {t : RawTable κ} {names aliases : List String} {n : String}
    (h : n ∈ takenOver t names aliases) : n ∈ aliases := by
  induction aliases generalizing names with
  | nil => exact h
  | cons s aliases ih =>
    rw [takenOver] at h
    split_ifs at h
    · exact List.mem_cons_of_mem s (ih h)
    · rcases List.mem_cons.mp h with rfl | h
      · exact List.mem_cons_self
      · exact List.mem_cons_of_mem s (ih h)

theorem takenOver_congr {t t' : RawTable κ} {names aliases : List String}
    (h : ∀ o, ∀ n ∈ names ++ aliases, value? t o n = value? t' o n) :
    takenOver t names aliases = takenOver t' names aliases := by
  induction aliases generalizing names with
  | nil => rfl
  | cons s aliases ih =>
    have hclashes : clashes t names s = clashes t' names s := by
      rw [Bool.eq_iff_iff, clashes_iff, clashes_iff]
      refine exists_congr fun o => and_congr (by rw [h o s (by simp)]) (exists_congr fun n => ?_)
      exact and_congr_right fun hn => by rw [h o n (List.mem_append_left _ hn)]
    rw [takenOver, takenOver, hclashes,
      ih fun o n hn => h o n (by rcases List.mem_append.mp hn with hn | hn <;> simp [hn]),
      ih fun o n hn => h o n (by simpa using hn)]

/-- The induction is on the aliases that are left; `names` are those whose rows stand under the name
now. -/
theorem value?_foldl_normalizeAlias {c : String} (hc : asciiLower c = c) {aliases : List String}
    (names : List String)
    {t₀ t : RawTable κ} (hnodup : aliases.Nodup) (hca : c ∉ aliases)
    (hcanonical : ∀ o, value? t o c = names.findSome? (value? t₀ o))
    (hleft : ∀ o, ∀ s ∈ aliases, value? t o s = value? t₀ o s) (o : κ) :
    value? (aliases.foldl (normalizeAlias c) t) o c =
      (names ++ takenOver t₀ names aliases).findSome? (value? t₀ o) := by
  induction aliases generalizing names t with
  | nil => simpa [takenOver] using hcanonical o
  | cons s aliases ih =>
    obtain ⟨hs, hnodup⟩ := List.nodup_cons.mp hnodup
    obtain ⟨hne, hca⟩ : c ≠ s ∧ c ∉ aliases := by simpa using hca
    have hstep (o : κ) := value?_normalizeAlias hc hne.symm t o
    have hleft' : ∀ o, ∀ n ∈ aliases, value? (normalizeAlias c t s) o n = value? t₀ o n := by
      intro o n hn
      rw [(hstep o).2 n (fun h => hca (h ▸ hn)) (fun h => hs (h ▸ hn)),
        hleft o n (List.mem_cons_of_mem s hn)]
    have hclash : clashes t [c] s = true ↔ clashes t₀ names s = true := by
      rw [clashes_iff, clashes_iff]
      refine exists_congr fun o => ?_
      simp only [List.mem_singleton, exists_eq_left]
      rw [hleft o s List.mem_cons_self, hcanonical o, List.findSome?_isSome_iff]
    rw [List.foldl_cons, takenOver]
    split_ifs with h
    · exact ih names hnodup hca (fun o => by rw [(hstep o).1, if_pos (hclash.mpr h), hcanonical o]) hleft'
    · rw [ih (names ++ [s]) hnodup hca (fun o => ?_) hleft', List.append_assoc]
      · rfl
      · rw [(hstep o).1, if_neg fun hcl => h (hclash.mp hcl), hcanonical o,
          hleft o s List.mem_cons_self, List.findSome?_append]
        simp

theorem value?_foldl_of_ne {c : String} (hc : asciiLower c = c) {aliases : List String}
    (hca : c ∉ aliases) {n : String} (hnc : n ≠ c) (hn : n ∉ aliases) (t : RawTable κ) (o : κ) :
    value? (aliases.foldl (normalizeAlias c) t) o n = value? t o n := by
  induction aliases generalizing t with
  | nil => rfl
  | cons s aliases ih =>
    obtain ⟨hne, hca⟩ : c ≠ s ∧ c ∉ aliases := by simpa using hca
    obtain ⟨hns, hn⟩ : n ≠ s ∧ n ∉ aliases := by simpa using hn
    rw [List.foldl_cons, ih hca hn, (value?_normalizeAlias hc hne.symm t o).2 n hnc hns]

/-! ## All attributes -/

def allNames (a : AttributeSchema) : List String := a.name :: a.aliases

/-- Folded names, and no name or alias stands twice. -/
structure NamesApart (l : AttributeList) : Prop where
  lower : ∀ a ∈ l, asciiLower a.name = a.name
  nodup : (l.flatMap allNames).Nodup

theorem userAttributes_namesApart : NamesApart PublicSchema.userAttributes where
  lower := userAttributes_wellNamed.lower
  nodup := by decide

theorem groupAttributes_namesApart : NamesApart PublicSchema.groupAttributes where
  lower := groupAttributes_wellNamed.lower
  nodup := by decide

theorem NamesApart.cons {a : AttributeSchema} {l : AttributeList} (h : NamesApart (a :: l)) :
    asciiLower a.name = a.name ∧ a.aliases.Nodup ∧ a.name ∉ a.aliases ∧
      (∀ b ∈ l, (allNames a).Disjoint (allNames b)) ∧ NamesApart l := by
  obtain ⟨hlower, hnodup⟩ := h
  rw [List.flatMap_cons, List.nodup_append'] at hnodup
  obtain ⟨hown, hrest, hdisjoint⟩ := hnodup
  obtain ⟨hname, haliases⟩ := List.nodup_cons.mp hown
  refine ⟨hlower a List.mem_cons_self, haliases, hname, fun b hb n hn hn' => ?_,
    ⟨fun b hb => hlower b (List.mem_cons_of_mem a hb), hrest⟩⟩
  exact hdisjoint hn (List.mem_flatMap.mpr ⟨b, hb, hn'⟩)

theorem value?_normalizeAliases_of_not_mem {l : AttributeList} (hl : NamesApart l) {n : String}
    (hn : ∀ a ∈ l, n ∉ allNames a) (t : RawTable κ) (o : κ) :
    value? (normalizeAliases l t) o n = value? t o n := by
  induction l generalizing t with
  | nil => rfl
  | cons a l ih =>
    obtain ⟨hlower, -, hname, -, hl⟩ := hl.cons
    obtain ⟨hne, hna⟩ : n ≠ a.name ∧ n ∉ a.aliases := by
      simpa [allNames] using hn a List.mem_cons_self
    have hrest := ih hl (fun b hb => hn b (List.mem_cons_of_mem a hb))
      (a.aliases.foldl (normalizeAlias a.name) t)
    rw [value?_foldl_of_ne hlower hname hne hna] at hrest
    exact hrest

theorem settled_congr {t t' : RawTable κ} {a : AttributeSchema}
    (hsame : ∀ o, ∀ n ∈ allNames a, value? t' o n = value? t o n) (o : κ) :
    (a.name :: takenOver t' [a.name] a.aliases).findSome? (value? t' o) =
      (a.name :: takenOver t [a.name] a.aliases).findSome? (value? t o) := by
  rw [takenOver_congr hsame, ← List.head?_filterMap, ← List.head?_filterMap]
  refine congrArg List.head? (List.filterMap_congr fun n hn => hsame o n ?_)
  rcases List.mem_cons.mp hn with rfl | hn
  · exact List.mem_cons_self
  · exact List.mem_cons_of_mem _ (mem_of_takenOver hn)

theorem value?_normalizeAliases {l : AttributeList} (hl : NamesApart l) {a : AttributeSchema}
    (ha : a ∈ l) (t : RawTable κ) (o : κ) :
    value? (normalizeAliases l t) o a.name =
      (a.name :: takenOver t [a.name] a.aliases).findSome? (value? t o) := by
  induction l generalizing t with
  | nil => cases ha
  | cons b l ih =>
    obtain ⟨hlower, haliases, hname, hapart, hrest⟩ := hl.cons
    have hfirst : normalizeAliases (b :: l) t =
        normalizeAliases l (b.aliases.foldl (normalizeAlias b.name) t) := rfl
    rw [hfirst]
    rcases List.mem_cons.mp ha with rfl | ha
    · rw [value?_normalizeAliases_of_not_mem hrest fun b hb => hapart b hb (List.mem_cons_self (a := a.name))]
      exact value?_foldl_normalizeAlias hlower [a.name] haliases hname (fun o => by simp)
        (fun o s _ => rfl) o
    · have hsame (o : κ) : ∀ n ∈ allNames a,
          value? (b.aliases.foldl (normalizeAlias b.name) t) o n = value? t o n := by
        intro n hn
        have hnb : n ∉ allNames b := fun hnb => hapart a ha hnb hn
        obtain ⟨hne, hnb⟩ : n ≠ b.name ∧ n ∉ b.aliases := by simpa [allNames] using hnb
        exact value?_foldl_of_ne hlower hname hne hnb t o
      rw [ih hrest ha, settled_congr hsame]

/-- The value that stood under the name stands there still; if there was none, the value of some alias
does. The name of an alias is read in any letter case. -/
def KeepsValue (t t' : RawTable κ) (o : κ) (a : AttributeSchema) : Prop :=
  match value? t o a.name with
  | some v => ∃ v', value? t' o a.name = some v' ∧ v'.bytes = v.bytes
  | none => (∃ s ∈ a.aliases, (value? t o (asciiLower s)).isSome) →
    ∃ s ∈ a.aliases, ∃ v v', value? t o (asciiLower s) = some v ∧ value? t' o a.name = some v' ∧
      v'.bytes = v.bytes

/-- Before the migration: the value under the name, which is rewritten for some values of
`kerberossync`, or a value under an alias, which has to be the default where there is one, and else has
to be under an alias that is taken over. -/
def Safe (rules : BlobRules) (default : String → Option Cell) (t : RawTable κ) (o : κ)
    (a : AttributeSchema) : Prop :=
  match value? t o a.name with
  | some v => a.name = "kerberossync" → normalizes rules v = true → v.bytes = utf8 "0"
  | none => (∃ s ∈ a.aliases, (value? t o (asciiLower s)).isSome) →
    match default a.name with
    | some d => ∃ s ∈ a.aliases, ∃ v, value? t o (asciiLower s) = some v ∧ v.bytes = d.bytes
    | none => ∃ s ∈ takenOver t [a.name] a.aliases, (value? t o s).isSome

theorem keepsValue_of_default {t t' : RawTable κ} {o : κ} {a : AttributeSchema} {d : Cell}
    {f : Cell → Cell} (hd : (f d).bytes = d.bytes)
    (h : value? t' o a.name = some (f ((value? t o a.name).getD d))) :
    KeepsValue t t' o a ↔
      match value? t o a.name with
      | some v => (f v).bytes = v.bytes
      | none => (∃ s ∈ a.aliases, (value? t o (asciiLower s)).isSome) →
        ∃ s ∈ a.aliases, ∃ v, value? t o (asciiLower s) = some v ∧ v.bytes = d.bytes := by
  unfold KeepsValue
  rw [h]
  cases hold : value? t o a.name with
  | some v => simp
  | none =>
    simp only [Option.getD_none, Option.some.injEq]
    refine imp_congr_right fun _ => exists_congr fun s => and_congr_right fun _ => exists_congr fun v => ?_
    constructor
    · rintro ⟨v', hv, rfl, hbytes⟩
      exact ⟨hv, by rw [← hbytes, hd]⟩
    · rintro ⟨hv, hbytes⟩
      exact ⟨f d, hv, rfl, by rw [hbytes, hd]⟩

theorem keepsValue_of_takenOver {t t' : RawTable κ} {o : κ} {a : AttributeSchema}
    (h : value? t' o a.name = (a.name :: takenOver t [a.name] a.aliases).findSome? (value? t o)) :
    KeepsValue t t' o a ↔
      (value? t o a.name = none → (∃ s ∈ a.aliases, (value? t o (asciiLower s)).isSome) →
        ∃ s ∈ takenOver t [a.name] a.aliases, (value? t o s).isSome) := by
  unfold KeepsValue
  rw [h, List.findSome?_cons]
  cases hold : value? t o a.name with
  | some v => simp
  | none =>
    simp only [true_implies]
    refine imp_congr_right fun _ => ?_
    rw [← List.findSome?_isSome_iff]
    constructor
    · rintro ⟨-, -, -, v', -, hv', -⟩
      rw [hv']
      rfl
    · intro hsome
      obtain ⟨v', hv'⟩ := Option.isSome_iff_exists.mp hsome
      obtain ⟨s, hs, hv⟩ := List.exists_of_findSome?_eq_some hv'
      have hlower : asciiLower s = s := asciiLower_of_isSome (by rw [hv]; rfl)
      exact ⟨s, mem_of_takenOver hs, v', v', by rw [hlower, hv], hv', rfl⟩

end

/-! ## Users and groups -/

def userDefault (n : String) : Option Cell :=
  if n = "kerberossync" then some kerbZero else if n = "ou" then some (.text "people") else none

def groupDefault (n : String) : Option Cell := if n = "ou" then some (.text "groups") else none

section

theorem value?_userDefaults (rules : BlobRules) (db : AttributeStore) (u : UserId) (n : String) :
    value? (insertDefault db.users "ou" (.text "people") (normalizeKerb rules
        (insertDefault db.users "kerberossync" kerbZero db.userAttributes))) u n =
      if n = "ou" ∧ u ∈ db.users then some ((value? db.userAttributes u n).getD (.text "people"))
      else if n = "kerberossync" then
        (if u ∈ db.users then some ((value? db.userAttributes u n).getD kerbZero)
          else value? db.userAttributes u n).map fun v => if normalizes rules v then kerbZero else v
      else value? db.userAttributes u n := by
  rw [value?_insertDefault _ _ (by decide), value?_normalizeKerb, value?_normalizeKerb,
    value?_insertDefault _ _ (by decide), value?_insertDefault _ _ (by decide)]
  by_cases hou : n = "ou"
  · subst hou
    simp
  · by_cases hkerb : n = "kerberossync"
    · subst hkerb
      simp
    · simp [hou, hkerb]

variable {rules : BlobRules} {db : AttributeStore}

theorem userNames_apart : ∀ a ∈ PublicSchema.userAttributes, a.name ≠ "ou" → a.name ≠ "kerberossync" →
    "ou" ∉ allNames a ∧ "kerberossync" ∉ allNames a := by decide

theorem groupNames_apart : ∀ a ∈ PublicSchema.groupAttributes, a.name ≠ "kerberossync" ∧
    (a.name ≠ "ou" → "ou" ∉ allNames a) := by decide

theorem value?_normalizeAliases_of_some {κ : Type} [DecidableEq κ] {l : AttributeList}
    (hl : NamesApart l) {a : AttributeSchema} (ha : a ∈ l) {t : RawTable κ} {o : κ} {v : Cell}
    (h : value? t o a.name = some v) : value? (normalizeAliases l t) o a.name = some v := by
  rw [value?_normalizeAliases hl ha, List.findSome?_cons, h]

theorem value?_normalizeAliases_of_same {κ : Type} [DecidableEq κ] {l : AttributeList}
    (hl : NamesApart l) {a : AttributeSchema} (ha : a ∈ l) {t t' : RawTable κ}
    (hsame : ∀ o, ∀ n ∈ allNames a, value? t' o n = value? t o n) (o : κ) :
    value? (normalizeAliases l t') o a.name =
      (a.name :: takenOver t [a.name] a.aliases).findSome? (value? t o) := by
  rw [value?_normalizeAliases hl ha, settled_congr hsame]

theorem user_keepsValue_iff {a : AttributeSchema} (ha : a ∈ PublicSchema.userAttributes) {u : UserId}
    (hu : u ∈ db.users) :
    KeepsValue db.userAttributes (migrateToV12 rules db).userAttributes u a ↔
      Safe rules userDefault db.userAttributes u a := by
  have hdefaults := value?_userDefaults rules db
  by_cases hkerb : a.name = "kerberossync"
  · have hfinal := value?_normalizeAliases_of_some userAttributes_namesApart ha (o := u)
      (v := (fun v => if normalizes rules v then kerbZero else v)
        ((value? db.userAttributes u a.name).getD kerbZero))
      (by rw [hdefaults]; simp [hkerb, hu])
    refine (keepsValue_of_default (by simp) hfinal).trans ?_
    rw [Safe]
    cases hold : value? db.userAttributes u a.name with
    | some v =>
      cases hnorm : normalizes rules v with
      | false => simp [hnorm]
      | true =>
        simp only [Option.getD_some, hnorm, if_true]
        exact ⟨fun h _ _ => h.symm, fun h => (h hkerb trivial).symm⟩
    | none => simp [hkerb, userDefault]
  · by_cases hou : a.name = "ou"
    · have hfinal := value?_normalizeAliases_of_some userAttributes_namesApart ha (o := u)
        (v := id ((value? db.userAttributes u a.name).getD (.text "people")))
        (by rw [hdefaults]; simp [hou, hu])
      refine (keepsValue_of_default rfl hfinal).trans ?_
      rw [Safe]
      cases hold : value? db.userAttributes u a.name with
      | some v => simp [hkerb]
      | none => simp [hou, userDefault]
    · obtain ⟨hnou, hnkerb⟩ := userNames_apart a ha hou hkerb
      have hsame (o : UserId) (n : String) (hn : n ∈ allNames a) :
          value? (insertDefault db.users "ou" (.text "people") (normalizeKerb rules
            (insertDefault db.users "kerberossync" kerbZero db.userAttributes))) o n =
          value? db.userAttributes o n := by
        rw [hdefaults, if_neg (by rintro ⟨rfl, -⟩; exact hnou hn),
          if_neg (by rintro rfl; exact hnkerb hn)]
      have hfinal := value?_normalizeAliases_of_same userAttributes_namesApart ha hsame u
      refine (keepsValue_of_takenOver hfinal).trans ?_
      rw [Safe]
      cases hold : value? db.userAttributes u a.name with
      | some v => simp [hkerb]
      | none => simp [hkerb, hou, userDefault]

theorem group_keepsValue_iff {a : AttributeSchema} (ha : a ∈ PublicSchema.groupAttributes) {g : GroupId}
    (hg : g ∈ db.groups) :
    KeepsValue db.groupAttributes (migrateToV12 rules db).groupAttributes g a ↔
      Safe rules groupDefault db.groupAttributes g a := by
  obtain ⟨hkerb, hnou⟩ := groupNames_apart a ha
  have hdefaults (g : GroupId) (n : String) := value?_insertDefault db.groups (.text "groups")
    (by decide : asciiLower "ou" = "ou") db.groupAttributes g n
  by_cases hou : a.name = "ou"
  · have hfinal := value?_normalizeAliases_of_some groupAttributes_namesApart ha (o := g)
      (v := id ((value? db.groupAttributes g a.name).getD (.text "groups")))
      (by rw [hdefaults]; simp [hou, hg])
    refine (keepsValue_of_default rfl hfinal).trans ?_
    rw [Safe]
    cases hold : value? db.groupAttributes g a.name with
    | some v => simp [hkerb]
    | none => simp [hou, groupDefault]
  · have hsame (o : GroupId) (n : String) (hn : n ∈ allNames a) :
        value? (insertDefault db.groups "ou" (.text "groups") db.groupAttributes) o n =
          value? db.groupAttributes o n := by
      rw [hdefaults, if_neg (by rintro ⟨rfl, -⟩; exact hnou hou hn)]
    have hfinal := value?_normalizeAliases_of_same groupAttributes_namesApart ha hsame g
    refine (keepsValue_of_takenOver hfinal).trans ?_
    rw [Safe]
    cases hold : value? db.groupAttributes g a.name with
    | some v => simp [hkerb]
    | none => simp [hou, groupDefault]

end

/-- The migration loses no value exactly if every user and every group is safe in the old store. -/
theorem values_kept_iff (rules : BlobRules) (db : AttributeStore) :
    ((∀ u ∈ db.users, ∀ a ∈ PublicSchema.get.userAttributes,
        KeepsValue db.userAttributes (migrateToV12 rules db).userAttributes u a) ∧
      ∀ g ∈ db.groups, ∀ a ∈ PublicSchema.get.groupAttributes,
        KeepsValue db.groupAttributes (migrateToV12 rules db).groupAttributes g a) ↔
    (∀ u ∈ db.users, ∀ a ∈ PublicSchema.get.userAttributes,
        Safe rules userDefault db.userAttributes u a) ∧
      ∀ g ∈ db.groups, ∀ a ∈ PublicSchema.get.groupAttributes,
        Safe rules groupDefault db.groupAttributes g a := by
  refine and_congr (forall₂_congr fun u hu => forall₂_congr fun a ha => ?_)
    (forall₂_congr fun g hg => forall₂_congr fun a ha => ?_)
  · exact user_keepsValue_iff ha hu
  · exact group_keepsValue_iff ha hg

/-- Bob has a last name under an alias only, and alice has one under the alias and under the name. -/
def twoLastNames : AttributeStore where
  users := [.new "alice", .new "bob"]
  groups := []
  userAttributes := ⟨[⟨.new "alice", .new "lastname", .blob (utf8 "Smith")⟩,
    ⟨.new "alice", .new "last_name", .blob (utf8 "Smith")⟩,
    ⟨.new "bob", .new "last_name", .blob (utf8 "Jones")⟩], by decide⟩
  groupAttributes := .empty

/-- The name of bob is gone, because alice has one under both. -/
theorem bobs_last_name_lost :
    UserId.new "bob" ∈ twoLastNames.users ∧
      value? twoLastNames.userAttributes (.new "bob") "last_name" = some (.blob (utf8 "Jones")) ∧
      value? (migrateToV12 sqliteBlobs twoLastNames).userAttributes (.new "bob") "lastname" = none ∧
      ∃ a ∈ PublicSchema.get.userAttributes, a.name = "lastname" ∧ ¬ KeepsValue
        twoLastNames.userAttributes (migrateToV12 sqliteBlobs twoLastNames).userAttributes (.new "bob") a := by
  have hold : value? twoLastNames.userAttributes (.new "bob") "lastname" = none := by decide +kernel
  have hvalue : value? twoLastNames.userAttributes (.new "bob") "last_name" =
      some (.blob (utf8 "Jones")) := by decide +kernel
  have hnew : value? (migrateToV12 sqliteBlobs twoLastNames).userAttributes (.new "bob") "lastname" =
      none := by decide +kernel
  refine ⟨by decide, hvalue, hnew, PublicSchema.hardcoded "lastname" ["last_name", "sn"] .string
    true true false, by decide, rfl, fun h => ?_⟩
  unfold KeepsValue at h
  rw [show (PublicSchema.hardcoded "lastname" ["last_name", "sn"] .string true true false).name =
    "lastname" from rfl, hold, hnew] at h
  obtain ⟨-, -, -, v, -, hv, -⟩ := h ⟨"last_name", by decide, by
    rw [show asciiLower "last_name" = "last_name" by decide, hvalue]
    rfl⟩
  cases hv

/-! ## `kerberossync` -/

section

variable [External]

def attributesOf (schema : AttributeList) (t : RawTable UserId) (u : UserId) : List Attribute :=
  (t.rows.filter fun r => r.owner = u).filterMap fun r =>
    (deserializeAttribute r.name r.value.bytes schema).toOption

def schemaWith (custom : AttributeList) : Schema :=
  { PublicSchema.get with
    userAttributes := mergeAttributes PublicSchema.get.userAttributes custom }

def kerberosSync (custom : AttributeList) (t : RawTable UserId) (u : UserId) : Bool :=
  GraphQL.extractKerberosSync (schemaWith custom)
    (attributesOf (schemaWith custom).userAttributes t u)

def Cell.number (v : Cell) : Int := (parseI64 (textOr "0" v.bytes)).getD 0

/-- The stored value is `true` in some letter case. -/
def Cell.IsTrue (v : Cell) : Prop := (ofUtf8? v.bytes).map asciiLower = some "true"

/-- The stored value is `1`. -/
def Cell.IsOne (v : Cell) : Prop := ofUtf8? v.bytes = some "1"

omit [External] in
theorem getAttributeType_kerberossync (custom : AttributeList) :
    getAttributeType (schemaWith custom).userAttributes "kerberossync" = some (.integer, false) := by
  obtain ⟨rest, hrest⟩ := mergeAttributes_prefix PublicSchema.get.userAttributes custom
  unfold getAttributeType
  rw [schemaWith, hrest, getByNameOrAlias_append (a := kerberossync) (by decide)]
  rfl

omit [External] in
theorem canonicalName_kerberossync (custom : AttributeList) :
    GraphQL.canonicalName (schemaWith custom).userAttributes "kerberossync" = "kerberossync" := by
  obtain ⟨rest, hrest⟩ := mergeAttributes_prefix PublicSchema.get.userAttributes custom
  unfold GraphQL.canonicalName resolveCanonicalName
  rw [schemaWith, hrest, getByNameOrAlias_append (a := kerberossync) (by decide)]
  rfl

theorem kerberosSync_eq (custom : AttributeList) (t : RawTable UserId) (u : UserId) :
    kerberosSync custom t u =
      ((value? t u "kerberossync").map fun v => decide (v.number = 1)).getD false := by
  have htype := getAttributeType_kerberossync custom
  have hread (r : RawRow UserId) (hname : r.name.asStr = "kerberossync") :
      (deserializeAttribute r.name r.value.bytes (schemaWith custom).userAttributes).toOption =
        some ⟨r.name, .integer (.singleton r.value.number)⟩ := by
    unfold deserializeAttribute
    rw [hname, htype]
    rfl
  have hnamed (r : RawRow UserId) :
      ((deserializeAttribute r.name r.value.bytes (schemaWith custom).userAttributes).toOption.any
        fun a => a.name.asStr = "kerberossync") = decide (r.name.asStr = "kerberossync") := by
    by_cases hname : r.name.asStr = "kerberossync"
    · rw [hread r hname]
      simp [hname]
    · unfold deserializeAttribute
      cases getAttributeType (schemaWith custom).userAttributes r.name.asStr with
      | none => simp [hname, Except.toOption]
      | some p => simp [hname, Except.toOption]
  unfold kerberosSync GraphQL.extractKerberosSync
  rw [canonicalName_kerberossync, attributesOf]
  dsimp only
  rw [List.find?_filterMap, List.find?_filter]
  have hsame : (fun r : RawRow UserId => decide (decide (r.owner = u) = true ∧
      ((deserializeAttribute r.name r.value.bytes (schemaWith custom).userAttributes).toOption.any
        fun a => a.name.asStr = "kerberossync") = true)) =
      fun r => decide (r.owner = u ∧ r.name.asStr = "kerberossync") := by
    funext r
    rw [hnamed r]
    simp
  rw [hsame]
  unfold value?
  cases hfind : t.rows.find? fun r => r.owner = u ∧ r.name.asStr = "kerberossync" with
  | none => rfl
  | some r =>
    have hname : r.name.asStr = "kerberossync" := by
      have hfound := List.find?_some hfind
      simp only [decide_eq_true_eq] at hfound
      exact hfound.2
    rw [Option.bind_some, hread r hname]
    rfl

omit [External] in
theorem Cell.IsTrue.number {v : Cell} (h : v.IsTrue) : v.number = 0 := by
  unfold Cell.IsTrue at h
  obtain ⟨s, hs, hlower⟩ := Option.map_eq_some_iff.mp h
  have hchars : s.toList.map Char.toLower = ['t', 'r', 'u', 'e'] := by
    rw [← Lib.Text.toList_asciiLower, hlower]
    rfl
  unfold Cell.number textOr
  rw [hs, Option.getD_some]
  cases hlist : s.toList with
  | nil =>
    rw [hlist] at hchars
    cases hchars
  | cons c cs =>
    rw [hlist, List.map_cons] at hchars
    have hc : c.toLower = 't' := (List.cons.inj hchars).1
    have hdigit : c.isDigit = false := by
      by_contra hdigit
      have hupper : ¬c.isUpper = true := by
        simp only [Char.isDigit, Char.isUpper, ge_iff_le, Bool.and_eq_true, decide_eq_true_eq,
          Bool.not_eq_false] at hdigit ⊢
        grind
      rw [Char.toLower_eq_of_not_isUpper hupper] at hc
      subst hc
      exact hdigit (by decide)
    unfold parseI64 Lib.Text.parseSigned
    rw [hlist]
    split
    · next heq =>
      obtain ⟨rfl, -⟩ := List.cons.inj heq
      exact absurd hc (by decide)
    · next heq =>
      obtain ⟨rfl, -⟩ := List.cons.inj heq
      exact absurd hc (by decide)
    · simp [Lib.Text.parseDigits, hdigit]

omit [External] in
theorem Cell.IsOne.number {v : Cell} (h : v.IsOne) : v.number = 1 := by
  unfold Cell.IsOne at h
  unfold Cell.number textOr
  rw [h]
  decide

omit [External] in
theorem value?_kerberossync {rules : BlobRules} {db : AttributeStore} {u : UserId}
    (hu : u ∈ db.users) :
    value? (migrateToV12 rules db).userAttributes u "kerberossync" =
      some (let v := (value? db.userAttributes u "kerberossync").getD kerbZero
        if normalizes rules v then kerbZero else v) := by
  refine value?_normalizeAliases_of_some userAttributes_namesApart kerberossync_mem ?_
  change value? _ u "kerberossync" = _
  rw [value?_userDefaults]
  simp [hu]

/-- The migration keeps the meaning of `kerberossync` exactly if no `true` is stored, every stored `1` is
left alone, and nothing else that is left alone is read as the number 1. -/
theorem kerberosSync_kept_iff (rules : BlobRules) (custom : AttributeList) (db : AttributeStore) :
    (∀ u ∈ db.users, kerberosSync custom (migrateToV12 rules db).userAttributes u = true ↔
      ∃ v, value? db.userAttributes u "kerberossync" = some v ∧ (v.IsOne ∨ v.IsTrue)) ↔
    ∀ u ∈ db.users, ∀ v, value? db.userAttributes u "kerberossync" = some v →
      ¬v.IsTrue ∧ (v.IsOne → normalizes rules v = false) ∧
        (v.number = 1 → ¬v.IsOne → normalizes rules v = true) := by
  refine forall₂_congr fun u hu => ?_
  rw [kerberosSync_eq, value?_kerberossync hu]
  cases hold : value? db.userAttributes u "kerberossync" with
  | none =>
    have hzero : kerbZero.number = 0 := by decide
    simp [hzero]
  | some v =>
    have htrue : v.IsTrue → v.number = 0 := Cell.IsTrue.number
    have hone : v.IsOne → v.number = 1 := Cell.IsOne.number
    have hzero : kerbZero.number = 0 := by decide
    by_cases hon : v.IsOne
    · have hnot : ¬v.IsTrue := fun h => by
        have := htrue h
        have := hone hon
        omega
      cases hnorm : normalizes rules v <;> simp [hon, hnot, hone hon, hnorm, hzero]
    · by_cases ht : v.IsTrue
      · cases hnorm : normalizes rules v <;> simp [hon, ht, htrue ht, hnorm, hzero]
      · cases hnorm : normalizes rules v <;> simp [hon, ht, hnorm, hzero]

end

section Samples

open Plain

def twoFlags : AttributeStore where
  users := [.new "alice", .new "bob"]
  groups := []
  userAttributes := ⟨[⟨.new "alice", .new "kerberossync", .text "1"⟩,
    ⟨.new "bob", .new "kerberossync", .blob (utf8 "1")⟩], by decide⟩
  groupAttributes := .empty

/-- SQLite switches alice off and leaves bob on. -/
theorem text_one_switched_off :
    value? twoFlags.userAttributes (.new "alice") "kerberossync" = some (.text "1") ∧
      kerberosSync [] twoFlags.userAttributes (.new "alice") = true ∧
      kerberosSync [] (migrateToV12 sqliteBlobs twoFlags).userAttributes (.new "alice") = false ∧
      kerberosSync [] (migrateToV12 sqliteBlobs twoFlags).userAttributes (.new "bob") = true := by
  decide +kernel

end Samples

end Sql
end Klldap
