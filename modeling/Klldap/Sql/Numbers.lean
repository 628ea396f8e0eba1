import Klldap.Sql.RoundTrip
import Klldap.Sql.Stored

/-!
# Klldap.Sql.Numbers: free numbers and numbers given anew

Whether a number is in use is decided by its decimal text, which is how an integer is stored and
read back. The search for a free number goes up to the end of its interval; if that is the greatest
`i64`, it goes on from the least one. A reassignment counts on from the start of the settings and
looks neither at their end nor at what an update of a user or a group accepts.
-/

namespace Klldap
namespace Sql

open Lib (Bytes Eff)
open Lib.Bincode (utf8)
open Lib.Text

/-! ## Searching -/

theorem firstFree_none {taken : Int → Bool} {n : Nat} {start : Int} :
    firstFree taken n start = none ↔ ∀ k, start ≤ k → k < start + n → taken k = true := by
  induction n generalizing start with
  | zero =>
    refine ⟨fun _ k hk hlt => ?_, fun _ => rfl⟩
    omega
  | succ n ih =>
    rw [firstFree]
    by_cases hstart : taken start = true
    · rw [if_pos hstart, ih]
      constructor
      · intro h k hk hlt
        by_cases hks : k = start
        · rw [hks, hstart]
        · exact h k (by omega) (by omega)
      · exact fun h k hk hlt => h k (by omega) (by omega)
    · rw [if_neg hstart]
      simp only [reduceCtorEq, false_iff]
      exact fun h => hstart (h start le_rfl (by omega))

def freeNumbers (inUse : Int → Prop) (start max : Int) : Set Int :=
  {k | start ≤ k ∧ k ≤ max ∧ ¬inUse k}

/-- The search finds the least free number, and fails only if there is none. -/
structure FindsLeast (result : Except DomainError Int) (inUse : Int → Prop) (start max : Int) :
    Prop where
  ok : ∀ n, result = .ok n ↔ IsLeast (freeNumbers inUse start max) n
  error : (∃ e, result = .error e) ↔ max < start ∨ ∀ k, start ≤ k → k ≤ max → inUse k

/-- The search runs over the end of the integers and finds a number below: the interval ends with the
greatest `i64`, all of it is in use, and there is a free number elsewhere. -/
structure RunsOver (inUse : Int → Prop) (start max : Int) : Prop where
  nonempty : start ≤ max
  greatest : max = i64Max
  full : ∀ k, start ≤ k → k ≤ max → inUse k
  free : ∃ k, InI64 k ∧ ¬inUse k

theorem FindsLeast.of_ok {inUse : Int → Prop} {start max n : Int}
    (h : IsLeast (freeNumbers inUse start max) n) : FindsLeast (.ok n) inUse start max := by
  refine ⟨fun m => ?_, ?_⟩
  · simp only [Except.ok.injEq]
    exact ⟨fun hm => hm ▸ h, fun hm => h.unique hm⟩
  · obtain ⟨hstart, hmax, hfree⟩ := h.1
    simp only [reduceCtorEq, exists_false, false_iff, not_or, not_lt]
    exact ⟨hstart.trans hmax, fun hall => hfree (hall n hstart hmax)⟩

theorem FindsLeast.of_error {inUse : Int → Prop} {start max : Int} {e : DomainError}
    (h : max < start ∨ ∀ k, start ≤ k → k ≤ max → inUse k) :
    FindsLeast (.error e) inUse start max := by
  refine ⟨fun n => ?_, ?_⟩
  · simp only [reduceCtorEq, false_iff]
    rintro ⟨⟨hstart, hmax, hfree⟩, -⟩
    rcases h with h | h
    · omega
    · exact hfree (h n hstart hmax)
  · simp [h]

theorem nextAvailableNumber_findsLeast {what : String} {taken : Int → Bool} {inUse : Int → Prop}
    {start max : Int} (htaken : ∀ k, InI64 k → (taken k = true ↔ inUse k)) (hstart : InI64 start)
    (hmax : InI64 max) :
    FindsLeast (nextAvailableNumber what taken start max) inUse start max ↔
      ¬RunsOver inUse start max := by
  obtain ⟨hstartMin, -⟩ := hstart
  obtain ⟨-, hmaxMax⟩ := hmax
  unfold nextAvailableNumber
  by_cases hempty : start > max
  · rw [if_pos hempty]
    exact iff_of_true (.of_error (.inl hempty)) fun h => by
      have := h.nonempty
      omega
  · rw [if_neg hempty]
    cases hfind : firstFree taken (max + 1 - start).toNat start with
    | some n =>
      obtain ⟨hfree, hge, hlt, hbelow⟩ := firstFree_spec hfind
      have hfree : ¬inUse n := by
        rw [← htaken n ⟨by omega, by omega⟩, hfree]
        exact Bool.false_ne_true
      refine iff_of_true (.of_ok ⟨⟨hge, by omega, hfree⟩, fun k hk => ?_⟩)
        fun h => hfree (h.full n hge (by omega))
      by_contra hkn
      obtain ⟨hk, hkmax, hkfree⟩ := hk
      exact hkfree ((htaken k ⟨by omega, by omega⟩).mp (hbelow k hk (by omega)))
    | none =>
      have hfull : ∀ k, start ≤ k → k ≤ max → inUse k := fun k hk hkmax =>
        (htaken k ⟨by omega, by omega⟩).mp (firstFree_none.mp hfind k hk (by omega))
      dsimp only
      by_cases hgreatest : max = i64Max
      · rw [if_pos hgreatest]
        cases hfind : firstFree taken (2 ^ 64) i64Min with
        | some n =>
          obtain ⟨hfree, hge, hlt, -⟩ := firstFree_spec hfind
          have hn : InI64 n := by
            simp only [i64Min] at hge hlt
            exact ⟨by omega, by omega⟩
          have hfree : ¬inUse n := by
            rw [← htaken n hn, hfree]
            exact Bool.false_ne_true
          refine iff_of_false (fun h => ?_)
            (not_not.mpr ⟨by omega, hgreatest, hfull, n, hn, hfree⟩)
          obtain ⟨hstart, hmax, -⟩ := ((h.ok n).mp rfl).1
          exact hfree (hfull n hstart hmax)
        | none =>
          refine iff_of_true (.of_error (.inr hfull)) fun h => ?_
          obtain ⟨k, hk, hfree⟩ := h.free
          refine hfree ((htaken k hk).mp (firstFree_none.mp hfind k ?_ ?_))
          · exact hk.1
          · have := hk.2
            simp only [i64Min]
            omega
      · rw [if_neg hgreatest]
        exact iff_of_true (.of_error (.inr hfull)) fun h => hgreatest h.greatest

section

variable [External]

def readNumber (value : Bytes) : AttributeValue := deserializeAttributeValue value .integer false

/-- The bytes were written for an integer. -/
def WrittenAsInteger (value : Bytes) : Prop :=
  ∃ i, InI64 i ∧ value = attributeValueToDbBytes (.integer (.singleton i))

def uidnumberInUse (db : Store) (k : Int) : Prop :=
  ∃ r ∈ db.userAttributes.rows, r.attributeName = .new "uidnumber" ∧
    readNumber r.value = .integer (.singleton k)

def gidnumberInUse (db : Store) (k : Int) : Prop :=
  ∃ r ∈ db.groupAttributes.rows, r.attributeName = .new "gidnumber" ∧
    readNumber r.value = .integer (.singleton k)

theorem readNumber_decimal {i : Int} (h : InI64 i) :
    readNumber (utf8 (toString i)) = .integer (.singleton i) := read_integer h

theorem readNumber_written {value : Bytes} (h : WrittenAsInteger value) {k : Int} (hk : InI64 k) :
    value = utf8 (toString k) ↔ readNumber value = .integer (.singleton k) := by
  constructor
  · rintro rfl
    exact readNumber_decimal hk
  · intro hread
    obtain ⟨i, hi, rfl⟩ := h
    have hread' : readNumber (attributeValueToDbBytes (.integer (.singleton i))) =
      .integer (.singleton i) := readNumber_decimal hi
    rw [hread'] at hread
    cases hread
    rfl

theorem isUidnumberTaken_iff {db : Store}
    (h : ∀ r ∈ db.userAttributes.rows, r.attributeName = .new "uidnumber" →
      WrittenAsInteger r.value) {k : Int} (hk : InI64 k) :
    isUidnumberTaken db k = true ↔ uidnumberInUse db k := by
  simp only [isUidnumberTaken, uidnumberInUse, List.any_eq_true, Bool.and_eq_true,
    decide_eq_true_eq]
  refine exists_congr fun r => and_congr_right fun hr => and_congr_right fun hname => ?_
  exact readNumber_written (h r hr hname) hk

theorem isGidnumberTaken_iff {db : Store}
    (h : ∀ r ∈ db.groupAttributes.rows, r.attributeName = .new "gidnumber" →
      WrittenAsInteger r.value) {k : Int} (hk : InI64 k) :
    isGidnumberTaken db k = true ↔ gidnumberInUse db k := by
  simp only [isGidnumberTaken, gidnumberInUse, List.any_eq_true, Bool.and_eq_true,
    decide_eq_true_eq]
  refine exists_congr fun r => and_congr_right fun hr => and_congr_right fun hname => ?_
  exact readNumber_written (h r hr hname) hk

theorem nextAvailable_iff (db : Store) {start max : Int} (hstart : InI64 start) (hmax : InI64 max) :
    ((∀ r ∈ db.userAttributes.rows, r.attributeName = .new "uidnumber" →
        WrittenAsInteger r.value) →
      (FindsLeast (nextAvailableUidNumber db start max) (uidnumberInUse db) start max ↔
        ¬RunsOver (uidnumberInUse db) start max)) ∧
    ((∀ r ∈ db.groupAttributes.rows, r.attributeName = .new "gidnumber" →
        WrittenAsInteger r.value) →
      (FindsLeast (nextAvailableGidNumber db start max) (gidnumberInUse db) start max ↔
        ¬RunsOver (gidnumberInUse db) start max)) :=
  ⟨fun h => nextAvailableNumber_findsLeast (fun _ => isUidnumberTaken_iff h) hstart hmax,
    fun h => nextAvailableNumber_findsLeast (fun _ => isGidnumberTaken_iff h) hstart hmax⟩

theorem nextAvailable_least (db : Store) {start max : Int} (hstart : InI64 start) (hmax : InI64 max)
    (hlast : max < i64Max) :
    ((∀ r ∈ db.userAttributes.rows, r.attributeName = .new "uidnumber" →
        WrittenAsInteger r.value) →
      FindsLeast (nextAvailableUidNumber db start max) (uidnumberInUse db) start max) ∧
    ((∀ r ∈ db.groupAttributes.rows, r.attributeName = .new "gidnumber" →
        WrittenAsInteger r.value) →
      FindsLeast (nextAvailableGidNumber db start max) (gidnumberInUse db) start max) := by
  obtain ⟨huser, hgroup⟩ := nextAvailable_iff db hstart hmax
  have hends {inUse : Int → Prop} : ¬RunsOver inUse start max := fun h => hlast.ne h.greatest
  exact ⟨fun h => (huser h).mpr hends, fun h => (hgroup h).mpr hends⟩

/-! ## Numbers that updates accept -/

def userUpdateAccepts (k : Int) : Prop :=
  ∀ db u, isUidnumberTaken db k = false →
    checkUserNumber db ⟨u, .new "uidnumber", attributeValueToDbBytes (.integer (.singleton k))⟩ =
      .ok ()

def groupUpdateAccepts (k : Int) : Prop :=
  ∀ db, isGidnumberTaken db k = false →
    checkGroupNumber db 20000 " (or 0 for no limit)" ⟨.new "gidnumber", .integer (.singleton k)⟩ =
      .ok ()

omit [External] in
theorem trim_decimal (i : Int) : trim (toString i) = toString i := by
  refine trim_eq_self fun c hc => ?_
  rcases mem_toString_int hc with rfl | hdigit
  · decide
  · exact isWhitespace_of_isAlphanum (by simp [Char.isAlphanum, hdigit])

theorem checkUserNumber_decimal {k : Int} (hk : InI64 k) (db : Store) (u : UserId) :
    checkUserNumber db ⟨u, .new "uidnumber", attributeValueToDbBytes (.integer (.singleton k))⟩ =
      if !(3000 ≤ k && k ≤ 60000) then
        .error (.internalError ((AttributeName.new "uidnumber").asStr ++
          " must be between 3000 and 60000"))
      else if isUidnumberTaken db k then .error (numberTaken k)
      else .ok () := by
  have hparse : (parseI64 (trim (toString k))).getD 0 = k := by
    rw [trim_decimal, parseI64, parseSigned_toString hk.1 hk.2, Option.getD_some]
  have hnumber : isPosixNumber (.new "uidnumber") = true := by decide
  have hname : (AttributeName.new "uidnumber").asStr = "uidnumber" := by decide
  simp only [checkUserNumber, attributeValueToDbBytes, Lib.Bincode.ofUtf8?_utf8, hparse, hnumber,
    hname, if_true, decide_true, Bool.true_and]

theorem userUpdateAccepts_iff {k : Int} (hk : InI64 k) :
    userUpdateAccepts k ↔ 3000 ≤ k ∧ k ≤ 60000 := by
  simp only [userUpdateAccepts, checkUserNumber_decimal hk]
  constructor
  · intro h
    have hcheck := h Store.empty (.new "") rfl
    split at hcheck
    · cases hcheck
    · rename_i hrange
      simpa using hrange
  · intro h db u htaken
    simp [h.1, h.2, htaken]

omit [External] in
theorem groupUpdateAccepts_iff {k : Int} :
    groupUpdateAccepts k ↔ k = 0 ∨ 3000 ≤ k ∧ k ≤ 20000 := by
  have hnumber : isPosixNumber (.new "gidnumber") = true := by decide
  have hname : ¬(AttributeName.new "gidnumber").asStr = "uidnumber" := by decide
  have hcheck (db : Store) : checkGroupNumber db 20000 " (or 0 for no limit)"
        ⟨.new "gidnumber", .integer (.singleton k)⟩ =
      if k ≠ 0 && !(3000 ≤ k && k ≤ 20000) then
        .error (.internalError ((AttributeName.new "gidnumber").asStr ++ " must be between 3000 and " ++
          toString (20000 : Int) ++ " (or 0 for no limit)"))
      else if isGidnumberTaken db k then .error (numberTaken k)
      else .ok () := by
    simp only [checkGroupNumber, integerOf, hnumber, if_true, if_neg hname]
  simp only [groupUpdateAccepts, hcheck]
  constructor
  · intro h
    have hok := h Store.empty rfl
    split at hok
    · cases hok
    · rename_i hrange
      by_cases hk : k = 0
      · exact .inl hk
      · exact .inr (by simpa [hk] using hrange)
  · intro h db htaken
    rcases h with rfl | ⟨hlo, hhi⟩
    · simp [htaken]
    · simp [hlo, hhi, htaken]

end

/-! ## Numbers given anew -/

/-- The entries have distinct numbers in the order of creation, all of them between `start` and `max`
and such that an update accepts them. -/
def WellNumbered {α : Type} (rows : List α) (created : α → DateTime)
    (stored : α → Option AttributeValue) (start max : Int) (accepts : Int → Prop) : Prop :=
  ∃ number : α → Int, (∀ r ∈ rows, stored r = some (.integer (.singleton (number r)))) ∧
    (∀ r ∈ rows, ∀ r' ∈ rows, r ≠ r' → number r ≠ number r') ∧
    (∀ r ∈ rows, ∀ r' ∈ rows, created r < created r' → number r < number r') ∧
    ∀ r ∈ rows, start ≤ number r ∧ number r ≤ max ∧ accepts (number r)

theorem wrapI64_of_inI64 {i : Int} (h : InI64 i) : wrapI64 i = i := by
  obtain ⟨hlo, hhi⟩ := h
  unfold wrapI64
  omega

theorem inI64_wrapI64 (i : Int) : InI64 (wrapI64 i) := by
  unfold wrapI64
  exact ⟨by omega, by omega⟩

theorem wellNumbered_iff {α : Type} [DecidableEq α] {rows l : List α} {created : α → DateTime}
    {stored : α → Option AttributeValue} {start max : Int} {accepts : Int → Prop}
    (hperm : l.Perm rows) (hsorted : l.Pairwise fun r r' => created r ≤ created r')
    (hstored : ∀ (i : Nat) r, l[i]? = some r →
      stored r = some (.integer (.singleton (wrapI64 (start + i)))))
    (hexact : (∀ i < l.length, start ≤ wrapI64 (start + i) ∧ wrapI64 (start + i) ≤ max ∧
      accepts (wrapI64 (start + i))) → ∀ i < l.length, wrapI64 (start + i) = start + i) :
    WellNumbered rows created stored start max accepts ↔
      ∀ i < l.length, start ≤ wrapI64 (start + i) ∧ wrapI64 (start + i) ≤ max ∧
        accepts (wrapI64 (start + i)) := by
  constructor
  · rintro ⟨number, hnumber, -, -, hbounds⟩ i hi
    have hmem : l[i] ∈ rows := hperm.mem_iff.mp (List.getElem_mem hi)
    have heq := (hnumber _ hmem).symm.trans (hstored i l[i] (List.getElem?_eq_getElem hi))
    have hvalue : number l[i] = wrapI64 (start + i) := by simpa using heq
    rw [← hvalue]
    exact hbounds _ hmem
  · intro h
    have hwrap := hexact h
    have hindex (r : α) (hr : r ∈ rows) : l.idxOf r < l.length ∧ l[l.idxOf r]? = some r := by
      have hl := hperm.mem_iff.mpr hr
      exact ⟨List.idxOf_lt_length_iff.mpr hl, List.getElem?_idxOf hl⟩
    refine ⟨fun r => start + l.idxOf r, fun r hr => ?_, fun r hr r' hr' hne => ?_,
      fun r hr r' hr' hlt => ?_, fun r hr => ?_⟩
    · obtain ⟨hlt, hget⟩ := hindex r hr
      rw [hstored _ r hget, hwrap _ hlt]
    · intro heq
      have hidx : l.idxOf r = l.idxOf r' := by
        dsimp only at heq
        omega
      have hget := (hindex r hr).2
      rw [hidx, (hindex r' hr').2] at hget
      exact hne (Option.some.inj hget).symm
    · by_contra hge
      dsimp only at hge
      obtain ⟨hi, hget⟩ := hindex r hr
      obtain ⟨hi', hget'⟩ := hindex r' hr'
      rw [List.getElem?_eq_getElem hi, Option.some.injEq] at hget
      rw [List.getElem?_eq_getElem hi', Option.some.injEq] at hget'
      have hle : l.idxOf r' ≤ l.idxOf r := by omega
      rcases hle.lt_or_eq with hidx | hidx
      · have hcreated := List.pairwise_iff_getElem.mp hsorted _ _ hi' hi hidx
        rw [hget, hget'] at hcreated
        exact absurd hlt (not_lt.mpr hcreated)
      · have : r = r' := by
          rw [← hget, ← hget']
          simp only [hidx]
        rw [this] at hlt
        exact absurd hlt (lt_irrefl _)
    · obtain ⟨hlt, -⟩ := hindex r hr
      dsimp only
      rw [← hwrap _ hlt]
      exact h _ hlt

theorem countedOn_iff {n : Nat} {start max top : Int} (hstart : InI64 start) (hmax : InI64 max)
    (htop : top < 2 ^ 62) :
    (∀ i < n, start ≤ wrapI64 (start + i) ∧ wrapI64 (start + i) ≤ max ∧
        3000 ≤ wrapI64 (start + i) ∧ wrapI64 (start + i) ≤ top) ↔
      n = 0 ∨ 3000 ≤ start ∧ start + n - 1 ≤ max ∧ start + n - 1 ≤ top := by
  have hmax := hmax.2
  constructor
  · intro h
    rcases Nat.eq_zero_or_pos n with hn | hn
    · exact .inl hn
    · have hfirst := h 0 hn
      rw [Int.natCast_zero, add_zero, wrapI64_of_inI64 hstart] at hfirst
      obtain ⟨-, hstartMax, hlo, hhi⟩ := hfirst
      have hend (m : Int) (hm : start ≤ m) (hsmall : m < 2 ^ 62)
          (hout : ¬(m + 1 ≤ max ∧ m + 1 ≤ top)) : start + n - 1 ≤ m := by
        by_contra hover
        have hi := h (m + 1 - start).toNat (by omega)
        have hcast : start + ((m + 1 - start).toNat : Int) = m + 1 := by omega
        rw [hcast, wrapI64_of_inI64 ⟨by omega, by omega⟩] at hi
        exact hout ⟨hi.2.1, hi.2.2.2⟩
      refine .inr ⟨hlo, ?_, hend top hhi htop (by omega)⟩
      by_cases hmt : max < 2 ^ 62
      · exact hend max hstartMax hmt (by omega)
      · have := hend top hhi htop (by omega)
        omega
  · intro h i hi
    rcases h with hn | ⟨hlo, hmaxEnd, hend⟩
    · omega
    · rw [wrapI64_of_inI64 ⟨by omega, by omega⟩]
      omega

theorem countedOn_group_iff {n : Nat} {start max : Int} (hstart : InI64 start) (hmax : InI64 max) :
    (∀ i < n, start ≤ wrapI64 (start + i) ∧ wrapI64 (start + i) ≤ max ∧
        (wrapI64 (start + i) = 0 ∨ 3000 ≤ wrapI64 (start + i) ∧ wrapI64 (start + i) ≤ 20000)) ↔
      (n = 0 ∨ 3000 ≤ start ∧ start + n - 1 ≤ max ∧ start + n - 1 ≤ 20000) ∨
        n = 1 ∧ start = 0 ∧ 0 ≤ max := by
  rw [← countedOn_iff hstart hmax (by norm_num)]
  have hfirst : wrapI64 (start + (0 : Nat)) = start := by
    rw [Int.natCast_zero, add_zero, wrapI64_of_inI64 hstart]
  constructor
  · intro h
    by_cases hn : n = 0
    · exact .inl fun i hi => by omega
    have hzero := h 0 (by omega)
    rw [hfirst] at hzero
    by_cases hs : start = 0
    · refine .inr ⟨?_, hs, by omega⟩
      by_contra hmany
      have hone := h 1 (by omega)
      rw [hs, Nat.cast_one, wrapI64_of_inI64 ⟨by norm_num, by norm_num⟩] at hone
      omega
    · refine .inl fun i hi => ?_
      obtain ⟨hge, hle, hor⟩ := h i hi
      exact ⟨hge, hle, by omega, by omega⟩
  · rintro (h | ⟨hn, hs, hmax⟩) i hi
    · obtain ⟨hge, hle, hbounds⟩ := h i hi
      exact ⟨hge, hle, .inr hbounds⟩
    · obtain rfl : i = 0 := by omega
      rw [hfirst]
      omega

theorem wrapI64_of_counted {n : Nat} {start max top : Int} (hstart : InI64 start) (hmax : InI64 max)
    (h : (n = 0 ∨ 3000 ≤ start ∧ start + n - 1 ≤ max ∧ start + n - 1 ≤ top) ∨
      n = 1 ∧ start = 0 ∧ 0 ≤ max) :
    ∀ i < n, wrapI64 (start + i) = start + i := by
  intro i hi
  obtain ⟨hlo, -⟩ := hstart
  obtain ⟨-, hhi⟩ := hmax
  refine wrapI64_of_inI64 ⟨by omega, by omega⟩

theorem find?_numbered {α β κ ν : Type} [DecidableEq κ] [DecidableEq ν] {owner : β → κ}
    {key : α → κ × ν} (t : Lib.Table α (κ × ν) key) {l : List β} (hl : (l.map owner).Nodup)
    {n : ν} {row : β → Nat → α} (hrow : ∀ b i, key (row b i) = (owner b, n)) {i : Nat} {b : β}
    (hb : l[i]? = some b) :
    (t.upsertAll (l.zipIdx.map fun p => row p.1 p.2)).find? (owner b, n) = some (row b i) := by
  have hkeys : ((l.zipIdx.map fun p => row p.1 p.2).map key).Nodup := by
    have hmap : (l.zipIdx.map fun p => row p.1 p.2).map key =
        (l.map owner).map fun k => (k, n) := by
      rw [List.map_map, List.map_map]
      conv_rhs => rw [← List.zipIdx_map_fst 0 l]
      rw [List.map_map]
      exact List.map_congr_left fun p _ => hrow p.1 p.2
    rw [hmap]
    exact hl.map fun k k' h => (Prod.mk.inj h).1
  have hmem : row b i ∈ l.zipIdx.map fun p => row p.1 p.2 :=
    List.mem_map.mpr ⟨(b, i), List.mem_zipIdx_iff_getElem?.mpr hb, rfl⟩
  have hfind := t.find?_upsertAll_of_mem hkeys hmem
  rwa [hrow] at hfind

/-- The bounds of the settings, of the type `i64`. -/
structure PosixSettings.InRange (settings : PosixSettings) : Prop where
  uidStart : InI64 settings.userUidnumberStart
  uidMax : InI64 settings.userUidnumberMax
  gidStart : InI64 settings.groupGidnumberStart
  gidMax : InI64 settings.groupGidnumberMax

/-- The numbers of `n` users fit between the bounds of the settings and those of updates. -/
def UidnumbersFit (settings : PosixSettings) (n : Nat) : Prop :=
  n = 0 ∨ 3000 ≤ settings.userUidnumberStart ∧
    settings.userUidnumberStart + n - 1 ≤ settings.userUidnumberMax ∧
    settings.userUidnumberStart + n - 1 ≤ 60000

/-- The numbers of `n` groups do. A single group may also have the number zero. -/
def GidnumbersFit (settings : PosixSettings) (n : Nat) : Prop :=
  (n = 0 ∨ 3000 ≤ settings.groupGidnumberStart ∧
    settings.groupGidnumberStart + n - 1 ≤ settings.groupGidnumberMax ∧
    settings.groupGidnumberStart + n - 1 ≤ 20000) ∨
  n = 1 ∧ settings.groupGidnumberStart = 0 ∧ 0 ≤ settings.groupGidnumberMax

section

variable [External]

def storedUidnumber (db : Store) (r : UserRow) : Option AttributeValue :=
  (db.userAttributes.find? (r.userId, .new "uidnumber")).map fun row => readNumber row.value

def storedGidnumber (db : Store) (r : GroupRow) : Option AttributeValue :=
  (db.groupAttributes.find? (r.groupId, .new "gidnumber")).map fun row => readNumber row.value

theorem userValue_reassigned {now : DateTime} {db db' : Store} {settings : PosixSettings}
    (hsettings : getPosixSettings db = .ok settings) (hassign : settings.userUidnumberAssign = true)
    (h : reassignUserUidNumbers now db = (.ok (), db')) {i : Nat} {r : UserRow}
    (hr : (orderBy UserRow.creationDate db.users.rows)[i]? = some r) :
    userValue db' r.userId "uidnumber" =
      some (utf8 (toString (wrapI64 (settings.userUidnumberStart + i)))) := by
  obtain ⟨settings', hsettings', hattrs, -⟩ := reassignUserAttribute_ok h
  cases Except.ok.inj (hsettings.symm.trans hsettings')
  have hkeys : ((orderBy UserRow.creationDate db.users.rows).map UserRow.userId).Nodup :=
    ((List.perm_insertionSort _ _).map UserRow.userId).nodup_iff.mpr db.users.nodup
  have hfind : (db.userAttributes.upsertAll ((orderBy UserRow.creationDate db.users.rows).zipIdx.map
      fun p => ⟨p.1.userId, .new "uidnumber",
        utf8 (toString (wrapI64 (settings.userUidnumberStart + p.2)))⟩)).find?
          (r.userId, .new "uidnumber") =
      some ⟨r.userId, .new "uidnumber", utf8 (toString (wrapI64 (settings.userUidnumberStart + i)))⟩ :=
    @find?_numbered _ _ _ _ _ _ UserRow.userId _ db.userAttributes _ hkeys _
      (fun r i => ⟨r.userId, .new "uidnumber",
        utf8 (toString (wrapI64 (settings.userUidnumberStart + i)))⟩) (fun _ _ => rfl) _ _ hr
  rw [userValue, hattrs, reassignedUserAttributes, if_pos hassign, hfind]
  rfl

theorem groupValue_reassigned {now : DateTime} {db db' : Store} {settings : PosixSettings}
    (hsettings : getPosixSettings db = .ok settings) (hassign : settings.groupGidnumberAssign = true)
    (h : reassignGidNumbers now db = (.ok (), db')) {i : Nat} {r : GroupRow}
    (hr : (orderBy GroupRow.creationDate db.groups.rows)[i]? = some r) :
    groupValue db' r.groupId "gidnumber" =
      some (utf8 (toString (wrapI64 (settings.groupGidnumberStart + i)))) := by
  obtain ⟨settings', hsettings', hattrs, -⟩ := reassignGidNumbers_ok h
  cases Except.ok.inj (hsettings.symm.trans hsettings')
  have hkeys : ((orderBy GroupRow.creationDate db.groups.rows).map GroupRow.groupId).Nodup :=
    ((List.perm_insertionSort _ _).map GroupRow.groupId).nodup_iff.mpr db.groups.nodup
  have hfind : (db.groupAttributes.upsertAll ((orderBy GroupRow.creationDate db.groups.rows).zipIdx.map
      fun p => ⟨p.1.groupId, .new "gidnumber",
        utf8 (toString (wrapI64 (settings.groupGidnumberStart + p.2)))⟩)).find?
          (r.groupId, .new "gidnumber") =
      some ⟨r.groupId, .new "gidnumber", utf8 (toString (wrapI64 (settings.groupGidnumberStart + i)))⟩ :=
    @find?_numbered _ _ _ _ _ _ GroupRow.groupId _ db.groupAttributes _ hkeys _
      (fun r i => ⟨r.groupId, .new "gidnumber",
        utf8 (toString (wrapI64 (settings.groupGidnumberStart + i)))⟩) (fun _ _ => rfl) _ _ hr
  rw [groupValue, hattrs, reassignedGroupAttributes, if_pos hassign, hfind]
  rfl

theorem storedUidnumber_eq (db : Store) (r : UserRow) :
    storedUidnumber db r = (userValue db r.userId "uidnumber").map readNumber := by
  rw [storedUidnumber, userValue, Option.map_map]
  rfl

theorem storedGidnumber_eq (db : Store) (r : GroupRow) :
    storedGidnumber db r = (groupValue db r.groupId "gidnumber").map readNumber := by
  rw [storedGidnumber, groupValue, Option.map_map]
  rfl

theorem storedUidnumber_reassigned {now : DateTime} {db db' : Store} {settings : PosixSettings}
    (hsettings : getPosixSettings db = .ok settings) (hassign : settings.userUidnumberAssign = true)
    (h : reassignUserUidNumbers now db = (.ok (), db')) {i : Nat} {r : UserRow}
    (hr : (orderBy UserRow.creationDate db.users.rows)[i]? = some r) :
    storedUidnumber db' r = some (.integer (.singleton (wrapI64 (settings.userUidnumberStart + i)))) := by
  rw [storedUidnumber_eq, userValue_reassigned hsettings hassign h hr]
  exact congrArg some (readNumber_decimal (inI64_wrapI64 _))

theorem storedGidnumber_reassigned {now : DateTime} {db db' : Store} {settings : PosixSettings}
    (hsettings : getPosixSettings db = .ok settings) (hassign : settings.groupGidnumberAssign = true)
    (h : reassignGidNumbers now db = (.ok (), db')) {i : Nat} {r : GroupRow}
    (hr : (orderBy GroupRow.creationDate db.groups.rows)[i]? = some r) :
    storedGidnumber db' r = some (.integer (.singleton (wrapI64 (settings.groupGidnumberStart + i)))) := by
  rw [storedGidnumber_eq, groupValue_reassigned hsettings hassign h hr]
  exact congrArg some (readNumber_decimal (inI64_wrapI64 _))

/-- Users and groups are numbered as intended exactly if their numbers, counted on from the start of
the settings, neither pass the end of the settings nor leave what updates accept. -/
theorem reassign_iff {now : DateTime} {db db' : Store} {settings : PosixSettings}
    (hsettings : getPosixSettings db = .ok settings) (hrange : PosixSettings.InRange settings) :
    (settings.userUidnumberAssign = true → reassignUserUidNumbers now db = (.ok (), db') →
      (WellNumbered db.users.rows UserRow.creationDate (storedUidnumber db')
          settings.userUidnumberStart settings.userUidnumberMax userUpdateAccepts ↔
        UidnumbersFit settings db.users.rows.length)) ∧
    (settings.groupGidnumberAssign = true → reassignGidNumbers now db = (.ok (), db') →
      (WellNumbered db.groups.rows GroupRow.creationDate (storedGidnumber db')
          settings.groupGidnumberStart settings.groupGidnumberMax groupUpdateAccepts ↔
        GidnumbersFit settings db.groups.rows.length)) := by
  have hlength {α : Type} (created : α → DateTime) (rows : List α) :
      (orderBy created rows).length = rows.length := List.length_insertionSort _ _
  refine ⟨fun hassign h => ?_, fun hassign h => ?_⟩
  · have hcounted := @countedOn_iff db.users.rows.length _ _ 60000 hrange.uidStart hrange.uidMax
      (by norm_num)
    have haccepts (i : Nat) := @userUpdateAccepts_iff _ _
      (inI64_wrapI64 (settings.userUidnumberStart + i))
    rw [← hlength UserRow.creationDate] at hcounted
    have hperm : (orderBy UserRow.creationDate db.users.rows).Perm db.users.rows := List.perm_insertionSort _ _
    rw [wellNumbered_iff hperm (pairwise_orderBy UserRow.creationDate _)
      (fun i r hr => storedUidnumber_reassigned hsettings hassign h hr)]
    · simp only [haccepts]
      rw [hcounted, hlength]
      rfl
    · simp only [haccepts]
      exact fun hall => wrapI64_of_counted hrange.uidStart hrange.uidMax (.inl (hcounted.mp hall))
  · have hcounted := @countedOn_group_iff db.groups.rows.length _ _ hrange.gidStart hrange.gidMax
    rw [← hlength GroupRow.creationDate] at hcounted
    have hperm : (orderBy GroupRow.creationDate db.groups.rows).Perm db.groups.rows := List.perm_insertionSort _ _
    rw [wellNumbered_iff hperm (pairwise_orderBy GroupRow.creationDate _)
      (fun i r hr => storedGidnumber_reassigned hsettings hassign h hr)]
    · simp only [groupUpdateAccepts_iff]
      rw [hcounted, hlength]
      rfl
    · simp only [groupUpdateAccepts_iff]
      exact fun hall => wrapI64_of_counted hrange.gidStart hrange.gidMax (hcounted.mp hall)

end

/-! ## Two users -/

namespace Numbering

def settingsUpTo (max : Int) : PosixSettings :=
  { userUidnumberAssign := true, userUidnumberStart := 3000, userUidnumberMax := max }

/-- The plain library functions with two settings that can be stored. -/
scoped instance external : External :=
  { Plain.external with
    jsonToPosixSettings := fun s => some (settingsUpTo (if s = "tight" then 3000 else 60000)) }

def alice : UserRow := ⟨.new "alice", ⟨""⟩, "", none, 1, none, ⟨""⟩, 1, 1, none⟩

def bob : UserRow := ⟨.new "bob", ⟨""⟩, "", none, 2, none, ⟨""⟩, 2, 2, none⟩

def twoUsers (settings : String) : Store :=
  { Store.empty with
    users := ⟨[bob, alice], by decide⟩
    userAttributeSchema :=
      ⟨[⟨.new "uidnumber", .integer, false, true, false, true, true, "[]"⟩], by decide⟩
    systemConfig := ⟨[⟨"posix_settings", settings⟩], List.nodup_singleton _⟩ }

theorem twoUsers_numbered :
    WellNumbered (twoUsers "wide").users.rows UserRow.creationDate
      (storedUidnumber (reassignUserUidNumbers 5 (twoUsers "wide")).2) 3000 60000
      userUpdateAccepts := by
  have hrun : reassignUserUidNumbers 5 (twoUsers "wide") =
      (.ok (), (reassignUserUidNumbers 5 (twoUsers "wide")).2) :=
    Prod.ext (by decide +kernel) rfl
  have hsettings : getPosixSettings (twoUsers "wide") = .ok (settingsUpTo 60000) := by decide +kernel
  have hfit : UidnumbersFit (settingsUpTo 60000) 2 := .inr ⟨by decide, by decide, by decide⟩
  have hrange : PosixSettings.InRange (settingsUpTo 60000) :=
    ⟨⟨by decide, by decide⟩, ⟨by decide, by decide⟩, ⟨by decide, by decide⟩, ⟨by decide, by decide⟩⟩
  exact ((reassign_iff hsettings hrange).1 rfl hrun).mpr hfit

/-- `bob` is given a number behind the end of the settings. -/
theorem bob_numbered_past_end :
    getPosixSettings (twoUsers "tight") = .ok (settingsUpTo 3000) ∧
      (reassignUserUidNumbers 5 (twoUsers "tight")).1 = .ok () ∧
      storedUidnumber (reassignUserUidNumbers 5 (twoUsers "tight")).2 bob =
        some (.integer (.singleton 3001)) ∧
      ¬ WellNumbered (twoUsers "tight").users.rows UserRow.creationDate
        (storedUidnumber (reassignUserUidNumbers 5 (twoUsers "tight")).2) 3000 3000
        userUpdateAccepts := by
  have hstored : storedUidnumber (reassignUserUidNumbers 5 (twoUsers "tight")).2 bob =
      some (.integer (.singleton 3001)) := by decide +kernel
  refine ⟨by decide +kernel, by decide +kernel, hstored, ?_⟩
  rintro ⟨number, hnumber, -, -, hbounds⟩
  have hbob : bob ∈ (twoUsers "tight").users.rows := List.mem_cons_self
  have heq := (hnumber bob hbob).symm.trans hstored
  have hvalue : number bob = 3001 := by simpa using heq
  have hmax := (hbounds bob hbob).2.1
  omega

def oneNumber (k : Int) : Store :=
  { Store.empty with userAttributes := ⟨[⟨.new "bob", .new "uidnumber", utf8 (toString k)⟩], by simp⟩ }

theorem next_after_bob :
    FindsLeast (nextAvailableUidNumber (oneNumber 3000) 3000 3001) (uidnumberInUse (oneNumber 3000))
      3000 3001 := by
  refine (nextAvailable_least (oneNumber 3000) ⟨by decide, by decide⟩ ⟨by decide, by decide⟩
    (by decide)).1 fun r hr _ => ?_
  cases List.mem_singleton.mp hr
  exact ⟨3000, ⟨by decide, by decide⟩, rfl⟩

/-- The one number of the interval is in use, and the search comes back with the least integer. -/
theorem search_runs_over :
    nextAvailableUidNumber (oneNumber i64Max) i64Max i64Max = .ok i64Min ∧
      ¬ FindsLeast (nextAvailableUidNumber (oneNumber i64Max) i64Max i64Max)
        (uidnumberInUse (oneNumber i64Max)) i64Max i64Max := by
  have hrun : nextAvailableUidNumber (oneNumber i64Max) i64Max i64Max = .ok i64Min := by
    decide +kernel
  refine ⟨hrun, fun h => ?_⟩
  obtain ⟨⟨hlow, -⟩, -⟩ := (h.ok i64Min).mp hrun
  exact absurd hlow (by decide)

end Numbering

end Sql
end Klldap
