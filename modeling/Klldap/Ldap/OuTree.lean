import Klldap.Ldap.Rdn
import Klldap.Ldap.Search

/-!
# Klldap.Ldap.OuTree: the tree of organizational units

A search below an OU compares the start of paths, one for the level below looks for the last backslash.
The two agree: a path that starts with another is reached from it by children of children.
-/

namespace Klldap
namespace Ldap

open Lib.Text

def pathKey (ou : String) : List Char := (asciiLower ou).toList

theorem pathKey_ne_nil {ou : String} : pathKey ou ≠ [] ↔ ou ≠ "" := by
  have hnil : ou.toList = [] ↔ ou = "" := by rw [← String.toList_inj]; rfl
  simp [pathKey, hnil]

theorem asciiLower_eq_empty {ou : String} : asciiLower ou = "" ↔ ou = "" := by
  rw [← not_iff_not, ← ne_eq ou, ← pathKey_ne_nil, pathKey, ne_eq, not_iff_not, ← String.toList_inj]
  rfl

def ousAtRoot (scope : LdapSearchScope) (allowedOus : List String) : List String :=
  if scope = .subtree then allowedOus else getDirectChildOus "" allowedOus

/-! ## Children -/

/-- OUs as the server keeps them: no empty path, no path twice, and with each path its parent. -/
structure OuForest (allowedOus : List String) : Prop where
  nonempty : ∀ ou ∈ allowedOus, ou ≠ ""
  distinct : (allowedOus.map asciiLower).Nodup
  parents : ∀ ou ∈ allowedOus, ∀ before after : String, ou = before ++ "\\" ++ after →
    hasChar '\\' after = false → ∃ parent ∈ allowedOus, asciiLower parent = asciiLower before

/-- The second OU is listed directly below the first. -/
def IsChild (allowedOus : List String) (parent ou : String) : Prop :=
  ou ∈ getDirectChildOus parent allowedOus

section

variable {allowedOus : List String} {parent ou : String}

theorem mem_getDirectChildOus (hparent : parent ≠ "") :
    ou ∈ getDirectChildOus parent allowedOus ↔
      ou ∈ allowedOus ∧ ∃ name, pathKey ou = pathKey parent ++ '\\' :: name ∧ '\\' ∉ name := by
  have hne : asciiLower parent ≠ "" := fun h => hparent (asciiLower_eq_empty.mp h)
  have hsep : (asciiLower parent ++ "\\").toList = pathKey parent ++ ['\\'] := by
    rw [String.toList_append, show ("\\" : String).toList = ['\\'] by decide]
    rfl
  unfold getDirectChildOus
  rw [List.mem_filter]
  refine and_congr_right fun _ => ?_
  dsimp only
  rw [if_neg hne]
  split
  · next hstart =>
    rw [startsWith, hsep, List.isPrefixOf_iff_prefix] at hstart
    obtain ⟨name, hname⟩ := hstart
    have hkey : pathKey ou = pathKey parent ++ '\\' :: name := by
      rw [pathKey, ← hname]
      simp
    have hdrop : (asciiLower ou).toList.drop ((asciiLower parent).toList.length + 1) = name := by
      rw [← hname]
      change (pathKey parent ++ ['\\'] ++ name).drop ((pathKey parent).length + 1) = name
      rw [List.drop_left' (by simp)]
    rw [hdrop]
    constructor
    · exact fun h => ⟨name, hkey, by simpa using h⟩
    · rintro ⟨name', hkey', hname'⟩
      have heq : name = name' := by simpa using hkey.symm.trans hkey'
      simpa [heq] using hname'
  · next hstart =>
    refine iff_of_false (by simp) ?_
    rintro ⟨name, hkey, -⟩
    apply hstart
    rw [startsWith, hsep, List.isPrefixOf_iff_prefix]
    exact ⟨name, by rw [List.append_assoc, List.singleton_append]; exact hkey.symm⟩

theorem mem_getDirectChildOus_root :
    ou ∈ getDirectChildOus "" allowedOus ↔ ou ∈ allowedOus ∧ '\\' ∉ pathKey ou := by
  unfold getDirectChildOus
  rw [List.mem_filter]
  simp [show asciiLower "" = "" by decide, hasChar, pathKey]

theorem mem_ousBelow_subtree :
    ou ∈ ousBelow parent .subtree allowedOus ↔
      ou ∈ allowedOus ∧ parent ≠ "" ∧ ∃ rest, pathKey ou = pathKey parent ++ '\\' :: rest := by
  have hsep : (asciiLower parent ++ "\\").toList = pathKey parent ++ ['\\'] := by
    rw [String.toList_append, show ("\\" : String).toList = ['\\'] by decide]
    rfl
  unfold ousBelow
  rw [if_neg (by decide), List.mem_filter, Bool.and_eq_true, startsWith, hsep,
    List.isPrefixOf_iff_prefix]
  refine and_congr_right fun _ => and_congr (by simp) ?_
  constructor
  · rintro ⟨rest, hrest⟩
    exact ⟨rest, by rw [pathKey, ← hrest, List.append_assoc, List.singleton_append]⟩
  · rintro ⟨rest, hrest⟩
    exact ⟨rest, by rw [List.append_assoc, List.singleton_append]; exact hrest.symm⟩

theorem exists_last_occurrence {c : Char} {l : List Char} (h : c ∈ l) :
    ∃ before after, l = before ++ c :: after ∧ c ∉ after := by
  obtain ⟨as, bs, hl, has⟩ := List.eq_append_cons_of_mem (List.mem_reverse.mpr h)
  refine ⟨bs.reverse, as.reverse, ?_, by simpa using has⟩
  have hrev := congrArg List.reverse hl
  simpa using hrev

theorem OuForest.exists_parent (h : OuForest allowedOus) (hou : ou ∈ allowedOus)
    {before after : List Char} (hkey : pathKey ou = before ++ '\\' :: after) (hafter : '\\' ∉ after) :
    ∃ parent ∈ allowedOus, pathKey parent = before := by
  rw [pathKey, toList_asciiLower] at hkey
  obtain ⟨xs, ys, hsplit, rfl, hys⟩ := List.map_eq_append_iff.mp hkey
  obtain ⟨y, zs, rfl, hy, rfl⟩ := List.map_eq_cons_iff.mp hys
  obtain rfl : y = '\\' := (toLower_eq_iff (by decide) y).mp hy
  have htext : ou = String.ofList xs ++ "\\" ++ String.ofList zs := by
    rw [← String.toList_inj, hsplit]
    simp
  have hlast : hasChar '\\' (String.ofList zs) = false := by
    rw [← hasChar_asciiLower (by decide)]
    simpa [hasChar] using hafter
  obtain ⟨parent, hparent, hlower⟩ := h.parents ou hou _ _ htext hlast
  refine ⟨parent, hparent, ?_⟩
  rw [pathKey, hlower, toList_asciiLower, String.toList_ofList]

theorem isChild_of_key (hou : ou ∈ allowedOus) (hparent : parent ≠ "") {name : List Char}
    (hkey : pathKey ou = pathKey parent ++ '\\' :: name) (hname : '\\' ∉ name) :
    IsChild allowedOus parent ou :=
  (mem_getDirectChildOus hparent).mpr ⟨hou, name, hkey, hname⟩

/-! ## The closure -/

theorem mem_of_transGen (h : Relation.TransGen (IsChild allowedOus) parent ou) : ou ∈ allowedOus := by
  cases h with
  | single hchild => exact List.mem_of_mem_filter hchild
  | tail _ hchild => exact List.mem_of_mem_filter hchild

theorem below_of_transGen (hparent : parent ≠ "")
    (h : Relation.TransGen (IsChild allowedOus) parent ou) :
    ∃ rest, pathKey ou = pathKey parent ++ '\\' :: rest := by
  induction h with
  | single hchild =>
    obtain ⟨-, name, hkey, -⟩ := (mem_getDirectChildOus hparent).mp hchild
    exact ⟨name, hkey⟩
  | tail _ hchild ih =>
    obtain ⟨rest, hrest⟩ := ih
    rename_i mid ou _
    have hmid : mid ≠ "" := pathKey_ne_nil.mp (by simp [hrest])
    obtain ⟨-, name, hkey, -⟩ := (mem_getDirectChildOus hmid).mp hchild
    exact ⟨rest ++ '\\' :: name, by rw [hkey, hrest]; simp⟩

theorem OuForest.reaches_of_below (h : OuForest allowedOus) (hparent : parent ≠ "") :
    ∀ {ou : String}, ou ∈ allowedOus → ∀ {rest : List Char},
      pathKey ou = pathKey parent ++ '\\' :: rest →
      Relation.TransGen (IsChild allowedOus) parent ou := by
  intro ou hou rest
  induction hlen : rest.length using Nat.strong_induction_on generalizing ou rest with
  | _ n ih =>
    intro hkey
    by_cases hrest : '\\' ∈ rest
    · obtain ⟨before, after, rfl, hafter⟩ := exists_last_occurrence hrest
      have hsplit : pathKey ou = (pathKey parent ++ '\\' :: before) ++ '\\' :: after := by
        rw [hkey]
        simp
      obtain ⟨mid, hmid, hmidKey⟩ := h.exists_parent hou hsplit hafter
      have hreach := ih before.length (by rw [← hlen]; simp) hmid rfl hmidKey
      exact hreach.tail (isChild_of_key hou (h.nonempty mid hmid) (hmidKey ▸ hsplit) hafter)
    · exact .single (isChild_of_key hou hparent hkey hrest)

theorem OuForest.reaches_of_root (h : OuForest allowedOus) :
    ∀ {ou : String}, ou ∈ allowedOus → Relation.TransGen (IsChild allowedOus) "" ou := by
  intro ou hou
  induction hlen : (pathKey ou).length using Nat.strong_induction_on generalizing ou with
  | _ n ih =>
    by_cases hflat : '\\' ∈ pathKey ou
    · obtain ⟨before, after, hkey, hafter⟩ := exists_last_occurrence hflat
      obtain ⟨mid, hmid, hmidKey⟩ := h.exists_parent hou hkey hafter
      have hshort : (pathKey mid).length < n := by
        rw [← hlen, hkey, hmidKey]
        simp
      exact (ih _ hshort hmid rfl).tail
        (isChild_of_key hou (h.nonempty mid hmid) (hmidKey ▸ hkey) hafter)
    · exact .single (mem_getDirectChildOus_root.mpr ⟨hou, hflat⟩)

end

/-- Below an OU, in whatever spelling the request names it, and at the root: the OUs that a subtree
search lists are those reached by children of children, and none is listed twice. -/
theorem subtree_ous_are_closure {allowedOus : List String} (h : OuForest allowedOus) :
    (∀ parent, (∃ ou ∈ allowedOus, asciiLower parent = asciiLower ou) →
      (∀ ou, ou ∈ ousBelow parent .subtree allowedOus ↔
        Relation.TransGen (fun p c => c ∈ getDirectChildOus p allowedOus) parent ou) ∧
      (ousBelow parent .subtree allowedOus).Nodup) ∧
    (∀ ou, ou ∈ ousAtRoot .subtree allowedOus ↔
      Relation.TransGen (fun p c => c ∈ getDirectChildOus p allowedOus) "" ou) ∧
    (ousAtRoot .subtree allowedOus).Nodup := by
  have hnodup : allowedOus.Nodup := h.distinct.of_map
  refine ⟨fun parent hparent => ⟨fun ou => ?_, ?_⟩, fun ou => ?_, hnodup⟩
  · obtain ⟨entry, hentry, hlower⟩ := hparent
    have hne : parent ≠ "" := by
      rintro rfl
      exact h.nonempty entry hentry (asciiLower_eq_empty.mp (hlower.symm.trans rfl))
    rw [mem_ousBelow_subtree]
    constructor
    · rintro ⟨hou, -, rest, hrest⟩
      exact h.reaches_of_below hne hou hrest
    · exact fun hreach => ⟨mem_of_transGen hreach, hne, below_of_transGen hne hreach⟩
  · unfold ousBelow
    rw [if_neg (by decide)]
    exact hnodup.filter _
  · exact ⟨h.reaches_of_root, mem_of_transGen⟩

theorem parents_of_splitOn {allowedOus : List String}
    (h : ∀ ou ∈ allowedOus, (splitOn '\\' ou).length = 1 ∨
      ∃ parent ∈ allowedOus, asciiLower parent = asciiLower (join "\\" (splitOn '\\' ou).dropLast)) :
    ∀ ou ∈ allowedOus, ∀ before after : String, ou = before ++ "\\" ++ after →
      hasChar '\\' after = false → ∃ parent ∈ allowedOus, asciiLower parent = asciiLower before := by
  rintro ou hou before after rfl hafter
  have hsplit : splitOn '\\' (before ++ "\\" ++ after) = splitOn '\\' before ++ [after] := by
    rw [splitOn_append isSep_backslash, splitOn_of_not_hasChar hafter]
  have hne : 0 < (splitOn '\\' before).length := List.length_pos_iff.mpr (splitOn_ne_nil _ _)
  have hcases := h _ hou
  rw [hsplit, List.length_append, List.dropLast_concat, join_splitOn isSep_backslash] at hcases
  rcases hcases with hone | hparent
  · rw [List.length_singleton] at hone
    omega
  · exact hparent

/-- Three levels in mixed case. -/
theorem nested_ous_are_closure :
    "PEOPLE\\staff\\it" ∈ ousAtRoot .subtree ["People", "people\\Staff", "PEOPLE\\staff\\it"] ∧
      Relation.TransGen (fun p c =>
        c ∈ getDirectChildOus p ["People", "people\\Staff", "PEOPLE\\staff\\it"]) ""
          "PEOPLE\\staff\\it" := by
  have hmem : "PEOPLE\\staff\\it" ∈
      ousAtRoot .subtree ["People", "people\\Staff", "PEOPLE\\staff\\it"] := by decide +kernel
  exact ⟨hmem, ((subtree_ous_are_closure ⟨by decide +kernel, by decide +kernel,
    parents_of_splitOn (by decide +kernel)⟩).2.1 _).mp hmem⟩

end Ldap
end Klldap
