import Klldap.Ldap.Resolve
import Klldap.Ldap.Search

/-!
# Klldap.Ldap.DnLaws: names, their texts and the tree they span

A search reads its base from the text of the client and renders it again to find out whether it is a
user or a group; the base of the server is read and rendered once at startup. Both are sound because
what parsing returns is already folded: rendering it and parsing again gives the same RDNs.
-/

namespace Klldap
namespace Ldap

open Lib (except_bind_ok)
open Lib.Text

/-! ## Texts that were read -/

theorem parse_renderRdns_of_parse {dn : String} {parts : List Rdn}
    (h : parseDistinguishedName dn = .ok parts) :
    parseDistinguishedName (renderRdns parts) = .ok parts := by
  have hclean := clean_of_parse h
  rw [parse_renderRdns (ne_nil_of_parse h) fun p hp => (hclean p hp).plain,
    Rdn.map_fold_of_clean hclean]

theorem parse_asciiLower (dn : String) :
    parseDistinguishedName (asciiLower dn) = parseDistinguishedName dn := by
  rw [parseDistinguishedName, asciiLower_idem]
  rfl

theorem LdapInfo.parse_of_new {base : String} {ignoredUser ignoredGroup : List AttributeName}
    {info : LdapInfo} (h : LdapInfo.new base ignoredUser ignoredGroup = .ok info) :
    parseDistinguishedName base = .ok info.baseDn := by
  obtain ⟨baseDn, hbase, hinfo⟩ := except_bind_ok.mp h
  rw [← Except.ok.inj hinfo, ← parse_asciiLower, hbase]

theorem getUserOrGroupId_renderRdns {dn : String} {parts : List Rdn} (baseTree : List Rdn)
    (h : parseDistinguishedName dn = .ok parts) :
    getUserOrGroupIdFromDistinguishedName (renderRdns parts) baseTree =
      getUserOrGroupIdFromDistinguishedName dn baseTree := by
  rw [getUserOrGroupId_eq, getUserOrGroupId_eq, parse_renderRdns_of_parse h, h]

/-! ## Subtrees -/

def Rdn.lower (p : Rdn) : Rdn := (asciiLower p.1, asciiLower p.2)

def Rdn.same (p q : Rdn) : Bool := eqIgnoreAsciiCase p.1 q.1 && eqIgnoreAsciiCase p.2 q.2

theorem Rdn.same_iff {p q : Rdn} : p.same q = true ↔ p.lower = q.lower := by
  simp [Rdn.same, Rdn.lower, eqIgnoreAsciiCase_iff]

theorem all_same_iff {ps qs : List Rdn} (hlen : ps.length = qs.length) :
    ((ps.zip qs).all fun (p, q) => p.same q) = true ↔ qs.map Rdn.lower = ps.map Rdn.lower := by
  induction ps generalizing qs with
  | nil =>
    obtain rfl : qs = [] := List.length_eq_zero_iff.mp hlen.symm
    simp
  | cons p ps ih =>
    cases qs with
    | nil => simp at hlen
    | cons q qs =>
      have htail := ih (Nat.succ.inj hlen)
      rw [List.zip_cons_cons, List.all_cons, Bool.and_eq_true, htail, Rdn.same_iff, List.map_cons,
        List.map_cons, List.cons.injEq]
      exact and_congr_left fun _ => eq_comm

theorem isSubtree_iff {subtree baseTree : List Rdn} :
    isSubtree subtree baseTree = true ↔
      baseTree.map Rdn.lower <:+ subtree.map Rdn.lower := by
  unfold isSubtree
  split
  · next hempty => simp [hempty]
  split
  · next hshort =>
    refine iff_of_false (by simp) fun hsuffix => ?_
    have hle := hsuffix.length_le
    rw [List.length_map, List.length_map] at hle
    omega
  · next hlong =>
    have hlen : (subtree.drop (subtree.length - baseTree.length)).length = baseTree.length := by
      rw [List.length_drop]
      omega
    refine (all_same_iff hlen).trans ?_
    rw [List.map_drop, List.suffix_iff_eq_drop, List.length_map, List.length_map]

theorem isSubtree_refl (tree : List Rdn) : isSubtree tree tree = true :=
  isSubtree_append [] tree

theorem isSubtree_trans {s t u : List Rdn} (hst : isSubtree s t = true)
    (htu : isSubtree t u = true) : isSubtree s u = true :=
  isSubtree_iff.mpr ((isSubtree_iff.mp htu).trans (isSubtree_iff.mp hst))

theorem isSubtree_antisymm {s t : List Rdn} (hst : isSubtree s t = true)
    (hts : isSubtree t s = true) : s.map Rdn.lower = t.map Rdn.lower := by
  have h := isSubtree_iff.mp hts
  have h' := isSubtree_iff.mp hst
  exact h.eq_of_length (Nat.le_antisymm h.length_le h'.length_le)

/-- Names that were read are rendered and read back as they are, the subtrees are ordered up to the
case of ASCII letters, and the base that a server keeps is the configured one, as RDNs and as text. -/
theorem names_form_tree :
    (∀ (dn : String) (parts : List Rdn), parseDistinguishedName dn = .ok parts →
      parseDistinguishedName (renderRdns parts) = .ok parts) ∧
    (∀ s : List Rdn, isSubtree s s = true) ∧
    (∀ s t u : List Rdn, isSubtree s t = true → isSubtree t u = true → isSubtree s u = true) ∧
    (∀ s t : List Rdn, isSubtree s t = true → isSubtree t s = true →
      s.length = t.length ∧ ((s.zip t).all fun (p, q) =>
        eqIgnoreAsciiCase p.1 q.1 && eqIgnoreAsciiCase p.2 q.2) = true) ∧
    (∀ (base : String) (ignoredUser ignoredGroup : List AttributeName) (info : LdapInfo),
      LdapInfo.new base ignoredUser ignoredGroup = .ok info →
      parseDistinguishedName base = .ok info.baseDn ∧
      parseDistinguishedName info.baseDnStr = .ok info.baseDn) := by
  refine ⟨fun dn parts h => parse_renderRdns_of_parse h, isSubtree_refl,
    fun s t u => isSubtree_trans, fun s t hst hts => ?_, fun base _ _ info h =>
      ⟨LdapInfo.parse_of_new h, LdapInfo.parse_baseDnStr h⟩⟩
  have hsame := isSubtree_antisymm hst hts
  have hlen : s.length = t.length := by simpa using congrArg List.length hsame
  exact ⟨hlen, (all_same_iff hlen).mpr hsame.symm⟩

/-- A configured base with odd spacing and capitals. -/
theorem example_base_forms_tree :
    parseDistinguishedName " DC = Example ,dc=com" = .ok [("dc", "example"), ("dc", "com")] ∧
    parseDistinguishedName (renderRdns [("dc", "example"), ("dc", "com")]) =
      .ok [("dc", "example"), ("dc", "com")] := by
  have hparse : parseDistinguishedName " DC = Example ,dc=com" =
      .ok [("dc", "example"), ("dc", "com")] := by decide +kernel
  exact ⟨hparse, names_form_tree.1 _ _ hparse⟩

theorem getSearchScope_leaf {baseDn dnParts : List Rdn} {scope : LdapSearchScope}
    {allowedOus : List String} :
    (getSearchScope baseDn dnParts scope allowedOus = .leafUser →
      ∃ userId, getUserOrGroupIdFromDistinguishedName (renderRdns dnParts) baseDn = .user userId) ∧
    (getSearchScope baseDn dnParts scope allowedOus = .leafGroup →
      ∃ name, getUserOrGroupIdFromDistinguishedName (renderRdns dnParts) baseDn = .group name) := by
  unfold getSearchScope
  cases hname : getUserOrGroupIdFromDistinguishedName (renderRdns dnParts) baseDn <;>
    grind

/-- Whatever the base, the scope and the text of the client: a search that is answered as one at a
user (a group) resolves the text of the client to a user (a group), so the answer is never the
success without entries that an unresolved name gets. -/
theorem leaf_base_resolves {request : String} {dnParts : List Rdn} (baseDn : List Rdn)
    (baseDnStr : String) (scope : LdapSearchScope) (allowedOus : List String)
    (hparse : parseDistinguishedName request = .ok dnParts) :
    (getSearchScope baseDn dnParts scope allowedOus = .leafUser →
      ∃ userId, getUserIdFromDistinguishedName request baseDn baseDnStr = .ok userId) ∧
    (getSearchScope baseDn dnParts scope allowedOus = .leafGroup →
      ∃ name, getGroupIdFromDistinguishedName request baseDn baseDnStr = .ok name) := by
  have hrender := getUserOrGroupId_renderRdns baseDn hparse
  constructor
  · intro hleaf
    obtain ⟨userId, huser⟩ := getSearchScope_leaf.1 hleaf
    refine ⟨userId, ?_⟩
    rw [getUserIdFromDistinguishedName, ← hrender, huser]
  · intro hleaf
    obtain ⟨name, hgroup⟩ := getSearchScope_leaf.2 hleaf
    refine ⟨name, ?_⟩
    rw [getGroupIdFromDistinguishedName, ← hrender, hgroup]

/-- A search at `bob` with odd spacing in its base. -/
theorem bob_base_resolves :
    parseDistinguishedName "UID= bob , ou=people,dc=com" =
      .ok [("uid", "bob"), ("ou", "people"), ("dc", "com")] ∧
    getSearchScope [("dc", "com")] [("uid", "bob"), ("ou", "people"), ("dc", "com")] .base [] =
      .leafUser ∧
    ∃ userId, getUserIdFromDistinguishedName "UID= bob , ou=people,dc=com" [("dc", "com")] "dc=com" =
      .ok userId := by
  have hparse : parseDistinguishedName "UID= bob , ou=people,dc=com" =
      .ok [("uid", "bob"), ("ou", "people"), ("dc", "com")] := by decide +kernel
  have hleaf : getSearchScope [("dc", "com")] [("uid", "bob"), ("ou", "people"), ("dc", "com")]
      .base [] = .leafUser := by decide +kernel
  exact ⟨hparse, hleaf, (leaf_base_resolves _ _ _ _ hparse).1 hleaf⟩

end Ldap
end Klldap
