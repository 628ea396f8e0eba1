import Klldap.Ldap.Dn
import Klldap.Lib.Effect

/-!
# Klldap.Ldap.Rdn: reading rendered names
-/

namespace Klldap
namespace Ldap

open Lib (except_bind_ok)
open Lib.Text

theorem isSep_comma : IsSep "," ',' := by unfold IsSep; decide

theorem isSep_equals : IsSep "=" '=' := by unfold IsSep; decide

theorem isSep_backslash : IsSep "\\" '\\' := by unfold IsSep; decide

/-! ## Texts -/

/-- A type or a value that does not disturb the parsing. -/
structure PlainText (s : String) : Prop where
  noComma : hasChar ',' s = false
  noEquals : hasChar '=' s = false

/-- A type or a value as parsing gives it. -/
structure CleanText (s : String) : Prop extends PlainText s where
  lower : asciiLower s = s
  trimmed : trim s = s

def foldText (s : String) : String := trim (asciiLower s)

theorem PlainText.clean {s : String} (h : PlainText s) : CleanText (foldText s) where
  noComma := hasChar_trim ((hasChar_asciiLower (by decide) s).trans h.noComma)
  noEquals := hasChar_trim ((hasChar_asciiLower (by decide) s).trans h.noEquals)
  lower := by rw [foldText, trim_asciiLower, asciiLower_idem]
  trimmed := trim_trim _

@[simp] theorem CleanText.foldText_eq {s : String} (h : CleanText s) : foldText s = s := by
  rw [foldText, h.lower, h.trimmed]

namespace Rdn

structure Plain (p : Rdn) : Prop where
  key : PlainText p.1
  value : PlainText p.2

structure Clean (p : Rdn) : Prop where
  key : CleanText p.1
  value : CleanText p.2

def fold (p : Rdn) : Rdn := (foldText p.1, foldText p.2)

theorem Clean.plain {p : Rdn} (h : Clean p) : Plain p := ⟨h.key.toPlainText, h.value.toPlainText⟩

theorem Clean.fold_eq {p : Rdn} (h : Clean p) : fold p = p := by
  rw [fold, h.key.foldText_eq, h.value.foldText_eq]

theorem map_fold_of_clean {rdns : List Rdn} (h : ∀ p ∈ rdns, Clean p) : rdns.map fold = rdns :=
  (List.map_congr_left fun p hp => (h p hp).fold_eq).trans (List.map_id rdns)

end Rdn

theorem makeDnPair_ok {ps : List String} {p : Rdn} :
    makeDnPair ps = .ok p ↔ ps = [p.1, p.2] := by
  obtain ⟨k, v⟩ := p
  unfold makeDnPair
  split <;> simp

theorem parse_pair {p : Rdn} (h : p.Plain) :
    parseDistinguishedName (p.1 ++ "=" ++ p.2) = .ok [p.fold] := by
  have hcomma : hasChar ',' (p.1 ++ "=" ++ p.2) = false := by
    simp [h.key.noComma, h.value.noComma, show hasChar ',' "=" = false by decide]
  have hpair : makeDnPair ((splitOn '=' (asciiLower (p.1 ++ "=" ++ p.2))).map trim) =
      .ok p.fold := by
    rw [splitOn_asciiLower (by decide), splitOn_append isSep_equals,
      splitOn_of_not_hasChar h.key.noEquals, splitOn_of_not_hasChar h.value.noEquals]
    rfl
  rw [parseDistinguishedName, splitOn_asciiLower (by decide), splitOn_of_not_hasChar hcomma,
    List.map_singleton, List.mapM_cons, hpair]
  rfl

theorem parse_append (s t : String) :
    parseDistinguishedName (s ++ "," ++ t) = (do
      let ps ← parseDistinguishedName s
      let qs ← parseDistinguishedName t
      .ok (ps ++ qs)) := by
  have hlower : asciiLower (s ++ "," ++ t) = asciiLower s ++ "," ++ asciiLower t := by
    simp [show asciiLower "," = "," by decide]
  rw [parseDistinguishedName, hlower, splitOn_append isSep_comma, List.mapM_append]
  rfl

theorem clean_of_parse {dn : String} {parts : List Rdn} (h : parseDistinguishedName dn = .ok parts) :
    ∀ p ∈ parts, p.Clean := by
  intro p hp
  obtain ⟨s, hs, hpair⟩ := Lib.except_mapM_ok h p hp
  rw [makeDnPair_ok] at hpair
  rw [splitOn_asciiLower (by decide)] at hs
  obtain ⟨chunk, hchunk, rfl⟩ := List.mem_map.mp hs
  rw [splitOn_asciiLower (by decide), List.map_map] at hpair
  have hclean : ∀ t ∈ (splitOn '=' chunk).map (trim ∘ asciiLower), CleanText t := by
    intro _ hmem
    obtain ⟨t, ht, rfl⟩ := List.mem_map.mp hmem
    have hplain : PlainText t :=
      ⟨hasChar_of_mem_splitOn (not_hasChar_of_mem_splitOn hchunk) ht, not_hasChar_of_mem_splitOn ht⟩
    exact hplain.clean
  rw [hpair] at hclean
  exact ⟨hclean _ (by simp), hclean _ (by simp)⟩

theorem ne_nil_of_parse {dn : String} {parts : List Rdn}
    (h : parseDistinguishedName dn = .ok parts) : parts ≠ [] := by
  rintro rfl
  have hlen := Lib.except_mapM_length h
  exact splitOn_ne_nil ',' (asciiLower dn) (List.length_eq_zero_iff.mp hlen)

theorem renderRdns_cons (p q : Rdn) (rdns : List Rdn) :
    renderRdns (p :: q :: rdns) = p.1 ++ "=" ++ p.2 ++ "," ++ renderRdns (q :: rdns) := rfl

theorem renderRdns_append {ps qs : List Rdn} (hp : ps ≠ []) (hq : qs ≠ []) :
    renderRdns (ps ++ qs) = renderRdns ps ++ "," ++ renderRdns qs := by
  rw [renderRdns, List.map_append, join_append _ (by simpa using hp) (by simpa using hq)]
  rfl

theorem renderRdns_ne_empty {rdns : List Rdn} (hne : rdns ≠ []) : renderRdns rdns ≠ "" := by
  have hequals : hasChar '=' (renderRdns rdns) = true := by
    cases rdns with
    | nil => exact absurd rfl hne
    | cons p rdns =>
      cases rdns with
      | nil => simp [renderRdns, join, show hasChar '=' "=" = true by decide]
      | cons q rdns => simp [renderRdns_cons, show hasChar '=' "=" = true by decide]
  intro hempty
  rw [hempty] at hequals
  cases hequals

theorem parse_renderRdns {rdns : List Rdn} (hne : rdns ≠ []) (h : ∀ p ∈ rdns, p.Plain) :
    parseDistinguishedName (renderRdns rdns) = .ok (rdns.map Rdn.fold) := by
  induction rdns with
  | nil => exact absurd rfl hne
  | cons p rdns ih =>
    have hp := parse_pair (h p List.mem_cons_self)
    cases rdns with
    | nil => exact hp
    | cons q rdns =>
      rw [renderRdns_cons, parse_append, hp,
        ih (by simp) fun r hr => h r (List.mem_cons_of_mem p hr)]
      rfl

namespace LdapInfo

variable {base : String} {ignoredUser ignoredGroup : List AttributeName} {info : LdapInfo}
  (h : LdapInfo.new base ignoredUser ignoredGroup = .ok info)

include h

theorem baseDnStr_of_new : info.baseDnStr = renderRdns info.baseDn := by
  obtain ⟨baseDn, -, h⟩ := except_bind_ok.mp h
  cases h
  rfl

theorem clean_of_new : info.baseDn ≠ [] ∧ ∀ p ∈ info.baseDn, p.Clean := by
  obtain ⟨baseDn, hbase, h⟩ := except_bind_ok.mp h
  cases h
  exact ⟨ne_nil_of_parse hbase, clean_of_parse hbase⟩

theorem parse_baseDnStr : parseDistinguishedName info.baseDnStr = .ok info.baseDn := by
  obtain ⟨hne, hclean⟩ := clean_of_new h
  rw [baseDnStr_of_new h, parse_renderRdns hne fun p hp => (hclean p hp).plain,
    Rdn.map_fold_of_clean hclean]

end LdapInfo

end Ldap
end Klldap
