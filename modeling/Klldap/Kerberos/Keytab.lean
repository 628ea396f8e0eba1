import Klldap.Kerberos
import Klldap.Lib.Lines
import Klldap.World

/-!
# Klldap.Kerberos.Keytab: the command that exports the keytab of Keycloak

`export_keytab_for_keycloak` in `crates/kerberos/src/lib.rs`. The host name that a client gives is
trimmed and put into a command for `kadmin`, which splits it into words; nothing is quoted.
-/

namespace Klldap
namespace Kerberos

open Lib (Eff)
open Lib.Text

/-! ## The command -/

section

variable (out : Outside) (hostnameInput : String)

def keycloakHostname : String :=
  if trim hostnameInput = "" || trim hostnameInput = "keycloak" then "keycloak." ++ out.domain
  else trim hostnameInput

def keytabPrincipal : String := "HTTP/" ++ keycloakHostname out hostnameInput ++ "@" ++ out.realm

/-- What `export_keytab_for_keycloak` gives to `kadmin.local -q`. -/
def ktaddQuery : String :=
  "ktadd -k " ++ keytabPath ++
    " -e aes256-cts-hmac-sha1-96:normal,aes128-cts-hmac-sha1-96:normal " ++
    keytabPrincipal out hostnameInput

theorem exportKeytab_principal {w w' : World} {path : String}
    (h : exportKeytabForKeycloak out hostnameInput w = (.ok path, w')) :
    w'.keytab = some (keytabPrincipal out hostnameInput) := by
  obtain ⟨-, w₁, -, h₁⟩ := Eff.bind_ok.mp h
  obtain ⟨-, w₂, -, h₂⟩ := Eff.bind_ok.mp h₁
  obtain ⟨name, w₃, -, h₃⟩ := Eff.bind_ok.mp h₂
  obtain ⟨-, w₄, -, h₄⟩ := Eff.bind_ok.mp h₃
  obtain ⟨-, w₅, -, h₅⟩ := Eff.bind_ok.mp h₄
  obtain ⟨-, w₆, -, h₆⟩ := Eff.bind_ok.mp h₅
  obtain ⟨_, w₇, hwrite, h₇⟩ := Eff.bind_ok.mp h₆
  cases hwrite
  cases h₇
  rfl

end

def ktaddArguments : List String → List String
  | "-k" :: _ :: args => ktaddArguments args
  | "-e" :: _ :: args => ktaddArguments args
  | "-q" :: args => ktaddArguments args
  | "-norandkey" :: args => ktaddArguments args
  | args => args

/-- The principals that a command names, if it is one of `ktadd`. -/
def principalsOf : List String → List String
  | "ktadd" :: args => ktaddArguments args
  | _ => []

/-- The characters at which `kadmin` splits: the blank is one, and all are white space. -/
structure Separates (space : Char → Bool) : Prop where
  blank : space ' ' = true
  white : ∀ c, space c = true → isWhitespace c = true

theorem Separates.not_space {space : Char → Bool} (h : Separates space) {s : String}
    (hs : ∀ c ∈ s.toList, isWhitespace c = false) : ∀ c ∈ s.toList, space c = false := by
  intro c hc
  cases hspace : space c with
  | false => rfl
  | true => exact absurd (h.white c hspace) (by simp [hs c hc])

/-! ## The words of the command -/

section

variable {space : Char → Bool} (hspace : Separates space)

/-- Only separators follow the first separator. -/
def OneWord (space : Char → Bool) (s : String) : Prop :=
  ∀ c ∈ s.toList.dropWhile fun c => !space c, space c = true

theorem oneWord_of_no_space {s : String} (h : ∀ c ∈ s.toList, space c = false) : OneWord space s := by
  have hnil : (s.toList.dropWhile fun c => !space c) = [] := by
    rw [List.dropWhile_eq_nil_iff]
    exact fun c hc => by simp [h c hc]
  simp [OneWord, hnil]

include hspace

theorem wordsBy_fixed (principal : String) :
    wordsBy space ("ktadd -k " ++ keytabPath ++
      " -e aes256-cts-hmac-sha1-96:normal,aes128-cts-hmac-sha1-96:normal " ++ principal) =
      "ktadd" :: "-k" :: keytabPath :: "-e" ::
        "aes256-cts-hmac-sha1-96:normal,aes128-cts-hmac-sha1-96:normal" :: wordsBy space principal := by
  have hsep : IsSep " " ' ' := by unfold IsSep; decide
  have htext : "ktadd -k " ++ keytabPath ++
      " -e aes256-cts-hmac-sha1-96:normal,aes128-cts-hmac-sha1-96:normal " ++ principal =
      "ktadd" ++ " " ++ ("-k" ++ " " ++ (keytabPath ++ " " ++ ("-e" ++ " " ++
        ("aes256-cts-hmac-sha1-96:normal,aes128-cts-hmac-sha1-96:normal" ++ " " ++ principal)))) := by
    rw [← String.toList_inj]
    simp [keytabPath]
  have hcons : ∀ w s : String, (w ≠ "" ∧ (w.toList.all fun c => !isWhitespace c) = true) →
      wordsBy space (w ++ " " ++ s) = w :: wordsBy space s := fun w s hw =>
    wordsBy_cons hsep hspace.blank hw.1 (hspace.not_space (no_space_of_all hw.2)) s
  rw [htext, hcons "ktadd" _ (by decide), hcons "-k" _ (by decide),
    hcons keytabPath _ (by decide +kernel), hcons "-e" _ (by decide), hcons _ _ (by decide +kernel)]

theorem oneWord_append_iff {hostname realm : String} :
    OneWord space (hostname ++ "@" ++ realm) ↔
      (∀ c ∈ hostname.toList, space c = false) ∧ OneWord space realm := by
  have hat : space '@' = false :=
    hspace.not_space (no_space_of_all (by decide)) '@' (show '@' ∈ ("@" : String).toList by decide)
  unfold OneWord
  rw [String.toList_append, String.toList_append, show ("@" : String).toList = ['@'] by decide]
  generalize hostname.toList = xs
  induction xs with
  | nil => simp [hat]
  | cons x xs ih =>
    cases hx : space x with
    | true =>
      refine iff_of_false (fun h => ?_) fun h => ?_
      · rw [List.cons_append, List.cons_append, List.dropWhile_cons_of_neg (by simp [hx])] at h
        have := h '@' (by simp)
        rw [hat] at this
        cases this
      · have := h.1 x List.mem_cons_self
        rw [hx] at this
        cases this
    | false =>
      rw [List.cons_append, List.cons_append, List.dropWhile_cons_of_pos (by simp [hx])]
      refine Iff.trans ih (and_congr_left fun _ => ?_)
      simp [hx]

theorem wordsBy_service (text : String) :
    ∃ w ws, wordsBy space ("HTTP/" ++ text) = w :: ws ∧ startsWith "HTTP/" w = true ∧
      (ws = [] ↔ OneWord space text) := by
  have hservice : ∀ c ∈ ("HTTP/" : String).toList, space c = false :=
    hspace.not_space (no_space_of_all (by decide))
  have hne : ("HTTP/" : String).toList ≠ [] := by decide
  have hlist : wordsList space [] ("HTTP/" ++ text).toList =
      wordsList space ("HTTP/" : String).toList text.toList := by
    rw [String.toList_append, wordsList_append hservice, List.nil_append]
  obtain ⟨w, ws, hw, hstart⟩ := @exists_wordsList space _ hne text.toList
  have hlength := @length_wordsList_iff space _ hne text.toList
  rw [hw] at hlength
  refine ⟨String.ofList w, ws.map String.ofList, ?_, ?_, ?_⟩
  · rw [wordsBy, hlist, hw, List.map_cons]
  · refine List.isPrefixOf_iff_prefix.mpr ?_
    rwa [show (String.ofList w).toList = w from String.toList_ofList]
  · rw [List.map_eq_nil_iff, OneWord, ← hlength, List.length_cons, Nat.add_eq_right,
      List.length_eq_zero_iff]

omit hspace in
theorem ktaddArguments_service {w : String} (h : startsWith "HTTP/" w = true) (ws : List String) :
    ktaddArguments (w :: ws) = w :: ws := by
  have hoption : ∀ o : String, startsWith "HTTP/" o = false → w ≠ o := by
    rintro o ho rfl
    rw [h] at ho
    cases ho
  have hk := hoption "-k" (by decide)
  have he := hoption "-e" (by decide)
  have hq := hoption "-q" (by decide)
  have hn := hoption "-norandkey" (by decide)
  unfold ktaddArguments
  split <;> simp_all

/-- The command names one principal, a service of HTTP, exactly if the host name that is used has no
separator in it, and the realm none but at its end. The host name is the client's, trimmed, or the
default one of the domain if the client gave none or `keycloak`. -/
theorem ktaddQuery_names_one_iff (out : Outside) (hostnameInput : String) :
    (∃ principal, principalsOf (wordsBy space (ktaddQuery out hostnameInput)) = [principal] ∧
        startsWith "HTTP/" principal = true) ↔
      (∀ c ∈ (if trim hostnameInput = "" || trim hostnameInput = "keycloak" then
          "keycloak." ++ out.domain else trim hostnameInput).toList, space c = false) ∧
        OneWord space out.realm := by
  obtain ⟨w, ws, hwords, hstart, hone⟩ := wordsBy_service hspace
    (keycloakHostname out hostnameInput ++ "@" ++ out.realm)
  have hprincipal : keytabPrincipal out hostnameInput =
      "HTTP/" ++ (keycloakHostname out hostnameInput ++ "@" ++ out.realm) := by
    simp only [keytabPrincipal, String.append_assoc]
  have hargs : principalsOf (wordsBy space (ktaddQuery out hostnameInput)) = w :: ws := by
    rw [ktaddQuery, wordsBy_fixed hspace, hprincipal, hwords]
    exact ktaddArguments_service hstart ws
  rw [oneWord_append_iff hspace] at hone
  change _ ↔ (∀ c ∈ (keycloakHostname out hostnameInput).toList, space c = false) ∧ _
  rw [← hone, hargs]
  constructor
  · rintro ⟨principal, hsingle, -⟩
    exact (List.cons.inj hsingle).2
  · rintro rfl
    exact ⟨w, rfl, hstart⟩

end

open Plain

def isBlank (c : Char) : Bool := c = ' ' || c = '\t'

theorem separates_isBlank : Separates isBlank where
  blank := by decide
  white c h := by
    simp only [isBlank, Bool.or_eq_true, decide_eq_true_eq] at h
    rcases h with rfl | rfl <;> decide

example : wordsBy isBlank " ktadd\t-k  file" = ["ktadd", "-k", "file"] := by decide +kernel

theorem default_host_names_one :
    ∃ principal, principalsOf (wordsBy isBlank (ktaddQuery outside "keycloak")) = [principal] ∧
      startsWith "HTTP/" principal = true := by
  refine (ktaddQuery_names_one_iff separates_isBlank outside "keycloak").mpr ⟨?_, ?_⟩
  · rw [if_pos (by decide +kernel)]
    exact separates_isBlank.not_space (no_space_of_all (by decide +kernel))
  · exact oneWord_of_no_space (separates_isBlank.not_space (no_space_of_all (by decide +kernel)))

/-- The administrator's own key goes to the keytab of Keycloak as well. -/
theorem blank_in_host_names_two :
    principalsOf (wordsBy isBlank (ktaddQuery outside "keycloak admin/admin")) =
      ["HTTP/keycloak", "admin/admin@EXAMPLE.COM"] := by
  decide +kernel

end Kerberos
end Klldap
