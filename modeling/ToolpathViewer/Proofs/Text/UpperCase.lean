import Mathlib.Tactic
import ToolpathViewer.Proofs.Text.LetterCase
import ToolpathViewer.Text.Letter
import ToolpathViewer.Text.UpperCase

/-!
# What becomes an ASCII letter in upper case

A character whose upper-case form is one ASCII letter is itself a letter: an ASCII letter, or one of the two beyond ASCII that
lose a sign on the way. So it is not blank either. Nothing but a semicolon becomes a text that begins with one.
-/

namespace ToolpathViewer.Text

/-- The upper-case letters of core are ASCII. -/
theorem toNat_lt_of_isUpper {c : Char} (h : c.isUpper = true) : c.toNat < 128 := by
  have halphanum : c.isAlphanum = true := by
    change (c.isUpper || c.isLower || c.isDigit) = true
    rw [h]
    rfl
  exact toNat_lt_of_isAlphanum halphanum

/-- A number is the code of its character, or no character has it as its code. -/
theorem toNat_ofNat_cases (n : Nat) : (Char.ofNat n).toNat = n ∨ Char.ofNat n = Char.ofNat 0 := by
  by_cases hn : n.isValidChar
  · left
    rw [Char.ofNat, dif_pos hn]
    rfl
  · right
    rw [Char.ofNat, dif_neg hn]
    rfl

/-- A number beyond ASCII is no character of ASCII. -/
theorem ofNat_ne {n : Nat} (h : 128 ≤ n) {d : Char} (hd : d.toNat < 128) (hne : d ≠ Char.ofNat 0) : Char.ofNat n ≠ d := by
  rintro rfl
  rcases toNat_ofNat_cases n with hcode | hnone
  · omega
  · exact hne hnone

/-! ## Upper-case forms -/

/-- A run of letters stays beyond ASCII in upper case, or is a single letter that becomes an ASCII letter: the i without a dot, or the
long s. -/
theorem upperRuns_cases : ∀ r ∈ upperRuns,
    128 ≤ (r.first + r.shift).toNat ∨
      r.first = r.last ∧ (r.first = 0x131 ∨ r.first = 0x17F) ∧ (Char.ofNat (r.first + r.shift).toNat).isUpper = true := by
  decide +kernel

/-- A letter that becomes more than one character does not become a semicolon with others behind it. -/
theorem upperExpansions_cases : ∀ e ∈ upperExpansions, e.2.length ≠ 1 ∧ (e.2.map Char.ofNat).head?.any (· != ';') = true := by
  decide +kernel

/-- What a character can become in upper case. -/
inductive Uppers (c : Char) : List Char → Prop where
  /-- Its other case in ASCII, or itself. -/
  | ascii (hc : c.toNat < 128) : Uppers c [c.toUpper]
  /-- A letter of ASCII, without a sign that the character has. -/
  | bare {u : Char} (hc : c = 'ı' ∨ c = 'ſ') (hu : u.isUpper = true) : Uppers c [u]
  /-- A character beyond ASCII. -/
  | far {n : Nat} (hn : 128 ≤ n) : Uppers c [Char.ofNat n]
  /-- More than one character, the first of which is no semicolon. -/
  | more {u : Char} {us : List Char} (hus : us ≠ []) (hu : u ≠ ';') : Uppers c (u :: us)

/-- Every character has its upper case in one of the ways that are told apart. -/
theorem uppers_upperChar (c : Char) : Uppers c (upperChar c) := by
  unfold upperChar
  split
  · rename_i hascii
    exact .ascii hascii
  · rename_i hascii
    split
    · rename_i r hr
      have hrange := List.find?_some hr
      simp only [Bool.and_eq_true, decide_eq_true_eq] at hrange
      obtain ⟨⟨hfirst, hlast⟩, -⟩ := hrange
      rcases upperRuns_cases r (List.mem_of_find?_eq_some hr) with hfar | ⟨hone, hcode, hupper⟩
      · have hcode : 128 ≤ (c.toNat + r.shift).toNat := by omega
        exact .far hcode
      · obtain hsame : c.toNat = r.first := by omega
        rw [← hsame] at hcode hupper
        refine .bare ?_ hupper
        rcases hcode with hcode | hcode
        · exact Or.inl (by rw [← Char.ofNat_toNat c, hcode])
        · exact Or.inr (by rw [← Char.ofNat_toNat c, hcode])
    · split
      · rename_i e he
        obtain ⟨hlength, hhead⟩ := upperExpansions_cases e (List.mem_of_find?_eq_some he)
        obtain ⟨u, hu, hne⟩ := (Option.any_eq_true _ _).1 hhead
        obtain ⟨us, hus⟩ := List.head?_eq_some_iff.1 hu
        rw [hus]
        refine .more (fun hnil => hlength ?_) (by simpa using hne)
        rw [← List.length_map (f := Char.ofNat), hus, hnil]
        rfl
      · have hfar := Uppers.far (c := c) (not_lt.1 hascii)
        rwa [Char.ofNat_toNat] at hfar

/-- An ASCII character whose upper case is an upper-case letter is a letter. -/
theorem isAlpha_of_toUpper : ∀ n < 128, (Char.ofNat n).toUpper.isUpper = true → (Char.ofNat n).isAlpha = true := by decide

/-- Among ASCII characters only the semicolon has it as upper case. -/
theorem eq_semicolon_of_toUpper : ∀ n < 128, (Char.ofNat n).toUpper = ';' → Char.ofNat n = ';' := by decide

/-- What becomes an ASCII letter is one, or loses a sign on the way. -/
theorem cases_of_upperChar {c u : Char} (h : upperChar c = [u]) (hu : u.isUpper = true) :
    c.isAlpha = true ∨ c = 'ı' ∨ c = 'ſ' := by
  have hcases := uppers_upperChar c
  rw [h] at hcases
  cases hcases with
  | ascii hc =>
    have halpha := isAlpha_of_toUpper c.toNat hc
    rw [Char.ofNat_toNat] at halpha
    exact Or.inl (halpha hu)
  | bare hc => exact Or.inr hc
  | @far n hn =>
    have hne : Char.ofNat n ≠ Char.ofNat 0 := by
      intro heq
      rw [heq] at hu
      exact absurd hu (by decide)
    exact absurd rfl (ofNat_ne hn (toNat_lt_of_isUpper hu) hne)
  | more hus => exact absurd rfl hus

/-- What becomes an ASCII letter is a letter. -/
theorem isLetter_of_upperChar {c u : Char} (h : upperChar c = [u]) (hu : u.isUpper = true) : isLetter c = true := by
  rcases cases_of_upperChar h hu with halpha | rfl | rfl
  · exact isLetter_of_isAlpha halpha
  · decide
  · decide

/-- What becomes an ASCII letter is not blank. -/
theorem not_isBlank_of_upperChar {c u : Char} (h : upperChar c = [u]) (hu : u.isUpper = true) : isBlank c = false := by
  rcases cases_of_upperChar h hu with halpha | rfl | rfl
  · exact not_isBlank_of_isAlpha halpha
  · decide
  · decide

/-- The upper-case form of a character begins with a semicolon only if the character is one. -/
theorem exists_upperChar_eq_cons (c : Char) : ∃ u us, upperChar c = u :: us ∧ (u = ';' → c = ';') := by
  have hcases := uppers_upperChar c
  generalize upperChar c = us at hcases
  cases hcases with
  | ascii hc =>
    have hsemicolon := eq_semicolon_of_toUpper c.toNat hc
    rw [Char.ofNat_toNat] at hsemicolon
    exact ⟨_, [], rfl, hsemicolon⟩
  | bare _ hu =>
    refine ⟨_, [], rfl, ?_⟩
    rintro rfl
    exact absurd hu (by decide)
  | far hn => exact ⟨_, [], rfl, fun heq => absurd heq (ofNat_ne hn (by decide) (by decide))⟩
  | more _ hu => exact ⟨_, _, rfl, fun heq => absurd heq hu⟩

end ToolpathViewer.Text
