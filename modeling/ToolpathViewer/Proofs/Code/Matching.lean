import ToolpathViewer.Proofs.Code

/-!
# When two codes match

Codes are compared by their normal forms. Among codes of ASCII a normal form is its own normal form, letters with numbers have the same
one exactly when the letters are the same but for case and the numbers are equal, and no other code has the normal form of a letter with a
number (`forms_agree_by_letter_and_number`). What a code of ASCII comes to depends on what is behind its first character once the blanks
around it are gone: a number (`HasNumber`), which is written anew, or anything else, which is put in upper case.
-/

namespace ToolpathViewer.Code

open Text

variable {code form : List Char}

/-! ## The two kinds of codes -/

/-- What is left of ASCII characters when blanks are taken off is ASCII. -/
theorem isAscii_strip (hascii : IsAscii code) : IsAscii (strip code) := fun c hc => hascii c (mem_of_mem_trimmed hc)

/-- A stripped code of ASCII is in upper case the same but for the case of letters. -/
theorem recased_upper_strip (hascii : IsAscii code) : Recased (strip code) (upper (strip code)) := (isAscii_strip hascii).recased_upper

/-- No letter is a digit, so that the case of letters does not decide what is a number. -/
theorem isNumber_recased {s s' : List Char} (h : Recased s s') : isNumber s' = isNumber s := by
  have hall : s'.all isDigit = s.all isDigit := by
    induction h with
    | nil => rfl
    | cons hc _ ih => rw [List.all_cons, List.all_cons, ih, hc.congr fun _ => not_isDigit_of_isAlpha]
  rw [isNumber, isNumber, h.isEmpty_eq, hall]

/-- Whether a number stands behind the letter is the same in upper case. -/
theorem isNumber_drop_upper_strip (hascii : IsAscii code) :
    isNumber ((upper (strip code)).drop 1) = isNumber ((strip code).drop 1) :=
  isNumber_recased (List.forall₂_drop 1 (recased_upper_strip hascii))

/-- A code without a number behind its first character is put in upper case. -/
theorem normalize_of_no_number (hascii : IsAscii code) (hnumber : isNumber ((strip code).drop 1) = false) :
    normalize code = .ok (upper (strip code)) := by
  rw [normalize, normalizeUpper, isNumber_drop_upper_strip hascii, hnumber]
  rfl

/-- Other codes are marks with numbers. -/
theorem exists_hasNumber (hascii : IsAscii code) (hnumber : isNumber ((strip code).drop 1) = true) :
    ∃ mark digits, strip code = mark :: digits ∧ HasNumber mark digits := by
  cases hstrip : strip code with
  | nil =>
    rw [hstrip] at hnumber
    cases hnumber
  | cons mark digits =>
    rw [hstrip, List.drop_one, List.tail_cons, isNumber, Bool.and_eq_true, Bool.not_eq_true', List.isEmpty_eq_false_iff,
      List.all_eq_true] at hnumber
    obtain ⟨hne, hdigits⟩ := hnumber
    obtain ⟨hmark, hrest⟩ := List.forall_mem_cons.1 (hstrip ▸ isAscii_strip hascii)
    refine ⟨mark, digits, rfl, hmark, drop_of_trimmed_eq_cons hstrip, hne, fun d hd => ?_⟩
    have hdigit := hdigits d hd
    rwa [isDigit, if_pos (hrest d hd)] at hdigit

/-- Blanks at the ends of a code do not matter. -/
theorem normalize_strip (code : List Char) : normalize (strip code) = normalize code := by
  rw [normalize, strip, strip, trimmed_trimmed, ← strip, normalize]

/-- Neither blanks around a code nor the case of its letters decide its normal form. -/
theorem normalize_upper_strip (hascii : IsAscii code) : normalize (upper (strip code)) = normalize code := by
  have hcase : Respelled (strip code) (upper (strip code)) := Or.inl (recased_upper_strip hascii)
  rw [hcase.normalize_eq, normalize_strip]

namespace HasNumber

variable {mark : Char} {digits : List Char}

/-- The number that is written anew behind the upper-case mark is a number there. -/
theorem anew (h : HasNumber mark digits) (n : Nat) : HasNumber mark.toUpper (Nat.toDigits 10 n) where
  ascii := of_ascii (p := fun c => c.toUpper.toNat < 128) (by decide) h.ascii
  notBlank := ((sameLetter_toUpper mark).congr fun _ => not_isBlank_of_isAlpha).trans h.notBlank
  nonempty := Nat.toDigits_ne_nil
  decimal := fun _ hd => Decimal.isDigit_of_mem_toDigits hd

/-- What a mark with a number comes to is its own normal form. -/
theorem normalize_form (h : HasNumber mark digits) (hform : normalize (mark :: digits) = .ok form) : normalize form = .ok form := by
  rw [h.normalize_eq] at hform
  split at hform
  · rename_i hfits
    obtain rfl := Except.ok.inj hform
    have hlength := Decimal.length_toDigits_ofDigitChars_le h.nonempty h.decimal
    rw [(h.anew _).normalize_eq, if_pos (hlength.trans hfits), ← sameLetter_toUpper mark, Nat.ofDigitChars_ten_toDigits]
  · cases hform

end HasNumber

/-! ## Matching -/

/-- A normal form is its own normal form. -/
theorem normalize_normalized (hascii : IsAscii code) (h : normalize code = .ok form) : normalize form = .ok form := by
  cases hnumber : isNumber ((strip code).drop 1) with
  | true =>
    obtain ⟨mark, digits, hstrip, hhas⟩ := exists_hasNumber hascii hnumber
    rw [← normalize_strip, hstrip] at h
    exact hhas.normalize_form h
  | false =>
    have hupper := normalize_of_no_number hascii hnumber
    obtain rfl : upper (strip code) = form := Except.ok.inj (hupper.symm.trans h)
    rw [normalize_upper_strip hascii, hupper]

/-- Letters with numbers come to the same when the letters are the same but for case and the numbers are equal, and only then. -/
theorem forms_eq_iff {c c' : Char} {digits digits' : List Char} :
    c.toUpper :: Nat.toDigits 10 (Nat.ofDigitChars 10 digits 0) = c'.toUpper :: Nat.toDigits 10 (Nat.ofDigitChars 10 digits' 0) ↔
      SameLetter c c' ∧ Nat.ofDigitChars 10 digits 0 = Nat.ofDigitChars 10 digits' 0 := by
  rw [List.cons.injEq]
  exact and_congr_right fun _ => ⟨Decimal.toDigits_inj, congrArg _⟩

/-- A code without a number behind its first character does not come to a mark with a number. -/
theorem form_ne_of_no_number {u : Char} (hascii : IsAscii code) (hnumber : isNumber ((strip code).drop 1) = false) (n : Nat) :
    u :: Nat.toDigits 10 n ≠ upper (strip code) := by
  intro heq
  rw [← isNumber_drop_upper_strip hascii, ← heq, List.drop_one, List.tail_cons,
    isNumber_digits Nat.toDigits_ne_nil fun _ hd => Decimal.isDigit_of_mem_toDigits hd] at hnumber
  cases hnumber

/-- Codes match as they should: a normal form is its own normal form; letters with numbers have normal forms, which are the same exactly
when the letters are the same but for case and the numbers are equal; and a code with anything but a number behind its first character has
another normal form than every letter with a number. -/
theorem forms_agree_by_letter_and_number :
    (∀ code form, IsAscii code → normalize code = .ok form → normalize form = .ok form) ∧
    (∀ c digits c' digits', isNumbered (c :: digits) = true → isNumbered (c' :: digits') = true →
      ∃ form form', normalize (c :: digits) = .ok form ∧ normalize (c' :: digits') = .ok form' ∧
        (form = form' ↔ SameLetter c c' ∧ Nat.ofDigitChars 10 digits 0 = Nat.ofDigitChars 10 digits' 0)) ∧
    (∀ code other, isNumbered code = true → IsAscii other → isNumber ((strip other).drop 1) = false →
      ∃ form form', normalize code = .ok form ∧ normalize other = .ok form' ∧ form ≠ form') := by
  refine ⟨?_, ?_, ?_⟩
  · intro code form hascii h
    exact normalize_normalized hascii h
  · intro c digits c' digits' h h'
    exact ⟨_, _, normalize_of_isNumbered h, normalize_of_isNumbered h', forms_eq_iff⟩
  · intro code other h hascii hnumber
    obtain ⟨c, digits, rfl, -⟩ := exists_of_isNumbered h
    exact ⟨_, _, normalize_of_isNumbered h, normalize_of_no_number hascii hnumber, form_ne_of_no_number hascii hnumber _⟩

/-- A blank in front of a code, zeros in front of its number, and a letter behind the number. -/
theorem forms_agree_by_letter_and_number_padded :
    (IsAscii " g007".toList ∧ normalize " g007".toList = .ok "G7".toList ∧ normalize "G7".toList = .ok "G7".toList) ∧
    (isNumbered ('g' :: "007".toList) = true ∧ isNumbered ('G' :: "7".toList) = true ∧
      ∃ form form', normalize ('g' :: "007".toList) = .ok form ∧ normalize ('G' :: "7".toList) = .ok form' ∧
        (form = form' ↔ SameLetter 'g' 'G' ∧ Nat.ofDigitChars 10 "007".toList 0 = Nat.ofDigitChars 10 "7".toList 0)) ∧
    (isNumbered "g007".toList = true ∧ IsAscii "G7X\n".toList ∧ isNumber ((strip "G7X\n".toList).drop 1) = false ∧
      ∃ form form', normalize "g007".toList = .ok form ∧ normalize "G7X\n".toList = .ok form' ∧ form ≠ form') := by
  obtain ⟨hnormal, hnumbered, hother⟩ := forms_agree_by_letter_and_number
  have hascii : IsAscii " g007".toList := by decide
  have hform : normalize " g007".toList = .ok "G7".toList := by rfl
  have hg : isNumbered "g007".toList = true := by decide
  have hG : isNumbered "G7".toList = true := by decide
  have hX : IsAscii "G7X\n".toList := by decide
  have hno : isNumber ((strip "G7X\n".toList).drop 1) = false := by decide
  exact ⟨⟨hascii, hform, hnormal _ _ hascii hform⟩, ⟨hg, hG, hnumbered _ _ _ _ hg hG⟩, hg, hX, hno, hother _ _ hg hX hno⟩

end ToolpathViewer.Code
