import ToolpathViewer.Code
import ToolpathViewer.Proofs.Decimal.Numerals
import ToolpathViewer.Proofs.Text.LetterCase
import ToolpathViewer.Proofs.Text.Stripped

/-!
# Spellings of a code

A code may be written in letters of either case, and a letter with a number may be written with more or fewer zeros in front of the number
(`Code.Respelled`). All spellings of a code have one normal form, or none of them has one (`Code.Respelled.normalize_eq`).
-/

namespace ToolpathViewer.Code

open Text

/-- The code is a letter with a number behind it, of at least one digit and not too many. -/
def isNumbered : List Char → Bool
  | [] => false
  | c :: digits => c.isAlpha && !digits.isEmpty && digits.all Char.isDigit && decide (digits.length ≤ Decimal.maxDigits)

/-- The codes are letters with numbers: the same letter in either case, and the same digits behind the zeros in front. -/
structure Renumbered (code code' : List Char) : Prop where
  numbered : isNumbered code = true
  numbered' : isNumbered code' = true
  letter : Recased (code.take 1) (code'.take 1)
  digits : (code'.drop 1).dropWhile (· == '0') = (code.drop 1).dropWhile (· == '0')

instance (code code' : List Char) : Decidable (Renumbered code code') :=
  decidable_of_iff
    (isNumbered code = true ∧ isNumbered code' = true ∧ Recased (code.take 1) (code'.take 1) ∧
      (code'.drop 1).dropWhile (· == '0') = (code.drop 1).dropWhile (· == '0'))
    ⟨fun ⟨h, h', hletter, hdigits⟩ => ⟨h, h', hletter, hdigits⟩, fun h => ⟨h.numbered, h.numbered', h.letter, h.digits⟩⟩

/-- The second code is another spelling of the first one. -/
def Respelled (code code' : List Char) : Prop := Recased code code' ∨ Renumbered code code'

instance (code code' : List Char) : Decidable (Respelled code code') := inferInstanceAs (Decidable (_ ∨ _))

/-- A numbered code is a letter with digits behind it, not too many. -/
theorem isNumbered_cons {c : Char} {digits : List Char} :
    isNumbered (c :: digits) = true ↔
      c.isAlpha = true ∧ digits ≠ [] ∧ (∀ d ∈ digits, d.isDigit = true) ∧ digits.length ≤ Decimal.maxDigits := by
  simp [isNumbered, and_assoc]

/-- A numbered code taken apart into its letter and its digits. -/
theorem exists_of_isNumbered {code : List Char} (h : isNumbered code = true) :
    ∃ c digits, code = c :: digits ∧ c.isAlpha = true ∧ digits ≠ [] ∧ (∀ d ∈ digits, d.isDigit = true) ∧
      digits.length ≤ Decimal.maxDigits := by
  cases code with
  | nil => cases h
  | cons c digits => exact ⟨c, digits, rfl, isNumbered_cons.1 h⟩

/-- Digits have no case. -/
theorem upper_digits {digits : List Char} (hdigits : ∀ d ∈ digits, d.isDigit = true) : upper digits = digits := by
  induction digits with
  | nil => rfl
  | cons d digits ih =>
    obtain ⟨hd, hrest⟩ := List.forall_mem_cons.1 hdigits
    have hlt : d.toNat < 128 := by
      have hle := (Decimal.toNat_of_isDigit hd).2
      omega
    have hupper : upperChar d = [d] := of_ascii (p := fun d => d.isDigit = true → upperChar d = [d]) (by decide) hlt hd
    rw [upper_cons, hupper, ih hrest]
    rfl

/-- Digits make a number. -/
theorem isNumber_digits {digits : List Char} (hne : digits ≠ []) (hdigits : ∀ d ∈ digits, d.isDigit = true) :
    isNumber digits = true := by
  have hempty : digits.isEmpty = false := by simpa using hne
  rw [isNumber, hempty, Bool.not_false, Bool.true_and, List.all_eq_true]
  exact fun d hd => isDigit_of_isDigit (hdigits d hd)

/-! ## A number behind a mark -/

/-- A mark of ASCII, which need be no letter, has a number of at least one digit behind it. -/
structure HasNumber (mark : Char) (digits : List Char) : Prop where
  ascii : mark.toNat < 128
  notBlank : isBlank mark = false
  nonempty : digits ≠ []
  decimal : ∀ d ∈ digits, d.isDigit = true

namespace HasNumber

variable {mark : Char} {digits : List Char}

/-- A numbered code has the number that its digits write. -/
theorem of_isNumbered (h : isNumbered (mark :: digits) = true) : HasNumber mark digits := by
  obtain ⟨halpha, hne, hdigits, -⟩ := isNumbered_cons.1 h
  exact ⟨toNat_lt_of_isAlpha halpha, not_isBlank_of_isAlpha halpha, hne, hdigits⟩

/-- There are no blanks to strip. -/
theorem strip_eq (h : HasNumber mark digits) : strip (mark :: digits) = mark :: digits := by
  refine trimmed_eq_self (List.forall_mem_cons.2 ⟨h.notBlank, fun d hd => ?_⟩)
  exact Decimal.not_isBlank_of_isDigit (h.decimal d hd)

/-- The number is written anew behind the mark in upper case, unless it has too many digits. -/
theorem normalize_eq (h : HasNumber mark digits) :
    normalize (mark :: digits) =
      if digits.length ≤ Decimal.maxDigits then .ok (mark.toUpper :: Nat.toDigits 10 (Nat.ofDigitChars 10 digits 0))
      else .error .malformedInteger := by
  rw [normalize, h.strip_eq, upper_cons, upperChar_of_ascii h.ascii, upper_digits h.decimal, List.singleton_append, normalizeUpper,
    List.drop_one, List.tail_cons, if_pos (isNumber_digits h.nonempty h.decimal), Decimal.readNat?_digits h.nonempty h.decimal]
  by_cases hfits : digits.length ≤ Decimal.maxDigits
  · rw [if_pos hfits, if_pos hfits]
    change Except.ok ([mark.toUpper] ++ (Nat.repr _).toList) = _
    rw [Nat.toList_repr, List.singleton_append]
  · rw [if_neg hfits, if_neg hfits]

end HasNumber

/-- The normal form of a letter with a number depends on the upper-case letter and the value of the number only. -/
theorem normalize_of_isNumbered {c : Char} {digits : List Char} (h : isNumbered (c :: digits) = true) :
    normalize (c :: digits) = .ok (c.toUpper :: Nat.toDigits 10 (Nat.ofDigitChars 10 digits 0)) := by
  rw [(HasNumber.of_isNumbered h).normalize_eq, if_pos (isNumbered_cons.1 h).2.2.2]

/-- Zeros in front of a number leave the normal form alone. -/
theorem Renumbered.normalize_eq {code code' : List Char} (h : Renumbered code code') : normalize code' = normalize code := by
  obtain ⟨c, digits, rfl, -⟩ := exists_of_isNumbered h.numbered
  obtain ⟨c', digits', rfl, -⟩ := exists_of_isNumbered h.numbered'
  have hletter : c.toUpper = c'.toUpper := (List.forall₂_cons.1 h.letter).1
  have hvalue := congrArg (fun ds => Nat.ofDigitChars 10 ds 0) h.digits
  simp only [List.drop_one, List.tail_cons, Decimal.ofDigitChars_dropWhile_zero] at hvalue
  rw [normalize_of_isNumbered h.numbered, normalize_of_isNumbered h.numbered', hletter, hvalue]

namespace Respelled

variable {code code' : List Char}

/-- All spellings of a code have one normal form. -/
theorem normalize_eq (h : Respelled code code') : normalize code' = normalize code := by
  rcases h with h | h
  · rw [normalize, normalize, h.strip.upper_eq]
  · exact h.normalize_eq

/-- A code consists of blanks in each of its spellings or in none. -/
theorem isEmpty_strip (h : Respelled code code') : (strip code').isEmpty = (strip code).isEmpty := by
  rcases h with h | h
  · exact h.strip.isEmpty_eq
  · obtain ⟨c, digits, rfl, -⟩ := exists_of_isNumbered h.numbered
    obtain ⟨c', digits', rfl, -⟩ := exists_of_isNumbered h.numbered'
    rw [(HasNumber.of_isNumbered h.numbered).strip_eq, (HasNumber.of_isNumbered h.numbered').strip_eq]
    rfl

end Respelled

/-- Codes in other spellings have the same normal forms together. -/
theorem normalizeAll_respelled {codes codes' : List String}
    (h : List.Forall₂ (fun code code' => Respelled code.toList code'.toList) codes codes') : normalizeAll codes' = normalizeAll codes := by
  unfold normalizeAll
  induction h with
  | nil => rfl
  | @cons code code' codes codes' hcode _ ih =>
    rw [List.filter_cons, List.filter_cons, hcode.isEmpty_strip]
    split
    · rw [List.mapM_cons, List.mapM_cons, hcode.normalize_eq, ih]
    · exact ih

example : Respelled "g01".toList "G0001".toList := by decide
example : Respelled "M00".toList "m0".toList := by decide
example : ¬Respelled "G0X1".toList "G00X1".toList := by decide

end ToolpathViewer.Code
