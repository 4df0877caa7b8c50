import Mathlib.Data.List.Forall2
import Mathlib.Tactic
import ToolpathViewer.Text.Blank
import ToolpathViewer.Text.Digit
import ToolpathViewer.Text.Letter
import ToolpathViewer.Text.UpperCase

/-!
# Letters in either case

Two texts are the same but for the case of some letters of ASCII (`Recased`). A class of characters that holds all of these letters or
none of them cannot tell such texts apart, and neither can anything that looks at the upper-case forms.
-/

namespace ToolpathViewer.Text

/-! ## Characters -/

/-- The characters are the same but for the case of a letter of ASCII. -/
def SameLetter (c c' : Char) : Prop := c.toUpper = c'.toUpper

instance (c c' : Char) : Decidable (SameLetter c c') := inferInstanceAs (Decidable (c.toUpper = c'.toUpper))

/-- What holds of every code of ASCII holds of every character of ASCII. -/
theorem of_ascii {p : Char → Prop} (h : ∀ n < 128, p (Char.ofNat n)) {c : Char} (hc : c.toNat < 128) : p c := by
  have hcode := h c.toNat hc
  rwa [Char.ofNat_toNat] at hcode

/-- The letters of core are ASCII. -/
theorem toNat_lt_of_isAlpha {c : Char} (h : c.isAlpha = true) : c.toNat < 128 :=
  toNat_lt_of_isAlphanum (by simp [Char.isAlphanum, h])

/-- What holds of every code of a letter of ASCII holds of every letter of ASCII. -/
theorem of_isAlpha {p : Char → Prop} (h : ∀ n < 128, (Char.ofNat n).isAlpha = true → p (Char.ofNat n)) {c : Char}
    (hc : c.isAlpha = true) : p c :=
  of_ascii (p := fun c => c.isAlpha = true → p c) h (toNat_lt_of_isAlpha hc) hc

/-- What is no lower-case letter has no other upper case. -/
theorem toUpper_of_not_isLower {c : Char} (h : c.isLower = false) : c.toUpper = c := by
  have hbounds : ¬('a'.val ≤ c.val ∧ c.val ≤ 'z'.val) := by
    intro hbounds
    have hlower : c.isLower = true := by
      change (decide ('a'.val ≤ c.val) && decide (c.val ≤ 'z'.val)) = true
      rw [decide_eq_true hbounds.1, decide_eq_true hbounds.2]
      rfl
    rw [h] at hlower
    cases hlower
  delta Char.toUpper
  exact dif_neg hbounds

/-- The upper case of a letter is a letter. -/
theorem isAlpha_toUpper {c : Char} (h : c.isAlpha = true) : c.toUpper.isAlpha = true :=
  of_isAlpha (p := fun c => c.toUpper.isAlpha = true) (by decide) h

/-- A lower-case letter is a letter. -/
theorem isAlpha_of_isLower {c : Char} (h : c.isLower = true) : c.isAlpha = true := by
  change (c.isUpper || c.isLower) = true
  rw [h, Bool.or_true]

/-- Characters that differ in nothing but case are the same or both letters. -/
theorem SameLetter.cases {c c' : Char} (h : SameLetter c c') : c' = c ∨ c.isAlpha = true ∧ c'.isAlpha = true := by
  unfold SameLetter at h
  cases hc : c.isLower with
  | true =>
    have halpha := isAlpha_of_isLower hc
    refine Or.inr ⟨halpha, ?_⟩
    cases hc' : c'.isLower with
    | true => exact isAlpha_of_isLower hc'
    | false =>
      have hupper := isAlpha_toUpper halpha
      rwa [h, toUpper_of_not_isLower hc'] at hupper
  | false =>
    rw [toUpper_of_not_isLower hc] at h
    cases hc' : c'.isLower with
    | true =>
      have halpha := isAlpha_of_isLower hc'
      refine Or.inr ⟨?_, halpha⟩
      rw [h]
      exact isAlpha_toUpper halpha
    | false =>
      rw [toUpper_of_not_isLower hc'] at h
      exact Or.inl h.symm

/-- A function that has one value for all letters has one value for the two characters. -/
theorem SameLetter.congr {β : Type} {f : Char → β} {b : β} (hf : ∀ c, c.isAlpha = true → f c = b) {c c' : Char} (h : SameLetter c c') :
    f c' = f c := by
  rcases h.cases with rfl | ⟨hc, hc'⟩
  · rfl
  · rw [hf c hc, hf c' hc']

/-- Only letters can be in another case. -/
theorem SameLetter.eq_of_not_isAlpha {c c' : Char} (h : SameLetter c c') (hc : c.isAlpha = false) : c' = c := by
  rcases h.cases with rfl | ⟨halpha, -⟩
  · rfl
  · rw [hc] at halpha
    cases halpha

/-- Both characters are a mark that is no letter, or neither is. -/
theorem SameLetter.beq_eq {c c' mark : Char} (h : SameLetter c c') (hmark : mark.isAlpha = false) : (c' == mark) = (c == mark) := by
  refine h.congr (f := (· == mark)) (b := false) fun d hd => ?_
  rw [beq_eq_false_iff_ne]
  rintro rfl
  rw [hmark] at hd
  cases hd

/-- A character is in upper case the same but for its case. -/
theorem sameLetter_toUpper (c : Char) : SameLetter c c.toUpper := by
  cases hc : c.isLower with
  | true => exact of_isAlpha (p := fun c => SameLetter c c.toUpper) (by decide) (isAlpha_of_isLower hc)
  | false => rw [toUpper_of_not_isLower hc, SameLetter]

/-- The upper case of an ASCII character is core's. -/
theorem upperChar_of_ascii {c : Char} (h : c.toNat < 128) : upperChar c = [c.toUpper] := by
  rw [upperChar, if_pos h]

/-- The upper case of a letter of core is core's. -/
theorem upperChar_of_isAlpha {c : Char} (h : c.isAlpha = true) : upperChar c = [c.toUpper] :=
  upperChar_of_ascii (toNat_lt_of_isAlpha h)

/-- One letter in either case has one upper case. -/
theorem SameLetter.upperChar_eq {c c' : Char} (h : SameLetter c c') : upperChar c' = upperChar c := by
  rcases h.cases with rfl | ⟨hc, hc'⟩
  · rfl
  · rw [upperChar_of_isAlpha hc, upperChar_of_isAlpha hc', h]

/-- No letter is blank. -/
theorem not_isBlank_of_isAlpha {c : Char} (h : c.isAlpha = true) : isBlank c = false :=
  of_isAlpha (p := fun c => isBlank c = false) (by decide) h

/-- No letter is a digit. -/
theorem not_isDigit_of_isAlpha {c : Char} (h : c.isAlpha = true) : isDigit c = false :=
  of_isAlpha (p := fun c => isDigit c = false) (by decide) h

/-! ## Texts -/

/-- The texts are the same but for the case of letters of ASCII. -/
abbrev Recased (s s' : List Char) : Prop := List.Forall₂ SameLetter s s'

namespace Recased

variable {s s' : List Char}

/-- Texts that differ in case have one upper case. -/
theorem upper_eq (h : Recased s s') : upper s' = upper s := by
  induction h with
  | nil => rfl
  | cons hc _ ih => rw [upper_cons, upper_cons, hc.upperChar_eq, ih]

/-- Texts that differ in case are empty together. -/
theorem isEmpty_eq (h : Recased s s') : s'.isEmpty = s.isEmpty := by
  cases h <;> rfl

/-- A text in other cases than two texts put together is put together from the two in other cases. -/
theorem exists_of_append {t u : List Char} (h : Recased (s ++ t) u) : ∃ s' t', Recased s s' ∧ Recased t t' ∧ u = s' ++ t' := by
  have hfront := List.forall₂_take s.length h
  have hback := List.forall₂_drop s.length h
  rw [List.take_left] at hfront
  rw [List.drop_left] at hback
  exact ⟨_, _, hfront, hback, (List.take_append_drop s.length u).symm⟩

/-- A class that cannot tell the cases of a letter apart takes as much from the start of both. -/
theorem span {drop : Char → Bool} (hdrop : ∀ c c', SameLetter c c' → drop c' = drop c) (h : Recased s s') :
    Recased (s.takeWhile drop) (s'.takeWhile drop) ∧ Recased (s.dropWhile drop) (s'.dropWhile drop) := by
  induction h with
  | nil => exact ⟨.nil, .nil⟩
  | @cons c c' s s' hc hs ih =>
    cases hd : drop c with
    | true =>
      have hd' := (hdrop c c' hc).trans hd
      rw [List.takeWhile_cons_of_pos hd, List.takeWhile_cons_of_pos hd', List.dropWhile_cons_of_pos hd, List.dropWhile_cons_of_pos hd']
      exact ⟨.cons hc ih.1, ih.2⟩
    | false =>
      have hd' := (hdrop c c' hc).trans hd
      rw [List.takeWhile_cons_of_neg (by simp [hd]), List.takeWhile_cons_of_neg (by simp [hd']),
        List.dropWhile_cons_of_neg (by simp [hd]), List.dropWhile_cons_of_neg (by simp [hd'])]
      exact ⟨.nil, .cons hc hs⟩

/-- Blanks are no letters, and stripping them takes the same from both texts. -/
theorem strip (h : Recased s s') : Recased (Text.strip s) (Text.strip s') := by
  have hblank : ∀ c c', SameLetter c c' → isBlank c' = isBlank c := fun c c' hc => hc.congr fun _ => not_isBlank_of_isAlpha
  have hfront := (h.span hblank).2
  have hback := (Recased.span hblank (List.forall₂_reverse_iff.2 hfront)).2
  exact List.forall₂_reverse_iff.2 hback

/-- A mark that is no letter opens both texts or neither. -/
theorem head?_beq_eq {mark : Char} (hmark : mark.isAlpha = false) (h : Recased s s') :
    (s'.head? == some mark) = (s.head? == some mark) := by
  cases h with
  | nil => rfl
  | cons hc _ => exact hc.beq_eq hmark

end Recased

/-- All characters of the text are of ASCII. -/
def IsAscii (s : List Char) : Prop := ∀ c ∈ s, c.toNat < 128

instance (s : List Char) : Decidable (IsAscii s) :=
  decidable_of_iff (s.all (fun c => decide (c.toNat < 128)) = true) (by simp only [List.all_eq_true, decide_eq_true_eq, IsAscii])

/-- A text of ASCII is in upper case the same but for the case of letters. -/
theorem IsAscii.recased_upper {s : List Char} (h : IsAscii s) : Recased s (upper s) := by
  induction s with
  | nil => exact .nil
  | cons c s ih =>
    obtain ⟨hc, hs⟩ := List.forall_mem_cons.1 h
    rw [upper_cons, upperChar_of_ascii hc, List.singleton_append]
    exact .cons (sameLetter_toUpper c) (ih hs)

end ToolpathViewer.Text
