import Mathlib.Tactic
import ToolpathViewer.Decimal.Numeral
import ToolpathViewer.Proofs.Text.LetterCase
import ToolpathViewer.Proofs.Text.Stripped

/-!
# Reading back what was written

An integer is written with its decimal digits, behind a minus sign if it is negative. A reader gets the same integer back as long
as the digits are not too many. Other digits are read too, if they have a decimal value.
-/

namespace ToolpathViewer.Decimal

/-- A smaller number has no more digits. -/
theorem Fits.of_le {m n : Nat} (h : Fits n) (hle : m ≤ n) : Fits m := by
  have hpos : 0 < maxDigits := by decide
  have hlt := (Nat.length_toDigits_le_iff (by decide) hpos).1 h
  exact (Nat.length_toDigits_le_iff (by decide) hpos).2 (lt_of_le_of_lt hle hlt)

/-- The written form of an integer: its sign and the digits of its absolute value. -/
theorem toList_toString_int (n : Int) :
    (toString n).toList = (if n < 0 then ['-'] else []) ++ Nat.toDigits 10 n.natAbs := by
  change n.repr.toList = _
  rw [Int.repr_eq_if]
  by_cases h : 0 ≤ n
  · rw [if_pos h, if_neg (by omega), List.nil_append, Nat.toList_repr]
    congr 1
    omega
  · rw [if_neg h, if_pos (by omega), String.toList_append, Nat.toList_repr]
    congr 2
    omega

/-- A written number is made of digits. -/
theorem isDigit_of_mem_toDigits {n : Nat} {c : Char} (h : c ∈ Nat.toDigits 10 n) : c.isDigit = true :=
  Nat.isDigit_of_mem_toDigits (by decide) (by decide) h

/-- The values of digits denote the number that the digits are written for. -/
theorem ofDigitValues_map (ds : List Char) : ofDigitValues 0 (ds.map fun c => c.toNat - '0'.toNat) = Nat.ofDigitChars 10 ds 0 := by
  rw [ofDigitValues, List.foldl_map, Nat.ofDigitChars_eq_foldl]
  simp only [Nat.mul_comm]

/-- The digits of a number denote it. -/
theorem ofDigitValues_toDigits (n : Nat) :
    ofDigitValues 0 ((Nat.toDigits 10 n).map fun c => c.toNat - '0'.toNat) = n := by
  rw [ofDigitValues_map, Nat.ofDigitChars_ten_toDigits]

/-- Different numbers are written differently. -/
theorem toDigits_inj {m n : Nat} (h : Nat.toDigits 10 m = Nat.toDigits 10 n) : m = n := by
  rw [← Nat.ofDigitChars_ten_toDigits (n := m), h, Nat.ofDigitChars_ten_toDigits]

/-! ## Integers with signs -/

/-- The code points of the digits. -/
theorem toNat_of_isDigit {c : Char} (h : c.isDigit = true) : 48 ≤ c.toNat ∧ c.toNat ≤ 57 := by
  simp only [Char.isDigit, Bool.and_eq_true, decide_eq_true_eq, ge_iff_le, UInt32.le_iff_toNat_le] at h
  exact h

/-- The value of a digit is how far it stands behind the zero. -/
theorem decimalValue?_of_isDigit {c : Char} (h : c.isDigit = true) : Text.decimalValue? c = some (c.toNat - '0'.toNat) := by
  have hlt := (toNat_of_isDigit h).2
  rw [Text.decimalValue?, if_pos (by omega), if_pos h]

/-- No digit is blank. -/
theorem not_isBlank_of_isDigit {c : Char} (h : c.isDigit = true) : Text.isBlank c = false := by
  obtain ⟨hlow, hhigh⟩ := toNat_of_isDigit h
  simp only [Text.isBlank, Text.blankRanges, Text.inRanges]
  rw [if_neg (by omega), if_neg (by omega), if_neg (by omega), if_neg (by omega), if_pos (by omega)]

/-- No digit is white space. -/
theorem not_isSpace_of_isDigit {c : Char} (h : c.isDigit = true) : Text.isSpace c = false := by
  rw [Text.isSpace, not_isBlank_of_isDigit h, Bool.false_and]

/-- A text that starts with neither sign has no sign. -/
theorem splitSign_of_ne {c : Char} (hminus : c ≠ '-') (hplus : c ≠ '+') (s : List Char) : splitSign (c :: s) = (false, c :: s) := by
  unfold splitSign
  split
  · rename_i heq
    exact absurd (List.cons.inj heq).1 hminus
  · rename_i heq
    exact absurd (List.cons.inj heq).1 hplus
  · rfl

/-- Digits without underscores are read one by one. -/
theorem groupedValues?_digits {ds : List Char} (hne : ds ≠ []) (h : ∀ c ∈ ds, c.isDigit = true) :
    groupedValues? ds = some (ds.map fun c => c.toNat - '0'.toNat) := by
  induction ds with
  | nil => exact absurd rfl hne
  | cons c ds ih =>
    have hc := decimalValue?_of_isDigit (h c List.mem_cons_self)
    cases ds with
    | nil => simp [groupedValues?, hc]
    | cons d ds =>
      have hd : d ≠ '_' := by
        rintro rfl
        exact absurd (h '_' (by simp)) (by decide)
      have hrest := ih (List.cons_ne_nil d ds) fun x hx => h x (List.mem_cons_of_mem c hx)
      rw [groupedValues?]
      · rw [hrest, hc]
        rfl
      · simp
      · intro rest heq
        exact hd (List.cons.inj heq).1

/-- A written number is read back, unless it has too many digits. -/
theorem natOfValues?_toDigits (n : Nat) :
    natOfValues? ((Nat.toDigits 10 n).map fun c => c.toNat - '0'.toNat) =
      if (Nat.toDigits 10 n).length ≤ maxDigits then some n else none := by
  rw [natOfValues?, List.length_map, ofDigitValues_toDigits]

/-- An integer is read back from its written form unless it has too many digits; then nothing is. -/
theorem readInt?_toString (n : Int) : readInt? (toString n).toList = if Fits n then some n else none := by
  have hdigits : ∀ c ∈ Nat.toDigits 10 n.natAbs, c.isDigit = true := fun c hc => isDigit_of_mem_toDigits hc
  have hspace : ∀ c ∈ (toString n).toList, Text.isSpace c = false := by
    intro c hc
    rw [toList_toString_int, List.mem_append] at hc
    rcases hc with hc | hc
    · split at hc
      · obtain rfl := List.mem_singleton.1 hc
        decide
      · cases hc
    · exact not_isSpace_of_isDigit (hdigits c hc)
  have hvalue : natOfValues? ((Nat.toDigits 10 n.natAbs).map fun c => c.toNat - '0'.toNat) =
      if Fits n then some n.natAbs else none := natOfValues?_toDigits n.natAbs
  have hgrouped := groupedValues?_digits Nat.toDigits_ne_nil hdigits
  rw [readInt?, Text.trimmed_eq_self hspace, toList_toString_int]
  by_cases hn : n < 0
  · rw [if_pos hn]
    simp only [List.cons_append, List.nil_append, splitSign, hgrouped, Option.bind_eq_bind, Option.bind_some, hvalue]
    by_cases h : Fits n
    · simp only [if_pos h, if_true, Option.bind_some, Option.pure_def, Option.some.injEq]
      omega
    · simp only [if_neg h, Option.bind_none]
  · rw [if_neg hn, List.nil_append]
    have hsign : splitSign (Nat.toDigits 10 n.natAbs) = (false, Nat.toDigits 10 n.natAbs) := by
      cases hds : Nat.toDigits 10 n.natAbs with
      | nil => rfl
      | cons c ds =>
        have hc := hdigits c (by rw [hds]; exact List.mem_cons_self)
        refine splitSign_of_ne ?_ ?_ ds
        all_goals
          rintro rfl
          exact absurd hc (by decide)
    simp only [hsign, hgrouped, Option.bind_eq_bind, Option.bind_some, hvalue]
    by_cases h : Fits n
    · simp only [if_pos h, Bool.false_eq_true, if_false, Option.bind_some, Option.pure_def, Option.some.injEq]
      omega
    · simp only [if_neg h, Option.bind_none]

/-! ## Digits that have a value -/

/-- Digits are read from the front. -/
theorem digitValues?_cons (c : Char) (s : List Char) :
    digitValues? (c :: s) = (Text.decimalValue? c).bind fun n => (digitValues? s).map (n :: ·) := by
  rw [digitValues?, List.mapM_cons]
  cases Text.decimalValue? c with
  | none => rfl
  | some n => cases hs : s.mapM Text.decimalValue? <;> simp [digitValues?, hs]

/-- The digits of ASCII have their values. -/
theorem digitValues?_digits {ds : List Char} (h : ∀ c ∈ ds, c.isDigit = true) :
    digitValues? ds = some (ds.map fun c => c.toNat - '0'.toNat) := by
  induction ds with
  | nil => rfl
  | cons c ds ih =>
    obtain ⟨hc, hds⟩ := List.forall_mem_cons.1 h
    rw [digitValues?_cons, decimalValue?_of_isDigit hc, ih hds]
    rfl

/-- Digits of ASCII are read as the number that they denote, unless they are too many; then nothing is. -/
theorem readNat?_digits {ds : List Char} (hne : ds ≠ []) (h : ∀ c ∈ ds, c.isDigit = true) :
    readNat? ds = if ds.length ≤ maxDigits then some (Nat.ofDigitChars 10 ds 0) else none := by
  have hempty : ds.isEmpty = false := by simpa using hne
  rw [readNat?, hempty, digitValues?_digits h]
  change natOfValues? _ = _
  rw [natOfValues?, List.length_map, ofDigitValues_map]

/-- Zeros in front of a number do not count. -/
theorem ofDigitChars_dropWhile_zero (ds : List Char) :
    Nat.ofDigitChars 10 (ds.dropWhile (· == '0')) 0 = Nat.ofDigitChars 10 ds 0 := by
  induction ds with
  | nil => rfl
  | cons c ds ih =>
    by_cases hc : c = '0'
    · subst hc
      exact ih
    · rw [List.dropWhile_cons_of_neg (by simpa using hc)]

/-- The number that digits are written for is below the first one with more digits. -/
theorem ofDigitChars_lt {ds : List Char} (h : ∀ c ∈ ds, c.isDigit = true) : Nat.ofDigitChars 10 ds 0 < 10 ^ ds.length := by
  induction ds with
  | nil => decide
  | cons c ds ih =>
    obtain ⟨hc, hds⟩ := List.forall_mem_cons.1 h
    have hvalue : 10 * 0 + (c.toNat - '0'.toNat) + 1 ≤ 10 := by
      have hhigh := (toNat_of_isDigit hc).2
      have hzero : '0'.toNat = 48 := rfl
      omega
    rw [Nat.ofDigitChars_cons, Nat.ofDigitChars_eq_ofDigitChars_zero, List.length_cons, Nat.pow_succ]
    calc 10 ^ ds.length * (10 * 0 + (c.toNat - '0'.toNat)) + Nat.ofDigitChars 10 ds 0
        < 10 ^ ds.length * (10 * 0 + (c.toNat - '0'.toNat)) + 10 ^ ds.length := Nat.add_lt_add_left (ih hds) _
      _ = 10 ^ ds.length * (10 * 0 + (c.toNat - '0'.toNat) + 1) := (Nat.mul_succ _ _).symm
      _ ≤ 10 ^ ds.length * 10 := Nat.mul_le_mul_left _ hvalue

/-- A number has no more digits than it is written in. -/
theorem length_toDigits_ofDigitChars_le {ds : List Char} (hne : ds ≠ []) (h : ∀ c ∈ ds, c.isDigit = true) :
    (Nat.toDigits 10 (Nat.ofDigitChars 10 ds 0)).length ≤ ds.length :=
  (Nat.length_toDigits_le_iff (by decide) (List.length_pos_iff.2 hne)).2 (ofDigitChars_lt h)

/-- Digits have values together when each of them has one. -/
theorem isSome_digitValues? (s : List Char) :
    (digitValues? s).isSome = true ↔ ∀ c ∈ s, (Text.decimalValue? c).isSome = true := by
  induction s with
  | nil => simp [digitValues?]
  | cons c s ih =>
    rw [digitValues?_cons, List.forall_mem_cons, ← ih]
    cases Text.decimalValue? c <;> simp

/-- There are as many values as digits. -/
theorem length_of_digitValues? {s : List Char} {values : List Nat} (h : digitValues? s = some values) :
    values.length = s.length := by
  induction s generalizing values with
  | nil =>
    obtain rfl := Option.some.inj h
    rfl
  | cons c s ih =>
    rw [digitValues?_cons] at h
    obtain ⟨n, -, h⟩ := Option.bind_eq_some_iff.1 h
    obtain ⟨rest, hrest, rfl⟩ := Option.map_eq_some_iff.1 h
    rw [List.length_cons, List.length_cons, ih hrest]

/-- Digits are read as a number when each of them has a value and they are not too many. -/
theorem isSome_readNat? {s : List Char} (hne : s ≠ []) :
    (readNat? s).isSome = true ↔ (∀ c ∈ s, (Text.decimalValue? c).isSome = true) ∧ s.length ≤ maxDigits := by
  have hempty : s.isEmpty = false := by simpa using hne
  rw [← isSome_digitValues?, readNat?, hempty]
  cases hs : digitValues? s with
  | none => simp
  | some values =>
    have hlength := length_of_digitValues? hs
    by_cases hfits : values.length ≤ maxDigits <;> simp [natOfValues?, hlength ▸ hfits, hlength]

/-! ## Letters in either case -/

/-- A letter has no value. -/
theorem decimalValue?_of_isAlpha {c : Char} (h : c.isAlpha = true) : Text.decimalValue? c = none :=
  Text.of_isAlpha (p := fun c => Text.decimalValue? c = none) (by decide) h

variable {s s' : List Char}

/-- Reading digits does not depend on case. -/
theorem digitValues?_recased (h : Text.Recased s s') : digitValues? s' = digitValues? s := by
  induction h with
  | nil => rfl
  | cons hc _ ih => rw [digitValues?_cons, digitValues?_cons, ih, hc.congr fun _ => decimalValue?_of_isAlpha]

/-- A letter is no sign. -/
theorem splitSign_of_isAlpha {c : Char} (h : c.isAlpha = true) (s : List Char) : splitSign (c :: s) = (false, c :: s) := by
  refine splitSign_of_ne ?_ ?_ s
  all_goals
    rintro rfl
    exact absurd h (by decide)

/-- A sign is found in either case, with the same rest but for case. -/
theorem splitSign_recased (h : Text.Recased s s') :
    (splitSign s').1 = (splitSign s).1 ∧ Text.Recased (splitSign s).2 (splitSign s').2 := by
  cases h with
  | nil => exact ⟨rfl, .nil⟩
  | @cons c c' s s' hc hs =>
    rcases hc.cases with rfl | ⟨halpha, halpha'⟩
    · by_cases hminus : c' = '-'
      · subst hminus
        exact ⟨rfl, hs⟩
      · by_cases hplus : c' = '+'
        · subst hplus
          exact ⟨rfl, hs⟩
        · rw [splitSign_of_ne hminus hplus, splitSign_of_ne hminus hplus]
          exact ⟨rfl, .cons hc hs⟩
    · rw [splitSign_of_isAlpha halpha, splitSign_of_isAlpha halpha']
      exact ⟨rfl, .cons hc hs⟩

/-- Reading a fraction does not depend on case. -/
theorem readFraction?_recased (negative : Bool) (h : Text.Recased s s') : readFraction? negative s' = readFraction? negative s := by
  have hpoint : ∀ c c', Text.SameLetter c c' → (c' != '.') = (c != '.') := by
    intro c c' hc
    rw [bne, bne, hc.beq_eq (by decide)]
  obtain ⟨hwhole, hrest⟩ := h.span hpoint
  have hplaces : Text.Recased ((s.dropWhile (· != '.')).drop 1) ((s'.dropWhile (· != '.')).drop 1) := List.forall₂_drop 1 hrest
  simp only [readFraction?, hwhole.isEmpty_eq, hplaces.isEmpty_eq, digitValues?_recased hwhole, digitValues?_recased hplaces,
    hplaces.length_eq]

/-- The case of letters does not decide what a numeral is read as: no digit is a letter. -/
theorem readDecimal?_recased (h : Text.Recased s s') : readDecimal? s' = readDecimal? s := by
  obtain ⟨hsign, hrest⟩ := splitSign_recased h
  simp only [readDecimal?, hsign, readFraction?_recased _ hrest]

end ToolpathViewer.Decimal
