import Mathlib

/-!
# The order of floating point numbers

Floating point numbers are compared by their signs, then their exponents, then their mantissas. The `rank` of a number holds these three in
a linear order, and all comparisons between numbers are those of their ranks. A value that is no number compares with nothing.
-/

namespace ToolpathViewer.FloatScalar

open Float.Model UnpackedFloat

/-- The place of a value among all numbers: by its sign and kind, then its exponent, then its mantissa. -/
def place : UnpackedFloat → ℤ ×ₗ ℤ ×ₗ ℤ
  | .infinity .negative => toLex (-2, toLex (0, 0))
  | .finite .negative m e _ => toLex (-1, toLex (-e, -m))
  | .zero _ => toLex (0, toLex (0, 0))
  | .finite .positive m e _ => toLex (1, toLex (e, m))
  | .infinity .positive => toLex (2, toLex (0, 0))
  | .notANumber => toLex (3, toLex (0, 0))

/-- Comparing three numbers in turn. -/
theorem compare_toLex (k k' e e' m m' : ℤ) :
    compare (toLex (k, toLex (e, m))) (toLex (k', toLex (e', m'))) =
      (compare k k').then ((compare e e').then (compare m m')) := by
  simp only [Prod.Lex.compare_def, compareLex, compareOn, ofLex_toLex]

/-- Negation turns a comparison around. -/
theorem compare_neg_neg (a b : ℤ) : compare (-a) (-b) = (compare a b).swap := by
  rw [Int.compare_swap, Int.compare_eq_ite_lt, Int.compare_eq_ite_lt]
  simp only [neg_lt_neg_iff]

/-- Natural numbers compare alike as integers. -/
theorem compare_natCast (m n : ℕ) : compare (m : ℤ) n = compare m n := by
  simp only [Int.compare_eq_ite_lt, Nat.compare_eq_ite_lt, Nat.cast_lt]

/-- Numbers compare as their places do. -/
theorem compare_eq_some {a b : UnpackedFloat} (ha : a.isNaN = false) (hb : b.isNaN = false) :
    a.compare b = some (compare (place a) (place b)) := by
  cases a with
  | notANumber => cases ha
  | infinity s =>
    cases b with
    | notANumber => cases hb
    | infinity t | finite t _ _ _ => cases s <;> cases t <;> (simp only [place, compare_toLex]; rfl)
    | zero _ => cases s <;> (simp only [place, compare_toLex]; rfl)
  | zero s =>
    cases b with
    | notANumber => cases hb
    | infinity t | finite t _ _ _ => cases t <;> (simp only [place, compare_toLex]; rfl)
    | zero _ => simp only [place, compare_toLex]; rfl
  | finite s m e hm =>
    cases b with
    | notANumber => cases hb
    | infinity t => cases s <;> cases t <;> (simp only [place, compare_toLex]; rfl)
    | zero _ => cases s <;> (simp only [place, compare_toLex]; rfl)
    | finite t n f hn =>
      -- Of two negative numbers the one with the greater exponent, or else mantissa, is less.
      cases s <;> cases t <;>
        simp only [place, compare_toLex, compare_neg_neg, compare_natCast, UnpackedFloat.compare, Ordering.swap_then] <;> rfl

/-- The place of a floating point number among all numbers. -/
def rank (x : Float) : ℤ ×ₗ ℤ ×ₗ ℤ := place x.toModel.unpack

variable {x y : Float}

/-- The order of two numbers is that of their unpacked forms. -/
theorem lt_iff : x < y ↔ x.toModel.unpack.lt y.toModel.unpack = true := decide_eq_true_iff

/-- The weak order of two numbers is that of their unpacked forms. -/
theorem le_iff : x ≤ y ↔ x.toModel.unpack.le y.toModel.unpack = true := decide_eq_true_iff

/-- The equality of two numbers is that of their unpacked forms. -/
theorem beq_eq : (x == y) = x.toModel.unpack.beq y.toModel.unpack := rfl

/-- Numbers are in the order of their ranks. -/
theorem lt_iff_rank (hx : x.isNaN = false) (hy : y.isNaN = false) : x < y ↔ rank x < rank y := by
  rw [lt_iff, UnpackedFloat.lt, compare_eq_some hx hy, beq_iff_eq, Option.some.injEq, compare_lt_iff_lt, rank, rank]

/-- Numbers are in the weak order of their ranks. -/
theorem le_iff_rank (hx : x.isNaN = false) (hy : y.isNaN = false) : x ≤ y ↔ rank x ≤ rank y := by
  rw [le_iff, UnpackedFloat.le, compare_eq_some hx hy, Option.any_some, Ordering.isLE_iff_ne_gt, compare_gt_iff_gt, not_lt, rank,
    rank]

/-- Numbers are equal just when their ranks are. -/
theorem beq_iff_rank (hx : x.isNaN = false) (hy : y.isNaN = false) : (x == y) = true ↔ rank x = rank y := by
  rw [beq_eq, UnpackedFloat.beq, compare_eq_some hx hy, beq_iff_eq, Option.some.injEq, compare_eq_iff_eq, rank, rank]

/-- What is no number is not less than anything. -/
theorem not_lt_of_isNaN (hx : x.isNaN = true) (y : Float) : ¬x < y := by
  have hunpack : x.toModel.unpack.isNaN = true := hx
  rw [lt_iff]
  cases h : x.toModel.unpack with
  | notANumber => simp [UnpackedFloat.lt, UnpackedFloat.compare]
  | infinity _ | zero _ | finite _ _ _ _ =>
    rw [h] at hunpack
    cases hunpack

/-- A finite value is a number. -/
theorem isNaN_of_isFinite (hx : x.isFinite = true) : x.isNaN = false := by
  have hunpack : x.toModel.unpack.isFinite = true := hx
  change x.toModel.unpack.isNaN = false
  cases h : x.toModel.unpack with
  | zero _ | finite _ _ _ _ => rfl
  | notANumber | infinity _ =>
    rw [h] at hunpack
    cases hunpack

/-- A finite number is less than infinity. -/
theorem lt_infinity (hx : x.isFinite = true) : x < 1.0 / 0.0 := by
  have hunpack : x.toModel.unpack.isFinite = true := hx
  have hinfinity : (1.0 / 0.0 : Float).toModel.unpack = .infinity .positive := rfl
  rw [lt_iff, hinfinity]
  cases h : x.toModel.unpack with
  | zero _ | finite _ _ _ _ => rfl
  | notANumber | infinity _ =>
    rw [h] at hunpack
    cases hunpack

end ToolpathViewer.FloatScalar
