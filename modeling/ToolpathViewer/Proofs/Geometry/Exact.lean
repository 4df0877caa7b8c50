import Mathlib
import ToolpathViewer.Geometry.Vector

/-!
# Scalars without rounding

The geometry of arcs and rays is written over any scalars. Those of an ordered field with the functions of `Elementary` compute exactly:
nothing is rounded, refused or infinite. The real numbers have these functions.
-/

namespace ToolpathViewer

/-- The functions that geometry needs besides the operations of an ordered field. A field may lack roots, but where a number has one
`sqrt` gives it. -/
class Elementary (K : Type) [Field K] [LinearOrder K] where
  sqrt : K → K
  sqrt_mul_self : ∀ x, 0 ≤ x → sqrt (x * x) = x
  atan2 : K → K → K
  cos : K → K
  sin : K → K
  pi : K
  ceiling : K → Int

/-- The scalars of an ordered field. For infinity stands a number that is no magnitude. -/
@[reducible] def Scalar.exact (K : Type) [Field K] [LinearOrder K] [Elementary K] : Scalar K where
  less a b := decide (a < b)
  equal a b := decide (a = b)
  magnitude a := |a|
  sqrt := Elementary.sqrt
  hypot a b := Elementary.sqrt (a * a + b * b)
  atan2 := Elementary.atan2
  cos := Elementary.cos
  sin := Elementary.sin
  pi := Elementary.pi
  square a := .ok (a * a)
  ceiling a := .ok (Elementary.ceiling a)
  ofInt n := .ok n
  ratio a b := a / b
  infinity := -1

/-- The functions of real numbers. The angle of a vector is the argument of a complex number. -/
noncomputable instance : Elementary ℝ where
  sqrt := Real.sqrt
  sqrt_mul_self _ := Real.sqrt_mul_self
  atan2 b a := Complex.arg ⟨a, b⟩
  cos := Real.cos
  sin := Real.sin
  pi := Real.pi
  ceiling := Int.ceil

namespace Scalar

-- Sums, products and numerals are those of the field, and not those of its scalars.
attribute [local instance] Scalar.exact
attribute [local instance (10)] Scalar.toAdd Scalar.toSub Scalar.toMul Scalar.toDiv Scalar.toNeg Scalar.toOfScientific

variable {K : Type} [Field K] [LinearOrder K] [Elementary K] (a b : K)

/-- The comparison that the program makes is the order of the field. -/
theorem less_iff : less a b = true ↔ a < b := decide_eq_true_iff

/-- The equality that the program tests is that of the field. -/
theorem equal_iff : equal a b = true ↔ a = b := decide_eq_true_iff

/-- The other comparison that the program makes, in the order of the field. -/
theorem atMost_iff : atMost a b = true ↔ a ≤ b := by
  rw [atMost, Bool.or_eq_true, less_iff, equal_iff, le_iff_lt_or_eq]

/-- The larger of two numbers is their maximum. -/
theorem larger_eq_max : larger a b = max a b := by
  simp only [larger, less_iff, max_def_lt]

/-- The smaller of two numbers is their minimum. -/
theorem smaller_eq_min : smaller a b = min a b := by
  simp only [smaller, less_iff, min_comm a b, min_def_lt]

/-- What is raised to zero is the maximum with zero. -/
theorem larger_zero [IsStrictOrderedRing K] : larger 0.0 a = max 0 a := by
  rw [larger_eq_max]
  norm_num

/-- What is clamped lies between zero and one. -/
theorem clampUnit_eq [IsStrictOrderedRing K] : clampUnit a = min 1 (max 0 a) := by
  rw [clampUnit, larger_zero, smaller_eq_min]
  norm_num

end Scalar

end ToolpathViewer
