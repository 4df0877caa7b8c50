import Mathlib

/-!
# Heights that stay

The points of an arc rise from one height to another in proportion. Between two equal heights nothing should rise: `level_beq` says that
the arithmetic of floating point numbers keeps this, because a finite number less itself is zero, and what is added to zero is packed into
the word that it was unpacked from.
-/

namespace ToolpathViewer.FloatScalar

open Float.Model UnpackedFloat

/-- What is unpacked and packed again is the same. -/
theorem pack_unpack (x : Float.Model) : Float.Model.pack x.unpack = x := by
  rw [Float.Model.pack, Float.Model.mk.injEq]
  exact congrArg UInt64.ofBitVec (UnpackedFloat.pack_unpack_of_valid x.valid)

/-- The difference of a finite number and itself is the positive zero. -/
theorem model_sub_self {x : Float.Model} (h : x.isFinite = true) : x.sub x = Float.Model.pack (.zero .positive) := by
  rw [Float.Model.isFinite] at h
  rw [Float.Model.sub]
  cases hx : x.unpack with
  | notANumber | infinity s =>
    rw [hx] at h
    cases h
  | zero s => cases s <;> rfl
  | finite s m e hm =>
    simp only [UnpackedFloat.sub, Int.sub_self, UnpackedFloat.normalize]
    rfl

/-- Zero added to a finite number gives a number that is equal to it. -/
theorem model_add_zero_beq {x : Float.Model} (h : x.isFinite = true) :
    (x.add (Float.Model.pack (.zero .positive))).beq x = true := by
  have hpacked := pack_unpack x
  rw [Float.Model.isFinite] at h
  have hzero : (Float.Model.pack (.zero .positive)).unpack = .zero .positive := rfl
  rw [Float.Model.add, hzero]
  cases hx : x.unpack with
  | notANumber | infinity s =>
    rw [hx] at h
    cases h
  | zero s =>
    rw [Float.Model.beq, hx]
    cases s <;> rfl
  | finite s m e hm =>
    have hsum : UnpackedFloat.add .binary64 (.finite s m e hm) (.zero .positive) = .finite s m e hm := rfl
    rw [hx] at hpacked
    rw [hsum, hpacked, Float.Model.beq, hx]
    cases s <;> simp [UnpackedFloat.beq, UnpackedFloat.compare]

/-- A way in proportion between two equal heights ends at that height. -/
theorem level_beq {x : Float} (h : x.isFinite = true) : (x + (x - x) * 1.0 == x) = true := by
  have hscaled : Float.ofModel (Float.Model.pack (.zero .positive)) * 1.0 = Float.ofModel (Float.Model.pack (.zero .positive)) := rfl
  cases x with
  | ofModel x =>
    have hsub : Float.ofModel x - Float.ofModel x = Float.ofModel (Float.Model.pack (.zero .positive)) :=
      congrArg Float.ofModel (model_sub_self h)
    rw [hsub, hscaled]
    exact model_add_zero_beq h

end ToolpathViewer.FloatScalar
