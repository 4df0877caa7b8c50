import ToolpathViewer.Geometry.Arc
import ToolpathViewer.Proofs.Geometry.Exact

/-!
# The center of an arc of a radius

The center lies on the perpendicular through the middle of the chord, at an offset to the right or to the left of the way from the start
to the end. From the offset alone follow both its distance from the two ends and the side on which it lies.
-/

namespace ToolpathViewer

/-! ## Points beside a chord -/

namespace Vec2

/-- The middle between two points. -/
noncomputable def middle (p q : Vec2 ℝ) : Vec2 ℝ := ⟨(p.a + q.a) / 2, (p.b + q.b) / 2⟩

/-- The distance between two points. -/
noncomputable def distance (p q : Vec2 ℝ) : ℝ := √((q.a - p.a) * (q.a - p.a) + (q.b - p.b) * (q.b - p.b))

/-- Negative when a point lies to the right of the way from one point to another, positive when it lies to the left. -/
def side (p q r : Vec2 ℝ) : ℝ := (q.a - p.a) * (r.b - p.b) - (q.b - p.b) * (r.a - p.a)

/-- The point to the right of the middle of the way from one point to another. A negative offset leads to the left. -/
noncomputable def beside (p q : Vec2 ℝ) (offset : ℝ) : Vec2 ℝ :=
  ⟨(p.a + q.a) / 2 + offset * ((q.b - p.b) / distance p q), (p.b + q.b) / 2 - offset * ((q.a - p.a) / distance p q)⟩

variable {p q : Vec2 ℝ}

/-- The square of a distance, by the theorem of Pythagoras. -/
theorem distance_mul_self (p q : Vec2 ℝ) :
    distance p q * distance p q = (q.a - p.a) * (q.a - p.a) + (q.b - p.b) * (q.b - p.b) :=
  Real.mul_self_sqrt (add_nonneg (mul_self_nonneg _) (mul_self_nonneg _))

/-- Two points are as far from each other in either direction. -/
theorem distance_comm (p q : Vec2 ℝ) : distance p q = distance q p := by
  rw [distance, distance, ← neg_sub q.a, ← neg_sub q.b, neg_mul_neg, neg_mul_neg]

/-- The way between two different points has a direction of length one. -/
theorem exists_direction (h : 0 < distance p q) :
    ∃ u v : ℝ, q.a = p.a + distance p q * u ∧ q.b = p.b + distance p q * v ∧ u * u + v * v = 1 ∧
      ∀ k, beside p q k = ⟨(p.a + q.a) / 2 + k * v, (p.b + q.b) / 2 - k * u⟩ := by
  refine ⟨(q.a - p.a) / distance p q, (q.b - p.b) / distance p q, ?_, ?_, ?_, fun k => rfl⟩
  · rw [mul_div_cancel₀ _ h.ne', add_sub_cancel]
  · rw [mul_div_cancel₀ _ h.ne', add_sub_cancel]
  · rw [div_mul_div_comm, div_mul_div_comm, ← add_div, ← distance_mul_self, div_self (mul_pos h h).ne']

/-- By the theorem of Pythagoras both ends of the way are equally far from a point beside its middle. -/
theorem distance_beside (h : 0 < distance p q) (k : ℝ) :
    distance p (beside p q k) = √(distance p q / 2 * (distance p q / 2) + k * k) ∧
      distance q (beside p q k) = √(distance p q / 2 * (distance p q / 2) + k * k) := by
  obtain ⟨u, v, hu, hv, huv, hbeside⟩ := exists_direction h
  generalize distance p q = l at hu hv ⊢
  rw [hbeside, distance, distance, hu, hv]
  constructor <;>
  · congr 1
    linear_combination (l * l / 4 + k * k) * huv

/-- On which side of a chord the points beside its middle lie. -/
theorem side_beside (h : 0 < distance p q) (k : ℝ) : side p q (beside p q k) = -(k * distance p q) := by
  obtain ⟨u, v, hu, hv, huv, hbeside⟩ := exists_direction h
  generalize distance p q = l at hu hv ⊢
  rw [hbeside, side, hu, hv]
  linear_combination (-(k * l)) * huv

/-- Nowhere beside the middle is the middle. -/
theorem beside_zero (p q : Vec2 ℝ) : beside p q 0 = middle p q := by
  rw [beside, middle, zero_mul, zero_mul, add_zero, sub_zero]

end Vec2

namespace Arc

open Vec2

-- Sums, products and numerals are those of the field, and not those of its scalars.
attribute [local instance] Scalar.exact
attribute [local instance (10)] Scalar.toAdd Scalar.toSub Scalar.toMul Scalar.toDiv Scalar.toNeg Scalar.toOfScientific

/-! ## The offset -/

/-- What counts as half the chord is at most the radius. -/
theorem halfChord?_eq (chord : ℝ) {size : ℝ} (hsize : 0 < size) :
    halfChord? chord size =
      if chord / 2 < 1e-12 ∨ size * (1 + 1e-6) < chord / 2 then none else some (min (chord / 2) size) := by
  have htwo : chord / 2.0 = chord / 2 := by norm_num
  have hexcess : 1e-6 < (chord / 2 - size) / size ↔ size * (1 + 1e-6) < chord / 2 := by
    rw [lt_div_iff₀ hsize, lt_sub_iff_add_lt]
    ring_nf
  change (if Scalar.less (chord / 2.0) 1e-12 then none
    else if Scalar.less size (chord / 2.0) then
      if Scalar.less 1e-6 ((chord / 2.0 - size) / size) then none else some size
    else some (chord / 2.0)) = _
  simp only [htwo, Scalar.less_iff, hexcess]
  by_cases hshort : chord / 2 < 1e-12
  · rw [if_pos hshort, if_pos (.inl hshort)]
  rw [if_neg hshort]
  by_cases hlong : size < chord / 2
  · rw [if_pos hlong, min_eq_right hlong.le]
    simp only [hshort, false_or]
  · have hfits : ¬ size * (1 + 1e-6) < chord / 2 := by
      have hwider : size ≤ size * (1 + 1e-6) := le_mul_of_one_le_right hsize.le (by norm_num)
      exact ((not_lt.1 hlong).trans hwider).not_gt
    rw [if_neg hlong, if_neg (not_or.2 ⟨hshort, hfits⟩), min_eq_left (not_lt.1 hlong)]

/-! ## The place of the center -/

/-- The angle of the way between two points, as the argument of a complex number. -/
noncomputable def heading (p q : Vec2 ℝ) : ℝ := Complex.arg ⟨q.a - p.a, q.b - p.b⟩

variable {p q : Vec2 ℝ}

/-- The distance as the norm of a complex number. -/
theorem norm_eq_distance (p q : Vec2 ℝ) : ‖(⟨q.a - p.a, q.b - p.b⟩ : ℂ)‖ = distance p q := by
  rw [Complex.norm_def, Complex.normSq_mk, distance]

/-- The cosine of the direction from one point to another. -/
theorem cos_heading (h : 0 < distance p q) : Real.cos (heading p q) = (q.a - p.a) / distance p q := by
  rw [← norm_eq_distance] at h ⊢
  exact Complex.cos_arg (norm_pos_iff.1 h)

/-- The sine of the direction from one point to another. -/
theorem sin_heading (p q : Vec2 ℝ) : Real.sin (heading p q) = (q.b - p.b) / distance p q := by
  rw [← norm_eq_distance]
  exact Complex.sin_arg _

/-- Raising a number to zero does not change its root. -/
theorem sqrt_max (x : ℝ) : √(max 0 x) = √x := by
  rcases le_total x 0 with h | h
  · rw [max_eq_left h, Real.sqrt_zero, Real.sqrt_eq_zero_of_nonpos h]
  · rw [max_eq_right h]

/-- The shorter way around clockwise and the longer way around counterclockwise have their center on the right. -/
def CenterRight (turn : Turn) (radius : ℝ) : Prop := turn = .clockwise ↔ 0 < radius

/-- When the center lies to the right of the chord. -/
theorem toRight_iff (turn : Turn) (radius : ℝ) :
    ((turn == .clockwise) == Scalar.less 0.0 radius) = true ↔ CenterRight turn radius := by
  have hzero : Scalar.less 0.0 radius = true ↔ 0 < radius := by
    have h : (0.0 : ℝ) = 0 := by norm_num
    rw [Scalar.less_iff, h]
  rw [beq_iff_eq, Bool.eq_iff_iff, beq_iff_eq, hzero, CenterRight]

/-- How far to the right of the chord the center lies. -/
noncomputable def offset (turn : Turn) (radius half : ℝ) : ℝ :=
  let length := √(|radius| * |radius| - half * half)
  if (turn == .clockwise) == Scalar.less 0.0 radius then length else -length

/-- A quarter of a turn to one side leads from a way to its right, to the other side to its left. -/
theorem beside_eq (h : 0 < distance p q) (toRight : Bool) (length : ℝ) :
    (⟨(p.a + q.a) / 2 + length * Real.cos (if toRight then heading p q - Real.pi / 2 else heading p q + Real.pi / 2),
      (p.b + q.b) / 2 + length * Real.sin (if toRight then heading p q - Real.pi / 2 else heading p q + Real.pi / 2)⟩ : Vec2 ℝ) =
      beside p q (if toRight then length else -length) := by
  rw [beside, ← cos_heading h, ← sin_heading]
  cases toRight with
  | true =>
    rw [if_pos rfl, if_pos rfl, Real.cos_sub_pi_div_two, Real.sin_sub_pi_div_two, mul_neg, ← sub_eq_add_neg]
  | false =>
    rw [if_neg Bool.false_ne_true, if_neg Bool.false_ne_true, Real.cos_add_pi_div_two, Real.sin_add_pi_div_two, mul_neg, neg_mul, neg_mul,
      sub_neg_eq_add]

/-- The lengths of which there is no arc: the radius or the chord counts as none, or the chord is too long for the radius. -/
def Impossible (chord radius : ℝ) : Prop := |radius| < 1e-12 ∨ chord / 2 < 1e-12 ∨ |radius| * (1 + 1e-6) < chord / 2

/-- Where the radius leaves a center, the ends lie apart. -/
theorem distance_pos {chord radius : ℝ} (h : ¬ Impossible chord radius) : 0 < chord := by
  have hchord : 1e-12 ≤ chord / 2 := not_lt.1 (not_or.1 (not_or.1 h).2).1
  linarith

/-- The center lies beside the middle of the chord, wherever there is one. -/
theorem centerOfRadius_cases (turn : Turn) (start stop : Vec2 ℝ) (radius : ℝ) :
    (Impossible (distance start stop) radius ∧ centerOfRadius turn start stop radius = .ok none) ∨
      (¬ Impossible (distance start stop) radius ∧ centerOfRadius turn start stop radius =
        .ok (some (beside start stop (offset turn radius (min (distance start stop / 2) |radius|))))) := by
  have htiny : (0 : ℝ) < 1e-12 := by norm_num
  have hchord : Scalar.hypot (stop.a - start.a) (stop.b - start.b) = distance start stop := rfl
  by_cases hsize : |radius| < 1e-12
  · have hless : Scalar.less |radius| 1e-12 = true := decide_eq_true hsize
    refine .inl ⟨.inl hsize, ?_⟩
    simp only [centerOfRadius, Scalar.magnitude, tiny, hless, if_true]
    rfl
  have hless : Scalar.less |radius| 1e-12 = false := decide_eq_false hsize
  have hhalf := halfChord?_eq (distance start stop) (htiny.trans_le (not_lt.1 hsize))
  by_cases hnone : distance start stop / 2 < 1e-12 ∨ |radius| * (1 + 1e-6) < distance start stop / 2
  · rw [if_pos hnone] at hhalf
    refine .inl ⟨.inr hnone, ?_⟩
    simp only [centerOfRadius, Scalar.magnitude, tiny, hless, hchord, hhalf]
    rfl
  · rw [if_neg hnone] at hhalf
    have hpossible : ¬ Impossible (distance start stop) radius := not_or.2 ⟨hsize, hnone⟩
    have htwo : (2.0 : ℝ) = 2 := by norm_num
    refine .inr ⟨hpossible, ?_⟩
    simp only [centerOfRadius, Scalar.magnitude, tiny, hless, hchord, hhalf, Scalar.square, Scalar.larger_zero, bind, Except.bind,
      pure, Except.pure]
    rw [offset, ← beside_eq (distance_pos hpossible), ← htwo, ← sqrt_max]
    rfl

/-- The offset and half the chord are the legs of a triangle whose third side is the radius. -/
theorem offset_mul_self (turn : Turn) {radius half : ℝ} (h0 : 0 ≤ half) (h : half ≤ |radius|) :
    offset turn radius half * offset turn radius half = |radius| * |radius| - half * half := by
  have hroot := Real.mul_self_sqrt (sub_nonneg.2 (mul_self_le_mul_self h0 h))
  rw [offset]
  split
  · exact hroot
  · rw [neg_mul_neg, hroot]

/-- On which side of the middle the center lies, unless it is the middle. -/
theorem offset_pos_iff (turn : Turn) {radius half : ℝ} (h : offset turn radius half ≠ 0) :
    0 < offset turn radius half ↔ CenterRight turn radius := by
  rw [← toRight_iff]
  rw [offset] at h ⊢
  split at h
  · next hright =>
    rw [if_pos hright]
    exact iff_of_true (lt_of_le_of_ne (Real.sqrt_nonneg _) h.symm) hright
  · next hleft =>
    rw [if_neg hleft]
    exact iff_of_false (neg_nonpos.2 (Real.sqrt_nonneg _)).not_gt hleft

/-- Where there is a center, which lengths it has and on which side of the chord it lies. -/
theorem center_of_radius_placed (turn : Turn) (start stop : Vec2 ℝ) (radius : ℝ) :
    ∃ found, centerOfRadius turn start stop radius = .ok found ∧
      (found = none ↔ |radius| < 1e-12 ∨ distance start stop / 2 < 1e-12 ∨ |radius| * (1 + 1e-6) < distance start stop / 2) ∧
      ∀ c, found = some c →
        distance start c = distance stop c ∧
        (distance start stop / 2 ≤ |radius| → distance start c = |radius|) ∧
        (|radius| < distance start stop / 2 → c = middle start stop) ∧
        (c ≠ middle start stop → side start stop c ≠ 0 ∧ (side start stop c < 0 ↔ (turn = .clockwise ↔ 0 < radius))) := by
  rcases centerOfRadius_cases turn start stop radius with ⟨hnone, hcenter⟩ | ⟨hsome, hcenter⟩
  · exact ⟨none, hcenter, iff_of_true rfl hnone, nofun⟩
  refine ⟨some _, hcenter, iff_of_false nofun hsome, ?_⟩
  rintro c ⟨⟩
  have hchord := distance_pos hsome
  obtain ⟨hstart, hstop⟩ := distance_beside hchord (offset turn radius (min (distance start stop / 2) |radius|))
  have hmiddle : offset turn radius (min (distance start stop / 2) |radius|) = 0 →
      beside start stop (offset turn radius (min (distance start stop / 2) |radius|)) = middle start stop := by
    intro hzero
    rw [hzero, beside_zero]
  have hlegs := offset_mul_self turn (le_min (half_pos hchord).le (abs_nonneg radius)) (min_le_right (distance start stop / 2) _)
  refine ⟨hstart.trans hstop.symm, fun hfits => ?_, fun hlong => ?_, fun hoff => ?_⟩
  · rw [min_eq_left hfits] at hlegs hstart ⊢
    rw [hstart, hlegs, add_sub_cancel, Real.sqrt_mul_self (abs_nonneg radius)]
  · rw [min_eq_right hlong.le, sub_self] at hlegs
    rw [min_eq_right hlong.le] at hmiddle ⊢
    exact hmiddle (mul_self_eq_zero.1 hlegs)
  · have hne : offset turn radius (min (distance start stop / 2) |radius|) ≠ 0 := fun hzero => hoff (hmiddle hzero)
    rw [side_beside hchord, neg_ne_zero, neg_neg_iff_pos, mul_pos_iff_of_pos_right hchord]
    exact ⟨mul_ne_zero hne hchord.ne', offset_pos_iff turn hne⟩

/-- The chord of the example is six units long. -/
theorem distance_triangle : distance ⟨-3, 0⟩ ⟨3, 0⟩ = 6 := by
  rw [distance, Real.sqrt_eq_iff_mul_self_eq (by norm_num) (by norm_num)]
  norm_num

/-- The radius of the example is positive. -/
theorem abs_five : |(5 : ℝ)| = 5 := abs_of_pos (by norm_num)

/-- The center of the shorter arc of radius 5 over a chord of length 6 is to the right of the chord when the turn is clockwise. -/
theorem center_of_radius_placed_triangle :
    ∃ c : Vec2 ℝ, centerOfRadius .clockwise ⟨-3, 0⟩ ⟨3, 0⟩ 5 = .ok (some c) ∧ distance ⟨-3, 0⟩ c = 5 ∧
      side ⟨-3, 0⟩ ⟨3, 0⟩ c < 0 := by
  obtain ⟨found, hcenter, hnone, hsome⟩ := center_of_radius_placed .clockwise ⟨-3, 0⟩ ⟨3, 0⟩ 5
  rw [distance_triangle, abs_five] at hnone hsome
  cases found with
  | none =>
    have himpossible := hnone.1 rfl
    norm_num at himpossible
  | some c =>
    obtain ⟨-, hfits, -, hside⟩ := hsome c rfl
    have hradius : distance ⟨-3, 0⟩ c = 5 := hfits (by norm_num)
    have hoff : c ≠ middle ⟨-3, 0⟩ ⟨3, 0⟩ := by
      rintro rfl
      rw [distance, Real.sqrt_eq_iff_mul_self_eq (by norm_num [middle]) (by norm_num)] at hradius
      norm_num [middle] at hradius
    exact ⟨c, hcenter, hradius, (hside hoff).2.2 (iff_of_true rfl (by norm_num))⟩

end Arc

end ToolpathViewer
