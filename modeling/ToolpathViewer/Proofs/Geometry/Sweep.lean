import ToolpathViewer.Proofs.Geometry.Center

/-!
# The sweep of an arc

Over the real numbers a sweep is an amount of turning, above zero and up to a whole turn, taken clockwise or counterclockwise. Its sine
says whether the end lies to the left or to the right as seen from the center, and so whether it is more or less than half a turn. For
the center of a radius that is the side of the chord on which the center lies.
-/

namespace ToolpathViewer.Arc

open Vec2

/-! ## Amounts of turning -/

/-- An angle less than a whole turn either way, as an amount of turning ahead. -/
noncomputable def around (x : ℝ) : ℝ := if x ≤ 0 then x + (Real.pi + Real.pi) else x

variable {x : ℝ}

/-- An angle brought around is positive. -/
theorem around_pos (h : -(2 * Real.pi) < x) : 0 < around x := by
  rw [around]
  split <;> linarith

/-- An angle brought around is at most a whole turn. -/
theorem around_le (h : x < 2 * Real.pi) : around x ≤ 2 * Real.pi := by
  rw [around]
  split <;> linarith

/-- An angle brought around is less than a whole turn, unless it was zero. -/
theorem around_lt (h : x < 2 * Real.pi) (hne : x ≠ 0) : around x < 2 * Real.pi := by
  rw [around]
  split
  · next hle => linarith [lt_of_le_of_ne hle hne]
  · exact h

/-- Bringing an angle around keeps its sine. -/
theorem sin_around (x : ℝ) : Real.sin (around x) = Real.sin x := by
  rw [around]
  split
  · rw [← two_mul, Real.sin_add_two_pi]
  · rfl

/-- An angle within a turn whose sine is not negative is at most half a turn. -/
theorem le_pi_of_sin_nonneg (h : x < 2 * Real.pi) (hsin : 0 ≤ Real.sin x) : x ≤ Real.pi := by
  by_contra hx
  have hneg := Real.sin_pos_of_pos_of_lt_pi (x := x - Real.pi) (by linarith) (by linarith)
  rw [Real.sin_sub_pi] at hneg
  linarith

/-- A positive angle whose sine is not positive is at least half a turn. -/
theorem pi_le_of_sin_nonpos (h : 0 < x) (hsin : Real.sin x ≤ 0) : Real.pi ≤ x := by
  by_contra hx
  exact absurd (Real.sin_pos_of_pos_of_lt_pi h (not_le.1 hx)) hsin.not_gt

/-! ## Angles at the center -/

variable {c p q : Vec2 ℝ}

/-- Two directions are less than a whole turn apart. -/
theorem heading_sub_lt (c p q : Vec2 ℝ) : heading c q - heading c p < 2 * Real.pi := by
  have hq : heading c q ≤ Real.pi := Complex.arg_le_pi _
  have hp : -Real.pi < heading c p := Complex.neg_pi_lt_arg _
  linarith

/-- The sine of the angle between two points, by the side of the chord on which the center lies. -/
theorem sin_heading_sub (hp : 0 < distance c p) (hq : 0 < distance c q) :
    Real.sin (heading c q - heading c p) = side p q c / (distance c p * distance c q) := by
  rw [Real.sin_sub, cos_heading hp, cos_heading hq, sin_heading, sin_heading, side]
  field_simp
  ring

/-- Points at the same distance and the same angle are the same. -/
theorem eq_of_heading (hp : 0 < distance c p) (hdistance : distance c p = distance c q) (hheading : heading c p = heading c q) :
    p = q := by
  have hcos : (p.a - c.a) / distance c p = (q.a - c.a) / distance c q := by
    rw [← cos_heading hp, ← cos_heading (hdistance ▸ hp), hheading]
  have hsin : (p.b - c.b) / distance c p = (q.b - c.b) / distance c q := by
    rw [← sin_heading, ← sin_heading, hheading]
  rw [← hdistance, div_left_inj' hp.ne', sub_left_inj] at hcos hsin
  cases p
  cases q
  rw [Vec2.mk.injEq]
  exact ⟨hcos, hsin⟩

/-! ## The sweep -/

/-- Two coordinates count as one when they agree up to a billionth of the greater one, or up to a billionth. -/
def Coincide (x y : ℝ) : Prop := |y - x| ≤ 1e-9 * max 1 (max |x| |y|)

/-- The ends of a way count as one point. -/
def Coincident (p q : Vec2 ℝ) : Prop := Coincide p.a q.a ∧ Coincide p.b q.b

/-- Clockwise turning is negative. -/
def Turn.sign : Turn → ℝ
  | .clockwise => -1
  | .counterclockwise => 1

-- Sums, products and numerals are those of the field, and not those of its scalars.
attribute [local instance] Scalar.exact
attribute [local instance (10)] Scalar.toAdd Scalar.toSub Scalar.toMul Scalar.toDiv Scalar.toNeg Scalar.toOfScientific

/-- The program's test for closeness says that two numbers coincide. -/
theorem close_iff (x y : ℝ) : Scalar.close x y = true ↔ Coincide x y := by
  have hfinite : ∀ z : ℝ, ¬ Scalar.equal |z| (-1) = true := fun z h => by
    linarith [abs_nonneg z, (Scalar.equal_iff |z| (-1)).1 h]
  have hscaled : ∀ z : ℝ, |1e-9 * z| = 1e-9 * |z| := fun z => by
    rw [abs_mul, abs_of_pos (by norm_num : (0 : ℝ) < 1e-9)]
  rw [Scalar.close, Coincide]
  by_cases heq : x = y
  · rw [if_pos ((Scalar.equal_iff x y).2 heq), heq, sub_self, abs_zero]
    exact iff_of_true rfl (mul_nonneg (by norm_num) (zero_le_one.trans (le_max_left _ _)))
  · rw [if_neg (mt (Scalar.equal_iff x y).1 heq)]
    simp only [Scalar.magnitude, Scalar.infinity, hfinite, Bool.or_eq_true, or_self]
    have hbillionth : (0 : ℝ) ≤ 1e-9 := by norm_num
    rw [if_neg Bool.false_ne_true, Bool.or_eq_true, Bool.or_eq_true, Scalar.atMost_iff, Scalar.atMost_iff, Scalar.atMost_iff, hscaled,
      hscaled, mul_max_of_nonneg _ _ hbillionth, mul_max_of_nonneg _ _ hbillionth, mul_one, le_max_iff, le_max_iff]
    tauto

/-- The sweep, with its two cases. -/
theorem sweep_eq (turn : Turn) (start stop center : Vec2 ℝ) :
    sweep turn start stop center = if Scalar.close start.a stop.a && Scalar.close start.b stop.b then turn.sign * (2 * Real.pi)
      else turn.sign * around (turn.sign * (heading center stop - heading center start)) := by
  have hwhole : (fullTurn : ℝ) = 2 * Real.pi := by
    change (2.0 : ℝ) * Real.pi = _
    norm_num
  have hzero : (0.0 : ℝ) = 0 := by norm_num
  have hstart : angleOf center start = heading center start := rfl
  have hstop : angleOf center stop = heading center stop := rfl
  cases turn with
  | clockwise =>
    simp only [sweep, hwhole, hstart, hstop, hzero, Scalar.atMost_iff, Turn.sign, neg_one_mul, around, neg_nonpos, sub_nonneg]
    split
    · rfl
    · split
      · ring
      · exact (neg_neg _).symm
  | counterclockwise =>
    simp only [sweep, hwhole, hstart, hstop, hzero, Scalar.atMost_iff, Turn.sign, one_mul, two_mul, around]

/-- The program's test of two points says that they coincide. -/
theorem coincident_iff (p q : Vec2 ℝ) : (Scalar.close p.a q.a && Scalar.close p.b q.b) = true ↔ Coincident p q := by
  rw [Bool.and_eq_true, close_iff, close_iff, Coincident]

/-- The sign of a turn is one or minus one. -/
theorem abs_sign (turn : Turn) : |turn.sign| = 1 := by
  cases turn <;> simp [Turn.sign]

/-- Between ends that coincide lies a whole turn. -/
theorem abs_sweep_whole (turn : Turn) (c : Vec2 ℝ) (h : Coincident p q) :
    |sweep turn p q c| = 2 * Real.pi := by
  rw [sweep_eq, if_pos ((coincident_iff p q).2 h), abs_mul, abs_sign, one_mul, abs_of_pos Real.two_pi_pos]

/-- An angle in the direction of a turn is less than a whole turn either way. -/
theorem sign_mul_bounds (turn : Turn) (c p q : Vec2 ℝ) :
    -(2 * Real.pi) < turn.sign * (heading c q - heading c p) ∧ turn.sign * (heading c q - heading c p) < 2 * Real.pi := by
  have hforth := heading_sub_lt c p q
  have hback := heading_sub_lt c q p
  cases turn <;> rw [Turn.sign] <;> constructor <;> linarith

/-- Between points that do not coincide, the sweep is the angle brought around. -/
theorem abs_sweep (turn : Turn) (c : Vec2 ℝ) (h : ¬ Coincident p q) :
    |sweep turn p q c| = around (turn.sign * (heading c q - heading c p)) := by
  rw [sweep_eq, if_neg (mt (coincident_iff p q).1 h), abs_mul, abs_sign, one_mul, abs_of_pos (around_pos (sign_mul_bounds turn c p q).1)]

/-- An arc always turns, and never more than a whole turn. -/
theorem abs_sweep_bounds (turn : Turn) (p q c : Vec2 ℝ) : 0 < |sweep turn p q c| ∧ |sweep turn p q c| ≤ 2 * Real.pi := by
  by_cases h : Coincident p q
  · rw [abs_sweep_whole turn c h]
    exact ⟨Real.two_pi_pos, le_rfl⟩
  · obtain ⟨hlow, hhigh⟩ := sign_mul_bounds turn c p q
    rw [abs_sweep turn c h]
    exact ⟨around_pos hlow, around_le hhigh⟩

/-- The sine of an angle in the direction of a turn. -/
theorem sin_sign_mul (turn : Turn) (x : ℝ) : Real.sin (turn.sign * x) = turn.sign * Real.sin x := by
  cases turn
  · rw [Turn.sign, neg_one_mul, Real.sin_neg, neg_one_mul]
  · rw [Turn.sign, one_mul, one_mul]

/-- The sine of the sweep, but for a positive factor, is the side of the chord on which the center lies. -/
theorem sin_abs_sweep (turn : Turn) (hp : 0 < distance c p) (hq : 0 < distance c q)
    (h : ¬ Coincident p q) :
    Real.sin |sweep turn p q c| = turn.sign * side p q c / (distance c p * distance c q) := by
  rw [abs_sweep turn c h, sin_around, sin_sign_mul, sin_heading_sub hp hq, mul_div_assoc]

/-- With the center on the inner side of the chord, the arc is at most half a turn. -/
theorem abs_sweep_le_pi (turn : Turn) (hp : 0 < distance c p) (hdistance : distance c p = distance c q) (hne : p ≠ q)
    (h : ¬ Coincident p q) (hside : 0 ≤ turn.sign * side p q c) : |sweep turn p q c| ≤ Real.pi := by
  have hq : 0 < distance c q := hdistance ▸ hp
  have hapart : turn.sign * (heading c q - heading c p) ≠ 0 := by
    refine mul_ne_zero (fun hzero => ?_) (sub_ne_zero.2 fun hsame => hne (eq_of_heading hp hdistance hsame.symm))
    simpa [hzero] using abs_sign turn
  have hlt : |sweep turn p q c| < 2 * Real.pi := by
    rw [abs_sweep turn c h]
    exact around_lt (sign_mul_bounds turn c p q).2 hapart
  apply le_pi_of_sin_nonneg hlt
  rw [sin_abs_sweep turn hp hq h]
  exact div_nonneg hside (mul_pos hp hq).le

/-- With the center on the outer side of the chord, the arc is at least half a turn. -/
theorem pi_le_abs_sweep (turn : Turn) (hp : 0 < distance c p) (hq : 0 < distance c q)
    (h : ¬ Coincident p q) (hside : turn.sign * side p q c ≤ 0) : Real.pi ≤ |sweep turn p q c| := by
  apply pi_le_of_sin_nonpos (abs_sweep_bounds turn p q c).1
  rw [sin_abs_sweep turn hp hq h]
  exact div_nonpos_of_nonpos_of_nonneg hside (mul_pos hp hq).le

/-! ## The sweep around the center of a radius -/

/-- Seen the way of the turn, the center of the shorter arc lies on one side of the chord, that of the longer arc on the other. -/
theorem sign_mul_offset (turn : Turn) (radius half : ℝ) :
    turn.sign * offset turn radius half =
      if 0 < radius then -√(|radius| * |radius| - half * half) else √(|radius| * |radius| - half * half) := by
  simp only [offset, toRight_iff, CenterRight]
  cases turn <;> by_cases h : 0 < radius <;> simp [h, Turn.sign]

/-- A positive radius gives the shorter arc and a negative one the longer arc, but between ends that coincide the arc is a whole turn. -/
theorem sweep_of_radius (turn : Turn) (start stop center : Vec2 ℝ) (radius : ℝ)
    (h : centerOfRadius turn start stop radius = .ok (some center)) :
    (Coincident start stop → |sweep turn start stop center| = 2 * Real.pi) ∧
      (¬ Coincident start stop →
        (0 < radius → |sweep turn start stop center| ≤ Real.pi) ∧ (radius < 0 → Real.pi ≤ |sweep turn start stop center|)) := by
  refine ⟨abs_sweep_whole turn center, fun hapart => ?_⟩
  rcases centerOfRadius_cases turn start stop radius with ⟨-, hcenter⟩ | ⟨hsome, hcenter⟩
  · cases h.symm.trans hcenter
  have hbeside : center = beside start stop (offset turn radius (min (distance start stop / 2) |radius|)) := by
    have hok := h.symm.trans hcenter
    rwa [Except.ok.injEq, Option.some.injEq] at hok
  generalize min (distance start stop / 2) |radius| = half at hbeside
  have hchord := distance_pos hsome
  obtain ⟨hstart, hstop⟩ := distance_beside hchord (offset turn radius half)
  rw [← hbeside, distance_comm] at hstart hstop
  have hpos : 0 < distance center start := by
    rw [hstart]
    exact Real.sqrt_pos.2 (add_pos_of_pos_of_nonneg (mul_pos (half_pos hchord) (half_pos hchord)) (mul_self_nonneg _))
  have hdistance : distance center start = distance center stop := hstart.trans hstop.symm
  have hne : start ≠ stop := by
    rintro rfl
    simp [distance] at hchord
  have hside : turn.sign * side start stop center = -(turn.sign * offset turn radius half) * distance start stop := by
    rw [hbeside, side_beside hchord]
    ring
  rw [sign_mul_offset] at hside
  constructor
  · intro hradius
    refine abs_sweep_le_pi turn hpos hdistance hne hapart ?_
    rw [hside, if_pos hradius, neg_neg]
    exact mul_nonneg (Real.sqrt_nonneg _) hchord.le
  · intro hradius
    refine pi_le_abs_sweep turn hpos (hdistance ▸ hpos) hapart ?_
    rw [hside, if_neg hradius.not_gt]
    exact mul_nonpos_of_nonpos_of_nonneg (neg_nonpos.2 (Real.sqrt_nonneg _)) hchord.le

/-- The triangle with the sides 3, 4 and 5. -/
theorem centerOfRadius_triangle : centerOfRadius .clockwise ⟨-3, 0⟩ ⟨3, 0⟩ (5 : ℝ) = .ok (some ⟨0, -4⟩) := by
  rcases centerOfRadius_cases .clockwise ⟨-3, 0⟩ ⟨3, 0⟩ 5 with ⟨himpossible, -⟩ | ⟨-, hcenter⟩
  · rw [Impossible, distance_triangle, abs_five] at himpossible
    norm_num at himpossible
  have hhalf : min ((6 : ℝ) / 2) 5 = 3 := by norm_num
  have hoffset : offset .clockwise 5 3 = 4 := by
    have hright : ((Turn.clockwise == .clockwise) == Scalar.less 0.0 (5 : ℝ)) = true := by
      rw [toRight_iff, CenterRight]
      norm_num
    rw [offset, if_pos hright, abs_five, Real.sqrt_eq_iff_mul_self_eq (by norm_num) (by norm_num)]
    norm_num
  rw [hcenter, distance_triangle, abs_five, hhalf, hoffset, beside, distance_triangle]
  norm_num

/-- The arc over a chord of six units with a radius of five is the shorter one. -/
theorem sweep_of_radius_triangle : centerOfRadius .clockwise ⟨-3, 0⟩ ⟨3, 0⟩ (5 : ℝ) = .ok (some ⟨0, -4⟩) ∧
    |sweep .clockwise ⟨-3, 0⟩ ⟨3, 0⟩ (⟨0, -4⟩ : Vec2 ℝ)| ≤ Real.pi := by
  refine ⟨centerOfRadius_triangle, ((sweep_of_radius .clockwise ⟨-3, 0⟩ ⟨3, 0⟩ ⟨0, -4⟩ 5 centerOfRadius_triangle).2 ?_).1 (by norm_num)⟩
  rintro ⟨hcoincide, -⟩
  rw [Coincide] at hcoincide
  norm_num at hcoincide

/-- A chord so short that its ends coincide, though it does not count as none: the arc of a positive radius is a whole turn. -/
theorem short_chord_turns_whole :
    ∃ center : Vec2 ℝ, centerOfRadius .clockwise ⟨0, 0⟩ ⟨1e-10, 0⟩ 1 = .ok (some center) ∧ (0 : ℝ) < 1 ∧
      Real.pi < |sweep .clockwise ⟨0, 0⟩ ⟨1e-10, 0⟩ center| := by
  have hchord : distance ⟨0, 0⟩ ⟨1e-10, 0⟩ = 1e-10 := by
    rw [distance, Real.sqrt_eq_iff_mul_self_eq (by norm_num) (by norm_num)]
    norm_num
  rcases centerOfRadius_cases .clockwise ⟨0, 0⟩ ⟨1e-10, 0⟩ 1 with ⟨himpossible, -⟩ | ⟨-, hcenter⟩
  · rw [Impossible, hchord, abs_one] at himpossible
    norm_num at himpossible
  refine ⟨_, hcenter, one_pos, ?_⟩
  rw [abs_sweep_whole]
  · linarith [Real.pi_pos]
  · rw [Coincident, Coincide, Coincide]
    norm_num

end ToolpathViewer.Arc
