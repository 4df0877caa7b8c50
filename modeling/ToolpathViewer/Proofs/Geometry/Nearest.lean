import ToolpathViewer.Geometry.Ray
import ToolpathViewer.Proofs.Geometry.Exact

/-!
# The nearest points of a ray and a segment

The square of the distance between a point of the ray and a point of the segment is a convex quadratic function of their two parameters.
`Products.Least` says that neither parameter alone can do better, which is enough for the least distance of all. The parameters that are
found are such: clamping to the segment, then to the ray, gives a depth that the projection back onto the segment does not change.
-/

namespace ToolpathViewer.Ray

variable {K : Type} [Field K] [LinearOrder K]

/-! ## Along the segment -/

/-- The place from 0 to 1 where `c * s² - 2 * x * s` is least: from there it does not fall towards any other place. -/
structure LeastAt (c x s : K) : Prop where
  nonneg : 0 ≤ s
  le_one : s ≤ 1
  slope : ∀ s', 0 ≤ s' → s' ≤ 1 → 0 ≤ (s * c - x) * (s' - s)

variable {b c d e x s s' t : K}

/-- A function that is level everywhere is least everywhere. -/
theorem leastAt_level (h0 : 0 ≤ s) (h1 : s ≤ 1) : LeastAt 0 0 s := by
  refine ⟨h0, h1, fun s' _ _ => ?_⟩
  rw [mul_zero, sub_zero, zero_mul]

section Convex

variable [IsStrictOrderedRing K]

/-- Where the function does fall and rise, it is least at the place of its vertex, moved between 0 and 1. -/
theorem leastAt_clamped (hc : 0 < c) (x : K) : LeastAt c x (min 1 (max 0 (x / c))) := by
  rcases le_total (x / c) 0 with hlow | hlow
  · have hx : x ≤ 0 := by simpa using (div_le_iff₀ hc).1 hlow
    rw [max_eq_left hlow, min_eq_right zero_le_one]
    refine ⟨le_rfl, zero_le_one, fun s' h0 _ => ?_⟩
    rw [zero_mul, zero_sub, sub_zero]
    exact mul_nonneg (neg_nonneg.2 hx) h0
  rw [max_eq_right hlow]
  rcases le_total (x / c) 1 with hhigh | hhigh
  · rw [min_eq_right hhigh]
    refine ⟨hlow, hhigh, fun s' _ _ => ?_⟩
    rw [div_mul_cancel₀ x hc.ne', sub_self, zero_mul]
  · have hx : c ≤ x := by simpa using (le_div_iff₀ hc).1 hhigh
    rw [min_eq_left hhigh]
    refine ⟨zero_le_one, le_rfl, fun s' _ h1 => ?_⟩
    rw [one_mul]
    exact mul_nonneg_of_nonpos_of_nonpos (sub_nonpos.2 hx) (sub_nonpos.2 h1)

/-- A parabola is least at one place only. -/
theorem LeastAt.unique (hc : 0 < c) (h : LeastAt c x s) (h' : LeastAt c x s') : s = s' := by
  have hsum : 0 ≤ -(c * (s - s') ^ 2) := by
    have h1 := h.slope s' h'.nonneg h'.le_one
    have h2 := h'.slope s h.nonneg h.le_one
    calc (0 : K) ≤ (s * c - x) * (s' - s) + (s' * c - x) * (s - s') := add_nonneg h1 h2
      _ = -(c * (s - s') ^ 2) := by ring
  have hsquare : (s - s') ^ 2 = 0 := by
    have hle : c * (s - s') ^ 2 ≤ 0 := neg_nonneg.1 hsum
    exact le_antisymm (nonpos_of_mul_nonpos_right hle hc) (sq_nonneg _)
  exact sub_eq_zero.1 (pow_eq_zero_iff two_ne_zero |>.1 hsquare)

/-! ## Along both -/

/-- Neither a change along the segment nor one along the ray brings the two points nearer to each other. -/
structure Products.Least (p : Products K) (s t : K) : Prop where
  segment : LeastAt p.c (p.e + t * p.b) s
  depth : 0 ≤ t
  slope : ∀ t', 0 ≤ t' → 0 ≤ (t - (s * p.b - p.d)) * (t' - t)

/-- The square of the distance of the points with two parameters, but for a constant. -/
def Products.gap (p : Products K) (s t : K) : K :=
  t * (t + p.d - s * p.b) + s * (s * p.c - p.e - t * p.b) + (t * p.d - s * p.e)

/-- The quadratic form of the gap is convex, so what cannot be improved along either parameter cannot be improved at all. -/
theorem Products.Least.gap_le {p : Products K} (hconvex : p.b * p.b ≤ p.c) (h : p.Least s t) {s' t' : K} (h0 : 0 ≤ s')
    (h1 : s' ≤ 1) (ht : 0 ≤ t') : p.gap s t ≤ p.gap s' t' := by
  have hform : 0 ≤ ((t' - t) - p.b * (s' - s)) ^ 2 + (p.c - p.b * p.b) * (s' - s) ^ 2 :=
    add_nonneg (sq_nonneg _) (mul_nonneg (sub_nonneg.2 hconvex) (sq_nonneg _))
  have hsegment := h.segment.slope s' h0 h1
  have hray := h.slope t' ht
  have hdifference : p.gap s' t' - p.gap s t =
      2 * ((s * p.c - (p.e + t * p.b)) * (s' - s)) + 2 * ((t - (s * p.b - p.d)) * (t' - t)) +
        (((t' - t) - p.b * (s' - s)) ^ 2 + (p.c - p.b * p.b) * (s' - s) ^ 2) := by
    rw [Products.gap, Products.gap]
    ring
  have hnonneg : 0 ≤ p.gap s' t' - p.gap s t := by
    rw [hdifference]
    exact add_nonneg (add_nonneg (mul_nonneg two_pos.le hsegment) (mul_nonneg two_pos.le hray)) hform
  exact sub_nonneg.1 hnonneg

/-- The depth at which the ray is nearest to a point of the segment. -/
theorem slope_max (y : K) : ∀ t', 0 ≤ t' → 0 ≤ (max 0 y - y) * (t' - max 0 y) := by
  intro t' ht
  rcases le_total y 0 with hy | hy
  · rw [max_eq_left hy, zero_sub, sub_zero]
    exact mul_nonneg (neg_nonneg.2 hy) ht
  · rw [max_eq_right hy, sub_self, zero_mul]

/-- A place on the segment that is nearest to the whole line of the ray gives a depth on the ray; the place that is nearest to the point at
that depth gives the same depth again. -/
theorem depth_eq (hc : 0 < c) (hconvex : b * b ≤ c) {s₀ s₁ t₀ : K} (h₀ : LeastAt (c - b * b) (e - b * d) s₀)
    (ht₀ : t₀ = max 0 (s₀ * b - d)) (h₁ : LeastAt c (e + t₀ * b) s₁) : max 0 (s₁ * b - d) = t₀ := by
  rcases le_total 0 (s₀ * b - d) with hahead | hbehind
  · rw [max_eq_right hahead] at ht₀
    have hsame : LeastAt c (e + t₀ * b) s₀ := by
      refine ⟨h₀.nonneg, h₀.le_one, fun s' h0 h1 => ?_⟩
      have hslope := h₀.slope s' h0 h1
      have hrewrite : s₀ * c - (e + t₀ * b) = s₀ * (c - b * b) - (e - b * d) := by
        rw [ht₀]
        ring
      rwa [hrewrite]
    rw [h₁.unique hc hsame, ht₀, max_eq_right hahead]
  · -- The line is nearest behind the start of the ray. If the segment's place nearest to the start were ahead of it, going from one place
    -- to the other would both leave the line and not leave it.
    rw [max_eq_left hbehind] at ht₀
    subst ht₀
    rw [max_eq_left]
    by_contra hahead
    have hline := h₀.slope s₁ h₁.nonneg h₁.le_one
    have hstart := h₁.slope s₀ h₀.nonneg h₀.le_one
    have hway : 0 < b * (s₁ - s₀) := by linarith
    have hle : (s₁ * b - d) * (b * (s₁ - s₀)) ≤ 0 := by
      have hsquare : 0 ≤ (c - b * b) * (s₁ - s₀) ^ 2 := mul_nonneg (sub_nonneg.2 hconvex) (sq_nonneg _)
      linarith [mul_comm b d]
    exact absurd (mul_pos (not_le.1 hahead) hway) hle.not_gt

end Convex

/-! ## What is computed -/

section Exact

variable [Elementary K]

-- Sums, products and numerals are those of the field, and not those of its scalars.
attribute [local instance] Scalar.exact
attribute [local instance (10)] Scalar.toAdd Scalar.toSub Scalar.toMul Scalar.toDiv Scalar.toNeg Scalar.toOfScientific

/-- A number that counts as none only when it is zero. -/
def Clear (a : K) : Prop := a = 0 ∨ 1e-12 ≤ a

variable {p : Products K}

/-- Of a segment without length only its start can be near. -/
theorem nearest_of_point (h : Scalar.less p.c tiny = true) : p.nearest = (0.0, Scalar.larger 0.0 (0.0 * p.b - p.d)) := by
  simp only [Products.nearest, h, if_true]

/-- The place on the segment that is tried first. -/
def Products.first (p : Products K) : K :=
  if Scalar.less (p.c - p.b * p.b) tiny then Scalar.clampUnit (p.e / p.c)
  else Scalar.clampUnit ((p.e - p.b * p.d) / (p.c - p.b * p.b))

/-- For a segment that is no point: the place on the segment for the best place on the ray, and then the best place on the ray for that. -/
theorem nearest_of_length (h : Scalar.less p.c tiny = false) {t₀ s₁ : K} (ht₀ : t₀ = Scalar.larger 0.0 (p.first * p.b - p.d))
    (hs₁ : s₁ = Scalar.clampUnit ((p.e + t₀ * p.b) / p.c)) : p.nearest = (s₁, Scalar.larger 0.0 (s₁ * p.b - p.d)) := by
  subst hs₁ ht₀
  simp only [Products.nearest, Products.first, h]
  rfl

/-! ## Points of space -/

/-- The square of the distance between the points of a ray and of a segment at two parameters. -/
def gap (o u p q : Vec3 K) (s t : K) : K :=
  let w := Vec3.between (p.along s (Vec3.between p q)) (o.along t u)
  w.dot w

variable {o u q r : Vec3 K}

/-- The product of two vectors, written out. -/
theorem dot_eq (v w : Vec3 K) : v.dot w = v.x * w.x + v.y * w.y + v.z * w.z := rfl

/-- The square of a distance between the ray and the segment, by the products. -/
theorem gap_eq (hu : u.dot u = 1) (s t : K) :
    gap o u q r s t = (Vec3.between q o).dot (Vec3.between q o) + (products o u q r).gap s t := by
  rw [dot_eq] at hu
  simp only [gap, Products.gap, products, dot_eq, Vec3.between, Vec3.along, Vec3.zipWith]
  linear_combination (t * t) * hu

/-- The product of two vectors is symmetric. -/
theorem dot_comm (v w : Vec3 K) : v.dot w = w.dot v := by
  rw [dot_eq, dot_eq, mul_comm v.x, mul_comm v.y, mul_comm v.z]

/-- What is left of a vector when its part along a direction is taken away. -/
def across (u v : Vec3 K) : Vec3 K := Vec3.between (u.map (u.dot v * ·)) v

/-- The part of a vector across a direction, times another vector. -/
theorem across_dot (u v w : Vec3 K) : (across u v).dot w = v.dot w - u.dot v * u.dot w := by
  simp only [across, dot_eq, Vec3.between, Vec3.map, Vec3.zipWith]
  ring

/-- The square of the part of a vector across a direction. -/
theorem across_dot_self (hu : u.dot u = 1) (v : Vec3 K) : (across u v).dot (across u v) = v.dot v - u.dot v * u.dot v := by
  rw [across_dot, dot_comm v, dot_comm u (across u v), across_dot, across_dot, hu, dot_comm v u]
  ring

/-! ## The least distance -/

variable [IsStrictOrderedRing K]

/-- A number that is clear of the bound is below it just when it is zero. -/
theorem less_tiny_iff {a : K} (h : Clear a) : Scalar.less a tiny = true ↔ a = 0 := by
  have htiny : (0 : K) < 1e-12 := by norm_num
  have hless : Scalar.less a tiny = true ↔ a < 1e-12 := Scalar.less_iff a _
  rw [hless]
  rcases h with rfl | h
  · exact iff_of_true htiny rfl
  · exact iff_of_false h.not_gt (htiny.trans_le h).ne'

/-- The products belong to a direction of length one: a segment without length has no part along anything, and of a segment along the ray
nothing is left across it. -/
structure Products.Coherent (p : Products K) : Prop where
  convex : p.b * p.b ≤ p.c
  point : p.c = 0 → p.b = 0 ∧ p.e = 0
  along : p.c - p.b * p.b = 0 → p.e = p.b * p.d

/-- The place that is tried first is nearest to the line of the ray. -/
theorem leastAt_first (h : p.Coherent) (hclear : Clear (p.c - p.b * p.b)) :
    LeastAt (p.c - p.b * p.b) (p.e - p.b * p.d) p.first := by
  have hless := less_tiny_iff hclear
  rw [Products.first, Scalar.clampUnit_eq, Scalar.clampUnit_eq]
  split
  · next hzero =>
    have halong := hless.1 hzero
    rw [h.along halong, halong, sub_self]
    exact leastAt_level (le_min zero_le_one (le_max_left _ _)) (min_le_left _ _)
  · next hpos =>
    have hne : p.c - p.b * p.b ≠ 0 := fun h => hpos (hless.2 h)
    exact leastAt_clamped (lt_of_le_of_ne (sub_nonneg.2 h.convex) hne.symm) _

/-- The parameters that are found cannot be improved. -/
theorem least_nearest (h : p.Coherent) (hc : Clear p.c) (hclear : Clear (p.c - p.b * p.b)) :
    p.Least p.nearest.1 p.nearest.2 := by
  have hless := less_tiny_iff hc
  cases hpoint : Scalar.less p.c tiny with
  | true =>
    have hzero := hless.1 hpoint
    obtain ⟨hb, he⟩ := h.point hzero
    rw [nearest_of_point hpoint, Scalar.larger_zero]
    refine ⟨?_, le_max_left _ _, slope_max _⟩
    rw [hzero, hb, he, mul_zero, add_zero]
    exact leastAt_level (by norm_num) (by norm_num)
  | false =>
    have hne : p.c ≠ 0 := fun hzero => by simp [hless.2 hzero] at hpoint
    have hpos : 0 < p.c := lt_of_le_of_ne ((mul_self_nonneg p.b).trans h.convex) hne.symm
    rw [nearest_of_length hpoint rfl rfl, Scalar.larger_zero, Scalar.larger_zero, Scalar.clampUnit_eq]
    have hproject := leastAt_clamped hpos (p.e + max 0 (p.first * p.b - p.d) * p.b)
    have hdepth := depth_eq hpos h.convex (leastAt_first h hclear) rfl hproject
    refine ⟨?_, le_max_left _ _, slope_max _⟩
    rwa [hdepth]

/-- A square is not negative. -/
theorem dot_self_nonneg (v : Vec3 K) : 0 ≤ v.dot v :=
  add_nonneg (add_nonneg (mul_self_nonneg _) (mul_self_nonneg _)) (mul_self_nonneg _)

/-- A vector without length has no part along any vector. -/
theorem dot_of_point {v : Vec3 K} (h : v.dot v = 0) (w : Vec3 K) : v.dot w = 0 := by
  rw [dot_eq] at h ⊢
  have hx := mul_self_nonneg v.x
  have hy := mul_self_nonneg v.y
  have hz := mul_self_nonneg v.z
  have hvx : v.x = 0 := mul_self_eq_zero.1 (by linarith)
  have hvy : v.y = 0 := mul_self_eq_zero.1 (by linarith)
  have hvz : v.z = 0 := mul_self_eq_zero.1 (by linarith)
  rw [hvx, hvy, hvz]
  ring

/-- The products of a ray and a segment fit together. -/
theorem coherent_products (hu : u.dot u = 1) : (products o u q r).Coherent := by
  have hacross := across_dot_self hu (Vec3.between q r)
  refine ⟨sub_nonneg.1 (hacross ▸ dot_self_nonneg _), fun hpoint => ⟨?_, ?_⟩, fun hnone => ?_⟩
  · exact (dot_comm _ _).trans (dot_of_point hpoint u)
  · exact dot_of_point hpoint _
  · exact sub_eq_zero.1 ((across_dot u _ _).symm.trans (dot_of_point (hacross.trans hnone) _))

/-! ## The approach -/

/-- The root of one is one. -/
theorem sqrt_one : Elementary.sqrt (1 : K) = 1 := by
  simpa using Elementary.sqrt_mul_self (1 : K) zero_le_one

/-- The approach of a ray whose direction has length one. -/
theorem approach_unit (hu : u.dot u = 1) :
    approach o u q r = .ok ⟨Elementary.sqrt (gap o u q r (products o u q r).nearest.1 (products o u q r).nearest.2),
      (products o u q r).nearest.2⟩ := by
  have hlong : Scalar.less (1 : K) tiny = false := by
    have htiny : ¬ (1 : K) < 1e-12 := by norm_num
    exact decide_eq_false htiny
  have hmap : u.map (· / (1 : K)) = u := by
    simp only [Vec3.map, div_one]
  have hnorm : Scalar.sqrt (u.dot u) = 1 := by
    rw [hu]
    exact sqrt_one
  simp only [approach, hnorm, hlong, hmap]
  rfl

/-- What is found is the least distance there is between a point of the ray and a point of the segment. -/
theorem approach_is_nearest (o u p q : Vec3 K) (hu : u.dot u = 1) (hc : Clear ((Vec3.between p q).dot (Vec3.between p q)))
    (hdenominator : Clear ((Vec3.between p q).dot (Vec3.between p q) - u.dot (Vec3.between p q) * u.dot (Vec3.between p q))) :
    ∃ (a : Approach K) (s : K), approach o u p q = .ok a ∧ 0 ≤ a.depth ∧ 0 ≤ s ∧ s ≤ 1 ∧
      a.distance = Elementary.sqrt (gap o u p q s a.depth) ∧ (∀ l, 0 ≤ l → l * l = gap o u p q s a.depth → a.distance = l) ∧
      ∀ s' t', 0 ≤ s' → s' ≤ 1 → 0 ≤ t' → gap o u p q s a.depth ≤ gap o u p q s' t' := by
  have hcoherent : (products o u p q).Coherent := coherent_products hu
  have hleast := least_nearest hcoherent hc hdenominator
  have hgap : ∀ s' t', 0 ≤ s' → s' ≤ 1 → 0 ≤ t' →
      gap o u p q (products o u p q).nearest.1 (products o u p q).nearest.2 ≤ gap o u p q s' t' := by
    intro s' t' h0 h1 ht
    rw [gap_eq hu, gap_eq hu s']
    exact add_le_add_right (hleast.gap_le hcoherent.convex h0 h1 ht) _
  refine ⟨_, _, approach_unit hu, hleast.depth, hleast.segment.nonneg, hleast.segment.le_one, rfl, fun l hl hsquare => ?_, hgap⟩
  rw [← Elementary.sqrt_mul_self l hl, hsquare]

/-- A ray along the first axis and a segment that begins behind it and passes beside it. -/
theorem approach_is_nearest_passing :
    ∃ (a : Approach ℝ) (s : ℝ), approach ⟨0, 0, 0⟩ ⟨1, 0, 0⟩ ⟨-1, 1, 0⟩ ⟨2, 1, 1⟩ = .ok a ∧ 0 ≤ a.depth ∧ 0 ≤ s ∧ s ≤ 1 ∧
      a.distance = Elementary.sqrt (gap ⟨0, 0, 0⟩ ⟨1, 0, 0⟩ ⟨-1, 1, 0⟩ ⟨2, 1, 1⟩ s a.depth) ∧
      (∀ l, 0 ≤ l → l * l = gap ⟨0, 0, 0⟩ ⟨1, 0, 0⟩ ⟨-1, 1, 0⟩ ⟨2, 1, 1⟩ s a.depth → a.distance = l) ∧
      ∀ s' t', 0 ≤ s' → s' ≤ 1 → 0 ≤ t' → gap ⟨0, 0, 0⟩ ⟨1, 0, 0⟩ ⟨-1, 1, 0⟩ ⟨2, 1, 1⟩ s a.depth ≤
        gap ⟨0, 0, 0⟩ ⟨1, 0, 0⟩ ⟨-1, 1, 0⟩ ⟨2, 1, 1⟩ s' t' := by
  apply approach_is_nearest
  · rw [dot_eq]
    norm_num
  · right
    simp only [dot_eq, Vec3.between, Vec3.zipWith]
    norm_num
  · right
    simp only [dot_eq, Vec3.between, Vec3.zipWith]
    norm_num

end Exact

end ToolpathViewer.Ray
