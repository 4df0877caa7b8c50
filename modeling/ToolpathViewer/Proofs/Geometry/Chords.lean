import ToolpathViewer.Proofs.Geometry.Sweep

/-!
# The chords of an arc

Over the real numbers the sweep of an arc is its end angle less its start angle, up to whole turns, and an arc is split into as few chords
as keep each one's share of the sweep within the asked part of a whole turn. The chords end on the circle, at equal steps of the sweep, and
the last one ends at the end of the arc.
-/

namespace ToolpathViewer

/-- The chords of a whole turn that an amount asks for: at least one. -/
noncomputable def Amount.perTurn : Amount ℝ → ℝ
  | .whole d => (max 1 d : ℤ)
  | .real x => max 1 x

/-- There is at least one chord to a turn. -/
theorem Amount.perTurn_pos (divisions : Amount ℝ) : 0 < divisions.perTurn := by
  cases divisions with
  | whole d => exact Int.cast_pos.2 (zero_lt_one.trans_le (le_max_left 1 d))
  | real x => exact zero_lt_one.trans_le (le_max_left 1 x)

namespace Arc

open Vec2

/-! ## Angles up to whole turns -/

/-- Adding a whole turn keeps the angle. -/
theorem coe_around (x : ℝ) : (around x : Real.Angle) = x := by
  rw [around]
  split
  · rw [← two_mul, Real.Angle.coe_add, Real.Angle.coe_two_pi, add_zero]
  · rfl

/-- A way that turns by the angles of its ends turns from the first to the second. -/
theorem coe_sign_mul_around (turn : Turn) (x : ℝ) : ((turn.sign * around (turn.sign * x) : ℝ) : Real.Angle) = x := by
  cases turn with
  | clockwise => rw [Turn.sign, neg_one_mul, neg_one_mul, Real.Angle.coe_neg, coe_around, Real.Angle.coe_neg, neg_neg]
  | counterclockwise => rw [Turn.sign, one_mul, one_mul, coe_around]

/-- The point at a distance and an angle from a center. -/
noncomputable def polar (c : Vec2 ℝ) (r θ : ℝ) : Vec2 ℝ := ⟨c.a + r * Real.cos θ, c.b + r * Real.sin θ⟩

variable {r : ℝ}

/-- A point in polar coordinates is as far from the center as the radius says. -/
theorem distance_polar (c : Vec2 ℝ) (hr : 0 ≤ r) (θ : ℝ) : distance c (polar c r θ) = r := by
  have hsquare : r * Real.cos θ * (r * Real.cos θ) + r * Real.sin θ * (r * Real.sin θ) = r * r := by
    linear_combination r * r * Real.sin_sq_add_cos_sq θ
  rw [distance, polar]
  simp only [add_sub_cancel_left, hsquare]
  exact Real.sqrt_mul_self hr

/-- A point in polar coordinates lies in the direction of the angle. -/
theorem heading_polar (c : Vec2 ℝ) (hr : 0 < r) (θ : ℝ) : (heading c (polar c r θ) : Real.Angle) = θ := by
  have hpoint : (⟨r * Real.cos θ, r * Real.sin θ⟩ : ℂ) = r * (Real.Angle.cos θ + Real.Angle.sin θ * Complex.I) := by
    apply Complex.ext <;> simp [Complex.cos_ofReal_re, Complex.sin_ofReal_re]
  rw [heading, polar]
  simp only [add_sub_cancel_left, hpoint]
  exact Complex.arg_mul_cos_add_sin_mul_I_coe_angle hr θ

/-- Different points lie apart. -/
theorem distance_pos_of_ne {p q : Vec2 ℝ} (h : p ≠ q) : 0 < distance q p := by
  refine Real.sqrt_pos.2 (lt_of_le_of_ne (add_nonneg (mul_self_nonneg _) (mul_self_nonneg _)) fun hzero => h ?_)
  obtain ⟨ha, hb⟩ := (mul_self_add_mul_self_eq_zero (a := p.a - q.a) (b := p.b - q.b)).1 hzero.symm
  cases p
  cases q
  simp only [Vec2.mk.injEq]
  exact ⟨sub_eq_zero.1 ha, sub_eq_zero.1 hb⟩

/-! ## The number of chords -/

/-- The least number of chords, at least one, of a sweep of which a whole turn has `D`. -/
noncomputable def leastCount (D s : ℝ) : ℕ := max 1 ⌈D * |s| / (Real.pi + Real.pi)⌉₊

/-- The count of chords is the least one for which no chord turns further than allowed. -/
theorem isLeast_leastCount {D : ℝ} (hD : 0 < D) (s : ℝ) : IsLeast {n : ℕ | 1 ≤ n ∧ |s| / n ≤ 2 * Real.pi / D} (leastCount D s) := by
  have hfine : ∀ n : ℕ, 1 ≤ n → (|s| / n ≤ 2 * Real.pi / D ↔ D * |s| / (Real.pi + Real.pi) ≤ n) := by
    intro n hn
    have hn' : (0 : ℝ) < n := Nat.cast_pos.2 hn
    rw [div_le_div_iff₀ hn' hD, ← two_mul, div_le_iff₀ Real.two_pi_pos, mul_comm |s| D, mul_comm (2 * Real.pi) (n : ℝ)]
  constructor
  · have hone : 1 ≤ leastCount D s := le_max_left 1 _
    refine ⟨hone, (hfine _ hone).2 ((Nat.le_ceil _).trans ?_)⟩
    exact Nat.cast_le.2 (le_max_right 1 _)
  · rintro n ⟨hn, hshare⟩
    exact max_le hn (Nat.ceil_le.2 ((hfine n hn).1 hshare))

/-- A sweep of at most a whole turn has no more chords than a whole turn. -/
theorem leastCount_le_ceil {D s : ℝ} (hD : 0 < D) (hs : |s| ≤ 2 * Real.pi) : leastCount D s ≤ ⌈D⌉₊ := by
  refine max_le (Nat.ceil_pos.2 hD) (Nat.ceil_le_ceil ?_)
  rw [← two_mul, div_le_iff₀ Real.two_pi_pos]
  exact mul_le_mul_of_nonneg_left hs hD.le

-- Sums, products and numerals are those of the field, and not those of its scalars.
attribute [local instance] Scalar.exact
attribute [local instance (10)] Scalar.toAdd Scalar.toSub Scalar.toMul Scalar.toDiv Scalar.toNeg Scalar.toOfScientific

/-- The value of an amount of chords that is raised to one. -/
theorem value_atLeastOne (divisions : Amount ℝ) : divisions.atLeastOne.value = .ok divisions.perTurn := by
  cases divisions with
  | whole d => rfl
  | real x =>
    have hone : (1.0 : ℝ) = 1 := by norm_num
    rw [Amount.atLeastOne, Amount.perTurn, hone]
    by_cases h : 1 < x
    · rw [if_pos ((Scalar.less_iff 1 x).2 h), max_eq_right h.le]
      rfl
    · rw [if_neg (mt (Scalar.less_iff 1 x).1 h), max_eq_left (not_lt.1 h)]
      exact congrArg Except.ok Int.cast_one

/-- The program computes the least count. -/
theorem chordCount_eq (s : ℝ) (divisions : Amount ℝ) : chordCount s divisions = .ok (leastCount divisions.perTurn s) := by
  have hwhole : (fullTurn : ℝ) = Real.pi + Real.pi := by
    change (2.0 : ℝ) * Real.pi = _
    norm_num [two_mul]
  have hceil : ∀ x : ℝ, (max 1 ⌈x⌉).toNat = max 1 ⌈x⌉₊ := fun x => by
    rw [← Int.ceil_toNat]
    omega
  rw [chordCount, value_atLeastOne]
  simp only [bind, Except.bind, pure, Except.pure, Scalar.ceiling, Scalar.magnitude, Elementary.ceiling, hwhole, hceil, leastCount]

/-! ## The sweep as a turn -/

/-- The sign of a sweep is that of its turn. -/
theorem sweep_eq_sign_mul_abs (turn : Turn) (p q c : Vec2 ℝ) : sweep turn p q c = turn.sign * |sweep turn p q c| := by
  by_cases h : Coincident p q
  · rw [abs_sweep_whole turn c h, sweep_eq, if_pos ((coincident_iff p q).2 h)]
  · rw [abs_sweep turn c h, sweep_eq, if_neg (mt (coincident_iff p q).1 h)]

/-- The sweep is the end angle less the start angle, up to whole turns. -/
theorem coe_sweep (turn : Turn) {p q : Vec2 ℝ} (c : Vec2 ℝ) (h : ¬ Coincident p q) :
    ((sweep turn p q c : ℝ) : Real.Angle) = (heading c q - heading c p : ℝ) := by
  rw [sweep_eq, if_neg (mt (coincident_iff p q).1 h)]
  exact coe_sign_mul_around turn _

/-! ## The chords -/

/-- A chord that does not reach the end of the arc: it ends on the circle. -/
noncomputable def innerChord (turn : Turn) (p q c : Vec2 ℝ) (n k : ℕ) : Chord ℝ :=
  ⟨polar c (distance c p) (heading c p + sweep turn p q c * ((k + 1 : ℕ) / n)), (k + 1 : ℕ) / n⟩

/-- The chords of an arc split into some number of them. -/
noncomputable def chordsOf (turn : Turn) (p q c : Vec2 ℝ) (n : ℕ) : List (Chord ℝ) :=
  (List.range (n - 1)).map (innerChord turn p q c n) ++ [⟨q, 1⟩]

/-- There are as many chords as asked for. -/
theorem length_chordsOf (turn : Turn) (p q c : Vec2 ℝ) {n : ℕ} (hn : 1 ≤ n) : (chordsOf turn p q c n).length = n := by
  rw [chordsOf, List.length_append, List.length_map, List.length_range, List.length_singleton, Nat.sub_add_cancel hn]

/-- The program computes the chords written out, with the least count. -/
theorem tessellate_eq (turn : Turn) (start stop center : Vec2 ℝ) (divisions : Amount ℝ) :
    tessellate turn start stop center divisions =
      .ok (chordsOf turn start stop center (leastCount divisions.perTurn (sweep turn start stop center))) := by
  have hone : (1.0 : ℝ) = 1 := by norm_num
  rw [tessellate]
  simp only [chordCount_eq, bind, Except.bind, pure, Except.pure, hone]
  rfl

/-- The fractions at which chords end grow in equal steps. -/
theorem pairwise_fractions {n : ℕ} (hn : 0 < n) : ((List.range n).map fun k => ((k + 1 : ℕ) : ℝ) / n).Pairwise (· < ·) := by
  rw [List.pairwise_map]
  refine List.pairwise_lt_range.imp fun hlt => ?_
  rw [div_lt_div_iff_of_pos_right (Nat.cast_pos.2 hn), Nat.cast_lt]
  omega

/-- The fractions of the chords are the multiples of one part up to the whole. -/
theorem map_fraction_chordsOf (turn : Turn) (p q c : Vec2 ℝ) {n : ℕ} (hn : 0 < n) :
    (chordsOf turn p q c n).map (·.fraction) = (List.range n).map fun k => ((k + 1 : ℕ) : ℝ) / n := by
  obtain ⟨m, rfl⟩ : ∃ m, n = m + 1 := ⟨n - 1, by omega⟩
  have hlast : ((m + 1 : ℕ) : ℝ) / (m + 1 : ℕ) = 1 := div_self (Nat.cast_ne_zero.2 m.succ_ne_zero)
  rw [chordsOf, Nat.add_sub_cancel, List.range_succ, List.map_append, List.map_append, List.map_map, List.map_singleton, List.map_singleton, hlast]
  rfl

/-- The ends of the inner chords lie on the circle, in the directions that their fractions give. -/
theorem innerChord_on_circle (turn : Turn) {p c : Vec2 ℝ} (q : Vec2 ℝ) (h : p ≠ c) (n k : ℕ) :
    distance c (innerChord turn p q c n k).point = distance c p ∧
      (heading c (innerChord turn p q c n k).point : Real.Angle) =
        (heading c p + sweep turn p q c * (innerChord turn p q c n k).fraction : ℝ) :=
  ⟨distance_polar c (distance_pos_of_ne h).le _, heading_polar c (distance_pos_of_ne h) _⟩

/-- The sweep of an arc has the sign of its turn and leads from the start angle to the end angle, or once around. The arc has as few chords
as keep each within its share of a whole turn; they end at equal steps of the sweep, on the circle, and the last one at the end. -/
theorem arc_is_split (turn : Turn) {start center : Vec2 ℝ} (stop : Vec2 ℝ) (divisions : Amount ℝ) (h : start ≠ center) :
    ∃ s chords, sweep turn start stop center = s ∧ tessellate turn start stop center divisions = .ok chords ∧
      (turn = .clockwise → -(2 * Real.pi) ≤ s ∧ s < 0) ∧ (turn = .counterclockwise → 0 < s ∧ s ≤ 2 * Real.pi) ∧
      (Coincident start stop → |s| = 2 * Real.pi) ∧
      (¬ Coincident start stop → (s : Real.Angle) = (heading center stop - heading center start : ℝ)) ∧
      IsLeast {n : ℕ | 1 ≤ n ∧ |s| / n ≤ 2 * Real.pi / divisions.perTurn} chords.length ∧
      chords.length ≤ ⌈divisions.perTurn⌉₊ ∧ (∀ d, divisions = .whole d → (chords.length : ℤ) ≤ max 1 d) ∧
      chords.map (·.fraction) = (List.range chords.length).map (fun k => ((k + 1 : ℕ) : ℝ) / chords.length) ∧
      (chords.map (·.fraction)).Pairwise (· < ·) ∧
      (∀ chord ∈ chords.dropLast, distance center chord.point = distance center start ∧
        (heading center chord.point : Real.Angle) = (heading center start + s * chord.fraction : ℝ)) ∧
      chords.getLast? = some ⟨stop, 1⟩ := by
  obtain ⟨hpos, hle⟩ := abs_sweep_bounds turn start stop center
  have hsign := sweep_eq_sign_mul_abs turn start stop center
  have hleast := isLeast_leastCount divisions.perTurn_pos (sweep turn start stop center)
  have hceil := leastCount_le_ceil divisions.perTurn_pos hle
  have hfractions := map_fraction_chordsOf turn start stop center hleast.1.1
  have hlength := length_chordsOf turn start stop center hleast.1.1
  refine ⟨_, _, rfl, tessellate_eq turn start stop center divisions, ?_, ?_, abs_sweep_whole turn center, coe_sweep turn center, ?_⟩
  · rintro rfl
    rw [Turn.sign] at hsign
    constructor <;> linarith
  · rintro rfl
    rw [Turn.sign, one_mul] at hsign
    exact ⟨hsign ▸ hpos, hsign ▸ hle⟩
  generalize leastCount divisions.perTurn (sweep turn start stop center) = n at hleast hceil hfractions hlength ⊢
  rw [hlength, hfractions]
  refine ⟨hleast, hceil, ?_, rfl, pairwise_fractions hleast.1.1, ?_, List.getLast?_concat⟩
  · rintro d rfl
    have hwhole : ⌈(Amount.whole d : Amount ℝ).perTurn⌉₊ = (max 1 d).toNat := by
      rw [← Int.ceil_toNat, Amount.perTurn, Int.ceil_intCast]
    omega
  · rw [chordsOf, List.dropLast_concat]
    intro chord hchord
    obtain ⟨k, -, rfl⟩ := List.mem_map.1 hchord
    exact innerChord_on_circle turn stop h n k

/-- Clockwise from the first axis to the second one is three quarters of a turn. -/
theorem sweep_three_quarters : sweep .clockwise (⟨1, 0⟩ : Vec2 ℝ) ⟨0, 1⟩ ⟨0, 0⟩ = -(3 * Real.pi / 2) := by
  have hstart : heading ⟨0, 0⟩ ⟨1, 0⟩ = 0 := by
    rw [heading, sub_zero, sub_zero]
    exact Complex.arg_one
  have hstop : heading ⟨0, 0⟩ ⟨0, 1⟩ = Real.pi / 2 := by
    rw [heading, sub_zero, sub_zero]
    exact Complex.arg_I
  have hapart : ¬ Coincident (⟨1, 0⟩ : Vec2 ℝ) ⟨0, 1⟩ := by
    rw [Coincident, Coincide]
    norm_num
  rw [sweep_eq, if_neg (mt (coincident_iff _ _).1 hapart), hstart, hstop, Turn.sign, around, if_pos (by linarith [Real.pi_pos])]
  ring

/-- Three quarters of a turn, clockwise, at eight chords to the turn have six chords. -/
theorem arc_is_split_three_quarters :
    ∃ chords, (⟨1, 0⟩ : Vec2 ℝ) ≠ ⟨0, 0⟩ ∧ tessellate .clockwise (⟨1, 0⟩ : Vec2 ℝ) ⟨0, 1⟩ ⟨0, 0⟩ (.whole 8) = .ok chords ∧
      chords.length = 6 ∧ chords.getLast? = some ⟨⟨0, 1⟩, 1⟩ := by
  have hne : (⟨1, 0⟩ : Vec2 ℝ) ≠ ⟨0, 0⟩ := fun h => one_ne_zero (Vec2.mk.inj h).1
  obtain ⟨s, chords, hs, hchords, -, -, -, -, hleast, -, -, -, -, -, hlast⟩ :=
    arc_is_split .clockwise ⟨0, 1⟩ (.whole 8) hne
  have habs : |s| = 3 * Real.pi / 2 := by
    rw [← hs, sweep_three_quarters, abs_neg, abs_of_pos (by positivity)]
  have hD : (Amount.whole 8 : Amount ℝ).perTurn = 8 := by
    rw [Amount.perTurn]
    norm_num
  rw [habs, hD] at hleast
  refine ⟨chords, hne, hchords, hleast.unique ⟨⟨by norm_num, ?_⟩, ?_⟩, hlast⟩
  · push_cast
    linarith
  · rintro n ⟨hn, hshare⟩
    have hn' : (0 : ℝ) < n := Nat.cast_pos.2 hn
    rw [div_le_iff₀ hn'] at hshare
    have hcount : (6 : ℝ) ≤ n := by
      refine le_of_mul_le_mul_left ?_ (show 0 < Real.pi / 4 by positivity)
      linarith
    exact_mod_cast hcount

end Arc
end ToolpathViewer
