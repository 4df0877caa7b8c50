import ToolpathViewer.Proofs.Geometry.Ordering
import ToolpathViewer.Proofs.Scene.Consistency

/-!
# What a ray hits

A ray is tested against one segment after the other, and the best of those within the threshold is kept. `Best` says what is kept behind
any number of segments: the one with the least `key`, which puts segments in order by depth, then by distance, then by index. The hit is
the best of all segments, as they stand in the row of positions.
-/

namespace ToolpathViewer

/-- How deep and how far away the approach is can be told in numbers. -/
structure Ray.Approach.Finite (a : Ray.Approach Float) : Prop where
  distance : a.distance.isFinite = true
  depth : a.depth.isFinite = true

namespace Scene

open FloatScalar

/-! ## Segments in order -/

/-- The ray passes no farther away than the threshold. A threshold that is no number keeps nothing out. -/
def Within (threshold : Float) (a : Ray.Approach Float) : Prop := a.distance ≤ threshold ∨ threshold.isNaN = true

/-- The order of segments, with the approach of a ray to each: by depth, at one depth by distance, and at one distance by index. -/
def Precedes (p q : Ray.Approach Float × Nat) : Prop :=
  p.1.depth < q.1.depth ∨
    (p.1.depth == q.1.depth) = true ∧
      (p.1.distance < q.1.distance ∨ (p.1.distance == q.1.distance) = true ∧ p.2 ≤ q.2)

/-- The place of a segment in the order of segments. -/
def key (p : Ray.Approach Float × Nat) : (ℤ ×ₗ ℤ ×ₗ ℤ) ×ₗ (ℤ ×ₗ ℤ ×ₗ ℤ) ×ₗ ℕ :=
  toLex (rank p.1.depth, toLex (rank p.1.distance, p.2))

variable {threshold : Float} {a b : Ray.Approach Float} {i j n : Nat}

/-- One approach precedes another when its key is smaller. -/
theorem precedes_iff (ha : a.Finite) (hb : b.Finite) : Precedes (a, i) (b, j) ↔ key (a, i) ≤ key (b, j) := by
  have hdepth := isNaN_of_isFinite ha.depth
  have hdepth' := isNaN_of_isFinite hb.depth
  have hdistance := isNaN_of_isFinite ha.distance
  have hdistance' := isNaN_of_isFinite hb.distance
  rw [Precedes, key, key, Prod.Lex.toLex_le_toLex, Prod.Lex.toLex_le_toLex, lt_iff_rank hdepth hdepth',
    beq_iff_rank hdepth hdepth', lt_iff_rank hdistance hdistance', beq_iff_rank hdistance hdistance']

/-- An approach is within the threshold unless its distance is beyond it. -/
theorem within_iff (ha : a.Finite) : Within threshold a ↔ ¬threshold < a.distance := by
  rw [Within]
  cases h : threshold.isNaN with
  | true => exact iff_of_true (Or.inr rfl) (not_lt_of_isNaN h _)
  | false =>
    have hdistance := isNaN_of_isFinite ha.distance
    rw [le_iff_rank hdistance h, lt_iff_rank h hdistance, not_lt]
    simp

/-! ## The best of some segments -/

/-- What is kept behind the first `n` segments: nothing when none is within the threshold, else the one that precedes the others. -/
inductive Best (threshold : Float) (approach : Nat → Ray.Approach Float) (n : Nat) : Candidate → Prop where
  | missed (h : ∀ i < n, ¬Within threshold (approach i)) : Best threshold approach n {}
  | found {i : Nat} (hi : i < n) (hwithin : Within threshold (approach i))
      (hleast : ∀ j < n, Within threshold (approach j) → key (approach i, i) ≤ key (approach j, j)) :
      Best threshold approach n ⟨some i, (approach i).depth, (approach i).distance⟩

variable {approach : Nat → Ray.Approach Float} {c : Candidate}

/-- Any segment within the threshold is better than none. -/
theorem beatenBy_empty (ha : a.Finite) : ({} : Candidate).beatenBy threshold a = true ↔ Within threshold a := by
  rw [within_iff ha, Candidate.beatenBy]
  simp [lt_infinity ha.depth]

/-- A later segment is better than the candidate when it is within the threshold and comes before it in the order. -/
theorem beatenBy_later (threshold : Float) (ha : a.Finite) (hb : b.Finite) (h : i < j) :
    (Candidate.mk (some i) a.depth a.distance).beatenBy threshold b = true ↔
      Within threshold b ∧ key (b, j) < key (a, i) := by
  have hdepth := isNaN_of_isFinite ha.depth
  have hdepth' := isNaN_of_isFinite hb.depth
  have hdistance := isNaN_of_isFinite ha.distance
  have hdistance' := isNaN_of_isFinite hb.distance
  rw [within_iff hb, Candidate.beatenBy, key, key, Prod.Lex.toLex_lt_toLex, Prod.Lex.toLex_lt_toLex,
    ← lt_iff_rank hdepth' hdepth, ← beq_iff_rank hdepth' hdepth, ← lt_iff_rank hdistance' hdistance]
  simp [h.not_gt]

/-- One more segment is considered. -/
theorem Best.step (h : Best threshold approach n c) (hfinite : ∀ i ≤ n, (approach i).Finite) :
    Best threshold approach (n + 1)
      (if c.beatenBy threshold (approach n) then ⟨some n, (approach n).depth, (approach n).distance⟩ else c) := by
  have hn := hfinite n le_rfl
  cases h with
  | missed h =>
    split
    · next hbeaten =>
      refine .found n.lt_succ_self ((beatenBy_empty hn).1 hbeaten) fun j hj hwithin => ?_
      rcases Nat.lt_succ_iff_lt_or_eq.1 hj with hj | rfl
      · exact absurd hwithin (h j hj)
      · exact le_rfl
    · next hbeaten =>
      refine .missed fun j hj hwithin => ?_
      rcases Nat.lt_succ_iff_lt_or_eq.1 hj with hj | rfl
      · exact h j hj hwithin
      · exact hbeaten ((beatenBy_empty hn).2 hwithin)
  | @found i hi hwithin hleast =>
    have hbeats := beatenBy_later threshold (hfinite i hi.le) hn hi
    split
    · next hbeaten =>
      obtain ⟨hwithin', hlt⟩ := hbeats.1 hbeaten
      refine .found n.lt_succ_self hwithin' fun j hj hj' => ?_
      rcases Nat.lt_succ_iff_lt_or_eq.1 hj with hj | rfl
      · exact hlt.le.trans (hleast j hj hj')
      · exact le_rfl
    · next hbeaten =>
      refine .found (Nat.lt_succ_of_lt hi) hwithin fun j hj hj' => ?_
      rcases Nat.lt_succ_iff_lt_or_eq.1 hj with hj | rfl
      · exact hleast j hj hj'
      · exact not_lt.1 fun hlt => hbeaten (hbeats.2 ⟨hj', hlt⟩)

variable {beam : Beam}

/-- A segment that can be approached takes the place of the candidate that it beats. -/
theorem consider_of_ok {g : Segment} (h : Ray.approach beam.origin beam.direction g.start g.stop = .ok a) :
    c.consider beam threshold (g, n) =
      .ok (if c.beatenBy threshold a then ⟨some n, a.depth, a.distance⟩ else c) := by
  rw [Candidate.consider, h]
  rfl

/-- The best of some segments and the best of all, when all that are left have been considered. -/
theorem Best.pass (beam : Beam) (threshold : Float) {gs : List Segment}
    (hgs : ∀ k g, gs[k]? = some g →
      Ray.approach beam.origin beam.direction g.start g.stop = .ok (approach (n + k)))
    (hfinite : ∀ i < n + gs.length, (approach i).Finite) (h : Best threshold approach n c) :
    ∃ c', (gs.zipIdx n).foldlM (Candidate.consider beam threshold) c = .ok c' ∧ Best threshold approach (n + gs.length) c' := by
  induction gs generalizing n c with
  | nil => exact ⟨c, rfl, h⟩
  | cons g gs ih =>
    rw [List.length_cons] at hfinite ⊢
    obtain ⟨c', hc', hbest⟩ := ih (n := n + 1)
      (fun k g' hk => by
        rw [Nat.add_right_comm, Nat.add_assoc]
        exact hgs (k + 1) g' hk)
      (fun i hi => hfinite i (by omega)) (h.step fun i hi => hfinite i (by omega))
    refine ⟨c', ?_, ?_⟩
    · rw [List.zipIdx_cons, List.foldlM_cons, consider_of_ok (hgs 0 g rfl)]
      exact hc'
    · rwa [Nat.add_right_comm, Nat.add_assoc] at hbest

/-- A ray without direction changes no candidate. -/
theorem foldlM_consider_of_short (hshort : (beam.direction.dot beam.direction).sqrt < 1e-12) (gs : List (Segment × Nat)) :
    gs.foldlM (Candidate.consider beam threshold) {} = .ok {} := by
  have hnone : ({} : Candidate).beatenBy threshold ⟨1.0 / 0.0, 1.0 / 0.0⟩ = false := by
    have hself : ((1.0 / 0.0 : Float) < 1.0 / 0.0) = False := by
      rw [eq_iff_iff, iff_false]
      decide +kernel
    simp [Candidate.beatenBy, hself]
  induction gs with
  | nil => rfl
  | cons p gs ih =>
    have happroach : Ray.approach beam.origin beam.direction p.1.start p.1.stop = .ok ⟨1.0 / 0.0, 1.0 / 0.0⟩ :=
      if_pos (decide_eq_true hshort)
    rw [List.foldlM_cons, consider_of_ok happroach, hnone]
    exact ih

/-! ## The segments of a scene -/

/-- The ray approaches a segment so, which is given by its six numbers in the row of positions. -/
def Approaches (s : Scene) (beam : Beam) (i : Nat) (a : Ray.Approach Float) : Prop :=
  ∃ p q : Vec3 Float, (s.positions.drop (6 * i)).take 6 = p.toList ++ q.toList ∧
    Ray.approach beam.origin beam.direction p q = .ok a

variable {s : Scene}

/-- How the ray approaches a segment of the scene. -/
theorem Approaches.approach_eq (h : s.Approaches beam i a) {g : Segment} (hg : s.segments.toList[i]? = some g) :
    Ray.approach beam.origin beam.direction g.start g.stop = .ok a := by
  obtain ⟨⟨x, y, z⟩, ⟨x', y', z'⟩, hrow, happroach⟩ := h
  have hrow' := take_drop_flatMap (k := 6) (f := fun g : Segment => g.start.toList ++ g.stop.toList) (fun _ => rfl) hg
  have hsame : [g.start.x, g.start.y, g.start.z, g.stop.x, g.stop.y, g.stop.z] = [x, y, z, x', y', z'] := hrow'.symm.trans hrow
  simp only [List.cons.injEq, and_true] at hsame
  obtain ⟨rfl, rfl, rfl, rfl, rfl, rfl⟩ := hsame
  exact happroach

/-- A test of all segments keeps the best of them. -/
theorem exists_best (threshold : Float) (hs : s.segments = (segmentsOf s.movements.toList).toArray)
    (happroach : ∀ i < s.segmentCount, s.Approaches beam i (approach i) ∧ (approach i).Finite) :
    ∃ c : Candidate, s.hitTest beam threshold = .ok c.index ∧ Best threshold approach s.segmentCount c := by
  have hlength : s.segments.toList.length = s.segmentCount := size_segments hs
  obtain ⟨c, hc, hbest⟩ := Best.pass beam threshold (n := 0)
    (fun k g (hg : s.segments.toList[k]? = some g) => by
      have hk := (List.getElem?_eq_some_iff.1 hg).1
      rw [Nat.zero_add]
      exact (happroach k (hlength ▸ hk)).1.approach_eq hg)
    (fun i hi => (happroach i (by rwa [Nat.zero_add, hlength] at hi)).2) (.missed fun i hi => absurd hi i.not_lt_zero)
  rw [Nat.zero_add, hlength] at hbest
  refine ⟨c, ?_, hbest⟩
  rw [hitTest, hc]
  rfl

/-- In a scene after any calls, a ray that approaches every segment at a finite distance and depth hits nothing when no segment is within
the threshold, and else, of the segments within the threshold, the one that comes before all others by depth, distance and index. A ray
without direction hits nothing, whatever the threshold. -/
theorem hit_is_least_within {codes : List Json} {limit divisions theme : Json} {s₀ : Scene}
    (hmake : make codes limit divisions theme = .ok s₀) (calls : List Call) {s : Scene}
    (hs : s = (calls.foldl History.step (History.start s₀)).scene) (beam : Beam) (threshold : Float) :
    (∀ approach : Nat → Ray.Approach Float,
      (∀ i < s.segmentCount, s.Approaches beam i (approach i) ∧ (approach i).Finite) →
        ∃ hit, s.hitTest beam threshold = .ok hit ∧
          (hit = none ↔ ∀ i < s.segmentCount, ¬Within threshold (approach i)) ∧
          ∀ i, hit = some i → i < s.segmentCount ∧ Within threshold (approach i) ∧
            ∀ j < s.segmentCount, Within threshold (approach j) → Precedes (approach i, i) (approach j, j)) ∧
      ((beam.direction.dot beam.direction).sqrt < 1e-12 → s.hitTest beam threshold = .ok none) := by
  have hsegments : s.segments = (segmentsOf s.movements.toList).toArray :=
    hs ▸ ((History.consistent_start hmake).run calls).presents.segments_eq
  constructor
  · intro approach happroach
    obtain ⟨c, hhit, hbest⟩ := exists_best threshold hsegments happroach
    refine ⟨c.index, hhit, ?_⟩
    cases hbest with
    | missed h => exact ⟨iff_of_true rfl h, fun i hi => by cases hi⟩
    | @found i hi hwithin hleast =>
      refine ⟨iff_of_false (fun h => by cases h) fun h => h i hi hwithin, fun i' hi' => ?_⟩
      obtain rfl := Option.some.inj hi'
      refine ⟨hi, hwithin, fun j hj hj' => ?_⟩
      exact (precedes_iff (happroach i hi).2 (happroach j hj).2).2 (hleast j hj hj')
  · intro hshort
    rw [hitTest, foldlM_consider_of_short hshort]
    rfl

/-- A path around a corner. -/
def corner : Scene := (({} : Scene).load "G0 X10 Y0\nG1 X10 Y10").scene

/-- A ray straight down onto the corner. -/
def downward : Beam := ⟨⟨10, 0, 10⟩, ⟨0, 0, -1⟩⟩

/-- The corner has two segments. -/
theorem segmentCount_corner : corner.segmentCount = 2 := by decide +kernel

/-- The corner belongs to both segments. -/
theorem approaches_corner :
    ∀ i < corner.segmentCount, corner.Approaches downward i ⟨0.0, 10.0⟩ ∧ Ray.Approach.Finite ⟨0.0, 10.0⟩ := by
  intro i hi
  rw [segmentCount_corner] at hi
  refine ⟨?_, by decide +kernel, by decide +kernel⟩
  interval_cases i
  · exact ⟨⟨0, 0, 0⟩, ⟨10, 0, 0⟩, by decide +kernel, by decide +kernel⟩
  · exact ⟨⟨10, 0, 0⟩, ⟨10, 10, 0⟩, by decide +kernel, by decide +kernel⟩

/-- Of the two segments that the ray onto the corner comes equally near to, the first is hit. -/
theorem hit_is_least_within_corner :
    corner.hitTest downward 0.5 = .ok (some 0) ∧
      corner.hitTest { downward with direction := ⟨0, 0, 0⟩ } (1.0 / 0.0) = .ok none := by
  have hmake : make [] .null (.int 64) (.str "dark") = .ok {} := rfl
  have hall := hit_is_least_within hmake [.load "G0 X10 Y0\nG1 X10 Y10" none] (s := corner) rfl
  have hpos : 0 < corner.segmentCount := segmentCount_corner ▸ Nat.two_pos
  have hwithin : Within 0.5 ⟨0.0, 10.0⟩ := Or.inl (by decide +kernel)
  refine ⟨?_, (hall _ _).2 (by decide +kernel)⟩
  obtain ⟨hit, hhit, hnone, hsome⟩ := (hall downward 0.5).1 (fun _ => ⟨0.0, 10.0⟩) approaches_corner
  cases hit with
  | none => exact absurd hwithin (hnone.1 rfl 0 hpos)
  | some i =>
    obtain hdepth | ⟨-, hdistance | ⟨-, hle⟩⟩ := (hsome i rfl).2.2 0 hpos hwithin
    · exact absurd hdepth (show ¬(10.0 : Float) < 10.0 by decide +kernel)
    · exact absurd hdistance (show ¬(0.0 : Float) < 0.0 by decide +kernel)
    · obtain rfl := Nat.le_zero.1 hle
      exact hhit

/-- No distance is below a threshold that is no number, but such a threshold keeps no segment out. -/
theorem hit_without_threshold :
    (∀ i < corner.segmentCount, corner.Approaches downward i ⟨0.0, 10.0⟩ ∧ Ray.Approach.Finite ⟨0.0, 10.0⟩) ∧
      ¬(0.0 : Float) ≤ 0.0 / 0.0 ∧ corner.hitTest downward (0.0 / 0.0) = .ok (some 0) :=
  ⟨approaches_corner, by decide +kernel, by decide +kernel⟩

end Scene

end ToolpathViewer
