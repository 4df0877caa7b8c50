import ToolpathViewer.Geometry.Ray
import ToolpathViewer.Scene.Selection

/-!
# Picking with a ray

A click in the view is a ray. Among the segments that it passes within a threshold, the one nearest to the viewer is hit; of two
that are equally near, the one that the ray passes more closely, and of two that are alike in this too, the first.
-/

namespace ToolpathViewer.Scene

/-- A ray of the view: where it starts and where it goes. -/
structure Beam where
  origin : Vec3 Float
  direction : Vec3 Float

/-- The nearest segment so far. -/
structure Candidate where
  index : Option Nat := none
  depth : Float := 1.0 / 0.0
  distance : Float := 1.0 / 0.0

/-- The approach is within the threshold and better than the candidate. -/
def Candidate.beatenBy (c : Candidate) (threshold : Float) (a : Ray.Approach Float) : Bool :=
  !(threshold < a.distance) && (a.depth < c.depth || (a.depth == c.depth && a.distance < c.distance))

/-- The better of a candidate and a segment. -/
def Candidate.consider (beam : Beam) (threshold : Float) (c : Candidate) (p : Segment × Nat) : Except Fault Candidate := do
  let a ← Ray.approach beam.origin beam.direction p.1.start p.1.stop
  return if c.beatenBy threshold a then ⟨some p.2, a.depth, a.distance⟩ else c

/-- The segment that a ray hits. -/
def hitTest (s : Scene) (beam : Beam) (threshold : Float) : Except Fault (Option Nat) := do
  return (← s.segments.toList.zipIdx.foldlM (Candidate.consider beam threshold) {}).index

/-- A click in the view. A hit selects the whole line of the segment and names the line; a miss puts the scrubber and the
selection on the last segment. -/
def click (s : Scene) (beam : Beam) (threshold : Float) : Except Fault (Option Nat) × Scene :=
  match s.hitTest beam threshold with
  | .error fault => (.error fault, s)
  | .ok none =>
    let n := s.segmentCount
    (.ok none, if n = 0 then s else { s with scrubber := n - 1 }.select n n)
  | .ok (some i) =>
    match s.lineOfSegment? i with
    | none => (.ok none, s)
    | some line =>
      let s :=
        match s.spanOfLine? line with
        | none => s
        | some span => s.select span.first span.last
      (.ok (some line), { s with scrubber := i })

end ToolpathViewer.Scene
