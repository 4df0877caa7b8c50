import ToolpathViewer.Scene.Basic

/-!
# Framing the path

The box around the path, its center and its size.
-/

namespace ToolpathViewer.Scene

/-- Two opposite corners of a box. -/
structure Box where
  low : Vec3 Float
  high : Vec3 Float

/-- The box around all movements of the path; without segments, a box around the origin. -/
def bounds (s : Scene) : Box :=
  match s.movements.toList with
  | m :: n :: rest =>
    let points := (n :: rest).map (·.position)
    ⟨points.foldl (Vec3.zipWith Scalar.smaller) m.position, points.foldl (Vec3.zipWith Scalar.larger) m.position⟩
  | _ => ⟨Vec3.fill (-1.0), Vec3.fill 1.0⟩

/-- The center of the path and the length of the diagonal of its box. -/
structure Frame where
  center : Vec3 Float
  size : Float

/-- The frame of the path. -/
def frame (s : Scene) : Except Fault Frame := do
  let box := s.bounds
  return ⟨Vec3.zipWith (fun a b => (a + b) / 2.0) box.low box.high, ← Vec3.distance? box.high box.low⟩

/-- How near to a segment a click has to be at a magnification; without one, at none. -/
def clickThreshold (s : Scene) (zoom : Float := 1.0) : Except Fault Float := do
  return (← s.frame).size / 100.0 / (if zoom == 0.0 then 1.0 else zoom)

end ToolpathViewer.Scene
