import ToolpathViewer.Viewport.Basic

/-!
# Painting

The calls that draw a scene: the background, the grid and the axes, the path with its rapid motions dashed, and the ends of the
selection.
-/

namespace ToolpathViewer.Viewport

/-- Clears the canvas and turns space so that the camera sees it. -/
def aim (c : Camera) (background : Color) : List Draw := [
  .clearColor background, .clear, .matrix .modelview, .loadIdentity,
  .translate ⟨c.panX, c.panY, c.zoom⟩, .rotate c.tilt ⟨1.0, 0.0, 0.0⟩, .rotate c.turn ⟨0.0, 0.0, 1.0⟩,
  .translate (c.center.map fun x => -x)]

/-- The lines of the grid at a distance from the middle. -/
def gridLines (extent offset : Float) : List Draw := [
  .vertex ⟨offset, -extent, 0.0⟩, .vertex ⟨offset, extent, 0.0⟩,
  .vertex ⟨-extent, offset, 0.0⟩, .vertex ⟨extent, offset, 0.0⟩]

/-- The grid, as wide as the path. -/
def grid (c : Camera) : List Draw :=
  let extent := Scalar.larger 50.0 c.fit
  let step := extent / 10.0
  [.lineWidth 1.0, .color (Vec3.fill 0.3), .start .lines] ++
    (List.range 21).flatMap (fun (i : Nat) => gridLines extent (Float.ofInt ((i : Int) - 10) * step)) ++ [.finish]

/-- An axis in its color. -/
def axis (c : Color) (tip : Vec3 Float) : List Draw := [.color c, .vertex (Vec3.fill 0.0), .vertex tip]

/-- The three axes. -/
def axes (c : Camera) : List Draw :=
  let length := Scalar.larger 15.0 (c.fit / 5.0)
  [.lineWidth 3.0, .start .lines] ++ axis ⟨1.0, 0.0, 0.0⟩ ⟨length, 0.0, 0.0⟩ ++ axis ⟨0.0, 1.0, 0.0⟩ ⟨0.0, length, 0.0⟩ ++
    axis ⟨0.0, 0.0, 1.0⟩ ⟨0.0, 0.0, length⟩ ++ [.finish]

/-- The ends of a segment in its color. -/
def segment (p : Segment × Color) : List Draw := [.color p.2, .vertex p.1.start, .color p.2, .vertex p.1.stop]

/-- Segments as lines. -/
def segments (ps : List (Segment × Color)) : List Draw :=
  if ps.isEmpty then [] else [.start .lines] ++ ps.flatMap segment ++ [.finish]

/-- The path: feed motions solid, and rapid ones dashed. -/
def path (s : Scene) (showRapid : Bool) : List Draw :=
  let all := s.segments.toList.zip s.colors.toList
  let rapid (p : Segment × Color) : Bool := p.1.command == some .rapid
  [.lineWidth 2.5] ++ segments (all.filter (!rapid ·)) ++
    if showRapid then
      [.lineWidth 2.0, .stipple 1 0xAAAA, .enable .lineStipple] ++ segments (all.filter rapid) ++ [.disable .lineStipple]
    else []

/-- The ends of the selection. -/
def markers (s : Scene) : List Draw :=
  match s.markers? with
  | none => []
  | some (start, stop) => [
    .disable .depthTest, .pointSize 8.0, .start .points, .color (s.theme.color .feed), .vertex start,
    .color (s.theme.color .rapid), .vertex stop, .finish, .enable .depthTest]

/-- The calls that draw a scene. -/
def picture (v : Viewport) (s : Scene) : List Draw :=
  aim v.camera (s.theme.color .background) ++ (if v.showGrid then grid v.camera else []) ++
    (if v.showAxes then axes v.camera else []) ++ path s v.showRapid ++ markers s

/-- Paints a scene, and remembers the window for clicks. -/
def paint (s : Scene) : Call Unit := do
  let v ← Step.get
  Step.set { v with painted := some v.canvas.windowHeight }
  drawAll (v.picture s)

end ToolpathViewer.Viewport
