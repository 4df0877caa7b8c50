import ToolpathViewer.Scene.Framing
import ToolpathViewer.Scene.Picking
import ToolpathViewer.Step
import ToolpathViewer.Viewport.Draw

/-!
# The viewport

The view of the scene in space: a camera that looks at a center from a distance, the canvas that it draws on, and what of the
scene it shows. Looking at the whole path puts the camera back to where it started, at a distance that fits the path.
-/

namespace ToolpathViewer

/-- A place on the canvas, in its own units from its upper left corner. -/
structure Pixel where
  x : Int
  y : Int
deriving DecidableEq, Repr

/-- Where the camera stands. -/
structure Camera where
  center : Vec3 Float := Vec3.fill 0.0
  /-- The distance from which the whole path can be seen. -/
  fit : Float := 30.0
  /-- The distance from the center, below zero. -/
  zoom : Float := -30.0
  tilt : Float := -60.0
  turn : Float := -30.0
  panX : Float := 0.0
  panY : Float := 0.0

/-- How much nearer the camera is than the distance that fits. -/
def Camera.factor (c : Camera) : Float := c.fit / Scalar.larger c.zoom.abs 1e-6

/-- The surface that is drawn on. -/
structure Canvas where
  width : Int := 640
  height : Int := 480
  /-- The number of pixels to a unit. -/
  ratio : Float := 1.0
  /-- The canvas can be drawn on. -/
  valid : Bool := false
  /-- The height of the window of pixels that is drawn into. -/
  windowHeight : Int := 0
  /-- The point of space that a point of the window, with its depth, was drawn from. -/
  unproject : Vec3 Float → Vec3 Float := id

/-- The viewport. -/
structure Viewport where
  camera : Camera := {}
  canvas : Canvas := {}
  showRapid : Bool := true
  showGrid : Bool := true
  showAxes : Bool := true
  /-- Where the pointer was last. -/
  last : Pixel := ⟨0, 0⟩
  /-- Where the pointer was pressed, while it is. -/
  pressed : Option Pixel := none
  /-- The height of the window at the last painting, if there was one. -/
  painted : Option Int := none

namespace Viewport

/-- What a viewport asks others to do. -/
inductive Effect where
  | draw (d : Draw)
  /-- Paints the canvas anew, some time later. -/
  | repaint
  /-- A click, as a ray into the scene. -/
  | click (beam : Scene.Beam)

/-- A call on a viewport. -/
abbrev Call (α : Type) : Type := Step Effect Viewport α

/-- Makes calls on the graphics library. -/
def drawAll (ds : List Draw) : Call Unit := Step.emitAll (ds.map .draw)

/-- The canvas shall be painted anew. -/
def repaint : Call Unit := Step.emit .repaint

/-- Sets up the graphics library. -/
def setUp : Call Unit := drawAll [.enable .depthTest, .enable .lineSmooth, .enable .blend, .blendByAlpha]

/-- Sets the projection for a window of some width and height. -/
def project (width height : Int) : Call Unit := do
  let v ← Step.get
  if v.canvas.valid then
    let far := Scalar.larger 1000.0 (v.camera.fit * 20.0)
    let aspect := if 0 < height then Float.ofInt width / Float.ofInt height else 1.0
    drawAll [.matrix .projection, .loadIdentity, .perspective 45.0 aspect (far / 100000.0) far]

/-- The integer part of a finite number. -/
def truncate (x : Float) : Except Fault Int :=
  match Decimal.parts x with
  | .nan => .error .notANumber
  | .infinite _ => .error .overflow
  | .finite b => .ok b.truncate

/-- Sets the projection for the canvas. -/
def projectCanvas : Call Unit := do
  let c := (← Step.get).canvas
  let width ← Step.ofExcept (truncate (Float.ofInt c.width * c.ratio))
  let height ← Step.ofExcept (truncate (Float.ofInt c.height * c.ratio))
  project width height

/-- The window has a new size. -/
def resize (width height : Int) : Call Unit := do
  Step.update fun v => { v with canvas := { v.canvas with windowHeight := height } }
  drawAll [.window width height]
  project width height

/-- The camera that sees a whole path. -/
def Camera.framing (f : Scene.Frame) : Camera :=
  let fit := Scalar.larger (f.size * 1.5) 1.0
  { center := f.center, fit, zoom := -fit }

/-- Looks at the whole path. -/
def resetView (s : Scene) : Call Unit := do
  let f ← Step.ofExcept s.frame
  Step.update fun v => { v with camera := Camera.framing f }
  projectCanvas
  repaint

/-- Switches something that is shown on or off. -/
def toggle (what : String) : Call Unit := do
  Step.update fun v =>
    match what with
    | "rapid" => { v with showRapid := !v.showRapid }
    | "grid" => { v with showGrid := !v.showGrid }
    | "axes" => { v with showAxes := !v.showAxes }
    | _ => v
  repaint

end Viewport

end ToolpathViewer
