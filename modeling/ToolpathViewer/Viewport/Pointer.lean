import ToolpathViewer.Viewport.Basic

/-!
# The pointer

Dragging with the left button turns the view, with the right one it moves it, and the wheel brings it nearer. A press and a release
at about the same place are a click, which goes into the scene as a ray.
-/

namespace ToolpathViewer.Viewport

/-- How far the pointer may move during a click. -/
def clickTolerance : Int := 5

/-- The buttons of an event. -/
structure Buttons where
  left : Bool := false
  right : Bool := false
deriving DecidableEq, Repr

/-- The ray from the viewer through a place of the canvas, if it was painted. -/
def beamAt (v : Viewport) (p : Pixel) : Option Scene.Beam :=
  v.painted.map fun height =>
    let x := Float.ofInt p.x * v.canvas.ratio
    let y := Float.ofInt height - Float.ofInt p.y * v.canvas.ratio
    let near := v.canvas.unproject ⟨x, y, 0.0⟩
    ⟨near, near.between (v.canvas.unproject ⟨x, y, 1.0⟩)⟩

/-- A button is pressed. -/
def press (p : Pixel) : Call Unit := Step.update fun v => { v with last := p, pressed := some p }

/-- How far two places are apart along both axes together. -/
def distance (p q : Pixel) : Int := ((p.x - q.x).natAbs + (p.y - q.y).natAbs : Nat)

/-- A button is released. -/
def release (p : Pixel) (b : Buttons) : Call Unit := do
  let v ← Step.get
  if let some q := v.pressed then
    if b == { left := true } && distance p q ≤ clickTolerance then
      if let some beam := v.beamAt p then Step.emit (.click beam)
  Step.update fun v => { v with pressed := none }

/-- The camera after the pointer was dragged over a distance. -/
def dragged (v : Viewport) (b : Buttons) (dx dy : Float) : Camera :=
  let c := v.camera
  if b.left then { c with tilt := c.tilt + dy * 0.5, turn := c.turn + dx * 0.5 }
  else if b.right then
    let scale := c.zoom.abs / Float.ofInt (max v.canvas.height 1)
    { c with panX := c.panX + dx * scale, panY := c.panY - dy * scale }
  else c

/-- The pointer moves. -/
def move (p : Pixel) (b : Buttons) : Call Unit := do
  Step.update fun v =>
    { v with camera := v.dragged b (Float.ofInt (p.x - v.last.x)) (Float.ofInt (p.y - v.last.y)), last := p }
  repaint

/-- How much farther the camera is after the wheel was turned. -/
def wheelFactor (delta : Float) : Except Fault Float :=
  let x := Float.pow 0.9 (delta / 120.0)
  if FloatScalar.isFinite delta && !FloatScalar.isFinite x then .error .overflow else .ok x

/-- The wheel turns. -/
def wheel (delta : Float) : Call Unit := do
  let x ← Step.ofExcept (wheelFactor delta)
  Step.update fun v => { v with camera := { v.camera with zoom := v.camera.zoom * x } }
  repaint

end ToolpathViewer.Viewport
