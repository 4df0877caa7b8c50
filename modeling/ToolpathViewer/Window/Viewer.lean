import ToolpathViewer.Bridge.Client
import ToolpathViewer.Session.Surface
import ToolpathViewer.Viewport.Pointer
import ToolpathViewer.Viewport.Painting
import ToolpathViewer.Window.Poster

/-!
# The viewer window

The window of the view: the surface of a session, a viewport on its scene, and controls that follow the scene and act on it. It
polls for the host's messages and queues its own for the poster. What a control sets off may fail; the failure is told and leaves
the rest of the window as it is.
-/

namespace ToolpathViewer

open Bridge

/-- What a window tells others. -/
inductive Window.Effect where
  | log (e : Log.Entry)
  /-- Something that a control or a message has set off failed. -/
  | failed (why : Fault)

/-- The position and the segment as texts. -/
structure Readout where
  x : String := "X: 0.000"
  y : String := "Y: 0.000"
  z : String := "Z: 0.000"
  segment : String := "No toolpath"
deriving DecidableEq, Repr

/-- The texts that a scene asks for. -/
def Scene.readoutTexts (s : Scene) : Readout :=
  let p := s.readout
  let lost := if s.dropped = 0 then "" else " (" ++ toString s.dropped ++ " moves not shown)"
  { x := "X: " ++ Decimal.fixed 3 p.x
    y := "Y: " ++ Decimal.fixed 3 p.y
    z := "Z: " ++ Decimal.fixed 3 p.z
    segment :=
      if s.segmentCount = 0 then "No toolpath"
      else "Segment " ++ toString (s.scrubber + 1) ++ " / " ++ toString s.segmentCount ++ lost }

/-- The control for the segment: a value from 0 to a last one. While it is silenced it does not tell when its value changes. -/
structure Slider where
  last : Nat := 0
  value : Nat := 0
  silenced : Bool := false
deriving DecidableEq, Repr

namespace Slider

/-- A call on a slider, which tells the values that it comes to. -/
abbrev Call : Type := Step Nat Slider Unit

/-- Silences the slider, or lets it tell again. -/
def silence (silenced : Bool) : Call := Step.update fun s => { s with silenced }

/-- Comes to a value, as far as it goes. -/
def setValue (value : Int) : Call := do
  let s ← Step.get
  let new := Scene.clampIndex s.last value
  if new ≠ s.value then
    Step.set { s with value := new }
    if !s.silenced then Step.emit new

/-- Changes how far it goes. A value beyond that comes to the end. -/
def setLast (last : Nat) : Call := do
  let s ← Step.get
  Step.set { s with last }
  setValue s.value

/-- Comes to where a scene is, silently. -/
def follow (scene : Scene) : Call := do
  silence true
  setLast (scene.segmentCount - 1)
  setValue scene.scrubber
  silence false

end Slider

/-- The window of the view. -/
structure Viewer where
  surface : Surface
  client : Client Unit
  viewport : Viewport := {}
  poster : Poster Message := {}
  slider : Slider := {}
  readout : Readout := {}
  theme : Theme
  /-- What is ticked as shown. -/
  checks : List (String × Bool) := [("rapid", true), ("grid", true), ("axes", true)]
  /-- Polling and posting have been started. -/
  running : Bool := false

namespace Viewer

/-- The title of the window. -/
def title : String := "NC Viewer"

/-- The width and the height of the window. -/
def size : Nat × Nat := (900, 700)

/-- The words beside the ticks. -/
def checkTitles : List (String × String) := [("rapid", "Rapids"), ("grid", "Grid"), ("axes", "Axes")]

/-- A window for a channel at an address, by a configuration, for messages newer than a version. -/
def make (endpoint token : String) (c : Config) (after : Int) : Except Fault Viewer := do
  let surface ← Surface.ofConfig c
  let client : Client Unit := .make endpoint token after
  return { surface, client := client.addListener (), theme := surface.scene.theme }

/-- A call on the window. -/
abbrev Call (α : Type) : Type := Step Window.Effect Viewer α

/-- A call on the viewport, apart from clicks. -/
def onCanvas {α : Type} (x : Viewport.Call α) : Call α :=
  x.handling (·.viewport) (fun viewport v => { v with viewport }) fun _ => Step.done ()

/-- A call on the slider. Every value that it tells is passed on. -/
def onSlider (moved : Nat → Call Unit) (x : Slider.Call) : Call Unit :=
  x.handling (·.slider) (fun slider v => { v with slider }) moved

/-- Brings the controls in line with the scene and shows it anew, and all of it if loading asks for that. -/
def refresh (moved : Nat → Call Unit) (result : Option LoadResult) : Call Unit := do
  let v ← Step.get
  onSlider moved (Slider.follow v.surface.scene)
  Step.update fun v => { v with readout := v.surface.scene.readoutTexts }
  let v ← Step.get
  if result.any (·.reframe) then onCanvas (Viewport.resetView v.surface.scene) else onCanvas Viewport.repaint

/-- A call on the surface, and what is done about the values that the slider tells because of it. -/
def onSurfaceBy (moved : Nat → Call Unit) {α : Type} (x : Surface.Call α) : Call α :=
  x.handling (·.surface) (fun surface v => { v with surface }) fun
    | .log e => Step.emit (.log e)
    | .post m => Step.update fun v => { v with poster := v.poster.post (some m) }
    | .update _ result => refresh moved result

/-- Something that a control has set off. -/
def setOff {α : Type} (x : Call α) : Call Unit := x.reporting .failed

/-- The slider has told a value. It follows the scene silently then, so what would be done about another value does not matter. -/
def slid (value : Nat) : Call Unit := setOff (onSurfaceBy (fun _ => Step.done ()) (Surface.scrub value))

/-- A call on the surface. -/
def onSurface {α : Type} (x : Surface.Call α) : Call α := onSurfaceBy slid x

/-- A click into the scene. -/
def clicked (beam : Scene.Beam) : Call Unit := do
  let v ← Step.get
  let threshold ← Step.ofExcept (v.surface.scene.clickThreshold v.viewport.camera.factor)
  let _ ← onSurface (Surface.click beam threshold)

/-- A call on the viewport. -/
def onViewport {α : Type} (x : Viewport.Call α) : Call α :=
  x.handling (·.viewport) (fun viewport v => { v with viewport }) fun
    | .click beam => setOff (clicked beam)
    | _ => Step.done ()

/-- Moves the slider, as far as it goes. -/
def setSlider (value : Int) : Call Unit := onSlider slid (Slider.setValue value)

/-- Chooses a theme, if there is one of that name. -/
def chooseTheme (name : String) : Call Unit := do
  let v ← Step.get
  match Theme.ofName? name with
  | none => return
  | some theme =>
    if theme ≠ v.theme then
      Step.set { v with theme }
      setOff (onSurface (Surface.setTheme name))

/-- Ticks or unticks what is shown. -/
def setCheck (what : String) (shown : Bool) : Call Unit := do
  let v ← Step.get
  if v.checks.contains (what, !shown) then
    Step.set { v with checks := v.checks.map fun c => if c.1 == what then (what, shown) else c }
    setOff (onCanvas (Viewport.toggle what))

/-- Starts polling and posting, and tells the host that the view is ready. -/
def start : Call Unit := do
  Step.update fun v => { v with running := true }
  onSurface Surface.connected
  onSurface Surface.ready

/-- A message of the host. -/
def receive [Json.Room] (p : Payload) : Call Unit := onSurface (Surface.receive p)

/-- Stops polling and posting. -/
def close (v : Viewer) : Viewer :=
  { v with running := false, client := v.client.removeAll, poster := v.poster.stop }

variable {ω : Type}

/-- A call on the window next to the world that it talks to. -/
def beside {α : Type} (x : Call α) : Step Window.Effect (Viewer × ω) α :=
  x.within Prod.fst fun v p => (v, p.2)

/-- Sends what is queued. -/
def post (fetch : Request → Step Window.Effect ω Reply) : Step Window.Effect (Viewer × ω) Unit := do
  let (v, _) ← Step.get
  let send (m : Message) : Step Window.Effect (Poster Message × ω) Unit := do
    let _ ← (Client.post .log (fun r => fetch (v.client.signed r)) (Client.bodyOf m.toJson)).within Prod.snd fun w p => (p.1, w)
  (Poster.run send).within (fun (v, w) => (v.poster, w)) fun (poster, w) (v, _) => ({ v with poster }, w)

variable [Json.Room]

/-- Polls once, and tells whether a message was delivered. -/
def poll (fetch : Request → Step Window.Effect ω Reply) : Step Window.Effect (Viewer × ω) Bool := do
  let (v, _) ← Step.get
  let ask (r : Request) : Step Window.Effect (Viewer × ω) Reply :=
    (fetch (v.client.signed r)).within Prod.snd fun w p => (p.1, w)
  (Client.poll .log ask fun _ m => beside (setOff (receive (.value m)))).within
    (fun p => (p.1.client, p)) fun (client, (v, w)) _ => ({ v with client }, w)

/-- Lets the window work, if it was started: it sends what is queued, polls a number of times, and sends what that has queued. -/
def work (fetch : Request → Step Window.Effect ω Reply) (n : Nat) : Step Window.Effect (Viewer × ω) Unit := do
  let (v, _) ← Step.get
  if v.running then
    post fetch
    let _ ← Client.run .log v.client.endpoint (poll fetch) n
    post fetch

end Viewer

end ToolpathViewer
