import ToolpathViewer.Config.Basic
import ToolpathViewer.Gate
import ToolpathViewer.Scene.Picking
import ToolpathViewer.Message

/-!
# The surface

The view's end of a session. It applies the messages of the host to a scene, and turns what the user does in the view into
requests to the host. Its own reports to the host wait behind a gate until the bridge is up.
-/

namespace ToolpathViewer

/-- The view's end of a session. -/
structure Surface where
  scene : Scene := { codes := fallbackCodes.map .str }
  /-- Reports that wait for the bridge. -/
  gate : Gate String := {}

namespace Surface

/-- What has changed in the scene. -/
inductive Update where
  | load
  | content
  | selection
  | theme
deriving DecidableEq, Repr

/-- The name of a change. -/
def Update.name : Update → String
  | .load => "load"
  | .content => "content"
  | .selection => "selection"
  | .theme => "theme"

/-- What a surface asks others to do. -/
inductive Effect where
  | log (e : Log.Entry)
  /-- Sends a message to the host. -/
  | post (m : Message)
  /-- Shows the scene anew. -/
  | update (what : Update) (result : Option LoadResult)

/-- A call on a surface. -/
abbrev Call (α : Type) : Type := Step Effect Surface α

/-- A surface by a configuration. -/
def ofConfig (c : Config) : Except Fault Surface := do
  return { scene := ← Scene.make (← c.excluded) c.limit c.divisions c.theme }

/-- Sends a message to the host. -/
def post (m : Message) : Call Unit := Step.emit (.post m)

/-- Announces a change of the scene. -/
def announce (what : Update) (result : Option LoadResult := none) : Call Unit := Step.emit (.update what result)

/-- A call on the gate. -/
def throughGate {α : Type} (x : Gate.Through Effect Unit String α) : Call α :=
  x.within (fun s => (s.gate, ())) fun p s => { s with gate := p.1 }

/-- Sends a report to the host. -/
def postDebug (text : String) : Step Effect Unit Unit := Step.emit (.post (.debug (.str text)))

/-- Reports to the host what the view does, as soon as the bridge is up. -/
def debug (text : String) : Call Unit := do
  let _ ← throughGate (Gate.send postDebug ("[bridge] " ++ text))

/-- The bridge is up. -/
def connected : Call Unit := do
  let _ ← throughGate (Gate.markReady postDebug)
  debug "HTTP bridge connected"

/-- Tells the host that the view is ready. -/
def ready : Call Unit := do
  post .ready
  debug "webviewReady posted"

/-- Replaces the scene by what loading gave, and reports on it. -/
def take (l : Scene.Loading) : Call LoadResult := do
  Step.update fun s => { s with scene := l.scene }
  Step.emitAll (l.log.map .log)
  Step.ofExcept l.result

/-- A message with a program. -/
def receiveProgram (m : Message) (first : Bool) : Call Unit := do
  match Json.field? m.fields "ncText" with
  | some (.str text) =>
    let codes := some ((m.codes?.getD fallbackCodes).map .str)
    if first then
      debug ("loadGCode received length=" ++ toString text.length)
      let s ← Step.get
      announce .load (some (← take (s.scene.load text codes)))
    else
      let s ← Step.get
      announce .content (some (← take (s.scene.change text codes)))
  | _ => debug (m.kind ++ " without ncText")

/-- A message with the line of the caret. -/
def receiveCaret (m : Message) : Call Unit := do
  match m.line? with
  | none => return
  | some line =>
    let s ← Step.get
    let (selected, scene) := s.scene.selectLine line
    Step.set { s with scene }
    if selected.isSome then announce .selection

/-- Takes what the host has published. -/
def receive [Json.Room] (p : Payload) : Call Unit := do
  match p.message with
  | .error (.badPayload why) =>
    Step.emit (.log (Log.error .surface "Failed to parse incoming payload: " (some (.badPayload why))))
    debug "failed to parse incoming payload"
  | .error why => Step.fail why
  | .ok m =>
    debug ("incoming message type=" ++ m.kind)
    match m.kind? with
    | some .load => receiveProgram m true
    | some .change => receiveProgram m false
    | some .caret => receiveCaret m
    | _ => return

/-- The scrubber has moved to a segment. -/
def scrub (i : Int) : Call (Option Nat) := do
  let s ← Step.get
  let (line, scene) := s.scene.scrubTo i
  Step.set { s with scene }
  if let some n := line then
    debug ("slider highlight line=" ++ toString n)
    post (.highlight (.int n))
    announce .selection
  return line

/-- A click in the view. -/
def click (beam : Scene.Beam) (threshold : Float) : Call (Option Nat) := do
  let s ← Step.get
  let (line, scene) := s.scene.click beam threshold
  Step.set { s with scene }
  let line ← Step.ofExcept line
  if let some n := line then
    debug ("click highlight line=" ++ toString n)
    post (.highlight (.int n))
  announce .selection
  return line

/-- Changes the theme. -/
def setTheme (name : String) : Call Unit := do
  let s ← Step.get
  let (result, scene) := s.scene.setTheme name
  Step.set { s with scene }
  Step.ofExcept result
  announce .theme

end Surface

end ToolpathViewer
