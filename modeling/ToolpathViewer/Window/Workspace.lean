import ToolpathViewer.Editor.Basic
import ToolpathViewer.Files
import ToolpathViewer.Log.Console
import ToolpathViewer.Session.Link
import ToolpathViewer.Window.Diagnosis
import ToolpathViewer.Window.Viewer

/-!
# The workspace

The main window: an editor, the host of the session with a viewer, a console with reports, and the diagnostics of the text. A change
of the text is passed on when typing has paused. One diagnosis runs at a time, and of the texts that come up meanwhile only the
latest waits for the next.
-/

namespace ToolpathViewer

open Bridge

/-- The state of the diagnosis. -/
inductive Diagnosis.State where
  | idle
  /-- A text is to be diagnosed. -/
  | queued (settings : Extraction.Settings) (text : String)
  /-- A text was to be diagnosed when the window was closed. -/
  | abandoned

/-- The main window. -/
structure Workspace where
  config : Config
  files : Files
  /-- The port that the channel will be bound to. -/
  port : Nat
  host : Host Unit
  editor : Editor := {}
  viewer : Option Viewer := none
  /-- How often the viewer has been called to the front. -/
  raised : Nat := 0
  console : Log.Console Log.Entry := {}
  /-- The text with the diagnostics, once there is one. -/
  problems : Option String := none
  status : String := "Ready"
  /-- The text has changed at least once. -/
  touched : Bool := false
  /-- The text has changed and typing has not paused yet. -/
  settling : Bool := false
  diagnosis : Diagnosis.State := .idle
  /-- The text that waits for the next diagnosis. -/
  pending : Option String := none

namespace Workspace

/-- The title of the window. -/
def title : String := "NC Viewer"

/-- The width and the height of the window. -/
def size : Nat × Nat := (1200, 900)

/-- The words on the buttons. -/
def buttons : List String := ["Load G-Code File", "Save G-Code", "Open Viewer"]

/-- The pause that ends typing, in thousandths of a second. -/
def settlingTime : Nat := 150

/-- The program that is shown when no file is opened. -/
def sample : String := "\n".intercalate [
  "G21 G17 ; metric, XY plane", "G0 X0 Y0 Z5 ; rapid to start", "G1 Z0 F1000 ; plunge", "G1 X10 Y0 F2000",
  "G2 X20 Y10 I10 J0 ; clockwise arc", "G1 X30 Y10", "G3 X40 Y0 I5 J-5 ; counterclockwise arc", "G0 Z5 ; retract",
  "G0 X0 Y0", "M30"]

/-- A call on the window. -/
abbrev Call (α : Type) : Type := Step Window.Effect Workspace α

/-- Reports something. -/
def report (e : Log.Entry) : Call Unit := Step.emit (.log e)

/-- The text of the editor. -/
def text (w : Workspace) : String := String.ofList w.editor.text

/-- What is done about the events of the editor, where something is done about the lines that it tells. -/
def hear (told : Nat → Call Unit) : Editor.Event → Call Unit
  | .textChanged => Step.update fun w => { w with touched := true, settling := true }
  | .caretLine line => told line

/-- A call on the editor, and what is done about the lines that it tells. -/
def onEditorBy (told : Nat → Call Unit) {α : Type} (x : Editor.Call α) : Call α :=
  x.handling (·.editor) (fun editor w => { w with editor }) (hear told)

/-- Goes to a line that the view asks for, and marks it. -/
def showLineBy (told : Nat → Call Unit) (line : Int) : Call Unit := do
  onEditorBy told (Editor.goTo line)
  Step.update fun w => { w with editor := w.editor.markViewer [line] }

/-- A call on the host, and what is done about the lines that the editor tells because of it. -/
def onHostBy (told : Nat → Call Unit) {α : Type} (x : Host.Call Unit α) : Call α :=
  x.handling (·.host) (fun host w => { w with host }) fun
    | .log e => report e
    | .moveCaret line => showLineBy told line

/-- Something that a control or an event has set off. -/
def setOff {α : Type} (x : Call α) : Call Unit := x.reporting .failed

/-- The editor has told a line. The host moves no caret then, so what would be done about another line does not matter. -/
def caretTold (line : Nat) : Call Unit := setOff (onHostBy (fun _ => Step.done ()) (Host.caret line))

/-- A call on the editor. -/
def onEditor {α : Type} (x : Editor.Call α) : Call α := onEditorBy caretTold x

/-- A line that the view asks for is shown. -/
def showLine (line : Int) : Call Unit := showLineBy caretTold line

/-- A call on the host. -/
def onHost {α : Type} (x : Host.Call Unit α) : Call α := onHostBy caretTold x

/-- A call on the channel. -/
def onChannel {α : Type} (x : Step Log.Entry (Channel Unit) α) : Call α :=
  x.handling (·.host.channel) (fun channel w => { w with host := { w.host with channel } }) report

/-- Opens a file. One that does not exist is reported. -/
def openFile (path : String) : Call Unit := do
  let w ← Step.get
  match w.files.read path with
  | .error why =>
    if Files.isFileFault why then report (Log.error .workspace ("Could not open " ++ path ++ ": ") (some why))
    else Step.fail why
  | .ok content =>
    onEditor (Editor.setText content.toList)
    report (Log.info .workspace ("Loaded: " ++ path))
    if w.host.attached then onHost (Host.attach content)

/-- Asks for a file to open; no answer means none. -/
def load (answer : String) : Call Unit := if answer = "" then Step.done () else openFile answer

/-- Saves the text to a file; no answer means none. -/
def save (answer : String) : Call Unit := do
  if answer ≠ "" then
    let w ← Step.get
    let files ← Step.ofExcept (w.files.write answer w.text)
    Step.set { w with files }
    report (Log.info .workspace ("Saved: " ++ answer))

/-- A call on the viewer, which must be open. -/
def onViewer {α : Type} (x : Viewer.Call α) : Call α := do
  match (← Step.get).viewer with
  | none => Step.fail .noFields
  | some v => x.within (fun _ => v) fun v w => { w with viewer := some v }

/-- Opens the viewer, or calls it to the front. -/
def openViewer : Call Unit := do
  let w ← Step.get
  if w.viewer.isSome then
    Step.set { w with raised := w.raised + 1 }
  else
    let endpoint := (← onChannel (Channel.start w.port)).getD ""
    let after := (← Step.get).host.channel.buffer.latest
    onHost (Host.attach w.text)
    let viewer ← Step.ofExcept (Viewer.make endpoint w.host.channel.token w.config after)
    Step.update fun w => { w with viewer := some viewer, raised := 0 }
    onViewer Viewer.start
    Step.update fun w => { w with status := "Viewer on " ++ endpoint }

/-- The viewer has been closed. -/
def viewerClosed : Call Unit := do
  Step.update fun w => { w with viewer := none }
  onHost Host.detach
  Step.update fun w => { w with status := "Ready" }

/-- Closes the viewer, which must be open. -/
def closeViewer : Call Unit := do
  onViewer (Step.update Viewer.close)
  setOff viewerClosed

/-- An event that the view has submitted. -/
def receive [Json.Room] (payload : String) : Call Unit := setOff (onHost (Host.receive (.text payload)))

/-- A request to the channel, answered on the spot. -/
def request [Json.Room] [Server] (r : Request) : Call Reply :=
  Channel.exchange .log (fun _ payload => receive payload) (·.host.channel) r

/-- Lets the viewer, if it is open, send, poll a number of times, and send. -/
def workViewer [Json.Room] [Server] (n : Nat) : Call Unit := do
  match (← Step.get).viewer with
  | none => return
  | some v => (Viewer.work request n).within (fun w => (v, w)) fun (v, w) _ => { w with viewer := some v }

/-- Has a text diagnosed, now or after the diagnosis that runs. -/
def diagnose (text : String) : Call Unit := do
  let w ← Step.get
  match w.diagnosis with
  | .idle =>
    Step.update fun w => { w with pending := none }
    let settings ← Step.ofExcept w.config.extraction
    Step.update fun w => { w with diagnosis := .queued settings text }
  | _ => Step.set { w with pending := some text }

/-- Typing has paused. -/
def settle : Call Unit := do
  let w ← Step.get
  if w.settling then
    Step.set { w with settling := false }
    setOff do
      onHost (Host.change w.text)
      diagnose w.text

/-- Shows diagnostics, unless newer ones are to come. -/
def showDiagnostics (w : Workspace) (ds : Diagnostics) : Workspace :=
  if w.pending.isSome then w
  else { w with problems := some (Diagnosis.render ds), editor := w.editor.markErrors ds.lines }

/-- The diagnosis has ended. A text that waits is next. -/
def diagnosisEnded : Call Unit := do
  Step.update fun w => { w with diagnosis := .idle }
  match (← Step.get).pending with
  | none => return
  | some text => diagnose text

/-- Runs the diagnosis that is due. -/
def runDiagnosis : Call Unit := do
  match (← Step.get).diagnosis with
  | .queued settings text =>
    let (found, log) := Diagnosis.run settings text
    Step.emitAll (log.map .log)
    if let some ds := found then Step.update fun w => w.showDiagnostics ds
    setOff diagnosisEnded
  | _ => return

/-- Closes the window. -/
def close : Call Unit := do
  if (← Step.get).viewer.isSome then closeViewer
  onHost Host.detach
  onChannel Channel.stop
  Step.update fun w =>
    match w.diagnosis with
    | .idle => w
    | _ => { w with diagnosis := .abandoned, pending := none }
  Step.update fun w => { w with console := w.console.remove }

/-- The reports among effects. -/
def reports (es : List Window.Effect) : List Log.Entry :=
  es.filterMap fun | .log e => some e | .failed _ => none

/-- A call whose reports are shown on the console, if that was there when the call began. -/
def shown {α : Type} (x : Call α) : Call α := fun w =>
  let t := x w
  let console := (w.console.report (reports t.emitted)).lines
  { t with state := { t.state with console := { t.state.console with lines := console } } }

/-- Opens the file that was asked for, or shows the sample. -/
def begin (path : Option String) : Call Unit :=
  match path with
  | none | some "" => onEditor (Editor.setText sample.toList)
  | some path => openFile path

/-- A window by a configuration, whose channel has a secret and will be bound to a port. -/
def make (c : Config) (files : Files) (secret : String) (port : Nat) : Except Fault Workspace := do
  let channel : Channel Unit ← Channel.make (← c.bridgeCapacity) secret c.host.display
  return { config := c, files, port, host := { channel := channel.addListener (), config := c } }

end Workspace

end ToolpathViewer
