import ToolpathViewer.Bridge.Channel
import ToolpathViewer.Config.Basic
import ToolpathViewer.Gate
import ToolpathViewer.Message

/-!
# The host

The editor's end of a session. While a document is attached, the host tells the view about it and about the caret, through a gate
that opens when the view says that it is ready, and carries out what the view asks for. What it cannot do itself, moving the
caret, it emits.
-/

namespace ToolpathViewer

/-- The editor's end of a session over a channel with listeners `ι`. -/
structure Host (ι : Type) where
  channel : Bridge.Channel ι
  config : Config := {}
  gate : Gate Message := {}
  /-- A document is being followed. -/
  attached : Bool := false
  /-- The text of the document. -/
  text : String := ""

namespace Host

/-- What a host asks others to do. -/
inductive Effect where
  | log (e : Log.Entry)
  | moveCaret (line : Int)

variable {ι : Type}

/-- A call on a host. -/
abbrev Call (ι α : Type) : Type := Step Effect (Host ι) α

/-- The number of lines of the document. -/
def lineCount (h : Host ι) : Nat := h.text.toList.count '\n' + 1

/-- Reports something. -/
def report (e : Log.Entry) : Call ι Unit := Step.emit (.log e)

/-- Publishes a message on the channel. That fails only when the channel has been stopped, for the texts, codes and caret lines of a host
can be written (`Message.encode`). -/
def publish (m : Message) : Step Effect (Bridge.Channel ι) Unit := do
  let _ ← Bridge.Channel.publish m.encode

/-- A call on the gate and the channel behind it. -/
def throughGate {α : Type} (x : Gate.Through Effect (Bridge.Channel ι) Message α) : Call ι α :=
  x.within (fun h => (h.gate, h.channel)) fun p h => { h with gate := p.1, channel := p.2 }

/-- Sends a message to the view, as soon as that is ready. -/
def send (m : Message) : Call ι Unit := do
  let _ ← throughGate (Gate.send publish m)

/-- The settings that are sent along with a program. -/
def settings : Call ι Json := do
  Step.ofExcept (← Step.get).config.settings

/-- Asks the view to load the document. -/
def sendLoad : Call ι Unit := do
  let h ← Step.get
  send (.load (.str h.text) (← settings))

/-- Starts to follow a document. -/
def attach (text : String) : Call ι Unit := do
  Step.update fun h => { h with attached := true, text }
  report (Log.info .host ("Viewer attached (" ++ toString text.length ++ " chars)"))
  sendLoad

/-- The document has changed. -/
def change (text : String) : Call ι Unit := do
  let h ← Step.get
  if h.attached then
    Step.set { h with text }
    send (.change (.str text) (← settings))

/-- The caret has moved to another line. -/
def caret (line : Int) : Call ι Unit := do
  let h ← Step.get
  if h.attached then send (.caret (.int line))

/-- Stops following the document. What is still queued is dropped. -/
def detach : Call ι Unit := do
  let h ← Step.get
  if h.attached then report (Log.info .host "Viewer detached")
  Step.set { h with attached := false, text := "", gate := h.gate.reset }

/-- The line of the document that is nearest to a line. -/
def nearestLine (h : Host ι) (line : Int) : Int := max 1 (min line h.lineCount)

/-- Moves the caret to a line, or to the nearest that the document has. -/
def moveCaret (line : Int) : Call ι Unit := do
  let h ← Step.get
  Step.emit (.moveCaret (h.nearestLine line))

/-- The view is ready: it gets what is queued, and the document once more. -/
def viewReady : Call ι Unit := do
  let flushed ← throughGate (Gate.markReady publish)
  report (Log.info .host ("Webview ready, flushed " ++ toString flushed ++ " queued messages"))
  sendLoad

/-- Carries out a message of the view. -/
def obey (m : Message) : Call ι Unit := do
  let h ← Step.get
  if m.kind? = some .debug then
    report (Log.info .host ("Webview debug: " ++ ((Json.field? m.fields "debugMessage").getD .null).display))
  else if h.attached then
    match m.kind? with
    | some .ready => viewReady
    | some .highlight =>
      match m.line? with
      | none => report (Log.warning .host "highlightLine without a usable lineNumber")
      | some line => moveCaret line
    | _ => report (Log.warning .host ("Unknown message type from webview: " ++ m.kind))

/-- What is reported about a payload that is no message. -/
def dropped (p : Payload) (why : PayloadFault) : Log.Entry :=
  { Log.warning .host "Dropping bridge payload (" with
    cause := some (.badPayload why), ending := "): " ++ Log.preview p.display }

/-- Takes an event that the view has submitted. -/
def receive [Json.Room] (p : Payload) : Call ι Unit :=
  match p.message with
  | .error (.badPayload why) => report (dropped p why)
  | .error why => Step.fail why
  | .ok m => obey m

end Host

end ToolpathViewer
