import ToolpathViewer.Bridge.Buffer
import ToolpathViewer.Bridge.Http
import ToolpathViewer.Json.Printer
import ToolpathViewer.Log
import ToolpathViewer.Step
import ToolpathViewer.Text.Utf8

/-!
# The bridge channel

The channel between the editor's side and the view's side. The editor publishes messages; the view polls for them and submits
events, which go to every listener. Every entry of the view checks that the channel is open and that the caller knows its secret.
The same services are offered by direct calls and over HTTP.
-/

namespace ToolpathViewer.Bridge

/-- A channel whose listeners are known by names `ι`. -/
structure Channel (ι : Type) where
  buffer : Buffer
  host : String := "127.0.0.1"
  /-- The port that the channel was bound to. -/
  port : Option Nat := none
  /-- Whether requests are served. -/
  serving : Bool := false
  /-- Whether the channel has been stopped, for good. -/
  stopped : Bool := false
  /-- The secret of the channel. -/
  token : String
  listeners : List ι := []

namespace Channel

variable {ι ε σ : Type}

/-- A channel with an empty buffer. -/
def make (capacity : Int) (token : String) (host : String := "127.0.0.1") : Except Fault (Channel ι) := do
  return { buffer := ← Buffer.make capacity, host, token }

/-- The channel serves requests. -/
def isRunning (c : Channel ι) : Bool := c.serving && !c.stopped

/-- The address of the channel, once it has a port. -/
def endpoint (c : Channel ι) : Option String :=
  c.port.map fun p => "http://" ++ c.host ++ ":" ++ toString p

/-- Fails when the channel has been stopped. -/
def checkOpen (c : Channel ι) : Except Fault Unit :=
  if c.stopped then .error .stopped else .ok ()

/-- Starts to serve on a port and returns the address. -/
def start (port : Nat) : Step Log.Entry (Channel ι) (Option String) := do
  let c ← Step.get
  Step.ofExcept c.checkOpen
  if !c.serving then
    Step.set { c with serving := true, port := some port }
    Step.emit (Log.info .channel ("Http bridge started on port " ++ toString port))
  return (← Step.get).endpoint

/-- Stops the channel and forgets its listeners. -/
def stop : Step Log.Entry (Channel ι) Unit := do
  let c ← Step.get
  if !c.stopped then
    Step.set { c with stopped := true, serving := false, listeners := [] }
    Step.emit (Log.info .channel "Http bridge stopped")

/-- Adds a message for the view. -/
def publish (message : String) : Step ε (Channel ι) Envelope := do
  let c ← Step.get
  Step.ofExcept c.checkOpen
  let (envelope, buffer) := c.buffer.append message
  Step.set { c with buffer }
  return envelope

/-- Adds a listener. The same one may be added more than once. -/
def addListener (c : Channel ι) (l : ι) : Channel ι := { c with listeners := c.listeners ++ [l] }

/-- Removes a listener once. -/
def removeListener [BEq ι] (c : Channel ι) (l : ι) : Channel ι := { c with listeners := c.listeners.erase l }

/-- The token is the secret of the channel. -/
def isAuthorized (c : Channel ι) (token : Option String) : Bool := token == some c.token

/-- Fails without the secret. A missing and a wrong one fail alike. -/
def authorize (c : Channel ι) (token : Option String) : Except Fault Unit :=
  if c.isAuthorized token then .ok () else .error .unauthorized

/-- The next message after a version. -/
def poll (c : Channel ι) (after : Int) (token : Option String) : Except Fault (Option Envelope) := do
  c.checkOpen
  c.authorize token
  return c.buffer.nextAfter after

/-- What is reported when a listener fails. -/
def listenerFailure (payload : String) : Log.Entry :=
  Log.error .channel ("Http bridge listener error for payload " ++ Log.preview payload)

/-- Hands an event to listeners in order. One that fails is reported and does not stop the others. -/
def deliver (log : Log.Entry → ε) (call : ι → String → Step ε σ Unit) (payload : String) (listeners : List ι) :
    Step ε σ Unit :=
  Step.each
    (fun l => do
      match ← (call l payload).attempt with
      | .ok _ => return
      | .error _ => Step.emit (log (listenerFailure payload)))
    listeners

/-- The listeners that get a submitted event. -/
def submit (c : Channel ι) (token : Option String) : Except Fault (List ι) := do
  c.checkOpen
  c.authorize token
  return c.listeners

/-- Submits an event: who knows the secret reaches every listener of the channel, in the order in which they were added. -/
def submitEvent (log : Log.Entry → ε) (call : ι → String → Step ε σ Unit) (channel : σ → Channel ι) (payload : String)
    (token : Option String) : Step ε σ Unit := do
  deliver log call payload (← Step.ofExcept ((channel (← Step.get)).submit token))

/-- A plain text answer. -/
def textResponse (status : Nat) (body : String) : Response :=
  { status, body, contentType := "text/plain; charset=utf-8" }

/-- The version after which a poll asks; a text that is no integer asks for everything. -/
def parseAfter (raw : Option String) : Int :=
  (raw.bind fun s => Decimal.readInt? s.toList).getD 0

/-- The written form of a message with its version. -/
def envelopeBody (e : Envelope) : String :=
  (Json.obj [("message", .str e.message), ("version", .int e.version)]).compact ++ "\n"

/-- A response, and the event that its request submitted, with those who get it. -/
structure Answer (ι : Type) where
  response : Response
  event : Option (String × List ι) := none

variable [Server]

/-- The answer to a poll. -/
def answerPoll (c : Channel ι) (r : Request) : Answer ι :=
  match c.buffer.nextAfter (parseAfter (r.query.lookup "after")) with
  | none => ⟨{ status := 204 }, none⟩
  | some e => ⟨{ status := 200, body := envelopeBody e, contentType := "application/json" }, none⟩

/-- The answer to an event. -/
def answerEvent (c : Channel ι) (r : Request) : Answer ι :=
  ⟨textResponse 202 "accepted", some (Text.Utf8.decodeLossy (Server.body r), c.listeners)⟩

/-- The answer of a resource. -/
def serve (c : Channel ι) (r : Request) : Resource → Answer ι
  | .poll => c.answerPoll r
  | .event => c.answerEvent r
  | .health => ⟨textResponse 200 "ok", none⟩

/-- The answer of the resource that a request is for. The server answers by itself if there is none. -/
def route (c : Channel ι) (r : Request) : Answer ι :=
  match Server.find r with
  | .ok what => c.serve r what
  | .error response => ⟨response, none⟩

/-- The checks that stand before every service. A question for permissions is answered without any. -/
def guard? (c : Channel ι) (r : Request) : Option Response :=
  if r.verb == "OPTIONS" then some { status := 204, maxAge := some "600" }
  else if c.stopped then some (textResponse 503 "stopped")
  else if !c.isAuthorized r.token? then some (textResponse 401 "unauthorized")
  else none

/-- The answer to a request. One for headers alone is answered like one for the whole; the body is left out if its method is given in
upper case. -/
def answer (c : Channel ι) (r : Request) : Answer ι :=
  let full :=
    match c.guard? r with
    | some response => ⟨response, none⟩
    | none => c.route r
  if r.method == "HEAD" then { full with response := { full.response with body := "" } } else full

end Channel

end ToolpathViewer.Bridge
