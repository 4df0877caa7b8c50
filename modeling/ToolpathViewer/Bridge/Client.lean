import ToolpathViewer.Bridge.Channel

/-!
# The bridge client

The view's end of the bridge. It polls for the message after the last version it saw, hands it to its listeners, and posts events
back. A poll that brings no message leaves the version alone, so nothing is skipped; a message that goes too deep counts as seen.
-/

namespace ToolpathViewer.Bridge

/-- What comes back for a request. -/
inductive Reply where
  | unreachable
  | response (status : Nat) (body : String)

/-- A listener that was registered, and whether it still is. -/
structure Registration (ι : Type) where
  listener : ι
  active : Bool := true

/-- A client whose listeners are known by names `ι`. -/
structure Client (ι : Type) where
  endpoint : String
  token : String
  /-- The version of the last message. -/
  version : Int := 0
  /-- All registrations of listeners, the first one first. -/
  registrations : List (Registration ι) := []

/-- A text without the slashes at its end. -/
def trimSlashes (s : String) : String :=
  String.ofList (s.toList.reverse.dropWhile (· == '/')).reverse

namespace Client

variable {ι ε σ : Type}

/-- A client that asks for the messages after a version. -/
def make (endpoint token : String) (after : Int := 0) : Client ι :=
  { endpoint := trimSlashes endpoint, token, version := after }

/-- The listeners that are registered, in the order in which they were. -/
def listeners (c : Client ι) : List ι := (c.registrations.filter (·.active)).map (·.listener)

/-- Registers a listener. The same one may be registered more than once. -/
def addListener (c : Client ι) (l : ι) : Client ι := { c with registrations := c.registrations ++ [⟨l, true⟩] }

/-- Ends the registration at a place, if it has not ended before. -/
def removeListener (c : Client ι) (i : Nat) : Client ι :=
  { c with registrations := c.registrations.modify i fun r => { r with active := false } }

/-- Ends all registrations. -/
def removeAll (c : Client ι) : Client ι :=
  { c with registrations := c.registrations.map fun r => { r with active := false } }

/-- The address of a request. -/
def url (c : Client ι) (r : Request) : String := c.endpoint ++ r.path

/-- A request with the secret. -/
def signed (c : Client ι) (r : Request) : Request :=
  { r with headers := (tokenHeader, c.token) :: r.headers }

/-- Asks for the next message. -/
def pollRequest (c : Client ι) : Request := { path := "/poll", query := [("after", toString c.version)] }

/-- Sends an event. -/
def postRequest (body : String) : Request :=
  { method := "POST", path := "/event", headers := [("Content-Type", "application/json")], body := body.toUTF8.toList }

/-- Asks whether the other side is there. -/
def healthRequest : Request := { path := "/health" }

/-- The integer that a version field denotes. -/
def versionOf : Json → Except Fault Int
  | .int n => .ok n
  | .bool b => .ok (if b then 1 else 0)
  | .num x =>
    match Decimal.parts x with
    | .nan => .error .notANumber
    | .infinite _ => .error .overflow
    | .finite b => .ok b.truncate
  | .str s =>
    match Decimal.readInt? s.toList with
    | some n => .ok n
    | none => .error .malformedInteger
  | .null | .arr _ | .obj _ => .error .wrongType

variable [Json.Room]

/-- A message as listeners get it: a text that is JSON is read. -/
def readMessage : Json → Except Fault Json
  | .str s =>
    match Json.parse s with
    | .error .malformedJson => .ok (.str s)
    | r => r
  | v => .ok v

/-- What a reply to a poll means: nothing new, or a version and a message that is still to be read. -/
def accept (c : Client ι) : Reply → Except Fault (Option (Int × Json))
  | .unreachable => .error .unreachable
  | .response status body => do
    if status = 204 then .ok none
    else if status = 401 then .error .unauthorized
    else if status ≠ 200 then .error (.pollStatus status)
    else
      match ← Json.parse body with
      | .obj fields =>
        let version ← versionOf ((Json.field? fields "version").getD (.int c.version))
        return some (version, (Json.field? fields "message").getD .null)
      | _ => .error .noFields

/-- What is reported when a listener fails. -/
def listenerFailure : Log.Entry := Log.error .client "Bridge message listener failed"

/-- Hands a message to listeners in order. One that fails is reported and does not stop the others. The listeners are those that were
registered when it began. A call acts on the world beside the client only: a listener registers and removes none while it runs, and polls
no further, as is true of the view's own listener, which passes the message on to its window. -/
def notify (log : Log.Entry → ε) (call : ι → Json → Step ε σ Unit) (message : Json) (listeners : List ι) : Step ε σ Unit :=
  Step.each
    (fun l => do
      match ← (call l message).attempt with
      | .ok _ => return
      | .error _ => Step.emit (log listenerFailure))
    listeners

/-- Polls once, and tells whether a message was delivered. The state is the client with the world that it talks to. -/
def poll (log : Log.Entry → ε) (fetch : Request → Step ε σ Reply) (call : ι → Json → Step ε σ Unit) :
    Step ε (Client ι × σ) Bool := do
  let (c, _) ← Step.get
  let reply ← (fetch c.pollRequest).within Prod.snd fun s p => (p.1, s)
  match ← Step.ofExcept (c.accept reply) with
  | none => return false
  | some (version, message) =>
    Step.update fun p => ({ p.1 with version }, p.2)
    let message ← Step.ofExcept (readMessage message)
    (notify log call message c.listeners).within Prod.snd fun s p => (p.1, s)
    return true

/-- A failed poll after which polling goes on: a transport fault, a refusal, or an answer that cannot be read. -/
def isRecoverable : Fault → Bool
  | .unreachable | .unauthorized | .stopped | .pollStatus _ => true
  | .malformedJson | .malformedInteger | .notANumber | .notUtf8 => true
  | _ => false

/-- The pauses between polls, in seconds. -/
def pauseAfterMessage : Float := 0.01

def pauseWhenIdle : Float := 0.25

def pauseAfterFailure : Float := 1.0

/-- One turn of the polling loop: a poll, and the pause after it. -/
def turn (log : Log.Entry → ε) (once : Step ε σ Bool) : Step ε σ Float := do
  match ← once.attempt with
  | .ok delivered => return if delivered then pauseAfterMessage else pauseWhenIdle
  | .error fault =>
    if isRecoverable fault then
      Step.emit (log (Log.error .client "HTTP bridge poll error: " (some fault)))
      return pauseAfterFailure
    else
      Step.fail fault

/-- Turns of the polling loop until it is stopped after some number of them; the result is the pauses. -/
def turns (log : Log.Entry → ε) (once : Step ε σ Bool) : Nat → Step ε σ (List Float)
  | 0 => return []
  | n + 1 => do
    let pause ← turn log once
    return pause :: (← turns log once n)

/-- The polling loop, stopped after some number of turns. -/
def run (log : Log.Entry → ε) (endpoint : String) (once : Step ε σ Bool) (n : Nat) : Step ε σ (List Float) := do
  Step.emit (log (Log.info .client ("HTTP bridge polling " ++ endpoint)))
  turns log once n

/-- What a reply to an event means: whether it was accepted, and what is reported if not. -/
def accepted : Reply → Bool × List Log.Entry
  | .unreachable => (false, [Log.error .client "HTTP bridge post failed: " (some .unreachable)])
  | .response status _ =>
    if status = 202 then (true, [])
    else (false, [Log.error .client ("HTTP bridge post rejected with status " ++ toString status)])

/-- The body of an event: a text stands for itself, any other value is written. -/
def bodyOf : Json → String
  | .str s => s
  | v => v.spaced

/-- Sends an event, and tells whether it was accepted. -/
def post (log : Log.Entry → ε) (fetch : Request → Step ε σ Reply) (body : String) : Step ε σ Bool := do
  let (ok, entries) := accepted (← fetch (postRequest body))
  Step.emitAll (entries.map log)
  return ok

/-- The other side is there. -/
def health (fetch : Request → Step ε σ Reply) : Step ε σ Bool := do
  match ← fetch healthRequest with
  | .unreachable => return false
  | .response status _ => return status == 200

end Client

end ToolpathViewer.Bridge
