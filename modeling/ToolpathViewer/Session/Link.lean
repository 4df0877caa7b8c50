import ToolpathViewer.Bridge.Client
import ToolpathViewer.Session.Host
import ToolpathViewer.Session.Surface

/-!
# Linked sessions

A host and a surface joined by a client whose requests reach the host's channel at once. Events that the surface posts go to the
host, and messages that the client polls go to the surface.
-/

namespace ToolpathViewer

namespace Bridge.Channel

variable {ι ε σ : Type} [Server]

/-- Answers a request on the spot, with its event delivered to the listeners first. -/
def exchange (log : Log.Entry → ε) (call : ι → String → Step ε σ Unit) (channel : σ → Channel ι) (r : Request) :
    Step ε σ Reply := do
  let answer := (channel (← Step.get)).answer r
  match answer.event with
  | some (payload, listeners) => deliver log call payload listeners
  | none => pure ()
  return .response answer.response.status answer.response.body

end Bridge.Channel

open Bridge

/-- A host, a surface, and the client between them. -/
structure Session where
  host : Host Unit
  surface : Surface
  client : Client Unit

namespace Session

/-- What a session asks others to do. -/
inductive Effect where
  | log (e : Log.Entry)
  | moveCaret (line : Int)
  | update (what : Surface.Update) (result : Option LoadResult)

/-- A call on a session. -/
abbrev Call (α : Type) : Type := Step Effect Session α

/-- A session over a channel by a configuration, with a client that has a secret and asks for what is newer than a version. -/
def make (channel : Channel Unit) (c : Config) (token : String) (after : Int) : Except Fault Session := do
  let client : Client Unit := .make "http://bridge/" token after
  return {
    host := { channel := channel.addListener (), config := c }
    surface := ← Surface.ofConfig c
    client := client.addListener () }

/-- A call on the host. -/
def onHost {α : Type} (x : Host.Call Unit α) : Call α :=
  x.handling (·.host) (fun host s => { s with host }) fun
    | .log e => Step.emit (.log e)
    | .moveCaret line => Step.emit (.moveCaret line)

variable [Json.Room] [Server]

/-- A request of the client. -/
def request (r : Request) : Call Reply := do
  let s ← Step.get
  Channel.exchange .log (fun _ payload => onHost (Host.receive (.text payload))) (·.host.channel) (s.client.signed r)

/-- Sends a message to the host. -/
def post (m : Message) : Call Unit := do
  let _ ← Client.post .log request (Client.bodyOf m.toJson)

/-- A call on the surface. -/
def onSurface {α : Type} (x : Surface.Call α) : Call α :=
  x.handling (·.surface) (fun surface s => { s with surface }) fun
    | .log e => Step.emit (.log e)
    | .post m => post m
    | .update what result => Step.emit (.update what result)

/-- Polls once, and tells whether a message was delivered. -/
def poll : Call Bool :=
  (Client.poll .log request fun _ m => onSurface (Surface.receive (.value m))).within
    (fun s => (s.client, s)) fun p _ => { p.2 with client := p.1 }

/-- Polls until there is nothing more, at most a number of times, and tells how many messages were delivered. -/
def pollUpTo : Nat → Call Nat
  | 0 => return 0
  | n + 1 => do
    if ← poll then return (← pollUpTo n) + 1
    else return 0

/-- Polls until there is nothing more, and tells how many messages were delivered. -/
def pollAll : Call Nat := do
  let s ← Step.get
  pollUpTo (s.host.channel.buffer.envelopes.length + 1)

/-- Asks whether the channel is there. -/
def health : Call Bool := Client.health request

end Session

end ToolpathViewer
