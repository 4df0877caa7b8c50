import ToolpathViewer.Fault

/-!
# The message buffer

A buffer keeps the most recent messages, each with its version. Versions count all messages from 1 on, so a reader that knows the
last version it saw can ask for the next.
-/

namespace ToolpathViewer.Bridge

/-- A message with its version. -/
structure Envelope where
  version : Nat
  message : String
deriving DecidableEq, Repr

/-- A buffer of at most `capacity` messages, oldest first. -/
structure Buffer where
  capacity : Nat
  envelopes : List Envelope := []
  /-- The version of the newest message. -/
  latest : Nat := 0

namespace Buffer

/-- An empty buffer. It must have room for one message. -/
def make (capacity : Int) : Except Fault Buffer :=
  if capacity < 1 then .error .capacityTooSmall else .ok { capacity := capacity.toNat }

/-- Adds a message with the next version and drops the oldest ones that no longer fit. -/
def append (b : Buffer) (message : String) : Envelope × Buffer :=
  let envelope : Envelope := ⟨b.latest + 1, message⟩
  let envelopes := b.envelopes ++ [envelope]
  (envelope, { b with envelopes := envelopes.drop (envelopes.length - b.capacity), latest := b.latest + 1 })

/-- The oldest message that is newer than a version. -/
def nextAfter (b : Buffer) (version : Int) : Option Envelope :=
  b.envelopes.find? fun e => version < e.version

/-- The messages that a reader gets who asks again and again, at most `n` times. -/
def drain (b : Buffer) : Nat → Int → List Envelope
  | 0, _ => []
  | n + 1, version =>
    match b.nextAfter version with
    | none => []
    | some e => e :: drain b n e.version

/-- The messages that a reader gets who asks until there is no more. -/
def drainAfter (b : Buffer) (version : Int) : List Envelope :=
  b.drain b.envelopes.length version

end Buffer

end ToolpathViewer.Bridge
