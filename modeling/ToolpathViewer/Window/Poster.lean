import ToolpathViewer.Step

/-!
# The poster

Messages for the host wait in a queue and are sent in order, one after the other, until a mark in the queue ends the run. After it
was stopped, the poster takes no message and sends none.
-/

namespace ToolpathViewer

/-- A queue of messages to send; `none` is the mark that ends a run. -/
structure Poster (α : Type) where
  queue : List (Option α) := []
  stopped : Bool := false

namespace Poster

variable {ε σ α : Type}

/-- Takes a message, or the mark that ends a run, unless stopped. -/
def post (p : Poster α) (m : Option α) : Poster α :=
  if p.stopped then p else { p with queue := p.queue ++ [m] }

/-- Puts the mark that ends a run behind what is queued. -/
def finish (p : Poster α) : Poster α := { p with queue := p.queue ++ [none] }

/-- Stops the poster for good. -/
def stop (p : Poster α) : Poster α := { p.finish with stopped := true }

/-- Sends at most a number of messages, until the mark, or until the poster is stopped. -/
def sendUpTo (send : α → Step ε (Poster α × σ) Unit) : Nat → Step ε (Poster α × σ) Unit
  | 0 => return
  | n + 1 => do
    let (p, s) ← Step.get
    match p.stopped, p.queue with
    | true, _ | _, [] => return
    | _, none :: rest => Step.set ({ p with queue := rest }, s)
    | _, some m :: rest =>
      Step.set ({ p with queue := rest }, s)
      send m
      sendUpTo send n

/-- Sends what is queued now. -/
def run (send : α → Step ε (Poster α × σ) Unit) : Step ε (Poster α × σ) Unit := do
  Step.update fun (p, s) => (p.finish, s)
  let (p, _) ← Step.get
  sendUpTo send p.queue.length

end Poster

end ToolpathViewer
