import ToolpathViewer.Step

/-!
# The ready gate

A gate stands in front of a dispatch function. Messages sent before the other side is ready wait in order and are dispatched when
it is; from then on they go straight through. A message leaves the queue only after its dispatch succeeded, so a flush that fails
can be taken up again without a repetition.
-/

namespace ToolpathViewer

/-- A gate for messages `μ`. -/
structure Gate (μ : Type) where
  ready : Bool := false
  pending : List μ := []

namespace Gate

variable {ε σ μ : Type}

/-- Steps on a gate and the state of what lies behind it. -/
abbrev Through (ε σ μ α : Type) : Type := Step ε (Gate μ × σ) α

/-- A call on what lies behind the gate. -/
def beyond {α : Type} (x : Step ε σ α) : Through ε σ μ α :=
  x.within Prod.snd fun s p => (p.1, s)

/-- Dispatches a message when ready and queues it otherwise; the result tells which. -/
def send (dispatch : μ → Step ε σ Unit) (m : μ) : Through ε σ μ Bool := do
  let (g, _) ← Step.get
  if g.ready then
    beyond (dispatch m)
    return true
  else
    Step.update fun (g, s) => ({ g with pending := g.pending ++ [m] }, s)
    return false

/-- Dispatches queued messages from the front and takes each off the queue. -/
def flush (dispatch : μ → Step ε σ Unit) : List μ → Through ε σ μ Unit
  | [] => Step.update fun (g, s) => ({ g with pending := [] }, s)
  | m :: rest => do
    Step.update fun (g, s) => ({ g with pending := m :: rest }, s)
    beyond (dispatch m)
    flush dispatch rest

/-- Becomes ready after everything queued has been dispatched, and tells how many messages that were. -/
def markReady (dispatch : μ → Step ε σ Unit) : Through ε σ μ Nat := do
  let (g, _) ← Step.get
  if g.ready then
    return 0
  else
    flush dispatch g.pending
    Step.update fun (g, s) => ({ g with ready := true }, s)
    return g.pending.length

/-- The other side is gone. What is queued is dropped, unless it is to wait for the next one. -/
def reset (g : Gate μ) (drop : Bool := true) : Gate μ :=
  { ready := false, pending := if drop then [] else g.pending }

end Gate

end ToolpathViewer
