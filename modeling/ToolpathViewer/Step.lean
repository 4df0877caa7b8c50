import ToolpathViewer.Fault

/-!
# Steps

The parts of the program are machines: a call on one changes its state, emits effects for others to carry out, and returns a
result or fails. A call that fails keeps the state that it reached and the effects emitted so far, so that what a failure leaves
behind is part of its meaning.
-/

namespace ToolpathViewer

/-- What a call leaves. -/
structure Turn (ε σ α : Type) where
  result : Except Fault α
  state : σ
  emitted : List ε := []

/-- A call on a machine with states `σ` that emits effects `ε`. -/
def Step (ε σ α : Type) : Type := σ → Turn ε σ α

namespace Step

variable {ε σ τ α β : Type}

/-- Returns a result and does nothing. -/
def done (a : α) : Step ε σ α := fun s => ⟨.ok a, s, []⟩

/-- Fails at once. -/
def fail (f : Fault) : Step ε σ α := fun s => ⟨.error f, s, []⟩

/-- One call, and then another that depends on its result. -/
def andThen (x : Step ε σ α) (f : α → Step ε σ β) : Step ε σ β := fun s =>
  match x s with
  | ⟨.error e, s, out⟩ => ⟨.error e, s, out⟩
  | ⟨.ok a, s, out⟩ => let t := f a s; ⟨t.result, t.state, out ++ t.emitted⟩

instance : Monad (Step ε σ) where
  pure := done
  bind := andThen

/-- The state. -/
def get : Step ε σ σ := fun s => ⟨.ok s, s, []⟩

/-- Replaces the state. -/
def set (s : σ) : Step ε σ Unit := fun _ => ⟨.ok (), s, []⟩

/-- Changes the state. -/
def update (f : σ → σ) : Step ε σ Unit := fun s => ⟨.ok (), f s, []⟩

/-- Emits an effect. -/
def emit (e : ε) : Step ε σ Unit := fun s => ⟨.ok (), s, [e]⟩

/-- Emits effects in order. -/
def emitAll (es : List ε) : Step ε σ Unit := fun s => ⟨.ok (), s, es⟩

/-- Takes over a result. -/
def ofExcept (r : Except Fault α) : Step ε σ α := fun s => ⟨r, s, []⟩

/-- A call that never fails: it returns what the given one returns or fails with. -/
def attempt (x : Step ε σ α) : Step ε σ (Except Fault α) := fun s =>
  let t := x s
  ⟨.ok t.result, t.state, t.emitted⟩

/-- A call whose failure is told by an effect and goes no further. -/
def reporting (failed : Fault → ε) (x : Step ε σ α) : Step ε σ Unit :=
  andThen (attempt x) fun
    | .ok _ => done ()
    | .error f => emit (failed f)

/-- A call on a part of a state. -/
def within (read : σ → τ) (write : τ → σ → σ) (x : Step ε τ α) : Step ε σ α := fun s =>
  let t := x (read s)
  ⟨t.result, write t.state s, t.emitted⟩

/-- Carries out a call for each item of a list, in order, until one fails. -/
def each (f : α → Step ε σ Unit) : List α → Step ε σ Unit
  | [] => done ()
  | a :: rest => andThen (f a) fun _ => each f rest

/-- Runs a call and hands its effects, in order, to another machine, on a state of which the call's state is a part. A call that
fails does so after its effects have been carried out.

The program carries out an effect as soon as it is emitted, and not behind the whole call. No call that is handled here shows the
difference. Only its last effect looks at the call's own part or can fail, and behind that the call does nothing that handling it would
see or prevent: a slider has told its value, a host has moved the caret, a surface has announced a change; behind a click a viewport only
forgets where the button was pressed, and behind a line that it tells an editor only brings its marks and its view up to date. All other
effects are reports, messages, drawing, and the news that a text has changed, and are handled beside the call's part without fail. -/
def handling {δ : Type} (read : σ → τ) (write : τ → σ → σ) (handle : δ → Step ε σ Unit) (x : Step δ τ α) : Step ε σ α :=
  fun s =>
    let t := x (read s)
    andThen (each handle t.emitted) (fun _ => ofExcept t.result) (write t.state s)

end Step

end ToolpathViewer
