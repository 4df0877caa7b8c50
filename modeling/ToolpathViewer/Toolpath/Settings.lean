import ToolpathViewer.Amount
import ToolpathViewer.Code

/-!
# Settings of an extraction

Which commands are left out, how many movements are kept, and how finely arcs are split. The settings come from values of any
type; the first one that cannot be used is the fault.
-/

namespace ToolpathViewer

/-- How a path is extracted. -/
structure Extraction.Settings where
  /-- The commands to leave out, in normal form. -/
  excluded : List (List Char) := []
  /-- The greatest number of movements, the origin included. -/
  limit : Option Nat := none
  /-- The least number of chords that a whole turn is split into. -/
  divisions : Amount Float := .whole 64

namespace Extraction.Settings

/-- Settings with amounts that may be out of bounds: both are at least one. -/
def make (excluded : List (List Char)) (limit : Option (Amount Float) := none) (divisions : Amount Float := .whole 64) : Settings :=
  { excluded, limit := limit.bind (·.atLeastOne.ceiling?), divisions := divisions.atLeastOne }

/-- The normal forms of codes. The first code that is no text, or has none, is the fault. -/
def codesOf (codes : List Json) : Except Fault (List (List Char)) := do
  let texts := (codes.map Json.str?).takeWhile Option.isSome
  let normal ← Code.normalizeAll texts.reduceOption
  if texts.length < codes.length then .error .noFields else .ok normal

/-- Settings from values. -/
def ofValues (codes : List Json) (limit divisions : Json) : Except Fault Settings := do
  return make (← codesOf codes) (← Amount.boundOf limit) (← Amount.atLeastOneOf divisions)

/-- Settings come from values of which each one can be used. -/
theorem ofValues_eq_ok {codes : List Json} {limit divisions : Json} {s : Settings} :
    ofValues codes limit divisions = .ok s ↔
      ∃ excluded bound least, codesOf codes = .ok excluded ∧ Amount.boundOf limit = .ok bound ∧
        Amount.atLeastOneOf divisions = .ok least ∧ make excluded bound least = s := by
  unfold ofValues
  cases codesOf codes <;> cases Amount.boundOf limit <;> cases Amount.atLeastOneOf divisions <;>
    simp [bind, Except.bind, pure, Except.pure]

/-- The commands to leave out, in the order of their texts and each once. -/
def excludedCodes (s : Settings) : List String :=
  (s.excluded.map String.ofList).eraseDups.mergeSort fun a b => !(b < a)

end Extraction.Settings

end ToolpathViewer
