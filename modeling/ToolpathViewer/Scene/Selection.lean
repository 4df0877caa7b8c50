import ToolpathViewer.Scene.Basic

/-!
# Selecting by line and by segment

The caret of the editor selects the segments of its line, and the scrubber selects one segment and names its line.
-/

namespace ToolpathViewer.Scene

/-- The segments that a line drew. -/
def spanOfLine? (s : Scene) (line : Int) : Option Span :=
  if line < 0 then none else s.spans[line.toNat]?

/-- The line that drew a segment. -/
def lineOfSegment? (s : Scene) (i : Int) : Option Nat :=
  if 0 ≤ i && i < s.segmentCount then s.movements[i.toNat + 1]?.map (·.line) else none

/-- Selects the segments of the caret's line. A line that drew nothing changes nothing. -/
def selectLine (s : Scene) (line : Int) : Option Span × Scene :=
  match s.spanOfLine? line with
  | none => (none, s)
  | some span =>
    let s := { s with scrubber := span.last }.select span.first span.last
    (s.selection, s)

/-- Moves the scrubber to a segment and names its line. -/
def scrubTo (s : Scene) (i : Int) : Option Nat × Scene :=
  if 0 ≤ i && i < s.segmentCount then
    let s := { s with scrubber := i.toNat }.select i i
    (s.lineOfSegment? i, s)
  else (none, s)

/-- Changes the theme. -/
def setTheme (s : Scene) (name : String) : Except Fault Unit × Scene :=
  match Theme.ofName? name with
  | none => (.error (.unknownTheme name), s)
  | some theme => (.ok (), { s with theme }.recolor)

/-- The start and the end of the selection. -/
def markers? (s : Scene) : Option (Vec3 Float × Vec3 Float) := do
  let span ← s.selection
  let start ← s.movements[span.first]?
  let stop ← s.movements[span.last + 1]?
  return (start.position, stop.position)

/-- The position to show: the end of the selection. -/
def readout (s : Scene) : Vec3 Float :=
  (s.markers?.map (·.2)).getD (Vec3.fill 0.0)

end ToolpathViewer.Scene
