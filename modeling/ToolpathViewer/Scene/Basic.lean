import Std.Data.HashMap
import ToolpathViewer.Scene.Theme
import ToolpathViewer.Toolpath.Extraction

/-!
# The scene

A scene holds the path of one program: its movements, the segments between them with their colors, which segments each line of
the program drew, and what is selected. Segments count from 0; the segment `i` goes from movement `i` to movement `i + 1`, and
belongs to the line of the latter.
-/

namespace ToolpathViewer

/-- A range of segments, both ends included. -/
structure Span where
  first : Nat
  last : Nat
deriving DecidableEq, Repr

/-- The segment lies in the range. -/
def Span.contains (s : Span) (i : Nat) : Bool := s.first ≤ i && i ≤ s.last

/-- A straight piece of the path. -/
structure Segment where
  start : Vec3 Float
  stop : Vec3 Float
  command : Option Motion
  line : Nat

/-- The path of a program as it is shown. -/
structure Scene where
  /-- The commands to leave out, as they were given. -/
  codes : List Json := []
  /-- The greatest number of movements, as it was given. -/
  limit : Json := .null
  /-- The number of chords of a whole turn, as it was given. -/
  divisions : Json := .int 64
  theme : Theme := .dark
  /-- Whether a program has been loaded. -/
  loaded : Bool := false
  movements : Array Movement := #[]
  dropped : Nat := 0
  diagnostics : Diagnostics := []
  segments : Array Segment := #[]
  /-- The color of each segment. -/
  colors : Array Color := #[]
  /-- The segments that each line drew. -/
  spans : Std.HashMap Nat Span := ∅
  selection : Option Span := none
  /-- The segment that the scrubber stands on. -/
  scrubber : Nat := 0

/-- What loading a program gave. -/
structure LoadResult where
  segments : Nat
  dropped : Nat
  /-- Whether the view should frame the whole path anew. -/
  reframe : Bool
deriving DecidableEq, Repr

namespace Scene

/-- An empty scene by settings of any type, of which only the theme is looked at now. -/
def make (codes : List Json) (limit divisions theme : Json) : Except Fault Scene := do
  return { codes, limit, divisions, theme := ← Theme.ofValue theme }

/-- The number of segments. -/
def segmentCount (s : Scene) : Nat := s.movements.size - 1

/-- The segments between the movements of a path. -/
def segmentsOf : List Movement → List Segment
  | m :: n :: rest => ⟨m.position, n.position, n.command, n.line⟩ :: segmentsOf (n :: rest)
  | _ => []

/-- Adds a segment to the range of its line. -/
def addToSpan (spans : Std.HashMap Nat Span) (p : Segment × Nat) : Std.HashMap Nat Span :=
  spans.alter p.1.line fun
    | none => some ⟨p.2, p.2⟩
    | some span => some ⟨span.first, p.2⟩

/-- The range of segments of each line: from the first to the last that the line drew. -/
def spansOf (segments : List Segment) : Std.HashMap Nat Span :=
  segments.zipIdx.foldl addToSpan ∅

/-- The shade of a segment: before, in or behind the selection. -/
def shade (selection : Option Span) (i : Int) : Shade :=
  match selection with
  | none => .feed
  | some span => if i < span.first then .feed else if i ≤ span.last then .selected else .afterSelected

/-- The color of a segment. -/
def colorOf (s : Scene) (i : Int) : Color := s.theme.color (shade s.selection i)

/-- Colors every segment by the selection and the theme. -/
def recolor (s : Scene) : Scene :=
  { s with colors := ((List.range s.segmentCount).map fun (i : Nat) => s.colorOf i).toArray }

/-- The nearest number from 0 to `last`. -/
def clampIndex (last : Nat) (i : Int) : Nat := (max 0 (min i last)).toNat

/-- Selects a range of segments, with its ends moved into the path and in order. Without segments nothing is selected. -/
def select (s : Scene) (first last : Int) : Scene :=
  if s.segmentCount = 0 then
    { s with selection := none, colors := #[] }
  else
    let low := clampIndex (s.segmentCount - 1) first
    let high := max low (clampIndex (s.segmentCount - 1) last)
    recolor { s with selection := some ⟨low, high⟩ }

/-- Takes over a path, with its first segment selected. -/
def install (s : Scene) (e : Extraction) : Scene :=
  let segments := segmentsOf e.movements.toList
  select
    { s with
      loaded := true
      movements := e.movements
      dropped := e.dropped
      diagnostics := e.diagnostics.toList
      segments := segments.toArray
      spans := spansOf segments
      scrubber := 0 }
    0 0

/-- The path of a program with the settings of the scene. -/
def extract (s : Scene) (text : String) : Except Fault Extraction := do
  let settings ← Extraction.Settings.ofValues s.codes s.limit s.divisions
  (Extraction.ofText settings text.toList).mapError (·.fault)

/-- What is reported about a path that was taken over. -/
def loadLog (e : Extraction) : List Log.Entry :=
  let lost := if e.dropped = 0 then "" else ", " ++ toString e.dropped ++ " dropped"
  e.log ++
    [Log.info .selection
      ("Parsed movements: " ++ toString e.movements.size ++ " (" ++ toString e.segmentCount ++ " segments" ++ lost ++ ")")]

/-- What loading leaves: the scene, what is reported, and the result. -/
structure Loading where
  scene : Scene
  log : List Log.Entry := []
  result : Except Fault LoadResult

/-- Replaces the program. New codes stay in force even when the program cannot be extracted. -/
def rebuild (s : Scene) (text : String) (codes : Option (List Json)) (reframe : Bool) : Loading :=
  let s := { s with codes := codes.getD s.codes }
  match s.extract text with
  | .error fault => { scene := s, result := .error fault }
  | .ok e =>
    { scene := s.install e, log := loadLog e, result := .ok ⟨e.segmentCount, e.dropped, reframe⟩ }

/-- Loads a program and asks for the view to frame it. -/
def load (s : Scene) (text : String) (codes : Option (List Json) := none) : Loading :=
  s.rebuild text codes true

/-- Takes over a changed program and keeps the framing. -/
def change (s : Scene) (text : String) (codes : Option (List Json) := none) : Loading :=
  s.rebuild text codes false

/-- The ends of all segments in one row of coordinates. -/
def positions (s : Scene) : List Float :=
  s.segments.toList.flatMap fun g => g.start.toList ++ g.stop.toList

/-- The colors of both ends of all segments in one row of components. -/
def vertexColors (s : Scene) : List Float :=
  s.colors.toList.flatMap fun c => c.toList ++ c.toList

end Scene

end ToolpathViewer
