import ToolpathViewer.Log
import ToolpathViewer.Toolpath.Line
import ToolpathViewer.Toolpath.Settings

/-!
# Extracting a toolpath

The tokens of a program drive a machine with modal state: its position, its last motion command and its plane. Every line that
moves the tool adds movements to the path, up to a limit beyond which they are only counted. Problems in the program become
diagnostics; what stops the extraction is a number that no value can stand for.
-/

namespace ToolpathViewer

/-- The modal state of the machine. -/
structure Machine where
  position : Vec3 Float := Vec3.fill 0.0
  motion : Option Motion := none
  plane : Plane := .xy
deriving DecidableEq

/-- A path in the making. -/
structure Extraction where
  machine : Machine := {}
  movements : Array Movement := #[.origin]
  dropped : Nat := 0
  diagnostics : Array Diagnostic := #[]

namespace Extraction

/-- Some movements are missing from the path. -/
def truncated (e : Extraction) : Bool := e.dropped > 0

/-- The number of segments of the path. -/
def segmentCount (e : Extraction) : Nat := e.movements.size - 1

/-- Records a problem that concerns a line as a whole. -/
def report (e : Extraction) (line : Nat) (message : String) : Extraction :=
  { e with diagnostics := e.diagnostics.push { line, start := 0, stop := 0, message, kind := .semantic } }

/-- Moves the tool. Beyond the limit the movement is counted and not kept. -/
def moveTo (s : Settings) (motion : Motion) (line : Nat) (e : Extraction) (target : Vec3 Float) : Extraction :=
  let e := { e with machine := { e.machine with position := target } }
  if s.limit.any (· ≤ e.movements.size) then { e with dropped := e.dropped + 1 }
  else { e with movements := e.movements.push ⟨target, some motion, line⟩ }

/-- The way from the start of an arc to its center in a plane, if one of the plane's own words gives it. -/
def centerOffset? (plane : Plane) (w : ArcWords) : Option (Vec2 Float) :=
  let (a, b) :=
    match plane with
    | .xy => (w.i, w.j)
    | .zx => (w.k, w.i)
    | .yz => (w.j, w.k)
  if a.isSome || b.isSome then some ⟨a.getD 0.0, b.getD 0.0⟩ else none

/-- The center of an arc: by its radius if there is one, else by the offset from its start. -/
def arcCenter (plane : Plane) (turn : Arc.Turn) (w : ArcWords) (start stop : Vec2 Float) :
    Except Fault (Option (Vec2 Float)) :=
  match w.r with
  | some radius => Arc.centerOfRadius turn start stop radius
  | none => .ok ((centerOffset? plane w).map fun o => ⟨start.a + o.a, start.b + o.b⟩)

/-- The center is at a distance from the start. -/
def apart (start center : Vec2 Float) : Bool :=
  !((center.a - start.a).abs < Arc.tiny && (center.b - start.b).abs < Arc.tiny)

/-- The points of space at the ends of the chords; the height over the plane changes in proportion. -/
def helix (plane : Plane) (start stop : Vec3 Float) (chords : List (Arc.Chord Float)) : List (Vec3 Float) :=
  let low := start.along? plane.normal
  let high := stop.along? plane.normal
  chords.map fun c => plane.lift c.point (low + (high - low) * c.fraction)

/-- Moves the tool along an arc. Without a usable center it goes straight. -/
def moveArc (s : Settings) (turn : Arc.Turn) (l : Line) (e : Extraction) (target : Vec3 Float) : Except Fault Extraction := do
  let plane := e.machine.plane
  let start := e.machine.position
  let a := plane.project start
  let b := plane.project target
  match (← arcCenter plane turn l.arc a b).filter (apart a) with
  | none =>
    let message := (Motion.arc turn).code ++ " without a usable arc center; drawn as a line"
    return (e.report l.number message).moveTo s (.arc turn) l.number target
  | some center =>
    let chords ← Arc.tessellate turn a b center s.divisions
    return (helix plane start target chords).foldl (moveTo s (.arc turn) l.number) e

/-- The position that a line asks for: axes without a word keep their value. -/
def target (m : Machine) (axes : AxisWords) : Vec3 Float :=
  Vec3.zipWith Option.getD axes m.position

/-- Carries out a motion command with the words of a line, if any axis has one. -/
def perform (s : Settings) (l : Line) (e : Extraction) (motion : Motion) : Except Fault Extraction :=
  if !l.hasAxes then .ok e
  else
    match motion with
    | .arc turn => e.moveArc s turn l (target e.machine l.axes)
    | motion => .ok (e.moveTo s motion l.number (target e.machine l.axes))

/-- An extraction that had to stop: the fault, and the path up to there. -/
structure Interruption where
  fault : Fault
  path : Extraction

/-- A step that keeps the path it started from when it fails. -/
def attempt (e : Extraction) (step : Extraction → Except Fault Extraction) : Except Interruption Extraction :=
  (step e).mapError (⟨·, e⟩)

/-- Ends a line. Its own motion command becomes the modal one; without one, axis words alone repeat the modal command. -/
def finishLine (s : Settings) (e : Extraction) (l : Line) : Except Interruption Extraction :=
  match l.motion with
  | some motion => attempt { e with machine := { e.machine with motion := some motion } } (perform s l · motion)
  | none =>
    if l.hasAxes && !l.named && !l.excluded then
      match e.machine.motion with
      | some motion => attempt e (perform s l · motion)
      | none => .ok (e.report l.number "Axis words without an active motion command")
    else .ok e

/-- A path in the making, and the line that is being read. -/
structure Progress where
  path : Extraction := {}
  line : Line := { number := 1, start := 0 }

namespace Progress

/-- Ends the line at a line end, and starts the next at a position. -/
def nextLine (s : Settings) (p : Progress) (start : Int) : Except Interruption Progress := do
  return { path := ← p.path.finishLine s p.line, line := { number := p.line.number + 1, start } }

/-- Reads the characters between two tokens, the first of them at a position. -/
def readSpace (s : Settings) (start : Int) : List Char → Progress → Except Interruption Progress
  | [], p => .ok p
  | c :: rest, p => do
    if c == '\n' then
      readSpace s (start + 1) rest (← p.nextLine s (start + 1))
    else
      readSpace s (start + 1) rest p

/-- Reads a token. -/
def readToken (s : Settings) (p : Progress) (t : Token) : Except Interruption Progress :=
  if t.kind == .space then
    readSpace s t.start t.text p
  else
    match p.line.read s.excluded p.path.machine.plane t with
    | .error fault => .error ⟨fault, p.path⟩
    | .ok r =>
      .ok {
        path := {
          p.path with
          machine := { p.path.machine with plane := r.plane }
          diagnostics := p.path.diagnostics ++ r.found.toArray }
        line := r.line }

end Progress

/-- The path of a sequence of tokens. -/
def ofTokens (s : Settings) (tokens : List Token) : Except Interruption Extraction := do
  let p ← tokens.foldlM (Progress.readToken s) {}
  p.path.finishLine s p.line

/-- The path of a program. -/
def ofText (s : Settings) (text : List Char) : Except Interruption Extraction :=
  ofTokens s (Token.ofText text)

/-- What is reported about a path. -/
def log (e : Extraction) : List Log.Entry :=
  if e.dropped = 0 then []
  else
    [Log.warning .extraction
      ("Toolpath truncated to " ++ toString e.movements.size ++ " movements; " ++ toString e.dropped ++ " dropped")]

end Extraction

end ToolpathViewer
