import ToolpathViewer.Code
import ToolpathViewer.Diagnostic
import ToolpathViewer.Token.Lexer
import ToolpathViewer.Toolpath.Basic

/-!
# The words of a line

A line of a program is gathered word by word: its last motion command, the last value of every axis and arc word, and whether
anything on it is excluded. The plane takes effect at once; everything else waits for the end of the line.
-/

namespace ToolpathViewer

open Text

/-- A value for some of the axes. -/
abbrev AxisWords := Vec3 (Option Float)

/-- The words that describe an arc: the way from its start to its center along each axis, and its radius. -/
structure ArcWords where
  i : Option Float := none
  j : Option Float := none
  k : Option Float := none
  r : Option Float := none

/-- What has been read of a line. -/
structure Line where
  /-- The number of the line, from 1. -/
  number : Nat
  /-- The position at which the line starts. -/
  start : Int
  /-- Whether a command that is not excluded stands on the line. -/
  named : Bool := false
  /-- The last motion command. -/
  motion : Option Motion := none
  /-- Whether an excluded command stands on the line. -/
  excluded : Bool := false
  /-- The last value of each axis. -/
  axes : AxisWords := Vec3.fill none
  /-- The last value of each arc word. -/
  arc : ArcWords := {}
  /-- Whether the rest of the line is a remark. -/
  silenced : Bool := false

namespace Line

/-- Some axis has a value on the line. -/
def hasAxes (l : Line) : Bool :=
  l.axes.x.isSome || l.axes.y.isSome || l.axes.z.isSome

/-- A diagnostic about a token of the line. -/
def diagnostic (l : Line) (t : Token) (message : String) : Diagnostic :=
  { line := l.number, start := t.start - l.start, stop := t.stop - l.start, message, kind := .grammar }

end Line

/-- The letters whose values matter to the path, each with the way in which a line keeps its value. -/
def Line.store? (letter : List Char) : Option (Float → Line → Line) :=
  match letter with
  | ['X'] => some fun v l => { l with axes := { l.axes with x := some v } }
  | ['Y'] => some fun v l => { l with axes := { l.axes with y := some v } }
  | ['Z'] => some fun v l => { l with axes := { l.axes with z := some v } }
  | ['I'] => some fun v l => { l with arc := { l.arc with i := some v } }
  | ['J'] => some fun v l => { l with arc := { l.arc with j := some v } }
  | ['K'] => some fun v l => { l with arc := { l.arc with k := some v } }
  | ['R'] => some fun v l => { l with arc := { l.arc with r := some v } }
  | _ => none

/-- What reading a token leaves: the line, the plane, and the diagnostic that the token gave rise to. -/
structure Line.Read where
  line : Line
  plane : Plane
  found : Option Diagnostic := none

namespace Line

/-- Reads a command. A code that is no letter with a number matches nothing and is reported. -/
def readCommand (excluded : List (List Char)) (l : Line) (plane : Plane) (t : Token) : Except Fault Read := do
  let code ← Code.normalize t.text
  let found :=
    if Code.isNumber (code.drop 1) then none
    else some (l.diagnostic t ("Unrecognized command: '" ++ String.ofList code ++ "'"))
  if excluded.contains code then
    return ⟨{ l with excluded := true }, plane, found⟩
  let l := { l with named := true }
  match Motion.ofCode? code with
  | some m => return ⟨{ l with motion := some m }, plane, found⟩
  | none => return ⟨l, (Plane.ofCode? code).getD plane, found⟩

/-- Reads a coordinate. A value that is no number is reported and skipped. -/
def readCoordinate (l : Line) (plane : Plane) (t : Token) : Except Fault Read :=
  match t.text with
  | [] => .error .outOfRange
  | c :: value =>
    match store? (upperChar c) with
    | none => .ok ⟨l, plane, none⟩
    | some store =>
      match Decimal.readDecimal? value with
      | some v => .ok ⟨store v l, plane, none⟩
      | none =>
        let message := "Invalid value for " ++ String.ofList (upperChar c) ++ ": '" ++ String.ofList t.text ++ "'"
        .ok ⟨l, plane, some (l.diagnostic t message)⟩

/-- The first letters, in upper case, of words that are ordinary although no rule names them: sequence numbers, program
numbers and the tape mark. -/
def quietLetters : List Char := ['N', 'O', '%']

/-- Reads a word. A semicolon silences the rest of the line; any other word that is not quiet is reported. -/
def readWord (l : Line) (plane : Plane) (t : Token) : Read :=
  if t.text.head? == some ';' then ⟨{ l with silenced := true }, plane, none⟩
  else if (upper t.text).head?.any quietLetters.contains then ⟨l, plane, none⟩
  else ⟨l, plane, some (l.diagnostic t ("Unrecognized word: '" ++ String.ofList t.text ++ "'"))⟩

/-- Reads a token that is not space. Remarks and bare numbers mean nothing. -/
def read (excluded : List (List Char)) (l : Line) (plane : Plane) (t : Token) : Except Fault Read :=
  if l.silenced then .ok ⟨l, plane, none⟩
  else
    match t.kind with
    | .command => readCommand excluded l plane t
    | .coordinate => readCoordinate l plane t
    | .word => .ok (readWord l plane t)
    | .comment | .number | .space | .bad => .ok ⟨l, plane, none⟩

end Line

end ToolpathViewer
