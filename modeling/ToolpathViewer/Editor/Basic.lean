import ToolpathViewer.Diagnostic
import ToolpathViewer.Editor.Highlight
import ToolpathViewer.Step

/-!
# The editor

A text with a caret, and marks over some of its lines: the line of the caret, the lines with diagnostics, and the lines that the
view has selected. The editor tells when the caret comes to another line, except when it was sent there.
-/

namespace ToolpathViewer

/-- A mark over a whole line. -/
structure Editor.Mark where
  line : Nat
  color : String
deriving DecidableEq, Repr

/-- An editor. Positions count characters from the start of the text. -/
structure Editor where
  text : List Char := []
  position : Nat := 0
  /-- The other end of what is selected in the text. It is kept as given, also when it lies outside. -/
  anchor : Int := 0
  readOnly : Bool := false
  /-- The line of the caret that was told last. -/
  toldLine : Nat := 0
  /-- The lines with diagnostics, ascending. -/
  errorLines : List Int := []
  /-- The lines that the view has selected, ascending. -/
  viewerLines : List Int := []
  marks : List Editor.Mark := []
  /-- How often the caret was brought to the middle. -/
  centered : Nat := 0

namespace Editor

/-- What an editor tells others. -/
inductive Event where
  | textChanged
  | caretLine (line : Nat)

/-- A call on an editor. -/
abbrev Call (α : Type) : Type := Step Event Editor α

/-- The colors of the editor. -/
def background : String := "#2b2b2b"

def foreground : String := "#f8f8f2"

def currentLineColor : String := "#44475a"

def errorLineColor : String := "#660000"

def viewerLineColor : String := "#1e3a8a"

/-- The colors by what they are for. -/
def palette : List (String × String) := [
  ("base", background), ("text", foreground), ("highlight", currentLineColor), ("highlighted-text", foreground)]

/-- The number of lines. -/
def lineCount (e : Editor) : Nat := e.text.count '\n' + 1

/-- The line, counted from 1, of a position. -/
def lineAt (text : List Char) (position : Nat) : Nat := (text.take position).count '\n' + 1

/-- The line of the caret. -/
def caretLine (e : Editor) : Nat := lineAt e.text e.position

/-- The lines of a text. -/
def lines (text : List Char) : List (List Char) :=
  text.foldr (fun c ls => if c == '\n' then [] :: ls else match ls with | [] => [[c]] | l :: ls => (c :: l) :: ls) [[]]

/-- The position at which a line starts, if the text has that line. -/
def lineStart? (e : Editor) (line : Int) : Option Nat :=
  if 1 ≤ line && line ≤ e.lineCount then
    some (((lines e.text).take (line.toNat - 1)).foldl (fun offset l => offset + (l.length + 1)) 0)
  else none

/-- The width of the area with the line numbers, from the number of digits of the last one. -/
def numberAreaWidth (e : Editor) : Nat := 3 + 8 * (toString e.lineCount).length

/-- The marks of those lines of a list that the text has. -/
def marksOf (e : Editor) (color : String) (ns : List Int) : List Mark :=
  (ns.filter fun (n : Int) => 1 ≤ n && n ≤ e.lineCount).map fun n => ⟨n.toNat, color⟩

/-- The marks that the state of the editor calls for. The caret's line has one while nothing is selected in the text. -/
def currentMarks (e : Editor) : List Mark :=
  (if !e.readOnly && e.position == e.anchor then [⟨e.caretLine, currentLineColor⟩] else []) ++
    e.marksOf errorLineColor e.errorLines ++
    e.marksOf viewerLineColor (e.viewerLines.filter (!e.errorLines.contains ·))

/-- Brings the marks up to date. -/
def remark (e : Editor) : Editor := { e with marks := e.currentMarks }

/-- The caret has moved. -/
def caretMoved (quiet : Bool) : Call Unit := do
  let e ← Step.get
  if e.caretLine ≠ e.toldLine then
    Step.set { e with toldLine := e.caretLine }
    if !quiet then Step.emit (.caretLine e.caretLine)
  Step.update remark

/-- Replaces the text and puts the caret at its start. -/
def setText (text : List Char) : Call Unit := do
  Step.update fun e => { e with text, position := 0, anchor := 0 }
  Step.emit .textChanged
  caretMoved false

/-- Puts the caret at a position and the other end of the selection at an anchor. -/
def putCaret (position : Nat) (anchor : Int) (quiet : Bool := false) : Call Unit := do
  let e ← Step.get
  Step.set { e with position, anchor }
  if position ≠ e.position then caretMoved quiet

/-- Puts the caret at a position, unless that lies outside the text. Without an anchor nothing is selected then. -/
def select (position : Int) (anchor : Option Int := none) : Call Unit := do
  let e ← Step.get
  if 0 ≤ position && position ≤ e.text.length then putCaret position.toNat (anchor.getD position)
  else putCaret e.position (anchor.getD e.anchor)

/-- Goes to a line and brings it to the middle. Unless asked to, this is not told. -/
def goTo (line : Int) (tell : Bool := false) : Call Unit := do
  let e ← Step.get
  match e.lineStart? line with
  | none => return
  | some p =>
    putCaret p p (!tell)
    Step.update fun e => { e with centered := e.centered + 1 }

/-- Marks the lines with diagnostics. -/
def markErrors (e : Editor) (ns : List Int) : Editor := remark { e with errorLines := distinctLines ns }

/-- Marks the lines that the view has selected. -/
def markViewer (e : Editor) (ns : List Int) : Editor := remark { e with viewerLines := distinctLines ns }

/-- The looks of all lines. -/
def looks (e : Editor) : Except Fault (List (List Piece)) := (lines e.text).mapM Highlight.line

end Editor

end ToolpathViewer
