import ToolpathViewer.Code
import ToolpathViewer.Toolpath.Basic
import ToolpathViewer.Token.Lexer

/-!
# Highlighting

How the words of a program look in the editor. A word's look follows from its kind and, for commands and coordinates, from its
code or letter; a semicolon makes the rest of the line a comment.
-/

namespace ToolpathViewer

/-- The look of a word. -/
structure Look where
  color : String
  bold : Bool := false
  italic : Bool := false
deriving DecidableEq, Repr

/-- The look of the characters of a line from a place on. -/
structure Piece where
  start : Int
  length : Int
  look : Look
deriving DecidableEq, Repr

namespace Highlight

/-- The look of comments. -/
def comment : Look := { color := "#6c757d", italic := true }

/-- The look of a motion command. -/
def motion : Motion → Look
  | .rapid => { color := "#ff6b6b", bold := true }
  | .linear => { color := "#51cf66", bold := true }
  | .arc _ => { color := "#ffd43b", bold := true }

/-- The look of a command with a code in normal form. -/
def command (code : List Char) : Look :=
  match Motion.ofCode? code with
  | some m => motion m
  | none =>
    match code.head? with
    | some 'G' => { color := "#74c0fc" }
    | some 'M' => { color := "#ff8cc8" }
    | _ => { color := "#20c997", bold := true }

/-- The look of a coordinate with a letter in upper case. -/
def coordinate : List Char → Look
  | ['X'] => { color := "#ff9999" }
  | ['Y'] => { color := "#99ff99" }
  | ['Z'] => { color := "#9999ff" }
  | ['I'] | ['J'] | ['K'] => { color := "#cc99ff" }
  | ['R'] => { color := "#ff99cc" }
  | ['F'] | ['S'] => { color := "#ffff99" }
  | _ => { color := "#ffcc99" }

/-- The look of a word of a kind, if it has one. -/
def look (k : Token.Kind) (text : List Char) : Except Fault (Option Look) :=
  match k with
  | .comment => .ok (some comment)
  | .command => (Code.normalize text).map fun code => some (command code)
  | .coordinate => .ok (some (coordinate (Text.upper (text.take 1))))
  | .number => .ok (some { color := "#bd93f9" })
  | .word => .ok (some { color := "#adb5bd" })
  | .space | .bad => .ok none

/-- The pieces that the words of a line make; `length` is the length of the line. -/
def pieces (length : Nat) : List Token → Except Fault (List Piece)
  | [] => .ok []
  | t :: rest => do
    if t.kind = .word && t.text.head? = some ';' then
      return [⟨t.start, length - t.start, comment⟩]
    else
      let l ← look t.kind t.text
      let more ← pieces length rest
      return (l.map fun l => ⟨t.start, t.stop - t.start, l⟩).toList ++ more

/-- The pieces of a line. -/
def line (text : List Char) : Except Fault (List Piece) := pieces text.length (Token.ofText text)

end Highlight

end ToolpathViewer
