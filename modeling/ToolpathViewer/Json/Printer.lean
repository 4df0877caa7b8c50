import ToolpathViewer.Decimal.Numeral
import ToolpathViewer.Decimal.Shortest
import ToolpathViewer.Json.Basic
import ToolpathViewer.Text.Quoted

/-!
# Writing JSON

The written form is ASCII: every other character stands as its UTF-16 units behind `\u`. Values that are not finite are
written by their names. Three layouts are used: compact for messages, spaced for posted events, indented for files.
-/

namespace ToolpathViewer.Json

open ToolpathViewer.Text

/-- The separators of a layout; with an indentation every item stands on a line of its own. -/
structure Layout where
  comma : List Char
  colon : List Char
  indent : Option Nat := none

/-- No spaces at all. -/
def Layout.compact : Layout := ⟨[','], [':'], none⟩

/-- A space behind every separator. -/
def Layout.spaced : Layout := ⟨[',', ' '], [':', ' '], none⟩

/-- One item a line, two spaces a level. -/
def Layout.indented : Layout := ⟨[','], [':', ' '], some 2⟩

/-- One UTF-16 unit behind `\u`. -/
def unitEscape (n : Nat) : List Char :=
  '\\' :: 'u' :: hex 4 n

/-- The written form of one character of a string. -/
def escapeChar (c : Char) : List Char :=
  if c == '"' then ['\\', '"']
  else if c == '\\' then ['\\', '\\']
  else if c == '\n' then ['\\', 'n']
  else if c == '\r' then ['\\', 'r']
  else if c == '\t' then ['\\', 't']
  else if c == '\x08' then ['\\', 'b']
  else if c == '\x0c' then ['\\', 'f']
  else if 0x20 ≤ c.toNat && c.toNat < 0x7F then [c]
  else if c.toNat < 0x10000 then unitEscape c.toNat
  else unitEscape (0xD800 + (c.toNat - 0x10000) / 0x400) ++ unitEscape (0xDC00 + (c.toNat - 0x10000) % 0x400)

/-- The written form of a string. -/
def writeString (s : String) : List Char :=
  '"' :: s.toList.flatMap escapeChar ++ ['"']

/-- The written form of a number with a fraction or an exponent. -/
def writeNumber (x : Float) : List Char :=
  match Decimal.parts x with
  | .nan => "NaN".toList
  | .infinite true => "-Infinity".toList
  | .infinite false => "Infinity".toList
  | .finite _ => (Decimal.shortest x).toList

/-- The break in front of an item at a depth. -/
def Layout.newline (l : Layout) (depth : Nat) : List Char :=
  match l.indent with
  | none => []
  | some n => '\n' :: List.replicate (n * depth) ' '

mutual

/-- The written form of a value that stands at a depth. -/
def write (l : Layout) (depth : Nat) : Json → List Char
  | .null => "null".toList
  | .bool true => "true".toList
  | .bool false => "false".toList
  | .int n => (toString n).toList
  | .num x => writeNumber x
  | .str s => writeString s
  | .arr [] => ['[', ']']
  | .arr (v :: rest) =>
    '[' :: l.newline (depth + 1) ++ write l (depth + 1) v ++ writeItems l (depth + 1) rest ++ l.newline depth ++ [']']
  | .obj [] => ['\x7b', '\x7d']
  | .obj ((k, v) :: rest) =>
    '\x7b' :: l.newline (depth + 1) ++ writeString k ++ l.colon ++ write l (depth + 1) v ++
      writeFields l (depth + 1) rest ++ l.newline depth ++ ['\x7d']

/-- The written form of the items behind the first, each with the separator in front. -/
def writeItems (l : Layout) (depth : Nat) : List Json → List Char
  | [] => []
  | v :: rest => l.comma ++ l.newline depth ++ write l depth v ++ writeItems l depth rest

/-- The written form of the fields behind the first, each with the separator in front. -/
def writeFields (l : Layout) (depth : Nat) : List (String × Json) → List Char
  | [] => []
  | (k, v) :: rest =>
    l.comma ++ l.newline depth ++ writeString k ++ l.colon ++ write l depth v ++ writeFields l depth rest

end

mutual

/-- No integer in the value has too many digits. -/
def fits : Json → Bool
  | .int n => decide (Decimal.Fits n)
  | .arr items => fitsItems items
  | .obj fields => fitsFields fields
  | .null | .bool _ | .num _ | .str _ => true

/-- No integer in the items has too many digits. -/
def fitsItems : List Json → Bool
  | [] => true
  | v :: rest => v.fits && fitsItems rest

/-- No integer in the fields has too many digits. -/
def fitsFields : Fields → Bool
  | [] => true
  | (_, v) :: rest => v.fits && fitsFields rest

end

/-- The written form without spaces. -/
def compact (v : Json) : String := String.ofList (v.write .compact 0)

/-- The written form with a space behind every separator. -/
def spaced (v : Json) : String := String.ofList (v.write .spaced 0)

/-- The written form with one item a line. -/
def indented (v : Json) : String := String.ofList (v.write .indented 0)

end ToolpathViewer.Json
