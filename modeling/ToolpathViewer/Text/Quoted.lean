import ToolpathViewer.Text.Printable

/-!
# Quoted text

The form in which a log line shows a text or a byte sequence: between quotes, on one line, with everything that is not
printable escaped.
-/

namespace ToolpathViewer.Text

/-- A hexadecimal digit, lower case. -/
def hexDigit (n : Nat) : Char :=
  if n < 10 then Char.ofNat ('0'.toNat + n) else Char.ofNat ('a'.toNat + (n - 10))

/-- The last `width` hexadecimal digits of `n`. -/
def hex : Nat → Nat → List Char
  | 0, _ => []
  | width + 1, n => hex width (n / 16) ++ [hexDigit (n % 16)]

/-- The quote for a text: the single one, unless the text holds it and no double one. -/
def quoteFor (s : List Char) : Char :=
  if s.contains '\'' && !s.contains '"' then '"' else '\''

/-- How a character stands between quotes `q`: a quote, a backslash and a line break behind a backslash, a character that
is not printable by its code point in the shortest of three widths. -/
def quotedChar (q c : Char) : List Char :=
  if c == q || c == '\\' then ['\\', c]
  else if c == '\n' then ['\\', 'n']
  else if c == '\r' then ['\\', 'r']
  else if c == '\t' then ['\\', 't']
  else if isPrintable c then [c]
  else if c.toNat < 0x100 then '\\' :: 'x' :: hex 2 c.toNat
  else if c.toNat < 0x10000 then '\\' :: 'u' :: hex 4 c.toNat
  else '\\' :: 'U' :: hex 8 c.toNat

/-- A text between quotes. -/
def quoted (s : List Char) : List Char :=
  let q := quoteFor s
  q :: s.flatMap (quotedChar q) ++ [q]

/-- How a byte stands between quotes: an ASCII byte as its character, any other by its value. -/
def quotedByte (q : Char) (b : UInt8) : List Char :=
  if b.toNat < 128 then quotedChar q (Char.ofNat b.toNat) else '\\' :: 'x' :: hex 2 b.toNat

/-- A byte sequence between quotes, marked with a `b` in front. -/
def quotedBytes (bytes : List UInt8) : List Char :=
  let q := quoteFor (bytes.map fun b => Char.ofNat b.toNat)
  'b' :: q :: bytes.flatMap (quotedByte q) ++ [q]

example : String.ofList (quoted "it's\n".toList) = "\"it's\\n\"" := by decide
example : String.ofList (quoted "a\"'b".toList) = "'a\"\\'b'" := by decide
example : String.ofList (quotedBytes [0x7A, 0xFF, 0x27]) = "b\"z\\xff'\"" := by decide

end ToolpathViewer.Text
