import ToolpathViewer.Text.Ranges

/-!
# Blanks

The characters that are stripped from the ends of a text before it is read: the white space of Unicode 14 and the four
information separators.
-/

namespace ToolpathViewer.Text

/-- The blanks, as closed ranges of code points. -/
def blankRanges : List (Nat × Nat) := [
  (0x9, 0xD), (0x1C, 0x20), (0x85, 0x85), (0xA0, 0xA0), (0x1680, 0x1680), (0x2000, 0x200A), (0x2028, 0x2029),
   (0x202F, 0x202F), (0x205F, 0x205F), (0x3000, 0x3000)]

/-- A character stripped from the ends of a text. -/
def isBlank (c : Char) : Bool := inRanges blankRanges c.toNat

/-- The text without the characters of a class at its ends. -/
def trimmed (drop : Char → Bool) (s : List Char) : List Char :=
  ((s.dropWhile drop).reverse.dropWhile drop).reverse

/-- The text without the blanks at its ends. -/
def strip (s : List Char) : List Char := trimmed isBlank s

/-- White space, without the information separators. -/
def isSpace (c : Char) : Bool := isBlank c && !(0x1C ≤ c.toNat && c.toNat ≤ 0x1F)

end ToolpathViewer.Text
