import ToolpathViewer.Decimal.Numeral
import ToolpathViewer.Fault
import ToolpathViewer.Text.UpperCase

/-!
# Command codes

A command has many spellings and one normal form: upper case, without zeros in front of its number.
-/

namespace ToolpathViewer.Code

open Text

/-- The text is a number: at least one digit, and nothing else. -/
def isNumber (s : List Char) : Bool :=
  !s.isEmpty && s.all isDigit

/-- The normal form of an upper-case code without blanks around it. -/
def normalizeUpper (code : List Char) : Except Fault (List Char) :=
  if isNumber (code.drop 1) then
    match Decimal.readNat? (code.drop 1) with
    | some n => .ok (code.take 1 ++ (toString n).toList)
    | none => .error .malformedInteger
  else
    .ok code

/-- The normal form of a code. A number that is not decimal, or too long, has none. -/
def normalize (code : List Char) : Except Fault (List Char) :=
  normalizeUpper (upper (strip code))

/-- The normal forms of a list of codes; codes that consist of blanks do not count. -/
def normalizeAll (codes : List String) : Except Fault (List (List Char)) :=
  (codes.filter fun code => !(strip code.toList).isEmpty).mapM fun code => normalize code.toList

example : normalize " g00".toList = .ok "G0".toList := by rfl
example : normalize "G²".toList = .error .malformedInteger := by rfl
example : normalize "g0x10".toList = .ok "G0X10".toList := by rfl

end ToolpathViewer.Code
