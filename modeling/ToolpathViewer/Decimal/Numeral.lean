import ToolpathViewer.Text.Blank
import ToolpathViewer.Text.Digit

/-!
# Reading numerals

Integers and decimal fractions as they are written in programs, queries and messages. Decimal digits of every script
count.
-/

namespace ToolpathViewer.Decimal

open ToolpathViewer.Text

/-- An integer numeral has at most this many digits. -/
def maxDigits : Nat := 4300

/-- The integer has no more digits than a reader accepts. -/
def Fits (n : Int) : Prop := (Nat.toDigits 10 n.natAbs).length ≤ maxDigits

instance (n : Int) : Decidable (Fits n) := inferInstanceAs (Decidable (_ ≤ _))

/-- The number that a sequence of digit values denotes, continued from `n`. -/
def ofDigitValues (n : Nat) (values : List Nat) : Nat :=
  values.foldl (fun m d => m * 10 + d) n

/-- The values of a sequence of decimal digits. -/
def digitValues? (s : List Char) : Option (List Nat) :=
  s.mapM decimalValue?

/-- The digit values of a numeral in which single underscores may stand between digits. -/
def groupedValues? : List Char → Option (List Nat)
  | [] => none
  | [c] => (decimalValue? c).map ([·])
  | c :: '_' :: rest => do return (← decimalValue? c) :: (← groupedValues? rest)
  | c :: rest => do return (← decimalValue? c) :: (← groupedValues? rest)

/-- The number of a sequence of digit values that is not too long. -/
def natOfValues? (values : List Nat) : Option Nat :=
  if values.length ≤ maxDigits then some (ofDigitValues 0 values) else none

/-- The sign and the rest of a numeral. -/
def splitSign : List Char → Bool × List Char
  | '-' :: rest => (true, rest)
  | '+' :: rest => (false, rest)
  | s => (false, s)

/-- Reads a natural number written in decimal digits only. -/
def readNat? (s : List Char) : Option Nat := do
  if s.isEmpty then none else natOfValues? (← digitValues? s)

/-- Reads an integer: space around it, one sign and single underscores between digits are allowed. -/
def readInt? (s : List Char) : Option Int := do
  let (negative, digits) := splitSign (trimmed isSpace s)
  let n ← natOfValues? (← groupedValues? digits)
  return if negative then -(n : Int) else n

/-- The value `± digits * 10 ^ exponent`, rounded to the nearest floating point value. Exponents far outside the range of the
type are settled without computing the power. -/
def toFloat (negative : Bool) (digits : Nat) (exponent : Int) : Float :=
  let size : Int := exponent + (Nat.log2 digits / 3 : Nat)
  let magnitude : Float :=
    if digits == 0 || size < -400 then 0.0
    else if exponent > 400 then 1.0 / 0.0
    else Float.ofScientific digits (exponent < 0) exponent.natAbs
  if negative then -magnitude else magnitude

/-- The value of an unsigned decimal fraction: digits with at most one point among or beside them. -/
def readFraction? (negative : Bool) (s : List Char) : Option Float := do
  let whole := s.takeWhile (· != '.')
  let places := (s.dropWhile (· != '.')).drop 1
  if whole.isEmpty && places.isEmpty then none
  let values := (← digitValues? whole) ++ (← digitValues? places)
  return toFloat negative (ofDigitValues 0 values) (-(places.length : Int))

/-- Reads a decimal number with an optional sign. -/
def readDecimal? (s : List Char) : Option Float :=
  let (negative, rest) := splitSign s
  readFraction? negative rest

example : readInt? " -1_000 ".toList = some (-1000) := by decide
example : readInt? "1__0".toList = none := by decide
example : readInt? "\x1c5".toList = none := by decide
example : readInt? "²".toList = none := by decide
example : readInt? "٣".toList = some 3 := by decide
example : (readDecimal? "-.5".toList).map Float.toBits = some (-0.5 : Float).toBits := by decide +kernel
example : (readDecimal? "1.2.3".toList).isNone = true := by decide +kernel
example : (readDecimal? ".".toList).isNone = true := by decide +kernel

end ToolpathViewer.Decimal
