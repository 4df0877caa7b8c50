/-!
# Binary floating point values, exactly

A finite value is a natural mantissa times a power of two. Everything that prints, rounds or counts a value goes through
this form, in natural numbers, so that no rounding happens on the way.
-/

namespace ToolpathViewer.Decimal

/-- A finite value `± mantissa * 2 ^ exponent`. -/
structure Binary where
  negative : Bool
  mantissa : Nat
  exponent : Int
  /-- The gap to the value below is half the gap to the value above. -/
  narrowBelow : Bool := false

/-- The three kinds of floating point values. -/
inductive Parts where
  | nan
  | infinite (negative : Bool)
  | finite (value : Binary)

/-- The exact content of a floating point value. -/
def parts (x : Float) : Parts :=
  let bits := x.toBits.toNat
  let negative := bits / Nat.pow 2 63 == 1
  let e : Nat := bits / Nat.pow 2 52 % Nat.pow 2 11
  let f : Nat := bits % Nat.pow 2 52
  if e == 2047 then
    if f == 0 then .infinite negative else .nan
  else if e == 0 then
    .finite { negative, mantissa := f, exponent := -1074 }
  else
    .finite { negative, mantissa := Nat.pow 2 52 + f, exponent := (e : Int) - 1075, narrowBelow := f == 0 && e > 1 }

/-- The nearest integer to `num / den`; a half goes to the even neighbour. -/
def roundDiv (num den : Nat) : Nat :=
  let q := num / den
  match compare (2 * (num % den)) den with
  | .lt => q
  | .gt => q + 1
  | .eq => if q % 2 == 0 then q else q + 1

namespace Binary

/-- The magnitude as a quotient of natural numbers, after multiplication by `10 ^ places`. -/
def quotient (b : Binary) (places : Int) : Nat × Nat :=
  (b.mantissa * Nat.pow 2 b.exponent.toNat * Nat.pow 10 places.toNat, Nat.pow 2 (-b.exponent).toNat * Nat.pow 10 (-places).toNat)

/-- The magnitude times `10 ^ places`, rounded to an integer. -/
def scaled (b : Binary) (places : Int) : Nat :=
  let (num, den) := b.quotient places
  roundDiv num den

/-- The integer part of the magnitude. -/
def floor (b : Binary) : Nat :=
  let (num, den) := b.quotient 0
  num / den

/-- The square of the value. -/
def square (b : Binary) : Binary :=
  { negative := false, mantissa := b.mantissa * b.mantissa, exponent := 2 * b.exponent }

/-- The values are equal, but for their signs. -/
def sameMagnitude (a b : Binary) : Bool :=
  let e := min a.exponent b.exponent
  a.mantissa * Nat.pow 2 (a.exponent - e).toNat == b.mantissa * Nat.pow 2 (b.exponent - e).toNat

/-- The value is an integer. -/
def isIntegral (b : Binary) : Bool :=
  let (num, den) := b.quotient 0
  num % den == 0

/-- The value without its fraction. -/
def truncate (b : Binary) : Int :=
  if b.negative then -(b.floor : Int) else b.floor

/-- The least integer that is not below the value. -/
def ceiling (b : Binary) : Int :=
  if b.negative then -(b.floor : Int) else if b.isIntegral then b.floor else b.floor + 1

end Binary

end ToolpathViewer.Decimal
