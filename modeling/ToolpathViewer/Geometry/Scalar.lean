import ToolpathViewer.Decimal.Root
import ToolpathViewer.Fault

/-!
# Scalars

The geometry of arcs and rays is written once, over any type of numbers that has the operations it needs. Floating point
numbers are the instance that runs. Comparisons are Boolean, and the operations that floating point numbers can refuse
(a square that overflows, the ceiling of a value that has none) return an `Except`.
-/

namespace ToolpathViewer

/-- A type of numbers to do plane geometry with. -/
class Scalar (α : Type) extends Add α, Sub α, Mul α, Div α, Neg α, OfScientific α where
  /-- The first number is less than the second. -/
  less : α → α → Bool
  /-- The two numbers are equal. -/
  equal : α → α → Bool
  /-- The magnitude of a number. -/
  magnitude : α → α
  /-- The square root. -/
  sqrt : α → α
  /-- The length of a vector with two components. -/
  hypot : α → α → α
  /-- The angle of a vector, from its second and its first component, above −π and up to π. -/
  atan2 : α → α → α
  cos : α → α
  sin : α → α
  /-- Half a turn. -/
  pi : α
  /-- The square of a number. -/
  square : α → Except Fault α
  /-- The least integer that is not below a number. -/
  ceiling : α → Except Fault Int
  /-- The number of an integer. -/
  ofInt : Int → Except Fault α
  /-- The quotient of two natural numbers. -/
  ratio : Nat → Nat → α
  /-- Greater than every length that is measured. -/
  infinity : α

namespace Scalar

variable {α : Type} [Scalar α]

/-- The first number is at most the second. -/
def atMost (a b : α) : Bool := less a b || equal a b

/-- The first number, unless the second is greater. -/
def larger (a b : α) : α := if less a b then b else a

/-- The first number, unless the second is less. -/
def smaller (a b : α) : α := if less b a then b else a

/-- The number, or the nearest end of the range from 0 to 1. -/
def clampUnit (a : α) : α := smaller 1.0 (larger 0.0 a)

/-- The numbers agree up to a billionth of the greater one, or up to a billionth. -/
def close (a b : α) : Bool :=
  if equal a b then true
  else if equal (magnitude a) infinity || equal (magnitude b) infinity then false
  else
    let gap := magnitude (b - a)
    atMost gap (magnitude (1e-9 * b)) || atMost gap (magnitude (1e-9 * a)) || atMost gap 1e-9

end Scalar

namespace FloatScalar

/-- The length of a vector. One with an infinite component is infinite, whatever the other one is. -/
def hypot (x y : Float) : Float :=
  match Decimal.parts x, Decimal.parts y with
  | .infinite _, _ | _, .infinite _ => 1.0 / 0.0
  | .finite a, .finite b => Decimal.length a b
  | _, _ => 0.0 / 0.0

/-- The value is neither infinite nor a value that is no number. -/
def isFinite (x : Float) : Bool :=
  match Decimal.parts x with
  | .finite _ => true
  | _ => false

/-- The second power of a value. It is the product when that is exact. Otherwise it is rounded by the power function of the
platform, which may take the other neighbour. -/
def secondPower (x : Float) : Float :=
  match Decimal.parts x, Decimal.parts (x * x) with
  | .finite value, .finite product => if product.sameMagnitude value.square then x * x else Float.pow x 2.0
  | _, _ => Float.pow x 2.0

/-- The second power of a finite value must be finite. -/
def square (x : Float) : Except Fault Float :=
  let power := secondPower x
  if isFinite x && !isFinite power then .error .overflow else .ok power

/-- Infinite values and values that are no number have no ceiling. -/
def ceiling (x : Float) : Except Fault Int :=
  match Decimal.parts x with
  | .nan => .error .notANumber
  | .infinite _ => .error .overflow
  | .finite b => .ok b.ceiling

/-- The nearest value of an integer, which must be finite. -/
def ofInt (n : Int) : Except Fault Float :=
  let magnitude := Float.ofScientific n.natAbs false 0
  if isFinite magnitude then .ok (if n < 0 then -magnitude else magnitude) else .error .overflow

/-- Half a turn. -/
def pi : Float := 3.141592653589793

end FloatScalar

instance : Scalar Float where
  less a b := a < b
  equal a b := a == b
  magnitude := Float.abs
  sqrt := Float.sqrt
  hypot := FloatScalar.hypot
  atan2 := Float.atan2
  cos := Float.cos
  sin := Float.sin
  pi := FloatScalar.pi
  square := FloatScalar.square
  ceiling := FloatScalar.ceiling
  ofInt := FloatScalar.ofInt
  ratio a b := Float.ofNat a / Float.ofNat b
  infinity := 1.0 / 0.0

end ToolpathViewer
