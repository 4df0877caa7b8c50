import ToolpathViewer.Decimal.Binary

/-!
# Square roots and lengths

The integer square root, and from it the length of a vector of two finite values. The sum of the squares is formed exactly, so
nothing overflows on the way, and the result is rounded once, at the end.
-/

namespace ToolpathViewer.Decimal

/-- Raises `r` by powers of two below `2 ^ k`, greatest first, as long as its square stays at most `n`. -/
def rootFrom (n : Nat) : Nat → Nat → Nat
  | 0, r => r
  | k + 1, r => rootFrom n k (if (r + Nat.pow 2 k) * (r + Nat.pow 2 k) ≤ n then r + Nat.pow 2 k else r)

/-- The greatest number whose square is at most `n`. -/
def root (n : Nat) : Nat := rootFrom n (n.log2 / 2 + 1) 0

/-- The floating point value nearest to `m * 2 ^ e`; a half goes to the even neighbour. -/
def nearest (m : Nat) (e : Int) : Float :=
  let shift := (max ((m.log2 : Int) - 52) (-1074 - e)).toNat
  (Float.ofNat (roundDiv m (Nat.pow 2 shift))).scaleB (e + shift)

/-- The number whose square is `n`, in units of which there are at least `2 ^ 56` in the root. The last unit is odd whenever the
root is not exact, which is all that rounding needs to know of the rest. -/
def stickyRoot (n shift : Nat) : Nat :=
  let scaled := n * Nat.pow 4 shift
  let r := root scaled
  2 * r + if r * r == scaled then 0 else 1

/-- The length of a vector with finite components. -/
def length (a b : Binary) : Float :=
  let e := min a.exponent b.exponent
  let m := a.mantissa * Nat.pow 2 (a.exponent - e).toNat
  let n := b.mantissa * Nat.pow 2 (b.exponent - e).toNat
  nearest (stickyRoot (m * m + n * n) 56) (e - 57)

end ToolpathViewer.Decimal
