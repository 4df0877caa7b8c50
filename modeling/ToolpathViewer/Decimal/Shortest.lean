import ToolpathViewer.Decimal.Fixed

/-!
# The shortest decimal that reads back

A floating point value is written with the fewest digits that read back as the same value. The reals that round to a value
form an interval, from halfway to the neighbour below to halfway to the neighbour above, whose ends belong to it exactly when
the mantissa is even. The search goes from one digit to seventeen and tests the two neighbours of the value on each decimal
grid; of two hits the nearer wins, and a tie goes to the even digit.
-/

namespace ToolpathViewer.Decimal

/-- The decimal `digits * 10 ^ exponent`. -/
structure Digits where
  digits : Nat
  exponent : Int
deriving DecidableEq, Repr

/-- Compares `a * 10 ^ i` with `n * 2 ^ j`, exactly. -/
def compareScaled (a : Nat) (i : Int) (n : Nat) (j : Int) : Ordering :=
  compare (a * Nat.pow 10 i.toNat * Nat.pow 2 (-j).toNat) (n * Nat.pow 2 j.toNat * Nat.pow 10 (-i).toNat)

/-- The decimal lies among the reals that round to the magnitude of the value. -/
def Binary.readsBack (b : Binary) (d : Digits) : Bool :=
  let low := if b.narrowBelow then 4 * b.mantissa - 1 else 4 * b.mantissa - 2
  let high := 4 * b.mantissa + 2
  let even := b.mantissa % 2 == 0
  let atLow := compareScaled d.digits d.exponent low (b.exponent - 2)
  let atHigh := compareScaled d.digits d.exponent high (b.exponent - 2)
  (atLow == .gt || (even && atLow == .eq)) && (atHigh == .lt || (even && atHigh == .eq))

/-- The least `k` with the magnitude below `10 ^ k`, found from an estimate that is at most one too small. -/
def Binary.scale (b : Binary) : Int :=
  let bitLength : Int := (Nat.log2 b.mantissa : Int) + b.exponent
  let estimate := (bitLength * 30103).fdiv 100000
  let below (k : Int) : Bool := compareScaled 1 k b.mantissa b.exponent == .gt
  if below (estimate - 1) then estimate - 1
  else if below estimate then estimate
  else if below (estimate + 1) then estimate + 1
  else estimate + 2

/-- The decimal of at most one digit more than the grid `10 ^ e` allows that reads back, if one of the two neighbours of the
value on the grid does. -/
def Binary.onGrid? (b : Binary) (e : Int) : Option Digits :=
  let (num, den) := b.quotient (-e)
  let low : Digits := ⟨num / den, e⟩
  let high : Digits := ⟨num / den + 1, e⟩
  match b.readsBack low, b.readsBack high with
  | true, true => some (if roundDiv num den == low.digits then low else high)
  | true, false => some low
  | false, true => some high
  | false, false => none

/-- The decimal without the zeros at its end. -/
def Digits.stripped (d : Digits) : Nat → Digits
  | 0 => d
  | fuel + 1 => if d.digits % 10 == 0 && d.digits != 0 then Digits.stripped ⟨d.digits / 10, d.exponent + 1⟩ fuel else d

/-- The exact decimal value, which stands in where no shorter decimal is found. -/
def Binary.exact (b : Binary) : Digits :=
  ⟨b.mantissa * Nat.pow 2 b.exponent.toNat * Nat.pow 5 (-b.exponent).toNat, min b.exponent 0⟩

/-- The decimal with the fewest digits that reads back as the magnitude of the value, zero excepted. -/
def Binary.shortest (b : Binary) : Digits :=
  let k := b.scale
  (((List.range 17).findSome? fun (n : Nat) => b.onGrid? (k - (n + 1))).getD b.exact).stripped 800

/-- How a decimal is laid out: positionally when the exponent of its leading digit is from −4 to 15, with at least one digit
behind the point, and in scientific form otherwise, with a signed exponent of at least two digits. -/
def Digits.layout (d : Digits) : String :=
  let ds := toString d.digits
  let lead : Int := d.exponent + ds.length - 1
  if -4 ≤ lead && lead < 16 then
    if 0 ≤ d.exponent then
      ds ++ String.ofList (List.replicate d.exponent.toNat '0') ++ ".0"
    else if 0 ≤ lead then
      String.ofList (ds.toList.take (lead.toNat + 1)) ++ "." ++ String.ofList (ds.toList.drop (lead.toNat + 1))
    else
      "0." ++ String.ofList (List.replicate ((-lead).toNat - 1) '0') ++ ds
  else
    let rest := String.ofList (ds.toList.drop 1)
    String.ofList (ds.toList.take 1) ++ (if rest.isEmpty then "" else "." ++ rest) ++
      (if lead < 0 then "e-" else "e+") ++ padded 2 lead.natAbs

/-- A value in its shortest form, with the sign of zero kept. -/
def shortest (x : Float) : String :=
  match parts x with
  | .nan => "nan"
  | .infinite negative => special negative
  | .finite b => sign b.negative ++ if b.mantissa == 0 then "0.0" else b.shortest.layout

example : shortest 0.1 = "0.1" := by decide +kernel
example : shortest (0.1 + 0.2) = "0.30000000000000004" := by decide +kernel
example : shortest 1e16 = "1e+16" := by decide +kernel
example : shortest 1.5e-7 = "1.5e-07" := by decide +kernel
example : shortest (-1000000) = "-1000000.0" := by decide +kernel
example : shortest 5e-324 = "5e-324" := by decide +kernel
example : shortest 2.98023223876953125e-8 = "2.9802322387695312e-08" := by decide +kernel
example : shortest 1e23 = "1e+23" := by decide +kernel
example : shortest 1.7976931348623157e308 = "1.7976931348623157e+308" := by decide +kernel

end ToolpathViewer.Decimal
