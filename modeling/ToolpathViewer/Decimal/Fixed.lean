import ToolpathViewer.Decimal.Binary

/-!
# A fixed number of places

Two layouts of a floating point value: with a fixed number of decimal places, and in scientific form with a fixed number of
places behind the leading digit. Both round the exact binary value, and a half goes to the even neighbour.
-/

namespace ToolpathViewer.Decimal

/-- The decimal digits of `n`, with zeros in front up to `width`. -/
def padded (width n : Nat) : String :=
  let s := toString n
  String.ofList (List.replicate (width - s.length) '0') ++ s

/-- The sign in front of a number. -/
def sign (negative : Bool) : String :=
  if negative then "-" else ""

/-- The texts of the values that have no digits. -/
def special : Bool → String
  | true => "-inf"
  | false => "inf"

/-- `n` units of the last of `places` decimal places. -/
def withPlaces (places n : Nat) : String :=
  toString (n / Nat.pow 10 places) ++ (if places == 0 then "" else "." ++ padded places (n % Nat.pow 10 places))

/-- A value with `places` decimal places. -/
def fixed (places : Nat) (x : Float) : String :=
  match parts x with
  | .nan => "nan"
  | .infinite negative => special negative
  | .finite b => sign b.negative ++ withPlaces places (b.scaled places)

/-- A value of magnitude at least one in scientific form, with `places` places behind the leading digit and an exponent of
at least two digits. -/
def scientific (places : Nat) (x : Float) : String :=
  match parts x with
  | .nan => "nan"
  | .infinite negative => special negative
  | .finite b =>
    let e := (toString b.floor).length - 1
    let n := b.scaled ((places : Int) - e)
    let (n, e) := if n == Nat.pow 10 (places + 1) then (n / 10, e + 1) else (n, e)
    sign b.negative ++ withPlaces places n ++ "e+" ++ padded 2 e

end ToolpathViewer.Decimal
