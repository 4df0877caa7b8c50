import ToolpathViewer.Geometry.Scalar
import ToolpathViewer.Json.Basic

/-!
# Amounts

A setting that counts something is a number, and nothing keeps that from having a fraction. An amount that must be at least one is
raised to one; a bound with a fraction is reached by the next whole number, and an infinite one never.
-/

namespace ToolpathViewer

/-- A number as a setting gives it. -/
inductive Amount (α : Type) where
  | whole (n : Int)
  | real (x : α)

namespace Amount

variable {α : Type} [Scalar α]

/-- The amount if it is greater than one, else one. -/
def atLeastOne : Amount α → Amount α
  | .whole n => .whole (max 1 n)
  | .real x => if Scalar.less 1.0 x then .real x else .whole 1

/-- The value of an amount. -/
def value : Amount α → Except Fault α
  | .whole n => Scalar.ofInt n
  | .real x => .ok x

/-- The least natural number that reaches an amount, if one does. -/
def ceiling? : Amount α → Option Nat
  | .whole n => some n.toNat
  | .real x => (Scalar.ceiling x).toOption.map Int.toNat

/-- The amount that a value is. A yes counts as one and a no as none. -/
def ofJson? : Json → Option (Amount Float)
  | .int n => some (.whole n)
  | .bool b => some (.whole (if b then 1 else 0))
  | .num x => some (.real x)
  | .null | .str _ | .arr _ | .obj _ => none

/-- The amount that a value is, raised to one. -/
def atLeastOneOf (v : Json) : Except Fault (Amount Float) :=
  match ofJson? v with
  | some a => .ok a.atLeastOne
  | none => .error .wrongType

/-- A bound may be missing. -/
def boundOf (v : Json) : Except Fault (Option (Amount Float)) :=
  match v with
  | .null => .ok none
  | v => (atLeastOneOf v).map some

/-- Raising a whole amount to one is done once and for all. -/
@[simp] theorem atLeastOne_atLeastOne_whole (n : Int) : (whole n : Amount α).atLeastOne.atLeastOne = (whole n).atLeastOne := by
  simp only [atLeastOne]
  congr 1
  omega

/-- An integer is raised to one. -/
@[simp] theorem boundOf_int (n : Int) : boundOf (.int n) = .ok (some (.whole (max 1 n))) := rfl

end Amount

end ToolpathViewer
