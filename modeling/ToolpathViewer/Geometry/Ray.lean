import ToolpathViewer.Geometry.Vector

/-!
# Rays and segments

How near a ray comes to a segment, and how far along the ray. The nearest pair of points is found by clamping to the segment,
then to the ray, then projecting back onto the segment.
-/

namespace ToolpathViewer.Ray

variable {α : Type} [Scalar α]

open Scalar

/-- Lengths, and squares of lengths, below this count as none. -/
def tiny : α := 1e-12

/-- How near a ray comes to something, and how far along the ray that is. -/
structure Approach (α : Type) where
  distance : α
  depth : α
deriving Repr, DecidableEq

/-- The scalar products that the nearest points depend on, for a ray with direction `u` of length one, a segment along `v`, and
the vector `w` from the start of the segment to that of the ray. -/
structure Products (α : Type) where
  b : α
  c : α
  d : α
  e : α

/-- Where on the segment, from 0 to 1, and how far along the ray the nearest points lie. -/
def Products.nearest (p : Products α) : α × α :=
  let denominator := p.c - p.b * p.b
  let s :=
    if less p.c tiny then 0.0
    else if less denominator tiny then clampUnit (p.e / p.c)
    else clampUnit ((p.e - p.b * p.d) / denominator)
  let t := larger 0.0 (s * p.b - p.d)
  if less p.c tiny then (s, t)
  else
    let s := clampUnit ((p.e + t * p.b) / p.c)
    (s, larger 0.0 (s * p.b - p.d))

/-- The products for a ray and a segment. -/
def products (origin u p q : Vec3 α) : Products α :=
  let v := Vec3.between p q
  let w := Vec3.between p origin
  ⟨u.dot v, v.dot v, u.dot w, v.dot w⟩

/-- The approach of a ray, whose direction has length one, to a segment. -/
def approachUnit (origin u p q : Vec3 α) : Except Fault (Approach α) := do
  let (s, t) := (products origin u p q).nearest
  let distance ← Vec3.distance? (origin.along t u) (p.along s (Vec3.between p q))
  return ⟨distance, t⟩

/-- The approach of a ray to a segment. A direction without length comes near nothing. -/
def approach (origin direction p q : Vec3 α) : Except Fault (Approach α) :=
  let norm := Scalar.sqrt (direction.dot direction)
  if less norm tiny then .ok ⟨infinity, infinity⟩
  else approachUnit origin (direction.map (· / norm)) p q

end ToolpathViewer.Ray
