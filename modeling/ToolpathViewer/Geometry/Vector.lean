import ToolpathViewer.Geometry.Scalar

/-!
# Points and vectors

Points of a plane and of space, over any scalar type.
-/

namespace ToolpathViewer

/-- A point or vector of a plane. -/
structure Vec2 (α : Type) where
  a : α
  b : α
deriving Repr, DecidableEq

/-- A point or vector of space. -/
structure Vec3 (α : Type) where
  x : α
  y : α
  z : α
deriving Repr, DecidableEq

namespace Vec3

variable {α : Type}

/-- The vector with one value in every place. -/
def fill (v : α) : Vec3 α := ⟨v, v, v⟩

/-- The values along the axes, in order. -/
def toList (v : Vec3 α) : List α := [v.x, v.y, v.z]

/-- Applies a function along each axis. -/
def map {β : Type} (f : α → β) (v : Vec3 α) : Vec3 β := ⟨f v.x, f v.y, f v.z⟩

/-- Combines two vectors along each axis. -/
def zipWith {β γ : Type} (f : α → β → γ) (v : Vec3 α) (w : Vec3 β) : Vec3 γ := ⟨f v.x w.x, f v.y w.y, f v.z w.z⟩

variable [Scalar α]

/-- The vector from one point to another. -/
def between (p q : Vec3 α) : Vec3 α := zipWith (fun u v => v - u) p q

/-- The scalar product. -/
def dot (v w : Vec3 α) : α := v.x * w.x + v.y * w.y + v.z * w.z

/-- The point at a distance along a direction. -/
def along (p : Vec3 α) (t : α) (v : Vec3 α) : Vec3 α := zipWith (fun c d => c + t * d) p v

/-- The length of the vector between two points, from squares that may fail. -/
def distance? (p q : Vec3 α) : Except Fault α := do
  let dx ← Scalar.square (p.x - q.x)
  let dy ← Scalar.square (p.y - q.y)
  let dz ← Scalar.square (p.z - q.z)
  return Scalar.sqrt (dx + dy + dz)

end Vec3

end ToolpathViewer
