import ToolpathViewer.Geometry.Arc

/-!
# Motions, planes and movements

What a program can ask of the tool, and where the tool ends up.
-/

namespace ToolpathViewer

/-- A motion command. -/
inductive Motion where
  | rapid
  | linear
  | arc (turn : Arc.Turn)
deriving DecidableEq, Repr

namespace Motion

/-- The code of a motion command. -/
def code : Motion → String
  | .rapid => "G0"
  | .linear => "G1"
  | .arc .clockwise => "G2"
  | .arc .counterclockwise => "G3"

/-- The motion commands. -/
def all : List Motion := [.rapid, .linear, .arc .clockwise, .arc .counterclockwise]

/-- The motion command with a code. -/
def ofCode? (code : List Char) : Option Motion := all.find? (·.code.toList == code)

end Motion

/-- The axes of the machine. -/
inductive Axis where
  | x
  | y
  | z
deriving DecidableEq, Repr

/-- The plane in which arcs lie. -/
inductive Plane where
  | xy
  | zx
  | yz
deriving DecidableEq, Repr

namespace Plane

/-- The code of the command that selects a plane. -/
def code : Plane → String
  | .xy => "G17"
  | .zx => "G18"
  | .yz => "G19"

/-- The plane that a code selects. -/
def ofCode? (code : List Char) : Option Plane := [xy, zx, yz].find? (·.code.toList == code)

/-- The first axis in a plane. -/
def first : Plane → Axis
  | .xy => .x
  | .zx => .z
  | .yz => .y

/-- The second axis in a plane. -/
def second : Plane → Axis
  | .xy => .y
  | .zx => .x
  | .yz => .z

/-- The axis that stands on a plane. -/
def normal : Plane → Axis
  | .xy => .z
  | .zx => .y
  | .yz => .x

end Plane

/-- The value of a vector along an axis. -/
def Vec3.along? {α : Type} (v : Vec3 α) : Axis → α
  | .x => v.x
  | .y => v.y
  | .z => v.z

namespace Plane

variable {α : Type}

/-- The point of a plane below or above a point of space. -/
def project (p : Plane) (v : Vec3 α) : Vec2 α := ⟨v.along? p.first, v.along? p.second⟩

/-- The point of space at a point of a plane and a height over it. -/
def lift (p : Plane) (v : Vec2 α) (height : α) : Vec3 α :=
  match p with
  | .xy => ⟨v.a, v.b, height⟩
  | .zx => ⟨v.b, height, v.a⟩
  | .yz => ⟨height, v.a, v.b⟩

/-- A point of space is over its own projection, at its own height. -/
@[simp] theorem lift_project (p : Plane) (v : Vec3 α) : p.lift (p.project v) (v.along? p.normal) = v := by
  cases p <;> rfl

end Plane

/-- The position of the tool after a line of the program moved it. The first movement of a path is the origin, which no
command and no line asked for. -/
structure Movement where
  position : Vec3 Float
  command : Option Motion
  line : Nat

namespace Movement

/-- The start of every path. -/
def origin : Movement := ⟨Vec3.fill 0.0, none, 0⟩

/-- The code of the command that moved the tool. -/
def code (m : Movement) : String := (m.command.map Motion.code).getD ""

end Movement

end ToolpathViewer
