import ToolpathViewer.Geometry.Vector
import ToolpathViewer.Json.Basic

/-!
# Colors and themes

A color has three components from 0 to 1. A theme assigns one to each of the five things that are drawn.
-/

namespace ToolpathViewer

/-- A color by its red, green and blue components. -/
abbrev Color := Vec3 Float

/-- The component of a color that starts at a bit of its number. -/
def Color.component (n : Int) (bit : Nat) : Float :=
  Float.ofNat (n / Nat.pow 2 bit % 256).toNat / 255.0

/-- The color with the number `0xRRGGBB`. Higher bits do not count. -/
def Color.ofNumber (n : Int) : Color :=
  ⟨component n 16, component n 8, component n 0⟩

/-- The things that have a color. -/
inductive Shade where
  /-- A segment before the selection. -/
  | feed
  /-- The end of the selection. -/
  | rapid
  /-- A selected segment. -/
  | selected
  /-- A segment behind the selection. -/
  | afterSelected
  | background
deriving DecidableEq, Repr

/-- The name of a thing that has a color. -/
def Shade.name : Shade → String
  | .feed => "feed"
  | .rapid => "rapid"
  | .selected => "selected"
  | .afterSelected => "after_selected"
  | .background => "background"

/-- All things that have a color. -/
def Shade.all : List Shade := [.feed, .rapid, .selected, .afterSelected, .background]

/-- The color themes. -/
inductive Theme where
  | dark
  | light
deriving DecidableEq, Repr

namespace Theme

/-- The name of a theme. -/
def name : Theme → String
  | .dark => "dark"
  | .light => "light"

/-- The themes in the order in which they are offered. -/
def all : List Theme := [.dark, .light]

/-- The theme with a name. -/
def ofName? (name : String) : Option Theme := all.find? (·.name == name)

/-- The theme that a value names. A value that names none stands for the dark one, but a collection of values cannot be a name. -/
def ofValue : Json → Except Fault Theme
  | .str name => .ok ((ofName? name).getD .dark)
  | .arr _ | .obj _ => .error .wrongType
  | .null | .bool _ | .int _ | .num _ => .ok .dark

/-- The number of a color of a theme. -/
def number : Theme → Shade → Int
  | .dark, .feed => 0x50fa7b
  | .dark, .rapid => 0xff5555
  | .dark, .selected => 0xff79c6
  | .dark, .afterSelected => 0x6272a4
  | .dark, .background => 0x282a36
  | .light, .feed => 0x2f9e44
  | .light, .rapid => 0xd7263d
  | .light, .selected => 0x5f3dc4
  | .light, .afterSelected => 0x94a2b8
  | .light, .background => 0xf5f7fb

/-- A color of a theme. -/
def color (t : Theme) (s : Shade) : Color := Color.ofNumber (t.number s)

/-- Every theme is found by its name. -/
@[simp] theorem ofName?_name (t : Theme) : ofName? t.name = some t := by
  cases t <;> decide

end Theme

end ToolpathViewer
