import ToolpathViewer.Amount
import ToolpathViewer.Geometry.Vector

/-!
# Arcs

An arc lies in a plane and goes from a start to an end around a center, clockwise or counterclockwise. This module finds the
center of an arc given by its radius, measures its sweep, and splits it into chords.
-/

namespace ToolpathViewer.Arc

variable {α : Type} [Scalar α]

open Scalar

/-- The way around the center. -/
inductive Turn where
  | clockwise
  | counterclockwise
deriving DecidableEq, Repr

/-- Lengths below this count as none. -/
def tiny : α := 1e-12

/-- A whole turn. -/
def fullTurn : α := 2.0 * pi

/-- Half the chord, taken as the radius when rounding alone makes it greater, if an arc of that radius has such a chord. -/
def halfChord? (chord radius : α) : Option α :=
  let half := chord / 2.0
  if less half tiny then none
  else if less radius half then
    if less 1e-6 ((half - radius) / radius) then none else some radius
  else some half

/-- The center of the arc of a radius. A positive radius asks for the shorter arc, a negative one for the longer. There is none
when the radius or the chord is too short, or the chord too long. -/
def centerOfRadius (turn : Turn) (start stop : Vec2 α) (radius : α) : Except Fault (Option (Vec2 α)) := do
  let size := magnitude radius
  if less size tiny then return none
  match halfChord? (hypot (stop.a - start.a) (stop.b - start.b)) size with
  | none => return none
  | some half =>
    let offset := Scalar.sqrt (larger 0.0 ((← square size) - (← square half)))
    let mid : Vec2 α := ⟨(start.a + stop.a) / 2.0, (start.b + stop.b) / 2.0⟩
    let angle := atan2 (stop.b - start.b) (stop.a - start.a)
    let toRight := (turn == .clockwise) == less 0.0 radius
    let side := if toRight then angle - pi / 2.0 else angle + pi / 2.0
    return some ⟨mid.a + offset * cos side, mid.b + offset * sin side⟩

/-- The angle of a point seen from the center. -/
def angleOf (center p : Vec2 α) : α :=
  atan2 (p.b - center.b) (p.a - center.a)

/-- The angle from the start to the end, negative when clockwise. When both coincide the arc is a whole turn. -/
def sweep (turn : Turn) (start stop center : Vec2 α) : α :=
  let difference := angleOf center stop - angleOf center start
  if close start.a stop.a && close start.b stop.b then
    match turn with
    | .clockwise => -fullTurn
    | .counterclockwise => fullTurn
  else
    match turn with
    | .clockwise => if atMost 0.0 difference then difference - fullTurn else difference
    | .counterclockwise => if atMost difference 0.0 then difference + fullTurn else difference

/-- The end of a chord, and the part of the arc that lies before it. -/
structure Chord (α : Type) where
  point : Vec2 α
  fraction : α
deriving Repr

/-- The least number of chords, at least one, such that a whole turn has at least `divisions`. -/
def chordCount (sweep : α) (divisions : Amount α) : Except Fault Nat := do
  let pieces ← ceiling ((← divisions.atLeastOne.value) * magnitude sweep / fullTurn)
  return (max 1 pieces).toNat

/-- The chords of an arc. The last one ends at the end of the arc itself, so that no rounding adds up. -/
def tessellate (turn : Turn) (start stop center : Vec2 α) (divisions : Amount α) : Except Fault (List (Chord α)) := do
  let turned := sweep turn start stop center
  let radius := hypot (start.a - center.a) (start.b - center.b)
  let pieces ← chordCount turned divisions
  let first := angleOf center start
  let inner := (List.range (pieces - 1)).map fun i =>
    let fraction := ratio (i + 1) pieces
    let angle := first + turned * fraction
    ⟨⟨center.a + radius * cos angle, center.b + radius * sin angle⟩, fraction⟩
  return inner ++ [⟨stop, 1.0⟩]

end ToolpathViewer.Arc
