import ToolpathViewer.Json.Parser
import ToolpathViewer.Text.Letter
import ToolpathViewer.Text.Pieces
import ToolpathViewer.Text.Ranges

/-!
# Names of hosts

A host is named by labels with points between them, or by an address in brackets. A label has one to 63 characters in its ASCII form,
in which any other character is told by a number: how far it lies, in the order of characters and then of places, behind the one
before it. Only the length of that form counts here.
-/

namespace ToolpathViewer.Bridge.HostName

open Text

/-- A character of ASCII. -/
def isAscii (c : Char) : Bool := c.toNat < 0x80

/-! ### The ASCII form of a label -/

/-- The digit at a place is the last one if it lies below the threshold of the place. -/
def threshold (place bias : Nat) : Nat := max 1 (min 26 (place - bias))

/-- The number of digits of a number, from a place on. -/
def digitCount (bias place n : Nat) : Nat :=
  let t := threshold place bias
  if n < t then 1 else 1 + digitCount bias (place + 36) ((n - t) / (36 - t))
termination_by n
decreasing_by
  have hle : (n - threshold place bias) / (36 - threshold place bias) ≤ n - threshold place bias := Nat.div_le_self _ _
  have hpos : 1 ≤ threshold place bias := Nat.le_max_left _ _
  omega

/-- A distance divided until it is small, and the places that this takes. -/
def shrink (distance place : Nat) : Nat × Nat :=
  if 455 < distance then shrink (distance / 35) (place + 36) else (distance, place)
termination_by distance
decreasing_by exact Nat.div_lt_self (by omega) (by decide)

/-- The bias after a distance, when some number of characters have been told. -/
def nextBias (distance told : Nat) (first : Bool) : Nat :=
  let d := if first then distance / 700 else distance / 2
  let (d, place) := shrink (d + d / told) 0
  place + 36 * d / (d + 38)

/-- How far the telling of a label has come. -/
structure Telling where
  digits : Nat := 0
  /-- The distance from the character that was told last. -/
  distance : Nat := 0
  bias : Nat := 72
  /-- The number of characters that have been told. -/
  told : Nat
  first : Bool := true

/-- Goes over one place of the label while the character with some code is told. -/
def Telling.visit (code : Nat) (t : Telling) (c : Char) : Telling :=
  if c.toNat < code then { t with distance := t.distance + 1 }
  else if c.toNat = code then
    { digits := t.digits + digitCount t.bias 36 t.distance, distance := 0, told := t.told + 1, first := false
      bias := nextBias t.distance (t.told + 1) t.first }
  else t

/-- The length of the ASCII form of a label that has other characters. -/
def encodedLength (label : List Char) : Nat :=
  let plain := label.countP isAscii
  let codes := (((label.filter (!isAscii ·)).map Char.toNat).mergeSort (· ≤ ·)).eraseDups
  let (t, _) := codes.foldl
    (fun (t, next) code =>
      let t := label.foldl (Telling.visit code) { t with distance := t.distance + (code - next) * (t.told + 1) }
      ({ t with distance := t.distance + 1 }, code + 1))
    (({ told := plain } : Telling), 0x80)
  "xn--".length + plain + (if plain = 0 then 0 else 1) + t.digits

/-! ### Labels -/

/-- Characters that a label is written with but does not have, as closed ranges of code points. -/
def ignoredRanges : List (Nat × Nat) := [
  (0xAD, 0xAD), (0x34F, 0x34F), (0x1806, 0x1806), (0x180B, 0x180D), (0x200B, 0x200D), (0x2060, 0x2060), (0xFE00, 0xFE0F),
  (0xFEFF, 0xFEFF)]

/-- Characters that no label has, as closed ranges of code points: controls, marks of direction, and what is no character. -/
def forbiddenRanges : List (Nat × Nat) := [
  (0x80, 0x9F), (0x6DD, 0x6DD), (0x70F, 0x70F), (0x1680, 0x1680), (0x180E, 0x180E), (0x200E, 0x200F), (0x2028, 0x202E),
  (0x2061, 0x2063), (0x206A, 0x206F), (0x2FF0, 0x2FFB), (0xE000, 0xF8FF), (0xFDD0, 0xFDEF), (0xFFF9, 0xFFFF),
  (0x1D173, 0x1D17A), (0xE0001, 0xE0001), (0xE0020, 0xE007F), (0xF0000, 0x10FFFF)]

/-- Characters that are written from right to left, as closed ranges of code points. -/
def rightToLeftRanges : List (Nat × Nat) := [
  (0x5BE, 0x5BE), (0x5C0, 0x5C0), (0x5C3, 0x5C3), (0x5D0, 0x5EA), (0x5F0, 0x5F4), (0x61B, 0x61B), (0x61F, 0x61F), (0x621, 0x63A),
  (0x640, 0x64A), (0x66D, 0x66F), (0x671, 0x6D5), (0x6DD, 0x6DD), (0x6E5, 0x6E6), (0x6FA, 0x6FE), (0x700, 0x70D), (0x710, 0x710),
  (0x712, 0x72C), (0x780, 0x7A5), (0x7B1, 0x7B1), (0xFB1D, 0xFB1D), (0xFB1F, 0xFB28), (0xFB2A, 0xFB36), (0xFB38, 0xFB3C),
  (0xFB3E, 0xFB3E), (0xFB40, 0xFB41), (0xFB43, 0xFB44), (0xFB46, 0xFBB1), (0xFBD3, 0xFD3D), (0xFD50, 0xFD8F), (0xFD92, 0xFDC7),
  (0xFDF0, 0xFDFC), (0xFE70, 0xFE74), (0xFE76, 0xFEFC)]

/-- A character that is written from right to left. -/
def isRightToLeft (c : Char) : Bool := inRanges rightToLeftRanges c.toNat

/-- A label has one direction: with a character from right to left it starts and ends in one, and no letter in it is another. -/
def hasOneDirection (label : List Char) : Bool :=
  !label.any isRightToLeft ||
    (label.head?.any isRightToLeft && label.getLast?.any isRightToLeft && label.all fun c => isRightToLeft c || !isLetter c)

/-- A character in its narrow form. -/
def narrow (c : Char) : Char :=
  if 0xFF01 ≤ c.toNat && c.toNat ≤ 0xFF5E then (Char.ofNat (c.toNat - 0xFEE0)).toLower
  else if c == '\u3000' then ' '
  else c

/-- What a label is taken for, unless it has a character that no label has. -/
def prepare? (label : List Char) : Option (List Char) :=
  let kept := (label.filter fun c => !inRanges ignoredRanges c.toNat).map narrow
  let forbidden := kept.any fun c => inRanges forbiddenRanges c.toNat || 0xFFFE ≤ c.toNat % 0x10000
  if forbidden || !hasOneDirection kept then none else some kept

/-- The length of a label. -/
def isLength (n : Nat) : Bool := 0 < n && n ≤ 63

/-- A label that has an ASCII form. -/
def isLabel (label : List Char) : Bool :=
  if label.all isAscii then isLength label.length
  else
    match prepare? label with
    | none => false
    | some kept =>
      if kept.all isAscii then isLength kept.length
      else !"xn--".toList.isPrefixOf kept && isLength (encodedLength kept)

/-- A point, also in its wide forms. -/
def isPoint (c : Char) : Bool := ['.', '\u3002', '\uFF0E', '\uFF61'].contains c

/-- Labels with points between them. A point may also stand at the end. -/
def isName (s : List Char) : Bool :=
  let labels := pieces isPoint s
  let ended := if labels.getLast? = some [] then labels.dropLast else labels
  ended.all isLabel

/-- A name as it is looked up. -/
def plain (s : List Char) : List Char :=
  if s.all isAscii then s else ((pieces isPoint s).map fun l => (prepare? l).getD l).intersperse ['.'] |>.flatten

/-! ### Addresses -/

/-- One of the groups of an address. -/
def isGroup (s : List Char) : Bool := 0 < s.length && s.length ≤ 4 && s.all fun c => (Json.hexValue? c).isSome

/-- One of the four numbers of a short address. -/
def isByte (s : List Char) : Bool :=
  0 < s.length && s.length ≤ 3 && s.all Char.isDigit && (s.length = 1 || s.head? ≠ some '0') && Json.natOfDigits s ≤ 255

/-- A short address: four numbers with points between them. -/
def isShort (s : List Char) : Bool :=
  let numbers := pieces (· == '.') s
  numbers.length = 4 && numbers.all isByte

/-- The number of groups that colons set apart. A short address at the end stands for two. -/
def groupCount? (short : Bool) (s : List Char) : Option Nat :=
  if s.isEmpty then some 0
  else
    let groups := pieces (· == ':') s
    if groups.all isGroup then some groups.length
    else if short && groups.dropLast.all isGroup && groups.getLast?.any isShort then some (groups.length + 1)
    else none

/-- The text in front of the first gap between groups, and behind it. -/
def splitGap? : List Char → Option (List Char × List Char)
  | ':' :: ':' :: rest => some ([], rest)
  | c :: rest => (splitGap? rest).map fun (front, behind) => (c :: front, behind)
  | [] => none

/-- Eight groups. One gap may stand for a group or more. -/
def isGroups (s : List Char) : Bool :=
  match splitGap? s with
  | none => groupCount? true s = some 8
  | some (front, behind) =>
    match groupCount? false front, groupCount? true behind with
    | some m, some n => m + n ≤ 7
    | _, _ => false

/-- An address of a later kind: a version and a text. -/
def isLaterAddress (s : List Char) : Bool :=
  match cut '.' s with
  | ('v' :: version, some text) => !version.isEmpty && version.all (fun c => (Json.hexValue? c).isSome) && !text.isEmpty
  | _ => false

/-- What may stand in brackets. A zone may follow groups. -/
def isAddress (s : List Char) : Bool :=
  if s.head? = some 'v' then isLaterAddress s
  else
    match cut '%' s with
    | (groups, none) => isGroups groups
    | (groups, some zone) => isGroups groups && !zone.isEmpty && !zone.contains '%'

end ToolpathViewer.Bridge.HostName
