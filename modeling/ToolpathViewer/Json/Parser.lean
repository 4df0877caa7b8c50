import ToolpathViewer.Decimal.Numeral
import ToolpathViewer.Fault
import ToolpathViewer.Json.Basic

/-!
# Reading JSON

Reading accepts one value with white space around it. Beyond the standard, the names `NaN`, `Infinity` and `-Infinity` are
numbers; an integer has at most `Decimal.maxDigits` digits. Arrays and objects nest at most `maxDepth` deep: a text that goes deeper
is refused as soon as it does, whatever follows. Every reader returns what it read and the rest of the text.
-/

namespace ToolpathViewer.Json

open ToolpathViewer.Decimal

/-- White space between the parts of a text. -/
def isSpace (c : Char) : Bool :=
  c == ' ' || c == '\t' || c == '\n' || c == '\r'

/-- The text behind its leading white space. -/
def skipSpace (s : List Char) : List Char :=
  s.dropWhile isSpace

/-- The value of a hexadecimal digit. -/
def hexValue? (c : Char) : Option Nat :=
  if '0' ≤ c && c ≤ '9' then some (c.toNat - '0'.toNat)
  else if 'a' ≤ c && c ≤ 'f' then some (c.toNat - 'a'.toNat + 10)
  else if 'A' ≤ c && c ≤ 'F' then some (c.toNat - 'A'.toNat + 10)
  else none

/-- The UTF-16 unit that four hexadecimal digits denote. -/
def readUnit? : List Char → Option (Nat × List Char)
  | a :: b :: c :: d :: rest => do
    return ((((← hexValue? a) * 16 + (← hexValue? b)) * 16 + (← hexValue? c)) * 16 + (← hexValue? d), rest)
  | _ => none

/-- The character of a one-letter escape. -/
def unescape? : Char → Option Char
  | '"' => some '"'
  | '\\' => some '\\'
  | '/' => some '/'
  | 'b' => some '\x08'
  | 'f' => some '\x0c'
  | 'n' => some '\n'
  | 'r' => some '\r'
  | 't' => some '\t'
  | _ => none

/-- The second unit of a pair, if an escape of one follows. -/
def readLowUnit? : List Char → Option (Nat × List Char)
  | '\\' :: 'u' :: rest =>
    match readUnit? rest with
    | some (low, rest) => if 0xDC00 ≤ low && low < 0xE000 then some (low, rest) else none
    | none => none
  | _ => none

/-- One character of a string that is not its closing quote. A unit of a pair that stands alone reads as U+FFFD. -/
def readChar? : List Char → Option (Char × List Char)
  | '\\' :: 'u' :: rest => do
    let (unit, rest) ← readUnit? rest
    if 0xD800 ≤ unit && unit < 0xDC00 then
      match readLowUnit? rest with
      | some (low, rest) => return (Char.ofNat (0x10000 + (unit - 0xD800) * 0x400 + (low - 0xDC00)), rest)
      | none => return ('\uFFFD', rest)
    else if 0xDC00 ≤ unit && unit < 0xE000 then
      return ('\uFFFD', rest)
    else
      return (Char.ofNat unit, rest)
  | '\\' :: c :: rest => (unescape? c).map (·, rest)
  | ['\\'] => none
  | c :: rest => if c.toNat < 0x20 then none else some (c, rest)
  | [] => none

/-- The rest of a string up to its closing quote. -/
def readString? : Nat → List Char → Option (List Char × List Char)
  | 0, _ => none
  | _ + 1, '"' :: rest => some ([], rest)
  | fuel + 1, s => do
    let (c, rest) ← readChar? s
    let (cs, rest) ← readString? fuel rest
    return (c :: cs, rest)

/-- The leading decimal digits and the rest. -/
def spanDigits (s : List Char) : List Char × List Char :=
  (s.takeWhile Char.isDigit, s.dropWhile Char.isDigit)

/-- The number that ASCII digits denote. -/
def natOfDigits (ds : List Char) : Nat :=
  ofDigitValues 0 (ds.map fun c => c.toNat - '0'.toNat)

/-- The places behind the point, if a point with a digit behind it follows. -/
def readPlaces : List Char → Option (List Char) × List Char
  | '.' :: rest =>
    match spanDigits rest with
    | ([], _) => (none, '.' :: rest)
    | (ds, rest) => (some ds, rest)
  | s => (none, s)

/-- The exponent, if a mark, an optional sign and a digit follow. -/
def readExponent (s : List Char) : Option Int × List Char :=
  match s with
  | c :: rest =>
    if c == 'e' || c == 'E' then
      let (negative, digits) := splitSign rest
      match spanDigits digits with
      | ([], _) => (none, s)
      | (ds, rest) => (some (if negative then -(natOfDigits ds : Int) else natOfDigits ds), rest)
    else (none, s)
  | [] => (none, s)

/-- The whole part of a number: a zero, or digits that start with another one. -/
def readWhole? : List Char → Option (List Char × List Char)
  | '0' :: rest => some (['0'], rest)
  | s =>
    match spanDigits s with
    | ([], _) => none
    | p => some p

/-- An unsigned number: an integer, unless a fraction or an exponent follows. -/
def readUnsigned? (negative : Bool) (s : List Char) : Option (Json × List Char) := do
  let (whole, rest) ← readWhole? s
  let (places, rest) := readPlaces rest
  let (exponent, rest) := readExponent rest
  if places.isNone && exponent.isNone then
    if whole.length ≤ maxDigits then
      return (.int (if negative then -(natOfDigits whole : Int) else natOfDigits whole), rest)
    else none
  else
    let places := places.getD []
    return (.num (toFloat negative (natOfDigits (whole ++ places)) (exponent.getD 0 - places.length)), rest)

/-- The rest of a text behind a word at its front. -/
def afterWord? (word : String) (s : List Char) : Option (List Char) :=
  if word.toList.isPrefixOf s then some (s.drop word.length) else none

/-- A number, by digits or by name. -/
def readNumber? (s : List Char) : Option (Json × List Char) :=
  match s with
  | '-' :: rest =>
    match afterWord? "Infinity" rest with
    | some rest => some (.num (-1.0 / 0.0), rest)
    | none => readUnsigned? true rest
  | _ => readUnsigned? false s

/-- The values that are written as words. -/
def words : List (String × Json) :=
  [("null", .null), ("true", .bool true), ("false", .bool false), ("NaN", .num (0.0 / 0.0)), ("Infinity", .num (1.0 / 0.0))]

/-- A value written as a word. -/
def readWord? (s : List Char) : Option (Json × List Char) :=
  words.findSome? fun (word, v) => (afterWord? word s).map (v, ·)

/-- The outcome of reading: a text may be no JSON, or go too deep. -/
abbrev Reading := Except Fault

/-- The outcome of reading what has no parts. -/
def Reading.ofOption {α : Type} : Option α → Reading α
  | some r => .ok r
  | none => .error .malformedJson

/-- The room for values in each other. The interpreter bounds it by what its stack leaves, so nothing is said about it but that what the
program writes itself has room. -/
class Room where
  /-- The greatest number of arrays and objects that stand in each other. -/
  maxDepth : Nat
  /-- The messages and configurations of the program have room. -/
  ample : 8 ≤ maxDepth

export Room (maxDepth)

/-- The room that an interpreter leaves in its usual setting. -/
@[reducible] def Room.usual : Room := ⟨990, by decide⟩

/-- Reads what is one level further in, if there is room for it. -/
def Reading.inside {α : Type} (room : Nat) (read : Nat → Reading α) : Reading α :=
  match room with
  | 0 => .error .tooDeep
  | room + 1 => read room

mutual

/-- One value at the front of a text; the first argument bounds the number of steps, the second the levels further in. -/
def readValue : Nat → Nat → List Char → Reading (Json × List Char)
  | 0, _, _ => .error .malformedJson
  | fuel + 1, room, s =>
    match s with
    | '"' :: rest => do
      let (cs, rest) ← Reading.ofOption (readString? (rest.length + 1) rest)
      return (.str (String.ofList cs), rest)
    | '[' :: rest => Reading.inside room fun room =>
      match skipSpace rest with
      | ']' :: rest => .ok (.arr [], rest)
      | rest => do
        let (v, rest) ← readValue fuel room rest
        let (vs, rest) ← readItems fuel room (skipSpace rest)
        return (.arr (v :: vs), rest)
    | '\x7b' :: rest => Reading.inside room fun room =>
      match skipSpace rest with
      | '\x7d' :: rest => .ok (.obj [], rest)
      | rest => do
        let (p, rest) ← readField fuel room rest
        let (ps, rest) ← readFields fuel room (skipSpace rest)
        return (.obj (Fields.ofPairs (p :: ps)), rest)
    | _ => Reading.ofOption ((readWord? s).or (readNumber? s))

/-- The items of an array behind its first one, to the closing bracket. -/
def readItems : Nat → Nat → List Char → Reading (List Json × List Char)
  | 0, _, _ => .error .malformedJson
  | fuel + 1, room, s =>
    match s with
    | ']' :: rest => .ok ([], rest)
    | ',' :: rest => do
      let (v, rest) ← readValue fuel room (skipSpace rest)
      let (vs, rest) ← readItems fuel room (skipSpace rest)
      return (v :: vs, rest)
    | _ => .error .malformedJson

/-- A name, a colon and a value. -/
def readField : Nat → Nat → List Char → Reading ((String × Json) × List Char)
  | 0, _, _ => .error .malformedJson
  | fuel + 1, room, s =>
    match s with
    | '"' :: rest => do
      let (cs, rest) ← Reading.ofOption (readString? (rest.length + 1) rest)
      match skipSpace rest with
      | ':' :: rest =>
        let (v, rest) ← readValue fuel room (skipSpace rest)
        return ((String.ofList cs, v), rest)
      | _ => .error .malformedJson
    | _ => .error .malformedJson

/-- The fields of an object behind its first one, to the closing brace. -/
def readFields : Nat → Nat → List Char → Reading (List (String × Json) × List Char)
  | 0, _, _ => .error .malformedJson
  | fuel + 1, room, s =>
    match s with
    | '\x7d' :: rest => .ok ([], rest)
    | ',' :: rest => do
      let (p, rest) ← readField fuel room (skipSpace rest)
      let (ps, rest) ← readFields fuel room (skipSpace rest)
      return (p :: ps, rest)
    | _ => .error .malformedJson

end

variable [Room]

/-- The value that a text holds. Every step of the reader consumes a character, so the bound on the steps is never met. -/
def parse (text : String) : Reading Json :=
  let s := text.toList
  match readValue (2 * s.length + 2) maxDepth (skipSpace s) with
  | .ok (v, rest) => if (skipSpace rest).isEmpty then .ok v else .error .malformedJson
  | .error why => .error why

/-- The value that a text holds, if it holds one. -/
def parse? (text : String) : Option Json := (parse text).toOption

end ToolpathViewer.Json
