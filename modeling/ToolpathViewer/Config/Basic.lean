import ToolpathViewer.Scene.Theme
import ToolpathViewer.Toolpath.Settings

/-!
# Configurations

A configuration has eight fields. A file can give them values of any type, and no type is checked when it is read, so a
configuration holds values as they are and each use says what it takes them for.
-/

namespace ToolpathViewer

/-- The commands that are left out unless others are named. -/
def defaultCodes : List String := ["G10", "G28", "G30", "G53", "G90", "M00", "M01", "M02", "M30"]

/-- The commands that the view leaves out when a message names none. -/
def fallbackCodes : List String := ["G10", "G30", "G53", "G90"]

/-- A configuration with values of any types. -/
structure Config where
  /-- The commands to leave out. -/
  codes : Json := .arr (defaultCodes.map .str)
  /-- The greatest number of movements. -/
  limit : Json := .int 1000000
  /-- The number of chords of a whole turn. -/
  divisions : Json := .int 64
  /-- The number of messages that the bridge keeps. -/
  capacity : Json := .int 128
  host : Json := .str "127.0.0.1"
  theme : Json := .str "dark"
  verbose : Json := .bool false
  lexerDebug : Json := .bool false

namespace Config

/-- The fields of a configuration in the order of its written form. -/
def toFields (c : Config) : Json.Fields := [
  ("exclude_codes", c.codes), ("max_movements", c.limit), ("arc_divisions", c.divisions),
  ("bridge_capacity", c.capacity), ("bridge_host", c.host), ("theme", c.theme),
  ("verbose", c.verbose), ("lexer_debug", c.lexerDebug)]

/-- The configuration with given fields. A field that is missing has its usual value, and other fields do not count. -/
def ofFields (fields : Json.Fields) : Config :=
  let value (name : String) (usual : Json) : Json := (Json.field? fields name).getD usual
  let usual : Config := {}
  { codes := value "exclude_codes" usual.codes
    limit := value "max_movements" usual.limit
    divisions := value "arc_divisions" usual.divisions
    capacity := value "bridge_capacity" usual.capacity
    host := value "bridge_host" usual.host
    theme := value "theme" usual.theme
    verbose := value "verbose" usual.verbose
    lexerDebug := value "lexer_debug" usual.lexerDebug }

/-- The names of the fields. -/
def fieldNames : List String := (toFields {}).map (·.1)

/-- The configuration with given fields, each of which must be one of a configuration. -/
def ofKnownFields (fields : Json.Fields) : Except Fault Config :=
  if fields.all fun p => fieldNames.contains p.1 then .ok (ofFields fields) else .error .wrongType

/-- The items of a value that can be gone through: of an array its items, of a text its characters, of an object its names. -/
def items : Json → Except Fault (List Json)
  | .arr vs => .ok vs
  | .str s => .ok (s.toList.map fun c => .str (String.singleton c))
  | .obj fields => .ok (fields.map fun p => .str p.1)
  | .null | .bool _ | .int _ | .num _ => .error .wrongType

/-- The commands to leave out, or the usual ones when there are none. -/
def excluded (c : Config) : Except Fault (List Json) := do
  let vs ← items c.codes
  return if vs.isEmpty then defaultCodes.map .str else vs

/-- The settings that are sent to the view. -/
def settings (c : Config) : Except Fault Json := do
  return .obj [("excludeCodes", .arr (← c.excluded))]

/-- The value counts as a yes: it is not empty, not zero and not a no. -/
def isTrue : Json → Bool
  | .null => false
  | .bool b => b
  | .int n => n ≠ 0
  | .num x => x != 0.0
  | .str s => s ≠ ""
  | .arr vs => !vs.isEmpty
  | .obj fields => !fields.isEmpty

/-- The number of messages that the bridge shall keep. Infinity, and what is no number, set a bound that is never reached. -/
def bridgeCapacity (c : Config) : Except Fault Int :=
  match c.capacity with
  | .int n => .ok n
  | .bool b => .ok (if b then 1 else 0)
  | .num x =>
    match Decimal.parts x with
    | .finite b => .ok b.truncate
    | .infinite true => .error .capacityTooSmall
    | _ => .ok (Nat.pow 2 64)
  | _ => .error .wrongType

/-- The settings of an extraction. -/
def extraction (c : Config) : Except Fault Extraction.Settings := do
  Extraction.Settings.ofValues (← c.excluded) c.limit c.divisions

end Config

end ToolpathViewer
