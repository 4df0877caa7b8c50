/-!
# JSON values

Integers and floating point numbers are different values, and an object keeps its fields in the order in which they first
appeared, each with the value it was given last.
-/

namespace ToolpathViewer

/-- A JSON value. -/
inductive Json where
  | null
  | bool (b : Bool)
  | int (n : Int)
  | num (x : Float)
  | str (s : String)
  | arr (items : List Json)
  | obj (fields : List (String × Json))
deriving Inhabited

namespace Json

/-- The fields of an object. -/
abbrev Fields := List (String × Json)

/-- Sets a field: a new one goes to the end, an old one keeps its place. -/
def setField (k : String) (v : Json) : Fields → Fields
  | [] => [(k, v)]
  | (k', v') :: rest => if k' == k then (k, v) :: rest else (k', v') :: setField k v rest

/-- The fields with every name at its first place and with its last value. -/
def Fields.ofPairs (pairs : List (String × Json)) : Fields :=
  pairs.foldl (fun fields p => setField p.1 p.2 fields) []

/-- The value of a field. -/
def field? (fields : Fields) (k : String) : Option Json :=
  fields.lookup k

/-- The value of a field of an object; no other value has fields. -/
def get? : Json → String → Option Json
  | .obj fields, k => field? fields k
  | _, _ => none

/-- The text of a string value. -/
def str? : Json → Option String
  | .str s => some s
  | _ => none

/-- The value is no integer beyond the range of floating point numbers. -/
def isInRange : Json → Bool
  | .int n => n.natAbs < Nat.pow 2 1024 - Nat.pow 2 970
  | _ => true

end Json

end ToolpathViewer
