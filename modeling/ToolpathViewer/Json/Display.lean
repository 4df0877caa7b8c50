import ToolpathViewer.Json.Printer

/-!
# Showing values

The form in which a value stands in a text that people read, such as a log line, or in which a value that is no text is
taken for one: a text stands for itself, and inside another value it is quoted.
-/

namespace ToolpathViewer.Json

open ToolpathViewer.Text

mutual

/-- The form of a value inside another one. -/
def quote : Json → List Char
  | .null => "None".toList
  | .bool true => "True".toList
  | .bool false => "False".toList
  | .int n => (toString n).toList
  | .num x => (Decimal.shortest x).toList
  | .str s => quoted s.toList
  | .arr [] => ['[', ']']
  | .arr (v :: rest) => '[' :: quote v ++ quoteItems rest ++ [']']
  | .obj [] => ['\x7b', '\x7d']
  | .obj ((k, v) :: rest) => '\x7b' :: quoted k.toList ++ [':', ' '] ++ quote v ++ quoteFields rest ++ ['\x7d']

/-- The form of the items behind the first. -/
def quoteItems : List Json → List Char
  | [] => []
  | v :: rest => ',' :: ' ' :: quote v ++ quoteItems rest

/-- The form of the fields behind the first. -/
def quoteFields : List (String × Json) → List Char
  | [] => []
  | (k, v) :: rest => ',' :: ' ' :: quoted k.toList ++ [':', ' '] ++ quote v ++ quoteFields rest

end

/-- The form of a value that stands alone. -/
def display : Json → String
  | .str s => s
  | v => String.ofList (quote v)

end ToolpathViewer.Json
