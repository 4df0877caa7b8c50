import ToolpathViewer.Fault
import ToolpathViewer.Text.Pieces
import ToolpathViewer.Text.Utf8

/-!
# Files

The directory that the program works in and what lies below it. A path leads to a place name by name, and every name needs a
directory to be looked up in, also the empty one behind a slash at the end.
-/

namespace ToolpathViewer

/-- A place in the tree of directories: the names that lead there from the working directory, the last one first. Places above that
directory have only names `..`, and the root has the name `/`. -/
abbrev Files.Place := List String

/-- What stands at a place. -/
inductive Files.Entry where
  | file (bytes : List UInt8)
  | directory
deriving DecidableEq, Repr

/-- What stands at which place. The working directory and those above it are always there. -/
abbrev Files := List (Files.Place × Files.Entry)

namespace Files

/-- The place above a place. -/
def Place.up : Place → Place
  | [] => [".."]
  | ["/"] => ["/"]
  | ".." :: rest => ".." :: ".." :: rest
  | _ :: rest => rest

/-- The place that a name leads to. -/
def Place.step (place : Place) (name : String) : Place :=
  match name with
  | "" | "." => place
  | ".." => place.up
  | _ => name :: place

/-- The directories on the way to a place. -/
def Place.ancestors : Place → List Place
  | [] => []
  | _ :: rest => rest :: ancestors rest

/-- What stands between the slashes of a path. -/
def steps (path : String) : List String := (Text.pieces (· == '/') path.toList).map String.ofList

/-- Where a path starts. -/
def startOf (path : String) : Place := if path.startsWith "/" then ["/"] else []

/-- The files with one more, and with the directories that lead to it. -/
def add (files : Files) (path : String) (e : Entry) : Files :=
  let place := (steps path).foldl Place.step (startOf path)
  (place, e) :: place.ancestors.map (·, .directory) ++ files

/-- What stands at a place. -/
def entry? (files : Files) (place : Place) : Option Entry :=
  if place.all fun name => name == ".." || name == "/" then some .directory else files.lookup place

/-- The greatest number of bytes of a name. -/
def maxName : Nat := 255

/-- The number of bytes that a path must stay below. -/
def maxPath : Nat := 4096

/-- Follows a name from a place. -/
def follow (files : Files) (place : Place) (name : String) : Except Fault Place :=
  match files.entry? place with
  | none => .error .fileMissing
  | some (.file _) => .error .notDirectory
  | some .directory => if name.utf8ByteSize ≤ maxName then .ok (place.step name) else .error .nameTooLong

/-- The names of a path. -/
def namesOf (path : String) : Except Fault (List String) :=
  if path.toList.contains '\x00' then .error .malformedPath
  else if path == "" then .error .fileMissing
  else if maxPath ≤ path.utf8ByteSize then .error .nameTooLong
  else .ok (steps path)

/-- The place that a path leads to. Something need not stand there. -/
def locate (files : Files) (path : String) : Except Fault Place := do
  (← namesOf path).foldlM files.follow (startOf path)

/-- The text with every way of ending a line written as a line feed. -/
def unifyLines : List Char → List Char
  | '\r' :: '\n' :: rest => '\n' :: unifyLines rest
  | '\r' :: rest => '\n' :: unifyLines rest
  | c :: rest => c :: unifyLines rest
  | [] => []

/-- The text of a file as it is stored. -/
def stored (files : Files) (path : String) : Except Fault String := do
  match files.entry? (← files.locate path) with
  | none => .error .fileMissing
  | some .directory => .error .isDirectory
  | some (.file bytes) =>
    match Text.Utf8.decode? bytes with
    | none => .error .notUtf8
    | some text => .ok text

/-- The text of a file as it is read. -/
def read (files : Files) (path : String) : Except Fault String :=
  (files.stored path).map fun text => String.ofList (unifyLines text.toList)

/-- Writes a text to a file, which need not be there before. The name in front of a slash at the end can only be one of a directory,
so it is not looked up. -/
def write (files : Files) (path text : String) : Except Fault Files := do
  let names ← namesOf path
  if path.endsWith "/" then
    let above := ((names.reverse.dropWhile (· == "")).drop 1).reverse
    let _ ← (above ++ [""]).foldlM files.follow (startOf path)
    .error .isDirectory
  else
    let place ← names.foldlM files.follow (startOf path)
    if files.entry? place == some .directory then .error .isDirectory
    else .ok ((place, .file text.toUTF8.toList) :: files)

/-- A failure that the file system causes. -/
def isFileFault : Fault → Bool
  | .fileMissing | .isDirectory | .notDirectory | .nameTooLong => true
  | _ => false

end Files

end ToolpathViewer
