import ToolpathViewer.Text.Digit

/-!
# The command line

What the program is asked for when it is started: at most one file, a configuration, and whether to report everything. Options may
stand before or after the file, a long option may be cut short as long as it stays unambiguous, and behind `--` nothing is an option.
-/

namespace ToolpathViewer

/-- What a command line asks for. -/
structure CommandLine where
  file : Option String := none
  /-- The path of the configuration. Instead of a path, `--` may be attached to the option; then there is none. -/
  config : Option (Option String) := none
  verbose : Bool := false
deriving DecidableEq, Repr

namespace CommandLine

/-- Why a command line starts no program. -/
inductive Refusal where
  /-- It asks how the program is used. -/
  | help
  /-- It is not one of this program. -/
  | misuse
deriving DecidableEq, Repr

/-- The status that the program ends with. -/
def Refusal.status : Refusal → Nat
  | .help => 0
  | .misuse => 2

/-- The options. -/
inductive Flag where
  | help
  | config
  | verbose
deriving DecidableEq, Repr

/-- The long name of an option. -/
def Flag.name : Flag → List Char
  | .help => "--help".toList
  | .config => "--config".toList
  | .verbose => "--verbose".toList

/-- All options. -/
def Flag.all : List Flag := [.help, .config, .verbose]

/-- The options whose long name is the given one, or else begins with it. -/
def Flag.named (name : List Char) : List Flag :=
  match all.filter (·.name == name) with
  | [] => all.filter fun o => name.isPrefixOf o.name
  | exact => exact

/-- What an argument in front of `--` is. -/
inductive Word where
  | value (text : String)
  /-- An option, with the value that is attached to it. -/
  | flag (what : Flag) (attached : Option String)
  /-- An option with something attached that it does not take. -/
  | overfull
  /-- An option that does not exist. -/
  | unknown
deriving DecidableEq, Repr

/-- The text is digits, or has a point that one digit at least follows and only digits precede. -/
def isUnsignedNumber (s : List Char) : Bool :=
  let isDigit (c : Char) : Bool := (Text.decimalValue? c).isSome
  match s.span isDigit with
  | (whole, []) => !whole.isEmpty
  | (_, '.' :: places) => !places.isEmpty && places.all isDigit
  | _ => false

/-- The argument looks like a negative number. A line feed at its end does not count. -/
def isNegativeNumber : List Char → Bool
  | '-' :: s => isUnsignedNumber (if s.getLast? = some '\n' then s.dropLast else s)
  | _ => false

/-- The name in front of the first equals sign, and the text behind it. -/
def splitValue (s : List Char) : List Char × Option String :=
  match s.span (· ≠ '=') with
  | (name, _ :: value) => (name, some (String.ofList value))
  | (name, []) => (name, none)

/-- An argument that is no option by its form. -/
def unnamed (s : List Char) : Word :=
  if isNegativeNumber s || s.contains ' ' then .value (String.ofList s) else .unknown

/-- What the short name for help is with a tail. The name may be repeated, at once or behind an equals sign, and nothing else may
follow. -/
def helpWord (tail : List Char) : Word :=
  let help (more : List Char) : Word := if more.all (· == 'h') then .flag .help none else .overfull
  match tail with
  | ['='] => .overfull
  | '=' :: more => help more
  | more => help more

/-- What an argument is. An option that is cut too short is refused. -/
def word (s : List Char) : Except Refusal Word :=
  match s with
  | '-' :: '-' :: _ =>
    let (name, attached) := splitValue s
    match Flag.named name, attached with
    | [.config], attached => .ok (.flag .config attached)
    | [o], none => .ok (.flag o none)
    | [_], some _ => .ok .overfull
    | [], _ => .ok (unnamed s)
    | _, _ => .error .misuse
  | '-' :: 'h' :: tail => .ok (helpWord tail)
  | '-' :: _ :: _ => .ok (unnamed s)
  | _ => .ok (.value (String.ofList s))

/-- What has been read so far. -/
structure Progress where
  line : CommandLine := {}
  /-- There was something that the program does not take. -/
  surplus : Bool := false
  /-- The last argument was taken as the file. -/
  fileLast : Bool := false

/-- Reads the arguments in front of `--`. -/
def readWords (p : Progress) : List Word → Except Refusal Progress
  | [] => .ok p
  | .value text :: rest =>
    if p.line.file.isNone then readWords { p with line.file := some text, fileLast := true } rest
    else readWords { p with surplus := true, fileLast := false } rest
  | .flag .help _ :: _ => .error .help
  | .flag .verbose _ :: rest => readWords { p with line.verbose := true, fileLast := false } rest
  | .flag .config (some text) :: rest =>
    readWords { p with line.config := some (if text = "--" then none else some text), fileLast := false } rest
  | .flag .config none :: .value text :: rest => readWords { p with line.config := some (some text), fileLast := false } rest
  | .flag .config none :: _ => .error .misuse
  | .overfull :: _ => .error .misuse
  | .unknown :: rest => readWords { p with surplus := true, fileLast := false } rest

/-- Reads `--` and the arguments behind it. They can give the file, unless it was given long before. -/
def readPlain (p : Progress) (args : List String) : Except Refusal Progress :=
  match p.line.file, args with
  | none, [] => .ok p
  | none, [file] => .ok { p with line.file := some file }
  | some _, [] => if p.fileLast then .ok p else .error .misuse
  | _, _ => .error .misuse

/-- What the arguments ask for. -/
def read (args : List String) : Except Refusal CommandLine := do
  let (front, behind) := args.span (· ≠ "--")
  let p ← readWords {} (← front.mapM fun s => word s.toList)
  let p ← match behind with
    | [] => pure p
    | _ :: plain => readPlain p plain
  if p.surplus then .error .misuse else .ok p.line

end CommandLine

end ToolpathViewer
