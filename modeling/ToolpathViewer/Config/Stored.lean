import ToolpathViewer.Config.Basic
import ToolpathViewer.Files
import ToolpathViewer.Json.Display
import ToolpathViewer.Json.Parser
import ToolpathViewer.Log
import ToolpathViewer.Text.Blank

/-!
# Stored configurations

How a configuration is written to a file and read from one, and how the environment overrides it. Reading does not fail for a file
that is missing, damaged or no JSON; the usual configuration takes its place and the reason is reported.
-/

namespace ToolpathViewer

/-- The variables of the environment that count. -/
structure Environment where
  /-- Whether to report more. -/
  verbose : Option String := none
  /-- Whether to trace tokens. -/
  lexerDebug : Option String := none

/-- The answer that a variable gives, if it gives one. -/
def Environment.flag? (value : Option String) : Option Bool :=
  match value.map fun s => (Text.strip s.toList).map Char.toLower with
  | some ['t', 'r', 'u', 'e'] | some ['1'] => some true
  | some ['f', 'a', 'l', 's', 'e'] | some ['0'] => some false
  | _ => none

namespace Config

/-- Something to report about a configuration that was read. -/
inductive Notice where
  /-- The file cannot be read. -/
  | unreadable (path : String) (why : Fault)
  /-- There is no such theme. -/
  | unknownTheme (value : Json)

/-- The report of a notice. -/
def Notice.entry : Notice → Log.Entry
  | .unreadable path why =>
    { Log.warning .settings ("Could not read config " ++ path ++ " (") with cause := some why, ending := "); using defaults" }
  | .unknownTheme value =>
    Log.warning .settings ("Unknown theme " ++ String.ofList value.quote ++ "; using dark")

/-- The configuration with the overrides of the environment. Tokens are traced when everything is, unless a variable says
otherwise. -/
def override (e : Environment) (c : Config) : Config :=
  let c : Config :=
    match Environment.flag? e.verbose with
    | some b => { c with verbose := .bool b }
    | none => c
  match Environment.flag? e.lexerDebug with
  | some b => { c with lexerDebug := .bool b }
  | none => { c with lexerDebug := if isTrue c.lexerDebug then c.lexerDebug else c.verbose }

/-- The usual configuration in an environment. -/
def usual (e : Environment) : Config := override e {}

/-- The written form of a configuration. -/
def render (c : Config) : String := (Json.obj c.toFields).indented

/-- Writes a configuration to a file. One in which an integer has too many digits cannot be written. -/
def save (c : Config) (files : Files) (path : String) : Except Fault Files := do
  let files ← files.write path c.render
  if (Json.obj c.toFields).fits then .ok files else .error .malformedInteger

/-- The configuration with a theme that exists. -/
def settleTheme (c : Config) : Config × List Notice :=
  match c.theme.str?.bind Theme.ofName? with
  | some _ => (c, [])
  | none => ({ c with theme := .str Theme.dark.name }, [.unknownTheme c.theme])

/-- Failures after which the usual configuration is used. -/
def isForgiven : Fault → Bool
  | .malformedPath | .notUtf8 | .malformedJson | .malformedInteger | .wrongType => true
  | why => Files.isFileFault why

variable [Json.Room]

/-- The configuration that a text holds. -/
def parse (text : String) : Except Fault Config :=
  match Json.parse text with
  | .error why => .error why
  | .ok (.obj fields) => .ok (ofFields fields)
  | .ok _ => .error .noFields

/-- The configuration of a text that was read from a path, with what is to be reported. -/
def load (e : Environment) (path : String) (content : Except Fault String) : Except Fault (Config × List Notice) :=
  match content.bind parse with
  | .ok c =>
    let (c, notices) := c.settleTheme
    .ok (override e c, notices)
  | .error why => if isForgiven why then .ok (usual e, [.unreadable path why]) else .error why

end Config

end ToolpathViewer
