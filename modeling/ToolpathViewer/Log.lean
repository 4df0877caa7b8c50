import ToolpathViewer.Fault

/-!
# Log entries

What the parts of the program report while they work. An entry that reports a failure ends in the text of its cause.
-/

namespace ToolpathViewer.Log

/-- The severity of an entry. -/
inductive Level where
  | debug
  | info
  | warning
  | error
deriving DecidableEq, Repr

/-- The name of a level. -/
def Level.name : Level → String
  | .debug => "DEBUG"
  | .info => "INFO"
  | .warning => "WARNING"
  | .error => "ERROR"

/-- The rank of a level; a threshold lets through its own rank and all above. -/
def Level.rank : Level → Int
  | .debug => 10
  | .info => 20
  | .warning => 30
  | .error => 40

/-- The part of the program that reports. -/
inductive Source where
  | extraction
  | selection
  | settings
  | channel
  | client
  | host
  | surface
  | workers
  | workspace
deriving DecidableEq, Repr

/-- The name under which a part reports. -/
def Source.name : Source → String
  | .extraction => "core.toolpath"
  | .selection => "core.selection"
  | .settings => "config.viewer_config"
  | .channel => "bridge.channel"
  | .client => "bridge.client"
  | .host => "viewer_host"
  | .surface => "viewer_surface"
  | .workers => "gui.workers"
  | .workspace => "gui.main_window"

/-- One report. -/
structure Entry where
  level : Level
  source : Source
  text : String
  /-- The failure that the text leads up to. -/
  cause : Option Fault := none
  /-- The text behind the failure. -/
  ending : String := ""
deriving DecidableEq, Repr

/-- The text of an entry. A cause is put into words by the given function. -/
def Entry.message (e : Entry) (describe : Fault → String := Fault.message) : String :=
  e.text ++ (e.cause.map describe).getD "" ++ e.ending

/-- An entry about normal operation. -/
def info (source : Source) (text : String) : Entry := { level := .info, source, text }

/-- An entry about something unexpected that was dealt with. -/
def warning (source : Source) (text : String) : Entry := { level := .warning, source, text }

/-- An entry about a failure. -/
def error (source : Source) (text : String) (cause : Option Fault := none) : Entry :=
  { level := .error, source, text, cause }

/-- At most `limit` characters of a text, with its length when it is longer. -/
def preview (text : String) (limit : Int := 200) : String :=
  if text.length ≤ limit then text
  else
    let kept := if 0 ≤ limit then limit.toNat else text.length - limit.natAbs
    String.ofList (text.toList.take kept) ++ "... (" ++ toString text.length ++ " chars)"

end ToolpathViewer.Log
