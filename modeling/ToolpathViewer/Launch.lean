import ToolpathViewer.CommandLine
import ToolpathViewer.Config.Stored
import ToolpathViewer.Log.Setup
import ToolpathViewer.Window.Workspace

/-!
# The start of the program

From a command line, the environment and the files to the configuration that is in force, the level of the reports, and the main
window with the file that was asked for.
-/

namespace ToolpathViewer

/-- A program that has started. -/
structure Launch where
  config : Config
  /-- The least level that is reported. -/
  level : Log.Level
  workspace : Workspace
  /-- What was reported on the way. -/
  log : List Log.Entry

namespace Launch

/-- The configuration that a command line asks for, with what is to be reported about it. -/
def configOf [Json.Room] (line : CommandLine) (e : Environment) (files : Files) : Except Fault (Config × List Config.Notice) := do
  let (c, notices) ←
    match line.config.join with
    | none | some "" => pure (Config.usual e, [])
    | some path => Config.load e path (files.read path)
  return (if line.verbose then { c with verbose := .bool true, lexerDebug := .bool true } else c, notices)

/-- Starts the program. The channel has a secret and will be bound to a port. -/
def start [Json.Room] (line : CommandLine) (e : Environment) (files : Files) (secret : String) (port : Nat) : Except Fault Launch := do
  let (config, notices) ← configOf line e files
  let w ← Workspace.make config files secret port
  let t := Workspace.shown (Workspace.begin line.file) w
  t.result
  return {
    config
    level := Log.threshold (Config.isTrue config.verbose)
    workspace := t.state
    log := notices.map Config.Notice.entry ++ Workspace.reports t.emitted }

end Launch

end ToolpathViewer
