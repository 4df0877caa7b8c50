import ToolpathViewer.Launch

/-!
# The program

Starts the program without a screen: opens the file that the command line names, reports what happens on the way, and writes the
diagnostics of the text.
-/

open ToolpathViewer

/-- What a path names in the directory that the program runs in. -/
def ToolpathViewer.Files.atPath (path : String) : IO Files := do
  match ← (IO.FS.readBinFile path).toBaseIO with
  | .ok bytes => return Files.add [] path (.file bytes.toList)
  | .error (.inappropriateType ..) => return Files.add [] path .directory
  | .error _ => return []

/-- A secret of 24 random bytes. -/
def ToolpathViewer.drawSecret : IO String := do
  let bytes ← IO.getRandomBytes 24
  return String.ofList (bytes.toList.flatMap fun b => (Nat.toDigits 16 (256 + b.toNat)).drop 1)

/-- How the program is used. -/
def ToolpathViewer.CommandLine.usage : String := "usage: [-h] [--config CONFIG] [--verbose] [file]"

section

attribute [local instance] Json.Room.usual

/-- Runs the program and returns the status that it ends with. -/
def main (args : List String) : IO UInt32 := do
  match CommandLine.read args with
  | .error why =>
    match why with
    | .help => IO.println CommandLine.usage
    | .misuse => IO.eprintln CommandLine.usage
    return why.status.toUInt32
  | .ok line =>
    let verbose ← IO.getEnv "NCVIEWER_VERBOSE_LOG"
    let lexerDebug ← IO.getEnv "NCVIEWER_LEXER_DEBUG"
    let files ← (line.config.join.toList ++ line.file.toList).mapM Files.atPath
    match Launch.start line ⟨verbose, lexerDebug⟩ files.flatten (← drawSecret) 8123 with
    | .error why =>
      IO.eprintln why.message
      return 1
    | .ok started =>
      let turn := (do Workspace.settle; Workspace.runDiagnosis : Workspace.Call Unit) started.workspace
      for e in started.log ++ Workspace.reports turn.emitted do
        if started.level.rank ≤ e.level.rank then IO.eprintln (Log.lineOf Fault.message e)
      IO.println (turn.state.problems.getD "")
      return 0

end
