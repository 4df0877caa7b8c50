import ToolpathViewer.Log

/-!
# Where reports go

The places to which reports are written. Setting up the program's own one replaces the one that was set up before, and leaves
those of others alone.
-/

namespace ToolpathViewer.Log

/-- A place that reports are written to. -/
structure Handler where
  /-- The program itself has set it up. -/
  own : Bool
  /-- How the time of a report is written. -/
  timeFormat : String
deriving DecidableEq, Repr

/-- The least level that is reported, and the places. -/
structure Setup where
  threshold : Level := .warning
  handlers : List Handler := []

/-- The program's own place. -/
def ownHandler : Handler := ⟨true, "%H:%M:%S"⟩

/-- The threshold at which everything is reported, or all but traces. -/
def threshold (verbose : Bool) : Level := if verbose then .debug else .info

/-- Sets up the program's own place anew. -/
def Setup.configure (s : Setup) (verbose : Bool) : Setup :=
  { threshold := Log.threshold verbose, handlers := s.handlers.filter (!·.own) ++ [ownHandler] }

/-- The program's own places. -/
def Setup.ownHandlers (s : Setup) : List Handler := s.handlers.filter (·.own)

/-- There is one place of the program's own, however often it was set up. -/
@[simp] theorem Setup.ownHandlers_configure (s : Setup) (verbose : Bool) :
    (s.configure verbose).ownHandlers = [ownHandler] := by
  simp [ownHandlers, configure, List.filter_append, ownHandler]

end ToolpathViewer.Log
