import ToolpathViewer.Log

/-!
# The log console

The part of the window that shows reports, one a line. It takes reports from a level on, and none once it is gone. A report
without a positive rank is below every level.
-/

namespace ToolpathViewer.Log

/-- A console of reports in some form, that takes those of at least a rank. -/
structure Console (α : Type) where
  threshold : Int := 0
  lines : List α := []
  /-- The console is still there. -/
  alive : Bool := true

namespace Console

variable {α : Type}

/-- Takes a report of a rank. -/
def append (c : Console α) (rank : Int) (line : α) : Console α :=
  if c.alive && 0 < rank && c.threshold ≤ rank then { c with lines := c.lines ++ [line] } else c

/-- Takes the console away. -/
def remove (c : Console α) : Console α := { c with alive := false }

/-- Takes reports in order. -/
def report (c : Console Entry) (es : List Entry) : Console Entry :=
  es.foldl (fun c e => c.append e.level.rank e) c

end Console

/-- The line that shows a report. A cause is put into words by the given function. -/
def lineOf (describe : Fault → String) (e : Entry) : String := e.source.name ++ ": " ++ e.message describe

/-- The names of the ranks that have one. -/
def rankName (rank : Int) : String :=
  if rank = 50 then "CRITICAL"
  else (([Level.debug, .info, .warning, .error].find? (·.rank == rank)).map Level.name).getD ("Level " ++ toString rank)

end ToolpathViewer.Log
