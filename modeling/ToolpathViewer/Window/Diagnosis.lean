import ToolpathViewer.Log
import ToolpathViewer.Toolpath.Extraction

/-!
# Diagnosis

A pass over a program for its diagnostics alone, and the form in which these are shown.
-/

namespace ToolpathViewer.Diagnosis

/-- The diagnostics of a program, if its path can be extracted, and what is reported. -/
def run (s : Extraction.Settings) (text : String) : Option Diagnostics × List Log.Entry :=
  match Extraction.ofText s text.toList with
  | .ok e => (some e.diagnostics.toList, e.log)
  | .error _ => (none, [Log.error .workers "Diagnostics pass failed"])

/-- The line that shows a diagnostic. -/
def lineOf (d : Diagnostic) : String :=
  "Line " ++ toString d.line ++ ": [" ++ d.severity.name.toUpper ++ "] " ++ d.message

/-- The text that shows diagnostics. -/
def render (ds : Diagnostics) : String :=
  if ds.isEmpty then "No problems found." else "\n".intercalate (ds.sorted.map lineOf)

end ToolpathViewer.Diagnosis
