/-!
# Diagnostics

Problems found in a program, with the line and the columns that show them.
-/

namespace ToolpathViewer

/-- What a diagnostic is about. -/
inductive Diagnostic.Kind where
  /-- A word that cannot be read. -/
  | grammar
  /-- Words that make no sense together. -/
  | semantic
  /-- Anything else. -/
  | warning
deriving DecidableEq, Repr

/-- How serious a diagnostic is. -/
inductive Diagnostic.Severity where
  | warning
  | error
deriving DecidableEq, Repr

/-- The name of a kind. -/
def Diagnostic.Kind.name : Diagnostic.Kind → String
  | .grammar => "syntax"
  | .semantic => "semantic"
  | .warning => "warning"

/-- The kind with a name. A name that no kind has stands for the last one. -/
def Diagnostic.Kind.ofName (name : String) : Diagnostic.Kind :=
  ([.grammar, .semantic].find? (·.name == name)).getD .warning

/-- Every kind is found by its name. -/
@[simp] theorem Diagnostic.Kind.ofName_name (k : Diagnostic.Kind) : ofName k.name = k := by
  cases k <;> decide

/-- The name of a severity. -/
def Diagnostic.Severity.name : Diagnostic.Severity → String
  | .warning => "warning"
  | .error => "error"

/-- A problem on a line, between two columns. -/
structure Diagnostic where
  line : Int
  start : Int
  stop : Int
  message : String
  kind : Diagnostic.Kind
  severity : Diagnostic.Severity := .warning
deriving DecidableEq, Repr

/-- The diagnostics of a program, in the order in which they were found. -/
abbrev Diagnostics := List Diagnostic

/-- The short form of a diagnostic. -/
def Diagnostic.render (d : Diagnostic) : String :=
  "Line " ++ toString d.line ++ ": " ++ d.message

/-- Inserts a number into an ascending list that has each number once. -/
def insertLine (n : Int) : List Int → List Int
  | [] => [n]
  | m :: rest => if n < m then n :: m :: rest else if n = m then m :: rest else m :: insertLine n rest

/-- The numbers of a list, ascending and each once. -/
def distinctLines (ns : List Int) : List Int :=
  ns.foldr insertLine []

/-- A line that is inserted joins those that are there. -/
theorem mem_insertLine {m n : Int} {l : List Int} : m ∈ insertLine n l ↔ m = n ∨ m ∈ l := by
  induction l with
  | nil => simp [insertLine]
  | cons k rest ih =>
    unfold insertLine
    split
    · simp
    · split
      · subst n; simp
      · simp [ih]; grind

/-- The distinct lines of a list are the numbers in it. -/
@[simp] theorem mem_distinctLines {m : Int} {l : List Int} : m ∈ distinctLines l ↔ m ∈ l := by
  induction l with
  | nil => simp [distinctLines]
  | cons n rest ih => rw [distinctLines, List.foldr_cons, mem_insertLine]; simp [← ih, distinctLines]

/-- Lines in ascending order stay so. -/
theorem pairwise_insertLine {n : Int} {l : List Int} (h : l.Pairwise (· < ·)) : (insertLine n l).Pairwise (· < ·) := by
  induction l with
  | nil => simp [insertLine]
  | cons k rest ih =>
    obtain ⟨hk, hrest⟩ := List.pairwise_cons.1 h
    unfold insertLine
    split
    · refine List.pairwise_cons.2 ⟨fun m hm => ?_, h⟩
      rcases List.mem_cons.1 hm with rfl | hm
      · assumption
      · have := hk m hm; omega
    · split
      · exact h
      · refine List.pairwise_cons.2 ⟨fun m hm => ?_, ih hrest⟩
        rcases mem_insertLine.1 hm with rfl | hm
        · omega
        · exact hk m hm

/-- The distinct lines of a list are ascending. -/
theorem pairwise_distinctLines (l : List Int) : (distinctLines l).Pairwise (· < ·) := by
  induction l with
  | nil => simp [distinctLines]
  | cons n rest ih => exact pairwise_insertLine ih

/-- A list of numbers that is ascending already keeps its form. -/
theorem distinctLines_of_pairwise {ns : List Int} (h : ns.Pairwise (· < ·)) : distinctLines ns = ns := by
  induction ns with
  | nil => rfl
  | cons n ns ih =>
    obtain ⟨hn, hns⟩ := List.pairwise_cons.1 h
    rw [distinctLines, List.foldr_cons, ← distinctLines, ih hns]
    cases ns with
    | nil => rfl
    | cons m ns => exact if_pos (hn m List.mem_cons_self)

namespace Diagnostics

/-- The diagnostics of a line. -/
def onLine (ds : Diagnostics) (line : Int) : Diagnostics := ds.filter (·.line == line)

/-- Some diagnostic is more than a warning. -/
def hasErrors (ds : Diagnostics) : Bool := ds.any (·.severity == .error)

/-- The lines that have a diagnostic, ascending. -/
def lines (ds : Diagnostics) : List Int := distinctLines (ds.map (·.line))

/-- The order by line, and by column within a line. -/
def before (d e : Diagnostic) : Bool := d.line < e.line || (d.line == e.line && d.start ≤ e.start)

/-- The diagnostics in the order of the program; those at one place stay in the order in which they were found. -/
def sorted (ds : Diagnostics) : Diagnostics := ds.mergeSort before

end Diagnostics

end ToolpathViewer
