import ToolpathViewer.Proofs.Toolpath.Words
import ToolpathViewer.Text.Pieces

/-!
# Extraction line by line

The extraction reads tokens, and line ends are found inside the tokens of spaces. `ofText_eq_addLines` says that it may as well be
read as a pass over the lines of the program, each of which is scanned on its own and ended at once. What one line can do to a path
is then a statement about `addLine`, and what a program can do follows by induction on its lines.
-/

namespace ToolpathViewer

/-- A line of a program: its number, from 1, the position at which it starts, and its characters. -/
structure SourceLine where
  number : Nat
  start : Int
  text : List Char

namespace SourceLine

/-- Texts as the lines of a program, the first of them with a number and a position. -/
def numbered (number : Nat) (start : Int) : List (List Char) → List SourceLine
  | [] => []
  | text :: rest => ⟨number, start, text⟩ :: numbered (number + 1) (start + text.length + 1) rest

/-- Numbering lines keeps their texts. -/
theorem map_text_numbered (number : Nat) (start : Int) (lines : List (List Char)) :
    (numbered number start lines).map text = lines := by
  induction lines generalizing number start with
  | nil => rfl
  | cons text lines ih => rw [numbered, List.map_cons, ih]

end SourceLine

/-- The lines of a text, without their ends. -/
def linesOf (text : List Char) : List (List Char) := Text.pieces (· == '\n') text

/-- A line, its end and more text. -/
theorem linesOf_newline {l : List Char} (hl : '\n' ∉ l) (rest : List Char) :
    linesOf (l ++ '\n' :: rest) = l :: linesOf rest := by
  induction l with
  | nil => simp [linesOf, Text.pieces]
  | cons c l ih =>
    obtain ⟨hc, hl⟩ := not_or.1 (mt List.mem_cons.2 hl)
    have hc' : (c == '\n') = false := beq_eq_false_iff_ne.2 (Ne.symm hc)
    have h := ih hl
    simp only [linesOf] at h ⊢
    simp [Text.pieces, hc', h]

/-- A text without line ends is its only line. -/
theorem linesOf_of_not_mem {l : List Char} (hl : '\n' ∉ l) : linesOf l = [l] :=
  Text.pieces_of_none fun _ hc => beq_eq_false_iff_ne.2 fun h => hl (h ▸ hc)

/-- A text is one line, or a line, its end and more text. -/
theorem line_cases (text : List Char) :
    '\n' ∉ text ∨ ∃ l rest, text = l ++ '\n' :: rest ∧ '\n' ∉ l := by
  by_cases h : '\n' ∈ text
  · obtain ⟨l, rest, ht, hl⟩ := List.eq_append_cons_of_mem h
    exact Or.inr ⟨l, rest, ht, hl⟩
  · exact Or.inl h

/-- A text has one line more than it has line ends. -/
theorem length_linesOf (text : List Char) : (linesOf text).length = text.count '\n' + 1 := by
  induction h : text.length using Nat.strong_induction_on generalizing text with
  | _ n ih =>
    rcases line_cases text with hn | ⟨l, rest, rfl, hl⟩
    · rw [linesOf_of_not_mem hn, List.count_eq_zero.2 hn]
      rfl
    · have hlt : rest.length < n := by
        rw [← h, List.length_append, List.length_cons]
        omega
      rw [linesOf_newline hl, List.length_cons, ih _ hlt rest rfl, List.count_append, List.count_cons_self,
        List.count_eq_zero.2 hl]
      omega

/-- No line of a text holds a line end. -/
theorem newline_not_mem_of_mem_linesOf {text l : List Char} (h : l ∈ linesOf text) : '\n' ∉ l := by
  induction hn : text.length using Nat.strong_induction_on generalizing text with
  | _ n ih =>
    rcases line_cases text with hnone | ⟨l', rest, rfl, hl⟩
    · rw [linesOf_of_not_mem hnone, List.mem_singleton] at h
      exact h ▸ hnone
    · rw [linesOf_newline hl, List.mem_cons] at h
      rcases h with rfl | h
      · exact hl
      · refine ih rest.length ?_ h rfl
        rw [← hn, List.length_append, List.length_cons]
        omega

/-- The characters of a line are characters of the text. -/
theorem mem_of_mem_linesOf {text l : List Char} (h : l ∈ linesOf text) {c : Char} (hc : c ∈ l) : c ∈ text := by
  induction hn : text.length using Nat.strong_induction_on generalizing text with
  | _ n ih =>
    rcases line_cases text with hnone | ⟨l', rest, rfl, hl⟩
    · rw [linesOf_of_not_mem hnone, List.mem_singleton] at h
      exact h ▸ hc
    · rw [linesOf_newline hl, List.mem_cons] at h
      rcases h with rfl | h
      · exact List.mem_append_left _ hc
      · have hlt : rest.length < n := by
          rw [← hn, List.length_append, List.length_cons]
          omega
        exact List.mem_append_right _ (List.mem_cons_of_mem _ (ih _ hlt h rfl))

namespace Extraction

open Progress

/-- Reads a line of the program and ends it. -/
def addLine (s : Settings) (e : Extraction) (l : SourceLine) : Except Interruption Extraction := do
  let p ← (Token.scan l.start l.text).foldlM (readToken s) { path := e, line := { number := l.number, start := l.start } }
  p.path.finishLine s p.line

/-- Spaces in two parts are read one part after the other. -/
theorem readSpace_append (s : Settings) (start : Int) (a b : List Char) (p : Progress) :
    readSpace s start (a ++ b) p = readSpace s start a p >>= readSpace s (start + a.length) b := by
  induction a generalizing start p with
  | nil => simp [readSpace, bind, Except.bind]
  | cons c a ih =>
    have hn : start + 1 + (a.length : Int) = start + ((c :: a).length : Int) := by
      rw [List.length_cons]
      omega
    simp only [List.cons_append, readSpace]
    split
    · rw [bind_assoc]
      exact bind_congr fun q => by rw [ih, hn]
    · rw [ih, hn]

/-- Runs over the characters between tokens correspond when the ends of their lines do. -/
theorem corresponds_readSpace {s s' : Settings} {R : Progress → Progress → Prop}
    (hnext : ∀ p p' start start', R p p' → Corresponds R (p.nextLine s start) (p'.nextLine s' start')) {text text' : List Char}
    (htext : List.Forall₂ (fun c c' => (c' == '\n') = (c == '\n')) text text') {p p' : Progress} (h : R p p') (start start' : Int) :
    Corresponds R (readSpace s start text p) (readSpace s' start' text' p') := by
  induction htext generalizing start start' p p' with
  | nil => exact .ok h
  | cons hc _ ih =>
    simp only [readSpace, hc]
    split
    · exact (hnext p p' _ _ h).bind fun q q' hq => ih hq _ _
    · exact ih h _ _

/-- Reading spaces goes character by character. -/
theorem splitsSpaces_readToken (s : Settings) : Token.SplitsSpaces (readToken s) :=
  fun p start a b _ _ => readSpace_append s start a b p

/-- A line end ends the line. -/
theorem readToken_newline (s : Settings) (p : Progress) (start : Int) :
    readToken s p (Token.spaceAt start ['\n']) = p.nextLine s (start + 1) := by
  change readSpace s start ['\n'] p = _
  simp only [readSpace, beq_self_eq_true, if_true]
  exact bind_pure _

/-- Reading the tokens of a text from the start of a line, and ending the last line, adds the lines of the text. -/
theorem foldlM_readToken_eq (s : Settings) (text : List Char) (number : Nat) (start : Int) (e : Extraction) :
    ((Token.scan start text).foldlM (readToken s) { path := e, line := { number, start } } >>= fun p =>
        p.path.finishLine s p.line) =
      (SourceLine.numbered number start (linesOf text)).foldlM (addLine s) e := by
  induction h : text.length using Nat.strong_induction_on generalizing text number start e with
  | _ n ih =>
    rcases line_cases text with hn | ⟨l, rest, rfl, hl⟩
    · rw [linesOf_of_not_mem hn]
      simp only [SourceLine.numbered, List.foldlM_cons, List.foldlM_nil, addLine, bind_pure]
    · have hlt : rest.length < n := by
        rw [← h, List.length_append, List.length_cons]
        omega
      rw [linesOf_newline hl, Token.foldlM_scan_newline (splitsSpaces_readToken s)]
      simp only [SourceLine.numbered, List.foldlM_cons, addLine, bind_assoc, readToken_newline, nextLine]
      cases hp : (Token.scan start l).foldlM (readToken s) { path := e, line := { number, start } } with
      | error i => rfl
      | ok p =>
        have hnum : p.line.number = number :=
          (foldlM_readToken_samePath (Token.newline_not_mem_of_mem_scan hl) hp).2
        change (p.path.finishLine s p.line >>= _) = _
        refine bind_congr fun e' => ?_
        rw [pure_bind, hnum]
        exact ih _ hlt rest _ _ e' rfl

/-- The lines of a program as the extraction goes through them. -/
theorem ofText_eq_addLines (s : Settings) (text : List Char) :
    ofText s text = (SourceLine.numbered 1 0 (linesOf text)).foldlM (addLine s) {} :=
  foldlM_readToken_eq s text 1 0 {}

end Extraction

end ToolpathViewer
