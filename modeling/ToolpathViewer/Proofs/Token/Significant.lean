import ToolpathViewer.Editor.Basic
import ToolpathViewer.Proofs.Token.Tiling
import ToolpathViewer.Proofs.Toolpath.ByLine

/-!
# The tokens of a text and of its lines

The editor scans a text line by line and the extraction scans it as a whole. A run of spaces may go over several lines, but no other
token goes beyond the end of one, so both see the same tokens that are not spaces (`significant_by_line`).
-/

namespace ToolpathViewer

/-- The editor's lines are the lines of the text. -/
theorem Editor.lines_eq_linesOf (text : List Char) : Editor.lines text = linesOf text := by
  induction text with
  | nil => rfl
  | cons c text ih =>
    have hstep : Editor.lines (c :: text) =
        if c == '\n' then [] :: Editor.lines text
        else [c :: (Editor.lines text).headD []] ++ (Editor.lines text).tail := by
      rw [Editor.lines, List.foldr_cons, ← Editor.lines]
      cases Editor.lines text <;> rfl
    rw [hstep, ih, linesOf, linesOf, Text.pieces]
    split
    · rfl
    · cases Text.pieces (· == '\n') text <;> rfl

namespace Token

/-- The tokens that are not spaces. -/
def significant (ts : List Token) : List Token := ts.filter (·.kind != .space)

/-- Moving tokens keeps which of them are significant. -/
theorem significant_map_shift (k : Int) (ts : List Token) : significant (ts.map (shift k)) = (significant ts).map (shift k) := by
  rw [significant, List.filter_map]
  rfl

/-- A pass that gathers the tokens that are not spaces. -/
def gather (seen : List Token) (t : Token) : Id (List Token) := pure (seen ++ significant [t])

/-- Gathering tokens one by one gives the significant ones in order. -/
theorem foldlM_gather (ts seen : List Token) : ts.foldlM gather seen = pure (seen ++ significant ts) := by
  induction ts generalizing seen with
  | nil => exact congrArg pure (List.append_nil seen).symm
  | cons t ts ih =>
    rw [List.foldlM_cons, gather, pure_bind, ih, List.append_assoc]
    simp only [significant, ← List.filter_append, List.singleton_append]

/-- How spaces are cut into tokens does not matter to the other tokens. -/
theorem splitsSpaces_gather : SplitsSpaces gather := by
  intro seen start a b _ _
  simp [gather, significant, spaceAt]

/-- A space in front of a text moves its tokens and adds none. -/
theorem significant_scan_space {c : Char} (hc : isSpace c = true) (start : Int) (rest : List Char) :
    significant (scan start (c :: rest)) = significant (scan (start + 1) rest) := by
  have hpass := foldlM_scan_space splitsSpaces_gather hc start rest []
  simp only [foldlM_gather, gather, pure_bind, List.nil_append] at hpass
  exact congrArg Id.run hpass

/-- The tokens of a text are those in front of a line end and those behind it. -/
theorem significant_scan_newline (start : Int) (l rest : List Char) :
    significant (scan start (l ++ '\n' :: rest)) =
      significant (scan start l) ++ significant (scan (start + l.length + 1) rest) := by
  have hpass := foldlM_scan_newline splitsSpaces_gather start l rest []
  have hnewline : significant [spaceAt (start + l.length) ['\n']] = [] := rfl
  simp only [foldlM_gather, gather, pure_bind, List.nil_append, hnewline, List.append_nil] at hpass
  exact congrArg Id.run hpass

/-- The tokens of a text are those of its lines, where these stand. -/
theorem significant_scan_eq (number : Nat) (start : Int) (text : List Char) :
    significant (scan start text) =
      (SourceLine.numbered number start (linesOf text)).flatMap fun l => significant (scan l.start l.text) := by
  induction h : text.length using Nat.strong_induction_on generalizing text number start with
  | _ n ih =>
    rcases line_cases text with hn | ⟨l, rest, rfl, hl⟩
    · rw [linesOf_of_not_mem hn]
      simp [SourceLine.numbered]
    · have hlt : rest.length < n := by
        rw [← h, List.length_append, List.length_cons]
        omega
      rw [linesOf_newline hl, SourceLine.numbered, List.flatMap_cons, significant_scan_newline, ← ih _ hlt _ _ rest rfl]

/-- The tokens of the range of the whole text are those of the text. -/
theorem tokenize_eq_ofText (text : List Char) : tokenize text = .ok (ofText text) := by
  have hall := tokenize_natCast text 0 none
  have hrange : (rangeEnd text (0 : Nat) none - (0 : Nat)).toNat = text.length := by
    rw [rangeEnd, Option.getD_none]
    omega
  rw [hrange, List.drop_zero, List.take_length] at hall
  exact hall

/-- Apart from spaces, the tokens of a text are the tokens of its lines, each line scanned on its own and its tokens moved to where the
line starts. -/
theorem significant_by_line (text : List Char) :
    tokenize text = .ok (ofText text) ∧ (∀ l ∈ Editor.lines text, tokenize l = .ok (ofText l)) ∧
      significant (ofText text) =
        (SourceLine.numbered 1 0 (Editor.lines text)).flatMap fun l => (significant (ofText l.text)).map (shift l.start) := by
  refine ⟨tokenize_eq_ofText text, fun l _ => tokenize_eq_ofText l, ?_⟩
  rw [ofText, significant_scan_eq 1, Editor.lines_eq_linesOf]
  congr 1
  funext l
  rw [scan_eq_map_shift, significant_map_shift]

end Token

end ToolpathViewer
