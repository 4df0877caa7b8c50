import ToolpathViewer.Proofs.Token.Overwriting

/-!
# Programs edited line by line

A line counts for the tokens of it that are heard: those in front of a word that makes the rest of the line a remark, without the spaces
and the comments among them (`addLine_eq_heard`). So a line in which tokens are overwritten is followed through the tokens that are left.
Where every line of an edited program does to a path what the line in its place does, up to some relation of paths, the programs have
related paths (`ofText_follows`).
-/

namespace ToolpathViewer

namespace Token

/-- The token can mean something to a line. -/
def counts (t : Token) : Bool := t.kind != .space && t.kind != .comment

/-- The tokens of a line that are heard. -/
def heard (ts : List Token) : List Token := (spoken ts).filter counts

/-- A space or a comment makes nothing a remark. -/
theorem silences_eq_false {t : Token} (h : t.counts = false) : t.silences = false := by
  apply Line.silences_of_kind_ne
  rintro hk
  rw [counts, hk] at h
  cases h

/-- Behind a word that makes the rest of a line a remark nothing is spoken. -/
theorem spoken_of_silences {t : Token} (h : t.silences = true) (ts : List Token) : spoken (t :: ts) = [] := by
  simp [spoken, h]

/-- Any other token is spoken. -/
theorem spoken_cons {t : Token} (h : t.silences = false) (ts : List Token) : spoken (t :: ts) = t :: spoken ts := by
  simp [spoken, h]

/-- From a word that makes the rest of a line a remark on nothing is heard. -/
theorem heard_of_silences {t : Token} (h : t.silences = true) (ts : List Token) : heard (t :: ts) = [] := by
  rw [heard, spoken_of_silences h, List.filter_nil]

/-- Spaces and comments are not heard. -/
theorem heard_of_not_counts {t : Token} (h : t.counts = false) (ts : List Token) : heard (t :: ts) = heard ts := by
  simp [heard, spoken_cons (silences_eq_false h), h]

/-- Any other token is heard. -/
theorem heard_of_counts {t : Token} (hs : t.silences = false) (h : t.counts = true) (ts : List Token) :
    heard (t :: ts) = t :: heard ts := by
  simp [heard, spoken_cons hs, h]

/-- A token that is heard is a token of the line. -/
theorem mem_of_mem_heard {t : Token} {ts : List Token} (h : t ∈ heard ts) : t ∈ ts := mem_of_mem_spoken (List.mem_filter.1 h).1

/-- A token that is heard is no space and makes nothing a remark. -/
theorem of_mem_heard {t : Token} {ts : List Token} (h : t ∈ heard ts) : t.kind ≠ .space ∧ t.silences = false := by
  obtain ⟨hspoken, hcounts⟩ := List.mem_filter.1 h
  have hs := List.all_eq_true.1 List.all_takeWhile t hspoken
  rw [counts, Bool.and_eq_true, bne_iff_ne] at hcounts
  exact ⟨hcounts.1, by simpa using hs⟩

/-- What is heard behind a token does not depend on what is not heard. -/
theorem heard_cons_congr (t : Token) {ts us : List Token} (h : heard ts = heard us) : heard (t :: ts) = heard (t :: us) := by
  cases hs : t.silences with
  | true => rw [heard_of_silences hs, heard_of_silences hs]
  | false =>
    cases hc : t.counts with
    | true => rw [heard_of_counts hs hc, heard_of_counts hs hc, h]
    | false => rw [heard_of_not_counts hc, heard_of_not_counts hc, h]

/-- Without its spaces a line is heard alike. -/
theorem heard_significant (ts : List Token) : heard (significant ts) = heard ts := by
  induction ts with
  | nil => rfl
  | cons t ts ih =>
    by_cases hk : t.kind = .space
    · have hc : t.counts = false := by simp [counts, hk]
      rw [significant_cons_space hk, heard_of_not_counts hc, ih]
    · rw [significant_cons hk]
      exact heard_cons_congr t ih

/-- Moving tokens keeps which of them are heard. -/
theorem heard_map_shift (k : Int) (ts : List Token) : heard (ts.map (shift k)) = (heard ts).map (shift k) := by
  rw [heard, spoken, List.takeWhile_map, List.filter_map]
  rfl

/-- Nothing is heard of spaces. -/
theorem heard_scan_blank (start : Int) (n : Nat) : heard (scan start (blank n)) = [] := by
  have hnone := significant_scan_blank n start []
  rw [List.append_nil, scan_nil] at hnone
  rw [← heard_significant, hnone]
  rfl

/-- Of an overwritten text those tokens are heard that are left, where they were. -/
theorem heard_scan_overwritten {s cs : List Char} {left : List Token} (h : Overwritten (ofText s) cs left) (start : Int) :
    heard (scan start cs) = (heard left).map (shift start) := by
  have hleft := significant_scan_overwritten (tiling_scan 0 s) h
  calc heard (scan start cs)
      = (heard (ofText cs)).map (shift start) := by rw [scan_eq_map_shift, heard_map_shift]
    _ = (heard (significant (scan 0 cs))).map (shift start) := by rw [heard_significant, ofText]
    _ = (heard left).map (shift start) := by rw [hleft, heard_significant]

/-- An overwritten line is as long as the line, and still one line. -/
theorem Overwritten.length_and_newline {line cs : List Char} {left : List Token} (h : Overwritten (ofText line) cs left)
    (hline : '\n' ∉ line) : cs.length = line.length ∧ '\n' ∉ cs := by
  have htext : (ofText line).flatMap text = line := (tiling_scan 0 line).flatMap_text
  refine ⟨?_, h.newline_not_mem (by rwa [htext])⟩
  rw [h.length_eq, htext]

end Token

/-! ## Lines -/

/-- Lines that are joined are the lines of the text. -/
theorem linesOf_intercalate {ls : List (List Char)} (hne : ls ≠ []) (h : ∀ l ∈ ls, '\n' ∉ l) :
    linesOf (['\n'].intercalate ls) = ls := by
  induction ls with
  | nil => contradiction
  | cons l ls ih =>
    obtain ⟨hl, hls⟩ := List.forall_mem_cons.1 h
    cases ls with
    | nil => rw [List.intercalate_singleton, linesOf_of_not_mem hl]
    | cons l' ls =>
      rw [List.intercalate_cons_cons, List.append_assoc, List.singleton_append, linesOf_newline hl,
        ih (List.cons_ne_nil l' ls) hls]

/-- A text has a line. -/
theorem linesOf_ne_nil (text : List Char) : linesOf text ≠ [] := Text.pieces_ne_nil _ text

namespace Extraction

open Progress

variable {s s' : Settings} {p : Progress} {t : Token} {ts : List Token}

/-! ## Reading what is heard -/

/-- Spaces and comments are read and mean nothing. -/
theorem readToken_of_not_counts (ht : '\n' ∉ t.text) (hc : t.counts = false) : readToken s p t = .ok p := by
  unfold readToken
  by_cases hk : (t.kind == .space) = true
  · rw [if_pos hk, readSpace_of_not_mem s ht]
  · have hspace : t.kind ≠ .space := by simpa using hk
    have hcomment : t.kind = .comment := by simpa [Token.counts, hspace] using hc
    have hread : p.line.read s.excluded p.path.machine.plane t = .ok ⟨p.line, p.path.machine.plane, none⟩ := by
      rw [Line.read, hcomment]
      split <;> rfl
    rw [if_neg hk, hread]
    simp

/-- Behind a word that makes the rest of a line a remark, nothing is read. -/
theorem readToken_of_silenced (ht : '\n' ∉ t.text) (hp : p.line.silenced = true) : readToken s p t = .ok p := by
  unfold readToken
  by_cases hk : (t.kind == .space) = true
  · rw [if_pos hk, readSpace_of_not_mem s ht]
  · have hread : p.line.read s.excluded p.path.machine.plane t = .ok ⟨p.line, p.path.machine.plane, none⟩ := by
      rw [Line.read, if_pos hp]
    rw [if_neg hk, hread]
    simp

/-- A word with a semicolon in front makes the rest of its line a remark. -/
theorem readToken_of_silences (hp : p.line.silenced = false) (hs : t.silences = true) :
    readToken s p t = .ok { p with line := { p.line with silenced := true } } := by
  simp only [Token.silences, Bool.and_eq_true, beq_iff_eq] at hs
  have hread : p.line.read s.excluded p.path.machine.plane t =
      .ok ⟨{ p.line with silenced := true }, p.path.machine.plane, none⟩ := by
    rw [Line.read, hs.1, Line.readWord, hs.2]
    simp [hp]
  unfold readToken
  rw [hread, hs.1]
  simp

/-- In a remark that goes on to the end of the line no token is read. -/
theorem foldlM_readToken_of_silenced (hts : ∀ t ∈ ts, '\n' ∉ t.text) (hp : p.line.silenced = true) :
    ts.foldlM (readToken s) p = .ok p := by
  induction ts with
  | nil => rfl
  | cons t ts ih =>
    obtain ⟨ht, hts⟩ := List.forall_mem_cons.1 hts
    rw [List.foldlM_cons, readToken_of_silenced ht hp, ok_bind, ih hts]

/-- The tokens of a line do to a path what those of them do that are heard. -/
theorem foldlM_readToken_heard (hts : ∀ t ∈ ts, '\n' ∉ t.text) (hp : p.line.silenced = false) :
    (ts.foldlM (readToken s) p >>= fun p => p.path.finishLine s p.line) =
      (Token.heard ts).foldlM (readToken s) p >>= fun p => p.path.finishLine s p.line := by
  induction ts generalizing p with
  | nil => rfl
  | cons t ts ih =>
    obtain ⟨ht, hts⟩ := List.forall_mem_cons.1 hts
    rw [List.foldlM_cons]
    cases hs : t.silences with
    | true =>
      -- That the rest of the line is a remark does not matter to its end.
      rw [Token.heard_of_silences hs, readToken_of_silences hp hs, ok_bind, foldlM_readToken_of_silenced hts rfl]
      rfl
    | false =>
      cases hc : t.counts with
      | false => rw [Token.heard_of_not_counts hc, readToken_of_not_counts ht hc, ok_bind, ih hts hp]
      | true =>
        rw [Token.heard_of_counts hs hc, List.foldlM_cons]
        cases hread : readToken s p t with
        | error i => rfl
        | ok q =>
          have hq : q.line.silenced = false := by
            rw [(readToken_of_not_mem ht hread).2.silenced_eq, hp, hs]
            rfl
          rw [ok_bind, ok_bind, ih hts hq]

/-- A line does to a path what the tokens of it do that are heard. -/
theorem addLine_eq_heard {l : SourceLine} (hl : '\n' ∉ l.text) (e : Extraction) :
    addLine s e l =
      (Token.heard (Token.scan l.start l.text)).foldlM (readToken s) { path := e, line := { number := l.number, start := l.start } } >>=
        fun p => p.path.finishLine s p.line :=
  foldlM_readToken_heard (Token.newline_not_mem_of_mem_scan hl) rfl

/-! ## Programs with related lines -/

variable {R : Extraction → Extraction → Prop}

/-- A line is as long as another one, and wherever the two stand, it takes a path that is related to another path to one that is related
to what the other line makes of that. -/
def Follows (s s' : Settings) (R : Extraction → Extraction → Prop) (text text' : List Char) : Prop :=
  text'.length = text.length ∧
    ∀ number start e e' r, R e e' → addLine s e ⟨number, start, text⟩ = .ok r →
      ∃ r', addLine s' e' ⟨number, start, text'⟩ = .ok r' ∧ R r r'

/-- Lines that follow those of another program lead related paths to related ones. -/
theorem addLines_follows {ls ls' : List (List Char)} (h : List.Forall₂ (Follows s s' R) ls ls') {number : Nat} {start : Int}
    {e e' r : Extraction} (hR : R e e') (hrun : (SourceLine.numbered number start ls).foldlM (addLine s) e = .ok r) :
    ∃ r', (SourceLine.numbered number start ls').foldlM (addLine s') e' = .ok r' ∧ R r r' := by
  induction h generalizing number start e e' with
  | nil =>
    obtain rfl := Except.ok.inj hrun
    exact ⟨e', rfl, hR⟩
  | @cons text text' _ _ hline _ ih =>
    obtain ⟨hlen, hstep⟩ := hline
    obtain ⟨e₁, hfirst, hrest⟩ := bind_eq_ok.1 hrun
    obtain ⟨e₁', hfirst', hR₁⟩ := hstep number start e e' e₁ hR hfirst
    obtain ⟨r', hrest', hr⟩ := ih hR₁ hrest
    refine ⟨r', ?_, hr⟩
    rw [SourceLine.numbered, List.foldlM_cons, hfirst', ok_bind, hlen, hrest']

/-- Where every line of a program follows the line of another one, the path of the program follows the other's. -/
theorem ofText_follows {text : List Char} {ls : List (List Char)} (h : List.Forall₂ (Follows s s' R) (linesOf text) ls)
    (hls : ∀ l ∈ ls, '\n' ∉ l) (hR : R {} {}) {e : Extraction} (he : ofText s text = .ok e) :
    ∃ e', ofText s' (['\n'].intercalate ls) = .ok e' ∧ R e e' := by
  have hne : ls ≠ [] := by
    rintro rfl
    cases hlines : linesOf text with
    | nil => exact linesOf_ne_nil text hlines
    | cons l more =>
      rw [hlines] at h
      cases h
  rw [ofText_eq_addLines] at he
  rw [ofText_eq_addLines, linesOf_intercalate hne hls]
  exact addLines_follows h hR he

end Extraction

end ToolpathViewer
