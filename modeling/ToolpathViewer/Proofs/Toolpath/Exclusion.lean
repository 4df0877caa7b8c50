import ToolpathViewer.Proofs.Toolpath.Commands
import ToolpathViewer.Proofs.Toolpath.Simulation

/-!
# Leaving commands out

An extraction that leaves some commands out draws what an extraction without such a list draws of a program in which these commands are
overwritten with spaces, and so are the lines on which no other command stands (`exclusion_is_erasure`). Reading a command that is left out
keeps a path in agreement with one that does not see it (`Alike.gone`), reading any other token keeps two paths in agreement
(`Alike.kept`), and the end of a line asks whether a command was left out only where no other command stands on it (`finishLine_mark`).
-/

namespace ToolpathViewer

namespace Token

/-- The tokens from the first word on that makes the rest of its line a remark. -/
def unspoken (ts : List Token) : List Token := ts.dropWhile fun t => !t.silences

/-- The characters of some tokens, with spaces in place of those that are gone. -/
def overwrite (gone : Token → Bool) (ts : List Token) : List Char :=
  ts.flatMap fun t => if gone t then blank t.text.length else t.text

/-- The characters of the tokens of a line, with spaces in place of those that are gone in front of a remark. -/
def overwriteSpoken (gone : Token → Bool) (ts : List Token) : List Char := overwrite gone (spoken ts) ++ (unspoken ts).flatMap text

variable {gone : Token → Bool} {ts : List Token}

/-- From a word that makes the rest of a line a remark on all is unspoken. -/
theorem unspoken_of_silences {t : Token} (h : t.silences = true) (ts : List Token) : unspoken (t :: ts) = t :: ts := by
  simp [unspoken, h]

/-- Any other token in front is not unspoken. -/
theorem unspoken_cons {t : Token} (h : t.silences = false) (ts : List Token) : unspoken (t :: ts) = unspoken ts := by
  simp [unspoken, h]

/-- A line is what is spoken of it and what is not. -/
theorem spoken_append_unspoken (ts : List Token) : spoken ts ++ unspoken ts = ts := List.takeWhile_append_dropWhile

/-- Overwriting tokens leaves the others, and all that stand behind. -/
theorem overwritten_overwrite (hgone : ∀ t ∈ ts, gone t = true → t.kind ≠ .space) (tail : List Token) :
    Overwritten (ts ++ tail) (overwrite gone ts ++ tail.flatMap text) (ts.filter (!gone ·) ++ tail) := by
  induction ts with
  | nil =>
    induction tail with
    | nil => exact .nil
    | cons t tail ih => exact .keep t ih
  | cons t ts ih =>
    obtain ⟨ht, hts⟩ := List.forall_mem_cons.1 hgone
    have hrest := ih hts
    rw [overwrite, List.flatMap_cons, ← overwrite, List.append_assoc, List.cons_append, List.filter_cons]
    cases hg : gone t with
    | true => exact .erase (ht hg) hrest
    | false => exact .keep t hrest

/-- Overwriting tokens in front of a remark leaves the others. -/
theorem overwritten_overwriteSpoken (hgone : ∀ t, gone t = true → t.kind ≠ .space) (ts : List Token) :
    Overwritten ts (overwriteSpoken gone ts) ((spoken ts).filter (!gone ·) ++ unspoken ts) := by
  have hspoken : ∀ t ∈ spoken ts, gone t = true → t.kind ≠ .space := fun t _ => hgone t
  have hover := overwritten_overwrite hspoken (unspoken ts)
  rwa [spoken_append_unspoken] at hover

/-- Taking out tokens in front of a remark leaves the remark where it is. -/
theorem spoken_filter_append_unspoken (kept : Token → Bool) (ts : List Token) :
    spoken ((spoken ts).filter kept ++ unspoken ts) = (spoken ts).filter kept := by
  induction ts with
  | nil => rfl
  | cons t ts ih =>
    cases hs : t.silences with
    | true => rw [spoken_of_silences hs, unspoken_of_silences hs, List.filter_nil, List.nil_append, spoken_of_silences hs]
    | false =>
      rw [spoken_cons hs, unspoken_cons hs, List.filter_cons]
      split
      · rw [List.cons_append, spoken_cons hs, ih]
      · exact ih

/-- What is heard when some of the tokens in front of a remark are gone. -/
theorem heard_filter_append_unspoken (kept : Token → Bool) (ts : List Token) :
    heard ((spoken ts).filter kept ++ unspoken ts) = (heard ts).filter kept := by
  rw [heard, spoken_filter_append_unspoken, List.filter_comm, ← heard]

end Token

namespace Extraction

open Progress

variable {s s' : Settings} {e e' : Extraction} {p p' q : Progress} {t : Token} {ts : List Token}

/-! ## Ends of lines -/

/-- The list of commands that are left out does not matter to the end of a line. -/
theorem finishLine_excluded (x : List (List Char)) (s : Settings) (e : Extraction) (l : Line) :
    e.finishLine { s with excluded := x } l = e.finishLine s l := rfl

/-- The end of a line asks whether a command was left out only where no other command stands on it. -/
theorem finishLine_mark {l : Line} (h : l.named = true ∨ l.excluded = false) :
    e.finishLine s (l.mark false) = e.finishLine s l := by
  rcases h with h | h
  · have hguard : ∀ b : Bool, (l.hasAxes && !l.named && !b) = false := by
      intro b
      rw [h, Bool.not_true, Bool.and_false, Bool.false_and]
    unfold finishLine
    rw [Line.motion_mark]
    cases l.motion with
    | some motion => rfl
    | none =>
      dsimp only
      rw [Line.hasAxes_mark, Line.named_mark, hguard, hguard]
      rfl
  · have hsame : l.mark false = l := by
      rw [Line.mark, ← h]
    rw [hsame]

/-- A line on which a command was left out and no other one stands ends without a trace. -/
theorem finishLine_of_excluded {l : Line} (hmotion : l.motion = none) (hexcluded : l.excluded = true) :
    e.finishLine s l = .ok e := by
  rw [finishLine, hmotion]
  simp [hexcluded]

/-! ## Reading a line -/

/-- What reading a token makes of a path and a line in the making. -/
def Progress.after (p : Progress) (r : Line.Read) : Progress where
  path := {
    p.path with
    machine := { p.path.machine with plane := r.plane }
    diagnostics := p.path.diagnostics ++ r.found.toArray }
  line := r.line

/-- A token that is no space is read by the line. -/
theorem readToken_eq_ok (ht : t.kind ≠ .space) :
    readToken s p t = .ok q ↔ ∃ r, p.line.read s.excluded p.path.machine.plane t = .ok r ∧ p.after r = q := by
  unfold readToken
  rw [if_neg (by simpa using ht)]
  cases p.line.read s.excluded p.path.machine.plane t with
  | error fault => simp
  | ok r => simp [after]

/-- Where the plane stays, what is read shows only in the line and in what is found. -/
theorem agree_after {r : Line.Read} (h : r.plane = p.path.machine.plane) : Agree p.path (p.after r).path := by
  refine ⟨?_, rfl, rfl⟩
  rw [after, h]

/-- The same plane keeps paths in agreement. -/
theorem Agree.after {r r' : Line.Read} (h : Agree p.path p'.path) (hplane : r'.plane = r.plane) :
    Agree (p.after r).path (p'.after r').path := by
  refine ⟨?_, h.movements, h.dropped⟩
  rw [Progress.after, Progress.after, h.machine, hplane]

/-- The second run is as far as the first one, and has noted no command that is left out. -/
structure Alike (p p' : Progress) : Prop where
  path : Agree p.path p'.path
  line : p'.line = p.line.mark false

/-- A command that is left out keeps a run alike to one that does not see it. -/
theorem Alike.gone (h : Alike p p') (ht : t.isExcluded s.excluded = true) (hread : readToken s p t = .ok q) : Alike q p' := by
  obtain ⟨r, hr, rfl⟩ := (readToken_eq_ok (Token.kind_ne_space_of_isExcluded t ht)).1 hread
  obtain ⟨hline, hplane⟩ := Line.read_of_isExcluded ht hr
  exact ⟨(agree_after hplane).symm.trans h.path, h.line.trans hline.symm⟩

/-- Another token keeps two runs alike. -/
theorem Alike.kept (h : Alike p p') (hk : t.kind ≠ .space) (ht : t.isExcluded s.excluded = false) (hread : readToken s p t = .ok q) :
    ∃ q', readToken { s with excluded := [] } p' t = .ok q' ∧ Alike q q' := by
  obtain ⟨r, hr, rfl⟩ := (readToken_eq_ok hk).1 hread
  have hr' : p'.line.read [] p'.path.machine.plane t = .ok (r.mark false) := by
    rw [h.line, h.path.machine, Line.read_mark ht, hr]
    rfl
  exact ⟨p'.after (r.mark false), (readToken_eq_ok hk).2 ⟨r.mark false, hr', rfl⟩, h.path.after rfl, rfl⟩

/-- Tokens keep a run alike to one that reads only those of them that are not left out. -/
theorem Alike.foldlM_readToken (h : Alike p p') (hts : ∀ t ∈ ts, t.kind ≠ .space) (hread : ts.foldlM (readToken s) p = .ok q) :
    ∃ q', (ts.filter (!·.isExcluded s.excluded)).foldlM (readToken { s with excluded := [] }) p' = .ok q' ∧ Alike q q' := by
  induction ts generalizing p p' with
  | nil =>
    obtain rfl := Except.ok.inj hread
    exact ⟨p', rfl, h⟩
  | cons t ts ih =>
    obtain ⟨ht, hts⟩ := List.forall_mem_cons.1 hts
    obtain ⟨p₁, hfirst, hrest⟩ := bind_eq_ok.1 hread
    cases hx : t.isExcluded s.excluded with
    | true =>
      rw [List.filter_cons_of_neg (by simp [hx])]
      exact ih (h.gone hx hfirst) hts hrest
    | false =>
      obtain ⟨p₁', hfirst', h₁⟩ := h.kept ht hx hfirst
      rw [List.filter_cons_of_pos (by simp [hx]), List.foldlM_cons, hfirst']
      exact ih h₁ hts hrest

/-- What some tokens of a line leave, when the commands of `x` are left out: the line has noted which commands are among them, and where no
other command is, the path and the motion of the line are as they were. -/
structure Noted (x : List (List Char)) (p : Progress) (ts : List Token) (q : Progress) : Prop where
  silenced : q.line.silenced = false
  named : q.line.named = (p.line.named || ts.any (·.names x))
  excluded : q.line.excluded = (p.line.excluded || ts.any (·.isExcluded x))
  idle : ts.any (·.names x) = false → q.line.motion = p.line.motion ∧ Agree p.path q.path

/-- One more token keeps this, unless it makes the rest of the line a remark. -/
theorem Noted.append {q' : Progress} (h : Noted s.excluded p ts q) (hk : t.kind ≠ .space) (hs : t.silences = false)
    (hread : readToken s q t = .ok q') : Noted s.excluded p (ts ++ [t]) q' := by
  obtain ⟨r, hr, rfl⟩ := (readToken_eq_ok hk).1 hread
  have hnotes := Line.notes_of_read h.silenced hr
  refine ⟨?_, ?_, ?_, ?_⟩
  · change r.line.silenced = false
    rw [(Line.reads_of_read hr).silenced_eq, h.silenced, hs]
    rfl
  · change r.line.named = _
    rw [hnotes.named, h.named, Bool.or_assoc, List.any_append, List.any_cons, List.any_nil, Bool.or_false]
  · change r.line.excluded = _
    rw [hnotes.excluded, h.excluded, Bool.or_assoc, List.any_append, List.any_cons, List.any_nil, Bool.or_false]
  · intro hidle
    rw [List.any_append, List.any_cons, List.any_nil, Bool.or_false, Bool.or_eq_false_iff] at hidle
    obtain ⟨hmotion, hpath⟩ := h.idle hidle.1
    obtain ⟨hmotion', hplane⟩ := hnotes.idle hidle.2
    exact ⟨hmotion'.trans hmotion, hpath.trans (agree_after hplane)⟩

/-- What the tokens of a line leave that are heard. -/
theorem noted_of_heard {text : List Char} {start : Int} (hp : p.line.silenced = false)
    (h : (Token.heard (Token.scan start text)).foldlM (readToken s) p = .ok q) :
    Noted s.excluded p (Token.heard (Token.scan start text)) q := by
  refine foldlM_invariant (Noted s.excluded p) ?_ ⟨hp, by simp, by simp, fun _ => ⟨rfl, Agree.refl _⟩⟩ h
  intro t ht seen b b' hb hread
  obtain ⟨hk, hs⟩ := Token.of_mem_heard ht
  exact hb.append hk hs hread

/-! ## Lines without the commands that are left out -/

/-- A line without the commands of `x`. If it names other commands, spaces stand in place of those of `x`; if it names none but those of
`x`, it is all spaces. -/
def eraseLine (x : List (List Char)) (line : List Char) : List Char :=
  let ts := Token.ofText line
  let commands := (Token.spoken ts).filter (·.kind == .command)
  if commands.any (!·.isExcluded x) then
    Token.overwriteSpoken (Token.isExcluded x) ts
  else if commands.isEmpty then line
  else Token.blank line.length

/-- A program without the commands of `x`. -/
def eraseExcluded (x : List (List Char)) (text : List Char) : List Char := ['\n'].intercalate ((linesOf text).map (eraseLine x))

/-- The three ways of a line: it names another command than those of `x`, or none of `x`, or none but those of `x`. -/
theorem eraseLine_cases (x : List (List Char)) (line : List Char) :
    (Token.heard (Token.ofText line)).any (·.names x) = true ∧
        eraseLine x line = Token.overwriteSpoken (Token.isExcluded x) (Token.ofText line) ∨
      (Token.heard (Token.ofText line)).any (·.isExcluded x) = false ∧ eraseLine x line = line ∨
      (Token.heard (Token.ofText line)).any (·.names x) = false ∧ (Token.heard (Token.ofText line)).any (·.isExcluded x) = true ∧
        eraseLine x line = Token.blank line.length := by
  rw [Token.any_heard (fun _ => Token.kind_of_names), Token.any_heard (fun _ => Token.kind_of_isExcluded)]
  have hothers : ((Token.spoken (Token.ofText line)).filter (·.kind == .command)).any (!·.isExcluded x) =
      (Token.spoken (Token.ofText line)).any (·.names x) := by
    rw [List.any_filter]
    rfl
  unfold eraseLine
  dsimp only
  rw [hothers]
  cases hnames : (Token.spoken (Token.ofText line)).any (·.names x) with
  | true => exact Or.inl ⟨rfl, rfl⟩
  | false =>
    have hnone := List.any_eq_false.1 hnames
    cases hcommands : ((Token.spoken (Token.ofText line)).filter (·.kind == .command)).isEmpty with
    | true =>
      have hkinds := List.filter_eq_nil_iff.1 (List.isEmpty_iff.1 hcommands)
      refine Or.inr (Or.inl ⟨List.any_eq_false.2 fun t ht hx => hkinds t ht ?_, rfl⟩)
      rw [Token.kind_of_isExcluded hx]
      rfl
    | false =>
      obtain ⟨t, ht⟩ := List.isEmpty_eq_false_iff_exists_mem.1 hcommands
      obtain ⟨hmem, hk⟩ := List.mem_filter.1 ht
      have hx : t.isExcluded x = true := by
        have hnot := hnone t hmem
        rw [Token.names, hk, Bool.true_and] at hnot
        simpa using hnot
      exact Or.inr (Or.inr ⟨rfl, List.any_eq_true.2 ⟨t, hmem, hx⟩, rfl⟩)

/-- Where a line stands does not matter to the commands that are heard. -/
theorem any_heard_scan {f : Token → Bool} (hf : ∀ k t, f (Token.shift k t) = f t) (start : Int) (text : List Char) :
    (Token.heard (Token.scan start text)).any f = (Token.heard (Token.ofText text)).any f := by
  rw [Token.scan_eq_map_shift, Token.heard_map_shift, List.any_map]
  congr 1
  funext t
  exact hf start t

/-- A line and what is left of it keep paths in agreement, if another command than those that are left out stands on it or none of these
does. -/
theorem addLine_of_filter {text text' : List Char} {number : Nat} {start : Int} {r : Extraction} (htext : '\n' ∉ text)
    (htext' : '\n' ∉ text')
    (hheard : Token.heard (Token.scan start text') = (Token.heard (Token.scan start text)).filter (!·.isExcluded s.excluded))
    (hnamed : (Token.heard (Token.scan start text)).any (·.names s.excluded) = true ∨
      (Token.heard (Token.scan start text)).any (·.isExcluded s.excluded) = false)
    (h : Agree e e') (hr : addLine s e ⟨number, start, text⟩ = .ok r) :
    ∃ r', addLine { s with excluded := [] } e' ⟨number, start, text'⟩ = .ok r' ∧ Agree r r' := by
  rw [addLine_eq_heard htext] at hr
  obtain ⟨q, hq, hr⟩ := bind_eq_ok.1 hr
  have hnoted := noted_of_heard rfl hq
  have hmark : q.line.named = true ∨ q.line.excluded = false := by
    rw [hnoted.named, hnoted.excluded, Bool.false_or, Bool.false_or]
    exact hnamed
  have hstart : Alike { path := e, line := { number, start } } { path := e', line := { number, start } } := ⟨h, rfl⟩
  obtain ⟨q', hq', halike⟩ := hstart.foldlM_readToken (fun _ ht => (Token.of_mem_heard ht).1) hq
  obtain ⟨r', hr', hagree⟩ := halike.path.finishLine hr
  refine ⟨r', ?_, hagree⟩
  rw [addLine_eq_heard htext', hheard, hq', ok_bind, finishLine_excluded, halike.line, finishLine_mark hmark, hr']

/-- A line on which no command stands but those that are left out keeps a path in agreement with itself. -/
theorem agree_of_addLine {text : List Char} {number : Nat} {start : Int} {r : Extraction} (htext : '\n' ∉ text)
    (hnames : (Token.heard (Token.scan start text)).any (·.names s.excluded) = false)
    (hexcluded : (Token.heard (Token.scan start text)).any (·.isExcluded s.excluded) = true)
    (hr : addLine s e ⟨number, start, text⟩ = .ok r) : Agree e r := by
  rw [addLine_eq_heard htext] at hr
  obtain ⟨q, hq, hr⟩ := bind_eq_ok.1 hr
  have hnoted := noted_of_heard rfl hq
  obtain ⟨hmotion, hpath⟩ := hnoted.idle hnames
  have hmark : q.line.excluded = true := by
    rw [hnoted.excluded, hexcluded]
    rfl
  rw [finishLine_of_excluded hmotion hmark] at hr
  obtain rfl := Except.ok.inj hr
  exact hpath

/-- A line of spaces does nothing. -/
theorem addLine_blank (s : Settings) (e : Extraction) (number : Nat) (start : Int) (n : Nat) :
    addLine s e ⟨number, start, Token.blank n⟩ = .ok e := by
  rw [addLine_eq_heard (Token.newline_not_mem_blank n), Token.heard_scan_blank]
  rfl

/-- Of a line in which commands are overwritten, the other tokens are heard. -/
theorem heard_scan_overwriteSpoken (x : List (List Char)) (start : Int) (line : List Char) :
    Token.heard (Token.scan start (Token.overwriteSpoken (Token.isExcluded x) (Token.ofText line))) =
      (Token.heard (Token.scan start line)).filter (!·.isExcluded x) := by
  rw [Token.heard_scan_overwritten (Token.overwritten_overwriteSpoken Token.kind_ne_space_of_isExcluded _), Token.heard_filter_append_unspoken,
    Token.scan_eq_map_shift, Token.heard_map_shift, List.filter_map]
  rfl

/-- A line without the commands that are left out does to a path, when nothing is left out, what the line does when they are. -/
theorem follows_eraseLine (s : Settings) {line : List Char} (hline : '\n' ∉ line) :
    Follows s { s with excluded := [] } Agree line (eraseLine s.excluded line) ∧ '\n' ∉ eraseLine s.excluded line := by
  rcases eraseLine_cases s.excluded line with ⟨hnames, hleft⟩ | ⟨hexcluded, hleft⟩ | ⟨hnames, hexcluded, hleft⟩
  · -- Another command stands on the line: the tokens that are left are read as before.
    have hgone := Token.kind_ne_space_of_isExcluded (x := s.excluded)
    have hover := Token.overwritten_overwriteSpoken hgone (Token.ofText line)
    obtain ⟨hlength, hnewline⟩ := hover.length_and_newline hline
    rw [hleft]
    refine ⟨⟨hlength, ?_⟩, hnewline⟩
    intro number start e e' r h hr
    rw [← any_heard_scan Token.names_shift start] at hnames
    exact addLine_of_filter hline hnewline (heard_scan_overwriteSpoken _ start line) (Or.inl hnames) h hr
  · -- No command on the line is left out, and the line stays as it is.
    rw [hleft]
    refine ⟨⟨rfl, ?_⟩, hline⟩
    intro number start e e' r h hr
    rw [← any_heard_scan Token.isExcluded_shift start] at hexcluded
    have hall : ∀ t ∈ Token.heard (Token.scan start line), (!t.isExcluded s.excluded) = true := by
      intro t ht
      have hnot := List.any_eq_false.1 hexcluded t ht
      simpa using hnot
    exact addLine_of_filter hline hline (List.filter_eq_self.2 hall).symm (Or.inr hexcluded) h hr
  · -- All that is left are spaces, and the line itself left no trace on the path.
    rw [hleft]
    refine ⟨⟨Token.length_blank _, ?_⟩, Token.newline_not_mem_blank _⟩
    intro number start e e' r h hr
    rw [← any_heard_scan Token.names_shift start] at hnames
    rw [← any_heard_scan Token.isExcluded_shift start] at hexcluded
    have hsame := agree_of_addLine hline hnames hexcluded hr
    exact ⟨e', addLine_blank _ e' number start _, hsame.symm.trans h⟩

/-- The settings that leave nothing out, when those that leave some commands out can be used. -/
theorem ofValues_nil {codes : List Json} {limit divisions : Json} (h : Settings.ofValues codes limit divisions = .ok s) :
    Settings.ofValues [] limit divisions = .ok { s with excluded := [] } := by
  obtain ⟨excluded, bound, least, -, hbound, hleast, rfl⟩ := Settings.ofValues_eq_ok.1 h
  exact Settings.ofValues_eq_ok.2 ⟨[], bound, least, rfl, hbound, hleast, rfl⟩

/-- To leave commands out is to erase them: a program without them, of which nothing is left out, has the movements of the program of which
they are left out, and as many movements are beyond the limit. -/
theorem exclusion_is_erasure {codes : List Json} {limit divisions : Json} (hs : Settings.ofValues codes limit divisions = .ok s)
    {text : List Char} (h : ofText s text = .ok e) :
    ∃ s' e', Settings.ofValues [] limit divisions = .ok s' ∧ ofText s' (eraseExcluded s.excluded text) = .ok e' ∧
      e'.movements = e.movements ∧ e'.dropped = e.dropped := by
  have hlines : ∀ line ∈ linesOf text, Follows s { s with excluded := [] } Agree line (eraseLine s.excluded line) ∧
      '\n' ∉ eraseLine s.excluded line :=
    fun line hline => follows_eraseLine s (newline_not_mem_of_mem_linesOf hline)
  have hfollows : List.Forall₂ (Follows s { s with excluded := [] } Agree) (linesOf text)
      ((linesOf text).map (eraseLine s.excluded)) := by
    rw [List.forall₂_map_right_iff, List.forall₂_same]
    exact fun line hline => (hlines line hline).1
  have hnewlines : ∀ line ∈ (linesOf text).map (eraseLine s.excluded), '\n' ∉ line :=
    List.forall_mem_map.2 fun line hline => (hlines line hline).2
  obtain ⟨e', he', hagree⟩ := ofText_follows hfollows hnewlines (Agree.refl _) h
  exact ⟨_, e', ofValues_nil hs, he', hagree.movements, hagree.dropped⟩

/-- Line 2 has no command but one that is left out, and line 3 has another one as well: lines 1, 3 and 4 draw. -/
theorem exclusion_is_erasure_one_three_and_four :
    ∃ s e s' e', Settings.ofValues [.str " g028", .str "G18"] .null (.int 64) = .ok s ∧
      ofText s "G1 X1\nG28 X5 (G0)\ng18 G0 X2;G28\nY3".toList = .ok e ∧ Settings.ofValues [] .null (.int 64) = .ok s' ∧
      ofText s' "G1 X1\n           \n    G0 X2;G28\nY3".toList = .ok e' ∧ e.movements.toList.map (·.line) = [0, 1, 3, 4] ∧
      e'.movements = e.movements ∧ e'.dropped = e.dropped := by
  have hs : Settings.ofValues [.str " g028", .str "G18"] .null (.int 64) = .ok ⟨["G28".toList, "G18".toList], none, .whole 64⟩ := rfl
  have herased : eraseExcluded ["G28".toList, "G18".toList] "G1 X1\nG28 X5 (G0)\ng18 G0 X2;G28\nY3".toList =
      "G1 X1\n           \n    G0 X2;G28\nY3".toList := by decide +kernel
  have hdrawn : ((ofText ⟨["G28".toList, "G18".toList], none, .whole 64⟩
      "G1 X1\nG28 X5 (G0)\ng18 G0 X2;G28\nY3".toList).toOption.map fun e => e.movements.toList.map (·.line)) =
        some [0, 1, 3, 4] := by decide +kernel
  obtain ⟨e, he, hlines⟩ := Option.map_eq_some_iff.1 hdrawn
  have h := eq_ok_of_toOption he
  obtain ⟨s', e', hs', he', hmovements, hdropped⟩ := exclusion_is_erasure hs h
  rw [herased] at he'
  exact ⟨_, e, s', e', hs, h, hs', he', hlines, hmovements, hdropped⟩

end Extraction

end ToolpathViewer
