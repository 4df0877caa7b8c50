import ToolpathViewer.Proofs.Toolpath.Course
import ToolpathViewer.Proofs.Toolpath.Seam

/-!
# How finely arcs are split

Two extractions of one program that split arcs more and less finely draw different chords, and differ in nothing else. Behind every line
they have the machine in one state (`SameState`), so they read the next line alike, take the same course, and end it at the same point.
-/

namespace ToolpathViewer.Extraction

variable {s s' : Settings} {e e' e₁ e₁' : Extraction} {l : Line} {p p' : Progress} {t : Token} {src : SourceLine}

/-! ## Reading alike -/

/-- Two paths behind which the machine is in one state, and the same problems have been found. -/
structure SameState (e e' : Extraction) : Prop where
  machine : e'.machine = e.machine
  diagnostics : e'.diagnostics = e.diagnostics

/-- Two paths in such a state, with the same line in the making. -/
structure Progress.SameState (p p' : Progress) : Prop where
  path : p.path.SameState p'.path
  line : p'.line = p.line

/-- A token is read alike in the same state. -/
theorem Progress.SameState.readToken (hx : s'.excluded = s.excluded) (h : p.SameState p') (ht : '\n' ∉ t.text) :
    Corresponds Progress.SameState (Progress.readToken s p t) (Progress.readToken s' p' t) := by
  unfold Progress.readToken
  by_cases hspace : (t.kind == .space) = true
  · rw [if_pos hspace, if_pos hspace, readSpace_of_not_mem s ht, readSpace_of_not_mem s' ht]
    exact .ok h
  · rw [if_neg hspace, if_neg hspace, h.line, hx, h.path.machine]
    cases p.line.read s.excluded p.path.machine.plane t with
    | error fault => exact .fail _ _
    | ok r =>
      refine .ok ⟨⟨rfl, ?_⟩, rfl⟩
      rw [h.path.diagnostics]

/-- A line is read alike behind both paths. -/
theorem SameState.readLine (hx : s'.excluded = s.excluded) (hsrc : '\n' ∉ src.text) (h : e.SameState e') :
    Corresponds Progress.SameState (Extraction.readLine s e src) (Extraction.readLine s' e' src) := by
  have hts : List.Forall₂ (fun t t' => t' = t ∧ '\n' ∉ t.text) (Token.scan src.start src.text) (Token.scan src.start src.text) :=
    List.forall₂_same.2 fun t ht => ⟨rfl, Token.newline_not_mem_of_mem_scan hsrc t ht⟩
  refine Corresponds.foldlM hts ?_ ⟨h, rfl⟩
  rintro p p' t t' hp ⟨rfl, ht⟩
  exact hp.readToken hx ht

/-! ## Moving alike -/

/-- A report keeps two paths in the same state. -/
theorem SameState.report (h : e.SameState e') (line : Nat) (message : String) :
    (e.report line message).SameState (e'.report line message) := by
  refine ⟨h.machine, ?_⟩
  rw [Extraction.report, Extraction.report, h.diagnostics]

/-- Without a limit every movement is kept. -/
theorem moveTo_of_null (hs : s.limit = none) (motion : Motion) (line : Nat) (e : Extraction) (target : Vec3 Float) :
    e.moveTo s motion line target =
      { e with
        machine := { e.machine with position := target }
        movements := e.movements.push ⟨target, some motion, line⟩ } := by
  rw [moveTo, hs]
  rfl

/-- Without a limit, moves lose nothing and find nothing. -/
theorem foldl_moveTo_of_null (hs : s.limit = none) (motion : Motion) (line : Nat) (points : List (Vec3 Float)) (e : Extraction) :
    (points.foldl (moveTo s motion line) e).diagnostics = e.diagnostics ∧ (points.foldl (moveTo s motion line) e).dropped = e.dropped := by
  induction points generalizing e with
  | nil => exact ⟨rfl, rfl⟩
  | cons p points ih =>
    rw [List.foldl_cons, moveTo_of_null hs]
    exact ih _

/-- What one line adds to two paths: the last movement is the same, and the only one unless the line is drawn as an arc. -/
def AddsAlike (curves : Prop) (e e₁ e' e₁' : Extraction) : Prop :=
  ∃ added added', e₁.movements.toList = e.movements.toList ++ added ∧ e₁'.movements.toList = e'.movements.toList ++ added' ∧
    added'.getLast? = added.getLast? ∧ (¬curves → added' = added ∧ added.length ≤ 1)

/-- Paths that add nothing add alike. -/
theorem AddsAlike.refl (curves : Prop) (e e' : Extraction) : AddsAlike curves e e e' e' :=
  ⟨[], [], by simp, by simp, rfl, fun _ => ⟨rfl, Nat.zero_le 1⟩⟩

/-- Behind both paths, the tool moves along points to the same one, and without detour unless the line is drawn as an arc. -/
theorem SameState.foldl_moveTo (hs : s.limit = none) (hs' : s'.limit = none) (h : e.SameState e') {curves : Prop}
    {points points' : List (Vec3 Float)} (hpoints : ¬curves → points = [] ∧ points' = []) (motion : Motion) (line : Nat)
    (last : Vec3 Float) :
    ((points ++ [last]).foldl (moveTo s motion line) e).SameState ((points' ++ [last]).foldl (moveTo s' motion line) e') ∧
      AddsAlike curves e ((points ++ [last]).foldl (moveTo s motion line) e) e'
        ((points' ++ [last]).foldl (moveTo s' motion line) e') := by
  obtain ⟨hfound, hdropped⟩ := foldl_moveTo_of_null hs motion line (points ++ [last]) e
  obtain ⟨hfound', hdropped'⟩ := foldl_moveTo_of_null hs' motion line (points' ++ [last]) e'
  refine ⟨⟨?_, ?_⟩, _, _, movements_foldl_moveTo hdropped, movements_foldl_moveTo hdropped', ?_, fun hno => ?_⟩
  · rw [machine_foldl_moveTo, machine_foldl_moveTo, h.machine]
  · rw [hfound, hfound', h.diagnostics]
  · simp
  · obtain ⟨rfl, rfl⟩ := hpoints hno
    exact ⟨rfl, le_refl 1⟩

/-- Behind both paths, a course is followed to the same end. -/
theorem SameState.follow (hs : s.limit = none) (hs' : s'.limit = none) (h : e.SameState e') {course : Course}
    (hf : e.follow s l course = .ok e₁) (hf' : e'.follow s' l course = .ok e₁') :
    e₁.SameState e₁' ∧ AddsAlike (∃ turn center, course = .around turn center) e e₁ e' e₁' := by
  cases course with
  | stay =>
    obtain rfl := Except.ok.inj hf
    obtain rfl := Except.ok.inj hf'
    exact ⟨h, AddsAlike.refl _ _ _⟩
  | lost =>
    obtain rfl := Except.ok.inj hf
    obtain rfl := Except.ok.inj hf'
    exact ⟨h.report _ _, AddsAlike.refl _ _ _⟩
  | straight motion =>
    obtain rfl := Except.ok.inj hf
    obtain rfl := Except.ok.inj hf'
    rw [h.machine]
    exact h.foldl_moveTo hs hs' (fun _ => ⟨rfl, rfl⟩) motion l.number (target e.machine l.axes)
  | flat turn =>
    obtain rfl := Except.ok.inj hf
    obtain rfl := Except.ok.inj hf'
    rw [h.machine]
    exact (h.report l.number _).foldl_moveTo hs hs' (fun _ => ⟨rfl, rfl⟩) (.arc turn) l.number (target e.machine l.axes)
  | around turn center =>
    obtain ⟨points, rfl⟩ := follow_around hf
    obtain ⟨points', rfl⟩ := follow_around hf'
    rw [h.machine]
    exact h.foldl_moveTo hs hs' (fun hno => absurd ⟨turn, center, rfl⟩ hno) (.arc turn) l.number _

/-- The command of a line keeps two paths in the same state. -/
theorem SameState.commanded (h : e.SameState e') (l : Line) : (e.commanded l).SameState (e'.commanded l) := by
  refine ⟨?_, h.diagnostics⟩
  rw [Extraction.commanded, Extraction.commanded, h.machine]

/-- Behind both paths, a line leaves the machine in the same state. -/
theorem SameState.addLine (hx : s'.excluded = s.excluded) (hs : s.limit = none) (hs' : s'.limit = none) (hsrc : '\n' ∉ src.text)
    (h : e.SameState e') (hadd : Extraction.addLine s e src = .ok e₁) (hadd' : Extraction.addLine s' e' src = .ok e₁') :
    e₁.SameState e₁' ∧ AddsAlike (src.Curves s e) e e₁ e' e₁' := by
  obtain ⟨p, hp, hfinish⟩ := bind_eq_ok.1 hadd
  obtain ⟨p', hp', hfinish'⟩ := bind_eq_ok.1 hadd'
  have hpath := (samePath_readLine hsrc hp).1.movements
  have hpath' := (samePath_readLine hsrc hp').1.movements
  have hread := h.readLine hx hsrc
  rw [Extraction.readLine, hp, Extraction.readLine, hp'] at hread
  obtain ⟨hstate, hline⟩ := hread.of_ok
  obtain ⟨course, hcourse, hfollow⟩ := follow_of_finishLine hfinish
  obtain ⟨course', hcourse', hfollow'⟩ := follow_of_finishLine hfinish'
  rw [hline] at hcourse' hfollow'
  -- The course is that of one line on one machine.
  rw [hstate.machine, hcourse] at hcourse'
  obtain rfl := Except.ok.inj hcourse'
  obtain ⟨hends, added, added', hadded, hadded', hlast, hsame⟩ := (hstate.commanded p.line).follow hs hs' hfollow hfollow'
  refine ⟨hends, added, added', hpath ▸ hadded, hpath' ▸ hadded', hlast, fun hno => hsame ?_⟩
  rintro ⟨turn, center, rfl⟩
  exact hno ⟨p, hp, Line.curves_of_course hcourse⟩

/-! ## Ending alike -/

/-- Two paths that leave the machine in one state, and on every line end at the same movement. -/
structure EndsAlike (e e' : Extraction) : Prop extends SameState e e' where
  last : ∀ line, (e'.onLine line).getLast? = (e.onLine line).getLast?

/-- The movements that a line adds are on it, and on no other line. -/
theorem filter_of_addLine {added : List Movement} (hsrc : '\n' ∉ src.text) (hadd : Extraction.addLine s e src = .ok e₁)
    (h : e₁.movements.toList = e.movements.toList ++ added) (line : Nat) :
    added.filter (·.line == line) = if line = src.number then added else [] := by
  obtain ⟨own, hown, hall⟩ := adds_of_addLine hsrc hadd
  obtain rfl := List.append_cancel_left (h.symm.trans hown)
  split
  · rename_i heq
    exact filter_line_eq_self fun m hm => (hall m hm).trans heq.symm
  · rename_i hne
    exact filter_line_eq_nil fun m hm heq => hne (heq.symm.trans (hall m hm))

/-- A line more, and the two paths still end alike. -/
theorem EndsAlike.addLine (hx : s'.excluded = s.excluded) (hs : s.limit = none) (hs' : s'.limit = none) (hsrc : '\n' ∉ src.text)
    (h : e.EndsAlike e') (hadd : Extraction.addLine s e src = .ok e₁) (hadd' : Extraction.addLine s' e' src = .ok e₁') :
    e₁.EndsAlike e₁' := by
  obtain ⟨hstate, added, added', hadded, hadded', hlast, -⟩ := h.toSameState.addLine hx hs hs' hsrc hadd hadd'
  refine ⟨hstate, fun line => ?_⟩
  rw [onLine_append hadded, onLine_append hadded', filter_of_addLine hsrc hadd hadded, filter_of_addLine hsrc hadd' hadded']
  split
  · rw [List.getLast?_append, List.getLast?_append, hlast, h.last]
  · rw [List.append_nil, List.append_nil, h.last]

/-- Lines more, and the two paths still end alike. -/
theorem EndsAlike.addLines (hx : s'.excluded = s.excluded) (hs : s.limit = none) (hs' : s'.limit = none) {lines : List SourceLine}
    (hlines : ∀ src ∈ lines, '\n' ∉ src.text) (h : e.EndsAlike e') (hadd : lines.foldlM (Extraction.addLine s) e = .ok e₁)
    (hadd' : lines.foldlM (Extraction.addLine s') e' = .ok e₁') : e₁.EndsAlike e₁' := by
  induction lines generalizing e e' with
  | nil =>
    obtain rfl := Except.ok.inj hadd
    obtain rfl := Except.ok.inj hadd'
    exact h
  | cons src lines ih =>
    obtain ⟨hsrc, hlines⟩ := List.forall_mem_cons.1 hlines
    rw [List.foldlM_cons] at hadd hadd'
    obtain ⟨e₂, hstep, hrest⟩ := bind_eq_ok.1 hadd
    obtain ⟨e₂', hstep', hrest'⟩ := bind_eq_ok.1 hadd'
    exact ih hlines (h.addLine hx hs hs' hsrc hstep hstep') hrest hrest'

/-- A path ends like itself. -/
theorem EndsAlike.refl (e : Extraction) : EndsAlike e e := ⟨⟨rfl, rfl⟩, fun _ => rfl⟩

/-- A path has movements on the lines on which it ends at one. -/
theorem EndsAlike.exists_iff (h : e.EndsAlike e') (line : Nat) :
    (∃ m ∈ e'.movements.toList, m.line = line) ↔ ∃ m ∈ e.movements.toList, m.line = line := by
  have hdrawn : ∀ e : Extraction, (∃ m ∈ e.movements.toList, m.line = line) ↔ (e.onLine line).getLast? ≠ none := by
    intro e
    rw [Ne, List.getLast?_eq_none_iff, onLine, List.filter_eq_nil_iff]
    simp
  rw [hdrawn, hdrawn, h.last]

/-- The settings without a limit, for two values of the fineness: they leave out the same commands. -/
theorem Settings.excluded_eq {codes : List Json} {limit limit' divisions divisions' : Json}
    (hs : ofValues codes limit divisions = .ok s) (hs' : ofValues codes limit' divisions' = .ok s') : s'.excluded = s.excluded :=
  Except.ok.inj ((codesOf_of_ofValues hs').symm.trans (codesOf_of_ofValues hs))

/-- Two extractions of one program without a limit, that split arcs more and less finely, find the same problems and leave the machine in
the same state. They draw on the same lines, and on each of them end at the same movement. On a line that is not drawn as an arc this is
the only movement. -/
theorem divisions_change_chords_only {codes : List Json} {divisions divisions' : Json}
    (hs : Settings.ofValues codes .null divisions = .ok s) (hs' : Settings.ofValues codes .null divisions' = .ok s')
    {text : List Char} (h : ofText s text = .ok e) (h' : ofText s' text = .ok e') :
    e'.diagnostics = e.diagnostics ∧ e'.machine = e.machine ∧
      (∀ line, (∃ m ∈ e'.movements.toList, m.line = line) ↔ ∃ m ∈ e.movements.toList, m.line = line) ∧
      (∀ line, (e'.onLine line).getLast? = (e.onLine line).getLast?) ∧
      ∀ done src rest, SourceLine.numbered 1 0 (linesOf text) = done ++ src :: rest →
        ∀ e₀, done.foldlM (addLine s) {} = .ok e₀ → ¬src.Curves s e₀ →
          e'.onLine src.number = e.onLine src.number ∧ (e.onLine src.number).length ≤ 1 := by
  have hx := Settings.excluded_eq hs hs'
  have hnone := Settings.limit_of_null hs
  have hnone' := Settings.limit_of_null hs'
  have hlines : ∀ src ∈ SourceLine.numbered 1 0 (linesOf text), '\n' ∉ src.text := fun src hsrc => SourceLine.newline_not_mem hsrc
  have hends : e.EndsAlike e' := by
    rw [ofText_eq_addLines] at h h'
    exact (EndsAlike.refl {}).addLines hx hnone hnone' hlines h h'
  refine ⟨hends.diagnostics, hends.machine, hends.exists_iff, hends.last, ?_⟩
  intro done src rest hsplit e₀ hdone hcurves
  obtain ⟨hsrc, e₀', e₁, hdone₀, hstep, -, honline⟩ := onLine_of_split h hsplit
  obtain rfl := Except.ok.inj (hdone.symm.trans hdone₀)
  obtain ⟨-, e₂, e₂', hdone', hstep', -, honline'⟩ := onLine_of_split h' hsplit
  have hbefore : e₀.EndsAlike e₂ :=
    (EndsAlike.refl {}).addLines hx hnone hnone' (fun l hl => hlines l (hsplit ▸ List.mem_append_left _ hl)) hdone hdone'
  obtain ⟨-, added, added', hadded, hadded', -, hsame⟩ := hbefore.toSameState.addLine hx hnone hnone' hsrc hstep hstep'
  obtain rfl := List.append_cancel_left (hadded.symm.trans honline)
  obtain rfl := List.append_cancel_left (hadded'.symm.trans honline')
  exact hsame hcurves

/-- A whole turn in one chord, and in four. -/
theorem divisions_change_chords_only_one_and_four :
    ∃ s s' e e', Settings.ofValues [.str "G28"] .null (.int 1) = .ok s ∧ Settings.ofValues [.str "G28"] .null (.int 4) = .ok s' ∧
      ofText s "G1 X4\nG2 I1 X4\nG0 Z1".toList = .ok e ∧ ofText s' "G1 X4\nG2 I1 X4\nG0 Z1".toList = .ok e' ∧
      e.movements.size = 4 ∧ e'.movements.size = 7 ∧ e'.diagnostics = e.diagnostics ∧ e'.machine = e.machine ∧
      ∀ line, (e'.onLine line).getLast? = (e.onLine line).getLast? := by
  have hs : Settings.ofValues [.str "G28"] .null (.int 1) = .ok ⟨["G28".toList], none, .whole 1⟩ := rfl
  have hs' : Settings.ofValues [.str "G28"] .null (.int 4) = .ok ⟨["G28".toList], none, .whole 4⟩ := rfl
  have hsize : ((ofText ⟨["G28".toList], none, .whole 1⟩ "G1 X4\nG2 I1 X4\nG0 Z1".toList).toOption.map fun e => e.movements.size) =
      some 4 := by decide +kernel
  have hsize' : ((ofText ⟨["G28".toList], none, .whole 4⟩ "G1 X4\nG2 I1 X4\nG0 Z1".toList).toOption.map fun e => e.movements.size) =
      some 7 := by decide +kernel
  obtain ⟨e, he, hfour⟩ := Option.map_eq_some_iff.1 hsize
  obtain ⟨e', he', hseven⟩ := Option.map_eq_some_iff.1 hsize'
  have h := eq_ok_of_toOption he
  have h' := eq_ok_of_toOption he'
  obtain ⟨hfound, hmachine, -, hlast, -⟩ := divisions_change_chords_only hs hs' h h'
  exact ⟨_, _, e, e', hs, hs', h, h', hfour, hseven, hfound, hmachine, hlast⟩

end ToolpathViewer.Extraction
