import ToolpathViewer.Proofs.Toolpath.Destination
import ToolpathViewer.Proofs.Toolpath.Heeding

/-!
# Axes that keep their value

A line need not name the axes that it does not change: values that are those of the position before the line may be written or left out,
on arcs as on straight moves, as long as some value for an axis stays (`kept_axes_may_be_left_out`). They must be those of the position in
the signs of zeros as well (`other_zero_may_not_be_left_out`). A line without any value for an axis moves nothing, even if it asks for a
whole turn by its center (`whole_turn_needs_an_axis`). Taking the values for the axes out of a line does not change what
else is heeded on it (`bare_foldlM_heed`), and its end looks at them only for whether there are any and for its target.
-/

namespace ToolpathViewer

open Text

/-- Vectors with the same components are equal. -/
theorem Vec3.eq_of_along? {α : Type} {v w : Vec3 α} (h : ∀ axis, v.along? axis = w.along? axis) : v = w := by
  obtain ⟨x, y, z⟩ := v
  obtain ⟨x', y', z'⟩ := w
  obtain rfl : x = x' := h .x
  obtain rfl : y = y' := h .y
  obtain rfl : z = z' := h .z
  rfl

namespace Token

variable {axis : Axis} {t : Token} {ts : List Token}

/-! ## Values for axes -/

/-- The letters of axes are those of the three axes, in either case. -/
theorem isOneOf_axisLetters {c : Char} : isOneOf axisLetters c = true ↔ ∃ axis : Axis, upperChar c = [axis.letter] := by
  constructor
  · intro h
    unfold isOneOf at h
    split at h
    · rename_i u hu
      have hmem : u = 'X' ∨ u = 'Y' ∨ u = 'Z' := by simpa [axisLetters] using h
      rcases hmem with rfl | rfl | rfl
      · exact ⟨.x, hu⟩
      · exact ⟨.y, hu⟩
      · exact ⟨.z, hu⟩
    · cases h
  · rintro ⟨axis, haxis⟩
    rw [isOneOf, haxis]
    cases axis <;> rfl

/-- A token gives a value for an axis when it gives one for some axis. -/
theorem givesAxis_iff : t.givesAxis = true ↔ ∃ axis, (t.valueFor? axis).isSome = true := by
  unfold givesAxis valueFor?
  by_cases hk : t.kind = .coordinate
  · cases t.text with
    | nil => simp
    | cons c value =>
      simp only [hk, beq_self_eq_true, Bool.true_and, Bool.and_eq_true, isOneOf_axisLetters, if_true]
      constructor
      · rintro ⟨⟨axis, haxis⟩, hvalue⟩
        exact ⟨axis, by rwa [if_pos haxis]⟩
      · rintro ⟨axis, hvalue⟩
        split at hvalue
        · rename_i haxis
          exact ⟨⟨axis, haxis⟩, hvalue⟩
        · cases hvalue
  · simp [hk]

/-- Some token gives a value for an axis when there is a last value for some axis. -/
theorem anyAxis_iff : anyAxis ts = true ↔ ∃ axis, (lastValue? axis ts).isSome = true := by
  have hlast : ∀ axis, (lastValue? axis ts).isSome = true ↔ ∃ t ∈ spoken ts, (t.valueFor? axis).isSome = true := by
    intro axis
    rw [lastValue?, List.getLast?_isSome, Ne, List.filterMap_eq_nil_iff]
    simp [Option.isSome_iff_ne_none]
  simp only [anyAxis, List.any_eq_true, givesAxis_iff, hlast]
  constructor
  · rintro ⟨t, ht, axis, hvalue⟩
    exact ⟨axis, t, ht, hvalue⟩
  · rintro ⟨axis, t, ht, hvalue⟩
    exact ⟨t, ht, axis, hvalue⟩

/-- All values of a line are heard. -/
theorem lastValue?_heard (axis : Axis) (ts : List Token) : lastValue? axis (heard ts) = lastValue? axis ts := by
  have hspoken : spoken (heard ts) = heard ts := List.takeWhile_eq_self_iff.2 fun t ht => by simp [(of_mem_heard ht).2]
  have hcounts : ∀ t : Token, (if t.counts = true then t.valueFor? axis else none) = t.valueFor? axis := by
    intro t
    split
    · rfl
    · rename_i hnot
      refine (valueFor?_of_kind_ne fun hk => hnot ?_).symm
      simp [counts, hk]
  rw [lastValue?, lastValue?, hspoken, heard, List.filterMap_filter]
  simp only [hcounts]

end Token

namespace Line

variable {x : List (List Char)} {st : Line × Plane} {t : Token} {ts : List Token}

/-- A line has values for axes when it has one for some axis. -/
theorem hasAxes_iff (l : Line) : l.hasAxes = true ↔ ∃ axis, (l.axes.along? axis).isSome = true := by
  rw [hasAxes, Bool.or_eq_true, Bool.or_eq_true]
  constructor
  · rintro ((h | h) | h)
    · exact ⟨.x, h⟩
    · exact ⟨.y, h⟩
    · exact ⟨.z, h⟩
  · rintro ⟨axis, h⟩
    cases axis
    · exact Or.inl (Or.inl h)
    · exact Or.inl (Or.inr h)
    · exact Or.inr h

/-! ## Lines without their values for axes -/

/-- A line without its values for the axes. -/
def bare (l : Line) : Line := { l with axes := Vec3.fill none }

/-- What has been heeded, but for the values for the axes. -/
def bared (st : Line × Plane) : Line × Plane := (st.1.bare, st.2)

/-- A value for an axis is taken out of a line again, and any other value stays. -/
theorem store?_bare {u : List Char} {store : Float → Line → Line} (h : store? u = some store) (v : Float) (l : Line) :
    (∃ axis : Axis, u = [axis.letter]) ∧ (store v l).bare = l.bare ∨
      (¬∃ axis : Axis, u = [axis.letter]) ∧ store v l.bare = (store v l).bare := by
  unfold store? at h
  split at h
  case h_1 => exact Or.inl ⟨⟨.x, rfl⟩, by obtain rfl := Option.some.inj h; rfl⟩
  case h_2 => exact Or.inl ⟨⟨.y, rfl⟩, by obtain rfl := Option.some.inj h; rfl⟩
  case h_3 => exact Or.inl ⟨⟨.z, rfl⟩, by obtain rfl := Option.some.inj h; rfl⟩
  case h_8 => cases h
  all_goals
    obtain rfl := Option.some.inj h
    refine Or.inr ⟨?_, rfl⟩
    rintro ⟨axis, haxis⟩
    cases axis <;> cases haxis

/-- A value for an axis is all that is gone from a bare line. -/
theorem heed_of_givesAxis (ht : Extraction.Plain t) (haxis : t.givesAxis = true) (st : Line × Plane) :
    ∃ st', heed x st t.text = .ok st' ∧ bared st' = bared st := by
  obtain ⟨⟨c, value, htext, hkind⟩, -⟩ := ht
  rw [Token.givesAxis, htext, Bool.and_eq_true, Bool.and_eq_true, beq_iff_eq, Token.isOneOf_axisLetters] at haxis
  obtain ⟨hcoordinate, hletter, hvalue⟩ := haxis
  refine ⟨_, by rw [htext, heed_coordinate (hkind.trans hcoordinate)], ?_⟩
  obtain ⟨v, hv⟩ := Option.isSome_iff_exists.1 hvalue
  rw [bared, bared, keep, hv]
  cases hstore : store? (upperChar c) with
  | none => rfl
  | some store =>
    rcases store?_bare hstore v st.1 with ⟨-, hbare⟩ | ⟨hnot, -⟩
    · exact congrArg (·, st.2) hbare
    · exact absurd hletter hnot

/-- Other words mean the same to a bare line. -/
theorem heed_bared (ht : Extraction.Plain t) (haxis : t.givesAxis = false) (st : Line × Plane) :
    heed x (bared st) t.text = (heed x st t.text).map bared := by
  obtain ⟨⟨c, value, htext, hkind⟩, -⟩ := ht
  rw [htext]
  by_cases hcommand : Token.Kind.ofFirst c = .command
  · rw [heed_command hcommand, heed_command hcommand]
    cases Code.normalize (c :: value) with
    | error fault => rfl
    | ok code =>
      obtain ⟨named, excluded, motion, select, hobey⟩ := obey_eq x code
      simp only [ok_bind, hobey]
      rfl
  · by_cases hcoordinate : Token.Kind.ofFirst c = .coordinate
    · rw [heed_coordinate hcoordinate, heed_coordinate hcoordinate]
      refine congrArg Except.ok (Prod.ext ?_ rfl)
      change keep c value st.1.bare = (keep c value st.1).bare
      unfold keep
      cases hstore : store? (upperChar c) with
      | none => rfl
      | some store =>
        cases hv : Decimal.readDecimal? value with
        | none => rfl
        | some v =>
          rcases store?_bare hstore v st.1 with ⟨hletter, -⟩ | ⟨-, hbare⟩
          · rw [Token.givesAxis, htext] at haxis
            simp [← hkind, hcoordinate, hv, Token.isOneOf_axisLetters.2 hletter] at haxis
          · exact hbare
    · rw [heed_of_ne hcommand hcoordinate, heed_of_ne hcommand hcoordinate]
      rfl

/-- Without the values for the axes, what is heeded of a line is what is heeded of its other words. -/
theorem bare_foldlM_heed (hts : ∀ t ∈ ts, Extraction.Plain t) (st : Line × Plane) :
    ((ts.map Token.text).foldlM (heed x) st).map bared =
      ((ts.filter (!·.givesAxis)).map Token.text).foldlM (heed x) (bared st) := by
  induction ts generalizing st with
  | nil => rfl
  | cons t ts ih =>
    obtain ⟨ht, hts⟩ := List.forall_mem_cons.1 hts
    rw [List.map_cons, List.foldlM_cons]
    cases haxis : t.givesAxis with
    | true =>
      obtain ⟨st', hheed, hbared⟩ := heed_of_givesAxis (x := x) ht haxis st
      rw [List.filter_cons_of_neg (by simp [haxis]), hheed, ok_bind, ih hts, hbared]
    | false =>
      rw [List.filter_cons_of_pos (by simp [haxis]), List.map_cons, List.foldlM_cons, heed_bared ht haxis]
      cases heed x st t.text with
      | error fault => rfl
      | ok st' => exact ih hts st'

end Line

namespace Extraction

variable {s : Settings} {e r : Extraction} {line line' : List Char} {number : Nat} {start : Int}

/-! ## Ends of lines -/

/-- What is heeded of a line has for each axis the last value in the tokens of the line. -/
theorem along?_heedLine {x : List (List Char)} {plane : Plane} {src : SourceLine} {st : Line × Plane} (hsrc : '\n' ∉ src.text)
    (h : heedLine x plane src = .ok st) (axis : Axis) :
    st.1.axes.along? axis = Token.lastValue? axis (Token.ofText src.text) := by
  -- The line is read along with it, on a path that has nothing but the plane.
  have hstart : Tracks (onPlane {} plane) ({ number := src.number, start := src.start }, plane)
      { path := onPlane {} plane, line := { number := src.number, start := src.start } } := ⟨rfl, rfl, Agree.refl _⟩
  have hplain : ∀ t ∈ Token.heard (Token.scan src.start src.text), Plain t := fun _ ht => plain_of_mem_heard ht
  have hboth := corresponds_readTokens (s := ⟨x, none, .whole 64⟩) hplain hstart
  obtain ⟨q, hq, htracks⟩ := hboth.exists_of_ok h
  have hts : ∀ t ∈ Token.heard (Token.scan src.start src.text), '\n' ∉ t.text := fun t ht =>
    Token.newline_not_mem_of_mem_scan hsrc t (Token.mem_of_mem_heard ht)
  rw [← htracks.line, along?_readTokens axis hts rfl (by cases axis <;> rfl) hq, Token.lastValue?_heard, Token.scan_eq_map_shift,
    Token.lastValue?_map_shift]

/-- The end of a line looks at the values for the axes only for whether there are any and for its target. -/
theorem finishLine_congr {l l' : Line} (hbare : l'.bare = l.bare) (hany : l'.hasAxes = l.hasAxes)
    (htarget : target r.machine l'.axes = target r.machine l.axes) : r.finishLine s l' = r.finishLine s l := by
  have hnumber : l'.number = l.number := (congrArg Line.number hbare : l'.bare.number = l.bare.number)
  have hnamed : l'.named = l.named := (congrArg Line.named hbare : l'.bare.named = l.bare.named)
  have hmotion : l'.motion = l.motion := (congrArg Line.motion hbare : l'.bare.motion = l.bare.motion)
  have hexcluded : l'.excluded = l.excluded := (congrArg Line.excluded hbare : l'.bare.excluded = l.bare.excluded)
  have harc : l'.arc = l.arc := (congrArg Line.arc hbare : l'.bare.arc = l.bare.arc)
  have hattempt : ∀ (m : Machine) (motion : Motion), m.position = r.machine.position →
      attempt { r with machine := m } (perform s l' · motion) = attempt { r with machine := m } (perform s l · motion) := by
    intro m motion hposition
    have htarget' : target m l'.axes = target m l.axes := by
      rw [target, target, hposition]
      exact htarget
    simp only [attempt, perform, moveArc, hany, htarget', hnumber, harc]
  unfold finishLine
  rw [hmotion, hany, hnamed, hexcluded, hnumber]
  cases l.motion with
  | some motion => exact hattempt { r.machine with motion := some motion } motion rfl
  | none =>
    dsimp only
    split
    · cases r.machine.motion with
      | some motion => exact hattempt r.machine motion rfl
      | none => rfl
    · rfl

/-- A line without values for the axes ends where it starts. -/
theorem samePath_finishLine_of_no_axes {l : Line} {r' : Extraction} (haxes : l.hasAxes = false) (h : r.finishLine s l = .ok r') :
    r'.movements = r.movements ∧ r'.dropped = r.dropped ∧ r'.machine.position = r.machine.position := by
  unfold finishLine attempt perform at h
  rw [haxes] at h
  cases hmotion : l.motion with
  | some motion =>
    rw [hmotion] at h
    obtain rfl := Except.ok.inj h
    exact ⟨rfl, rfl, rfl⟩
  | none =>
    rw [hmotion] at h
    obtain rfl := Except.ok.inj h
    exact ⟨rfl, rfl, rfl⟩

/-! ## Lines -/

/-- The second line is the first one without some values for axes that are those of a position: its other words are those of the first
line, and the last value for each axis is the same, or the position's on the first line and none on the second. -/
structure LeavesOut (position : Vec3 Float) (line line' : List Char) : Prop where
  others : ((Token.heard (Token.ofText line')).filter (!·.givesAxis)).map Token.text =
    ((Token.heard (Token.ofText line)).filter (!·.givesAxis)).map Token.text
  axes : ∀ axis, Token.lastValue? axis (Token.ofText line') = Token.lastValue? axis (Token.ofText line) ∨
    Token.lastValue? axis (Token.ofText line) = some (position.along? axis) ∧ Token.lastValue? axis (Token.ofText line') = none

/-- The words of a line that give no value for an axis, wherever the line stands. -/
theorem map_text_filter_heard (start : Int) (line : List Char) :
    ((Token.heard (Token.scan start line)).filter (!·.givesAxis)).map Token.text =
      ((Token.heard (Token.ofText line)).filter (!·.givesAxis)).map Token.text := by
  rw [Token.scan_eq_map_shift, Token.heard_map_shift, List.filter_map, List.map_map]
  rfl

/-- Both lines ask for the same target. -/
theorem LeavesOut.target_eq {position : Vec3 Float} (h : LeavesOut position line line') {m : Machine} (hm : m.position = position)
    {axes axes' : AxisWords} (haxes : ∀ axis, axes.along? axis = Token.lastValue? axis (Token.ofText line))
    (haxes' : ∀ axis, axes'.along? axis = Token.lastValue? axis (Token.ofText line')) : target m axes' = target m axes := by
  have halong : ∀ axis, (target m axes').along? axis = (target m axes).along? axis := by
    intro axis
    rw [along?_target, along?_target, haxes, haxes', hm]
    rcases h.axes axis with hsame | ⟨hgiven, hnone⟩
    · rw [hsame]
    · rw [hgiven, hnone]
      rfl
  exact Vec3.eq_of_along? halong

/-- What has been heeded of two lines: the same, but for the values for the axes, of which each line has its last ones. -/
structure HeededAlike (line line' : List Char) (st st' : Line × Plane) : Prop where
  bared : Line.bared st' = Line.bared st
  axes : ∀ axis, st.1.axes.along? axis = Token.lastValue? axis (Token.ofText line)
  axes' : ∀ axis, st'.1.axes.along? axis = Token.lastValue? axis (Token.ofText line')

/-- Values for axes that are left out change nothing else that is heeded on a line. -/
theorem LeavesOut.corresponds_heedLine {position : Vec3 Float} (h : LeavesOut position line line') (hline : '\n' ∉ line)
    (hline' : '\n' ∉ line') (x : List (List Char)) (plane : Plane) :
    Corresponds (HeededAlike line line') (heedLine x plane ⟨number, start, line⟩) (heedLine x plane ⟨number, start, line'⟩) := by
  have hbare : ∀ line, (heedLine x plane ⟨number, start, line⟩).map Line.bared =
      (((Token.heard (Token.ofText line)).filter (!·.givesAxis)).map Token.text).foldlM (Line.heed x)
        (Line.bared ({ number, start }, plane)) := by
    intro line
    rw [← map_text_filter_heard start]
    exact Line.bare_foldlM_heed (fun _ ht => plain_of_mem_heard ht) _
  have hsame : (heedLine x plane ⟨number, start, line'⟩).map Line.bared = (heedLine x plane ⟨number, start, line⟩).map Line.bared := by
    rw [hbare, hbare, h.others]
  cases hst : heedLine x plane ⟨number, start, line⟩ with
  | error fault =>
    cases hst' : heedLine x plane ⟨number, start, line'⟩ with
    | error fault' => exact .fail _ _
    | ok st' =>
      rw [hst, hst'] at hsame
      cases hsame
  | ok st =>
    cases hst' : heedLine x plane ⟨number, start, line'⟩ with
    | error fault' =>
      rw [hst, hst'] at hsame
      cases hsame
    | ok st' =>
      rw [hst, hst'] at hsame
      exact .ok ⟨Except.ok.inj hsame, along?_heedLine hline hst, along?_heedLine hline' hst'⟩

/-- Which of two lines that are heeded alike have values for axes, by their tokens. -/
theorem HeededAlike.hasAxes_iff {st st' : Line × Plane} (h : HeededAlike line line' st st') :
    (st.1.hasAxes = true ↔ Token.anyAxis (Token.ofText line) = true) ∧
      (st'.1.hasAxes = true ↔ Token.anyAxis (Token.ofText line') = true) := by
  simp only [Line.hasAxes_iff, Token.anyAxis_iff, h.axes, h.axes', and_self]

/-- A line on which no value for an axis is left keeps those of the line that it comes from. -/
theorem LeavesOut.anyAxis {position : Vec3 Float} (h : LeavesOut position line line') (hany : Token.anyAxis (Token.ofText line') = true) :
    Token.anyAxis (Token.ofText line) = true := by
  obtain ⟨axis, hvalue⟩ := Token.anyAxis_iff.1 hany
  refine Token.anyAxis_iff.2 ⟨axis, ?_⟩
  rcases h.axes axis with hsame | ⟨hgiven, -⟩
  · rwa [← hsame]
  · rw [hgiven]
    rfl

/-- A line from which values are left out does to a path what it did, as long as it gives some value for an axis. -/
theorem LeavesOut.corresponds_addLine (h : LeavesOut e.machine.position line line') (hline : '\n' ∉ line) (hline' : '\n' ∉ line')
    (hany : Token.anyAxis (Token.ofText line') = true) :
    Corresponds Agree (addLine s e ⟨number, start, line⟩) (addLine s e ⟨number, start, line'⟩) := by
  refine Extraction.corresponds_addLine hline hline' (Agree.refl e) (h.corresponds_heedLine hline hline' _ _) ?_
  intro st st' hst r r' hr hr'
  obtain ⟨hbare, hplane⟩ := Prod.mk.inj hst.bared
  have hhas : st'.1.hasAxes = st.1.hasAxes := by
    rw [hst.hasAxes_iff.1.2 (h.anyAxis hany), hst.hasAxes_iff.2.2 hany]
  have hposition : r'.machine.position = e.machine.position := by rw [hr'.machine, onPlane]
  rw [finishLine_congr hbare hhas (h.target_eq hposition hst.axes hst.axes')]
  have hagree : Agree r r' := by
    rw [hplane] at hr'
    exact hr.symm.trans hr'
  exact hagree.corresponds_finishLine st.1

/-- Values for axes that are those of the position before a line may be left out of it, or written, as long as some value for an axis stays:
the line returns as before, with the same movements, as many lost ones and the same state of the machine behind it, whatever it asks for. A
line without any value for an axis moves nothing. -/
theorem kept_axes_may_be_left_out (s : Settings) (h : LeavesOut e.machine.position line line') (hline : '\n' ∉ line) (hline' : '\n' ∉ line')
    (number : Nat) (start : Int) :
    (Token.anyAxis (Token.ofText line') = true →
      ((∃ r, addLine s e ⟨number, start, line⟩ = .ok r) ↔ ∃ r', addLine s e ⟨number, start, line'⟩ = .ok r') ∧
        ∀ r r', addLine s e ⟨number, start, line⟩ = .ok r → addLine s e ⟨number, start, line'⟩ = .ok r' →
          r'.movements = r.movements ∧ r'.dropped = r.dropped ∧ r'.machine = r.machine) ∧
      (Token.anyAxis (Token.ofText line') = false → ∀ r', addLine s e ⟨number, start, line'⟩ = .ok r' →
        r'.movements = e.movements ∧ r'.dropped = e.dropped ∧ r'.machine.position = e.machine.position) := by
  constructor
  · intro hany
    have hboth : Corresponds Agree (addLine s e ⟨number, start, line⟩) (addLine s e ⟨number, start, line'⟩) :=
      h.corresponds_addLine hline hline' hany
    refine ⟨hboth.exists_ok_iff, fun r r' hr hr' => ?_⟩
    rw [hr, hr'] at hboth
    have hagree := hboth.of_ok
    exact ⟨hagree.movements, hagree.dropped, hagree.machine⟩
  · intro hnone r' hr'
    obtain ⟨p, hp, hfinish⟩ := bind_eq_ok.1 hr'
    obtain ⟨hpath, -⟩ := samePath_readLine hline' hp
    have hany : p.line.hasAxes = false := by
      rw [← Bool.not_eq_true, Line.hasAxes_iff]
      simp only [along?_readLine _ hline' hp, ← Token.anyAxis_iff, hnone, Bool.false_eq_true, not_false_iff]
    obtain ⟨hmovements, hdropped, hposition⟩ := samePath_finishLine_of_no_axes hany hfinish
    exact ⟨hmovements.trans hpath.movements, hdropped.trans hpath.dropped, hposition.trans hpath.position⟩

/-- A whole turn in one chord, with its end written and without one of its axes. -/
theorem kept_axes_may_be_left_out_whole_turn :
    ∃ (e : Extraction) (r r' : Extraction), e.machine.position = ⟨3.0, 4.0, 5.0⟩ ∧
      LeavesOut e.machine.position "G2 X3 I1 Y4".toList "G2 I1 Y4".toList ∧
      Token.anyAxis (Token.ofText "G2 I1 Y4".toList) = true ∧
      addLine ⟨[], none, .whole 1⟩ e ⟨2, 9, "G2 X3 I1 Y4".toList⟩ = .ok r ∧
      addLine ⟨[], none, .whole 1⟩ e ⟨2, 9, "G2 I1 Y4".toList⟩ = .ok r' ∧ r.movements.size = 2 ∧
      r'.movements = r.movements ∧ r'.dropped = r.dropped ∧ r'.machine = r.machine := by
  have hleaves : LeavesOut ⟨3.0, 4.0, 5.0⟩ "G2 X3 I1 Y4".toList "G2 I1 Y4".toList := by
    refine ⟨by decide +kernel, fun axis => ?_⟩
    cases axis with
    | x => exact Or.inr (by decide +kernel)
    | y => exact Or.inl (by decide +kernel)
    | z => exact Or.inl (by decide +kernel)
  have hany : Token.anyAxis (Token.ofText "G2 I1 Y4".toList) = true := by decide +kernel
  have hsize : ((addLine ⟨[], none, .whole 1⟩ { machine := { position := ⟨3.0, 4.0, 5.0⟩ } } ⟨2, 9, "G2 X3 I1 Y4".toList⟩).toOption.map
      (·.movements.size)) = some 2 := by decide +kernel
  obtain ⟨r, hr, hsize⟩ := Option.map_eq_some_iff.1 hsize
  obtain ⟨hreturns, hsame⟩ := (kept_axes_may_be_left_out ⟨[], none, .whole 1⟩ (e := { machine := { position := ⟨3.0, 4.0, 5.0⟩ } })
    hleaves (by decide) (by decide) 2 9).1 hany
  obtain ⟨r', hr'⟩ := hreturns.1 ⟨r, eq_ok_of_toOption hr⟩
  exact ⟨_, r, r', rfl, hleaves, hany, eq_ok_of_toOption hr, hr', hsize, hsame r r' (eq_ok_of_toOption hr) hr'⟩

/-- The values that are left out must be those of the position in their sign, too: a zero with the other sign is no other number, but the
line leads to another position with it than without it, and the direction of an arc from there tells the two apart. -/
theorem other_zero_may_not_be_left_out :
    ∃ r r', (Token.lastValue? .x (Token.ofText "G1 X-0 Y1".toList)).map (· == ({} : Extraction).machine.position.x) = some true ∧
      Token.lastValue? .x (Token.ofText "G1 Y1".toList) = none ∧
      addLine ⟨[], none, .whole 1⟩ {} ⟨1, 0, "G1 X-0 Y1".toList⟩ = .ok r ∧ addLine ⟨[], none, .whole 1⟩ {} ⟨1, 0, "G1 Y1".toList⟩ = .ok r' ∧
      r'.machine ≠ r.machine ∧ r'.movements ≠ r.movements := by
  have hequal : (Token.lastValue? .x (Token.ofText "G1 X-0 Y1".toList)).map (· == ({} : Extraction).machine.position.x) = some true := by
    decide +kernel
  have hnone : Token.lastValue? .x (Token.ofText "G1 Y1".toList) = none := by decide +kernel
  have hwritten : (addLine ⟨[], none, .whole 1⟩ {} ⟨1, 0, "G1 X-0 Y1".toList⟩).toOption.map
      (fun r => (r.machine.position.x.toBits, r.movements[1]?.map (·.position.x.toBits))) =
        some (0x8000000000000000, some 0x8000000000000000) := by decide +kernel
  have hleft : (addLine ⟨[], none, .whole 1⟩ {} ⟨1, 0, "G1 Y1".toList⟩).toOption.map
      (fun r => (r.machine.position.x.toBits, r.movements[1]?.map (·.position.x.toBits))) = some (0, some 0) := by decide +kernel
  obtain ⟨r, hr, hbits⟩ := Option.map_eq_some_iff.1 hwritten
  obtain ⟨r', hr', hbits'⟩ := Option.map_eq_some_iff.1 hleft
  obtain ⟨hmachine, hmovement⟩ := Prod.mk.inj hbits
  obtain ⟨hmachine', hmovement'⟩ := Prod.mk.inj hbits'
  refine ⟨r, r', hequal, hnone, eq_ok_of_toOption hr, eq_ok_of_toOption hr', fun hsame => ?_, fun hsame => ?_⟩
  · rw [hsame, hmachine] at hmachine'
    exact absurd hmachine' (by decide)
  · rw [hsame, hmovement] at hmovement'
    exact absurd hmovement' (by decide)

/-- A whole turn that is given by its center alone is not made. -/
theorem whole_turn_needs_an_axis :
    ∃ s r r', Settings.ofValues [] .null (.int 1) = .ok s ∧
      LeavesOut ({} : Extraction).machine.position "G2 X0 I1".toList "G2 I1".toList ∧
      addLine s {} ⟨1, 0, "G2 X0 I1".toList⟩ = .ok r ∧ addLine s {} ⟨1, 0, "G2 I1".toList⟩ = .ok r' ∧
      r.movements.size = 2 ∧ r'.movements.size = 1 := by
  have hs : Settings.ofValues [] .null (.int 1) = .ok ⟨[], none, .whole 1⟩ := rfl
  have hleaves : LeavesOut ({} : Extraction).machine.position "G2 X0 I1".toList "G2 I1".toList := by
    refine ⟨by decide +kernel, fun axis => ?_⟩
    cases axis with
    | x => exact Or.inr (by decide +kernel)
    | y => exact Or.inl (by decide +kernel)
    | z => exact Or.inl (by decide +kernel)
  have hdrawn : ((addLine ⟨[], none, .whole 1⟩ {} ⟨1, 0, "G2 X0 I1".toList⟩).toOption.map (·.movements.size)) = some 2 := by decide +kernel
  have hdrawn' : ((addLine ⟨[], none, .whole 1⟩ {} ⟨1, 0, "G2 I1".toList⟩).toOption.map (·.movements.size)) = some 1 := by decide +kernel
  obtain ⟨r, hr, hsize⟩ := Option.map_eq_some_iff.1 hdrawn
  obtain ⟨r', hr', hsize'⟩ := Option.map_eq_some_iff.1 hdrawn'
  exact ⟨_, r, r', hs, hleaves, eq_ok_of_toOption hr, eq_ok_of_toOption hr', hsize, hsize'⟩

end Extraction

end ToolpathViewer
