import ToolpathViewer.Proofs.Geometry.Level
import ToolpathViewer.Proofs.Toolpath.Course

/-!
# Where a line ends

A line that moves the tool leaves it where its words say: at the last value for each axis, and where it was along an axis without one
(`line_ends_where_asked`). The one exception is the height over the plane behind an arc that is split into chords. In the plane the last
chord ends at the end of the arc itself; over the plane its end is computed from both heights, and rounding can miss the one that was
asked for (`helix_ends_at_zero`). A height that no word of the line changes is kept.
-/

namespace ToolpathViewer

open Text Extraction

/-! ## The values of a line -/

/-- The letter of the words that give values for an axis. -/
def Axis.letter : Axis → Char
  | .x => 'X'
  | .y => 'Y'
  | .z => 'Z'

namespace Token

/-- The value that a token gives for an axis, if it does. -/
def valueFor? (axis : Axis) (t : Token) : Option Float :=
  if t.kind = .coordinate then
    match t.text with
    | [] => none
    | c :: value => if upperChar c = [axis.letter] then Decimal.readDecimal? value else none
  else none

/-- The last value for an axis in front of a remark. -/
def lastValue? (axis : Axis) (ts : List Token) : Option Float := ((spoken ts).filterMap (valueFor? axis)).getLast?

/-- Only coordinates give values for axes. -/
theorem valueFor?_of_kind_ne {axis : Axis} {t : Token} (h : t.kind ≠ .coordinate) : t.valueFor? axis = none := by
  rw [valueFor?, if_neg h]

/-- A word that makes the rest of a line a remark gives no value. -/
theorem valueFor?_of_silences {axis : Axis} {t : Token} (h : t.silences = true) : t.valueFor? axis = none := by
  refine valueFor?_of_kind_ne fun hk => ?_
  rw [Line.silences_of_kind_ne (by rw [hk]; decide)] at h
  cases h

/-- One more token gives the last value if it gives one and nothing has silenced it. -/
theorem lastValue?_append_singleton (axis : Axis) (ts : List Token) (t : Token) :
    lastValue? axis (ts ++ [t]) = if ts.any silences then lastValue? axis ts else (t.valueFor? axis).or (lastValue? axis ts) := by
  unfold lastValue?
  rw [spoken_append_singleton]
  cases hts : ts.any silences with
  | true => rfl
  | false =>
    cases ht : t.silences with
    | true => simp [valueFor?_of_silences ht]
    | false =>
      rw [if_neg (by simp), if_neg (by simp), List.filterMap_append, List.getLast?_append]
      cases hv : t.valueFor? axis <;> simp [hv]

/-- Only the kinds and the texts of the tokens decide the last value. -/
theorem lastValue?_map_shift (axis : Axis) (k : Int) (ts : List Token) : lastValue? axis (ts.map (shift k)) = lastValue? axis ts := by
  simp only [lastValue?, spoken, List.takeWhile_map, List.filterMap_map]
  rfl

end Token

namespace Line

variable {x : List (List Char)} {l : Line} {plane : Plane} {t : Token} {r : Read}

/-- The letter of an axis has a place for its value. -/
theorem isSome_store?_letter (axis : Axis) : (store? [axis.letter]).isSome = true := by
  cases axis <;> rfl

/-- A line keeps a value for the axis whose letter it comes with. -/
theorem along?_store {letter : List Char} {store : Float → Line → Line} (h : store? letter = some store) (axis : Axis) (v : Float)
    (l : Line) : (store v l).axes.along? axis = if letter = [axis.letter] then some v else l.axes.along? axis := by
  unfold store? at h
  split at h <;> first
    | (obtain rfl := Option.some.inj h; cases axis <;> rfl)
    | cases h

/-- A coordinate gives its axis its value, and leaves the others. -/
theorem along?_readCoordinate (axis : Axis) (ht : t.kind = .coordinate) (h : l.readCoordinate plane t = .ok r) :
    r.line.axes.along? axis = (t.valueFor? axis).or (l.axes.along? axis) := by
  unfold readCoordinate at h
  rw [Token.valueFor?, if_pos ht]
  cases htext : t.text with
  | nil =>
    rw [htext] at h
    cases h
  | cons c value =>
    rw [htext] at h
    cases hstore : store? (upperChar c) with
    | none =>
      simp only [hstore] at h
      obtain rfl := Except.ok.inj h
      have hletter : upperChar c ≠ [axis.letter] := by
        intro heq
        have hsome := isSome_store?_letter axis
        rw [← heq, hstore] at hsome
        cases hsome
      simp [hletter]
    | some store =>
      cases hv : Decimal.readDecimal? value with
      | some v =>
        simp only [hstore, hv] at h
        obtain rfl := Except.ok.inj h
        dsimp only
        rw [along?_store hstore, hv]
        split <;> rfl
      | none =>
        simp only [hstore, hv] at h
        obtain rfl := Except.ok.inj h
        simp [hv]

/-- Reading a token that is not silenced takes over the value that it gives for an axis. -/
theorem along?_read (axis : Axis) (h : l.read x plane t = .ok r) :
    r.line.axes.along? axis = if l.silenced then l.axes.along? axis else (t.valueFor? axis).or (l.axes.along? axis) := by
  unfold read at h
  by_cases hs : l.silenced = true
  · rw [if_pos hs] at h ⊢
    obtain rfl := Except.ok.inj h
    rfl
  · rw [if_neg hs] at h ⊢
    cases hk : t.kind with
    | coordinate => exact along?_readCoordinate axis hk (by simpa [hk] using h)
    | command =>
      rw [Token.valueFor?_of_kind_ne (by rw [hk]; decide), Option.none_or]
      rw [hk] at h
      obtain ⟨code, -, h⟩ := bind_eq_ok.1 h
      simp only at h
      split at h
      · obtain rfl := Except.ok.inj h
        rfl
      · split at h <;>
        · obtain rfl := Except.ok.inj h
          rfl
    | word =>
      rw [Token.valueFor?_of_kind_ne (by rw [hk]; decide), Option.none_or]
      rw [hk] at h
      obtain rfl := Except.ok.inj h
      unfold readWord
      split
      · rfl
      · split <;> rfl
    | comment | number | space | bad =>
      rw [Token.valueFor?_of_kind_ne (by rw [hk]; decide), Option.none_or]
      rw [hk] at h
      obtain rfl := Except.ok.inj h
      rfl

end Line

namespace Extraction

variable {s : Settings} {e e' : Extraction} {l : Line} {p q : Progress} {t : Token} {src : SourceLine}

/-- A token gives its axis its value, unless the line is silenced. -/
theorem along?_readToken (axis : Axis) (ht : '\n' ∉ t.text) (h : Progress.readToken s p t = .ok q) :
    q.line.axes.along? axis =
      if p.line.silenced then p.line.axes.along? axis else (t.valueFor? axis).or (p.line.axes.along? axis) := by
  unfold Progress.readToken at h
  split at h
  · rename_i hk
    rw [readSpace_of_not_mem s ht] at h
    obtain rfl := Except.ok.inj h
    rw [Token.valueFor?_of_kind_ne (by rw [beq_iff_eq.1 hk]; decide), Option.none_or, ite_self]
  · split at h
    · cases h
    · rename_i r hr
      obtain rfl := Except.ok.inj h
      exact Line.along?_read axis hr

/-- What some tokens leave for an axis is the last value in them. -/
theorem along?_readTokens (axis : Axis) {ts : List Token} (hts : ∀ t ∈ ts, '\n' ∉ t.text) (hsilenced : p.line.silenced = false)
    (hnone : p.line.axes.along? axis = none) (h : ts.foldlM (Progress.readToken s) p = .ok q) :
    q.line.axes.along? axis = Token.lastValue? axis ts := by
  have hkept := foldlM_invariant
    (fun seen q => q.line.silenced = seen.any Token.silences ∧ q.line.axes.along? axis = Token.lastValue? axis seen) ?_
    ⟨hsilenced, hnone⟩ h
  · exact hkept.2
  · rintro t ht seen q q' ⟨hsilenced, hvalue⟩ hread
    constructor
    · rw [(readToken_of_not_mem (hts t ht) hread).2.silenced_eq, hsilenced]
      simp
    · rw [along?_readToken axis (hts t ht) hread, Token.lastValue?_append_singleton, hsilenced, hvalue]

/-- What is kept of a line for an axis is the last value in its tokens. -/
theorem along?_readLine (axis : Axis) (hsrc : '\n' ∉ src.text) (h : readLine s e src = .ok p) :
    p.line.axes.along? axis = Token.lastValue? axis (Token.ofText src.text) := by
  rw [← Token.lastValue?_map_shift axis src.start, ← Token.scan_eq_map_shift]
  exact along?_readTokens axis (Token.newline_not_mem_of_mem_scan hsrc) rfl (by cases axis <;> rfl) h

end Extraction

/-! ## The end of a line -/

namespace SourceLine

/-- The value that a line asks for along an axis: the last one in its words, or the one before the line if they give none. -/
def asked (src : SourceLine) (before : Vec3 Float) (axis : Axis) : Float :=
  (Token.lastValue? axis (Token.ofText src.text)).getD (before.along? axis)

end SourceLine

namespace Extraction

variable {s : Settings} {e e' : Extraction} {src : SourceLine}

/-- A line that makes no movement, or one that ends at a point: where it asks for, but perhaps for the height behind an arc. -/
theorem reaches_of_addLine (hsrc : '\n' ∉ src.text) (h : addLine s e src = .ok e') :
    e'.made = e.made ∨ ∃ base last, base.machine.plane = e'.machine.plane ∧ base.movements = e.movements ∧ base.dropped = e.dropped ∧
      Reaches s src.number base last e' ∧
      ∀ axis, last.along? axis = src.asked e.machine.position axis ∨
        src.Curves s e ∧ axis = e'.machine.plane.normal ∧
          last.along? axis =
            e.machine.position.along? axis + (src.asked e.machine.position axis - e.machine.position.along? axis) * 1.0 := by
  obtain ⟨p, hp, hfinish⟩ := bind_eq_ok.1 h
  obtain ⟨hpath, hnumber⟩ := samePath_readLine hsrc hp
  change p.line.number = src.number at hnumber
  have hasked : ∀ axis, (target p.path.machine p.line.axes).along? axis = src.asked e.machine.position axis := by
    intro axis
    rw [along?_target, along?_readLine axis hsrc hp, hpath.position]
    rfl
  obtain ⟨course, hcourse, hfollow⟩ := follow_of_finishLine hfinish
  rw [← hnumber]
  rcases reaches_of_follow hfollow with hnone | hreach | ⟨turn, center, rfl, hreach⟩
  · left
    rw [hnone]
    exact congrArg₂ (· + ·) (congrArg Array.size hpath.movements) hpath.dropped
  · right
    refine ⟨p.path.commanded p.line, _, ?_, hpath.movements, hpath.dropped, hreach, fun axis => Or.inl (hasked axis)⟩
    rw [hreach.machine_eq]
  · right
    refine ⟨p.path.commanded p.line, _, ?_, hpath.movements, hpath.dropped, hreach, fun axis => ?_⟩
    · rw [hreach.machine_eq]
    · rw [along?_landing, hreach.machine_eq]
      split
      · rename_i hnormal
        refine Or.inr ⟨⟨p, hp, Line.curves_of_course hcourse⟩, hnormal, ?_⟩
        rw [← hasked axis, ← hpath.position]
        rfl
      · exact Or.inl (hasked axis)

/-- Where a line of a program that moves the tool leaves it: along each axis at the last value in the words of the line, or where it was
before if they give none. Only behind an arc that is split into chords the height over the plane is computed from the one before and the
one asked for; without a word for it, it is equal to the one before, if that is finite. The last movement of the line ends there, unless
movements of the line were dropped. -/
theorem line_ends_where_asked {text : List Char} (h : ofText s text = .ok e) {done rest : List SourceLine}
    (hsplit : SourceLine.numbered 1 0 (linesOf text) = done ++ src :: rest) :
    ∃ e₀ e₁, done.foldlM (addLine s) {} = .ok e₀ ∧ addLine s e₀ src = .ok e₁ ∧
      (e₀.made < e₁.made →
        (∀ axis,
          e₁.machine.position.along? axis = src.asked e₀.machine.position axis ∨
            src.Curves s e₀ ∧ axis = e₁.machine.plane.normal ∧
              e₁.machine.position.along? axis = e₀.machine.position.along? axis +
                (src.asked e₀.machine.position axis - e₀.machine.position.along? axis) * 1.0 ∧
              (Token.lastValue? axis (Token.ofText src.text) = none → (e₀.machine.position.along? axis).isFinite = true →
                (e₁.machine.position.along? axis == e₀.machine.position.along? axis) = true)) ∧
        (e₁.dropped = e₀.dropped → (e.onLine src.number).getLast?.map (·.position) = some e₁.machine.position)) := by
  obtain ⟨hsrc, e₀, e₁, hdone, hstep, -, honline⟩ := onLine_of_split h hsplit
  refine ⟨e₀, e₁, hdone, hstep, fun hmade => ?_⟩
  rcases reaches_of_addLine hsrc hstep with hnone | ⟨base, last, hplane, hmovements, hdropped, hreach, hlast⟩
  · exact absurd hmade (by omega)
  have hposition : e₁.machine.position = last := by rw [hreach.machine_eq]
  rw [hposition]
  refine ⟨fun axis => ?_, fun hkept => ?_⟩
  · rcases hlast axis with hasked | ⟨hcurves, hnormal, hheight⟩
    · exact Or.inl hasked
    · refine Or.inr ⟨hcurves, hnormal, hheight, fun hword hfinite => ?_⟩
      rw [hheight, SourceLine.asked, hword, Option.getD_none]
      exact FloatScalar.level_beq hfinite
  · obtain ⟨motion, front, hend⟩ := hreach.movements_eq (hkept.trans hdropped.symm)
    rw [hmovements, honline, List.append_assoc, List.append_cancel_left_eq] at hend
    rw [hend, List.getLast?_append]
    rfl

/-- A whole turn without a word for its height, from a height that a line before it gave. -/
theorem line_ends_where_asked_whole_turn :
    ∃ s e first second e₀ e₁, Settings.ofValues [] .null (.int 1) = .ok s ∧ ofText s "G0 Z3 X4\nG2 I1 X4".toList = .ok e ∧
      SourceLine.numbered 1 0 (linesOf "G0 Z3 X4\nG2 I1 X4".toList) = [first] ++ second :: [] ∧
      [first].foldlM (addLine s) {} = .ok e₀ ∧ addLine s e₀ second = .ok e₁ ∧ e₀.made < e₁.made ∧ e₁.dropped = e₀.dropped ∧
      (e.onLine 2).getLast?.map (·.position) = some e₁.machine.position := by
  have hs : Settings.ofValues [] .null (.int 1) = .ok ⟨[], none, .whole 1⟩ := rfl
  have hlines : SourceLine.numbered 1 0 (linesOf "G0 Z3 X4\nG2 I1 X4".toList) =
      [⟨1, 0, "G0 Z3 X4".toList⟩] ++ ⟨2, 9, "G2 I1 X4".toList⟩ :: [] := rfl
  have hdrawn : (ofText ⟨[], none, .whole 1⟩ "G0 Z3 X4\nG2 I1 X4".toList).toOption.isSome = true := by decide +kernel
  have hrun : ([⟨1, 0, "G0 Z3 X4".toList⟩].foldlM (addLine ⟨[], none, .whole 1⟩) {} >>= fun e₀ =>
      (addLine ⟨[], none, .whole 1⟩ e₀ ⟨2, 9, "G2 I1 X4".toList⟩).map fun e₁ => (e₀.made, e₁.made, e₀.dropped, e₁.dropped)).toOption =
        some (2, 3, 0, 0) := by decide +kernel
  obtain ⟨e, he⟩ := Option.isSome_iff_exists.1 hdrawn
  have h := eq_ok_of_toOption he
  obtain ⟨e₀, e₁, hdone, hstep, hends⟩ := line_ends_where_asked h hlines
  rw [hdone, ok_bind, hstep] at hrun
  simp only [Except.map, Except.toOption, Option.some.injEq, Prod.mk.injEq] at hrun
  obtain ⟨hmade₀, hmade₁, hdropped₀, hdropped₁⟩ := hrun
  have hmade : e₀.made < e₁.made := by omega
  have hdropped : e₁.dropped = e₀.dropped := by omega
  exact ⟨_, e, _, _, e₀, e₁, hs, h, hlines, hdone, hstep, hmade, hdropped, (hends hmade).2 hdropped⟩

/-- A whole turn from a great height down to 1 ends at 0. -/
theorem helix_ends_at_zero :
    ∃ s e first second e₀ e₁, Settings.ofValues [] .null (.int 1) = .ok s ∧
      ofText s "G1 Z100000000000000000\nG2 I1 Z1".toList = .ok e ∧
      SourceLine.numbered 1 0 (linesOf "G1 Z100000000000000000\nG2 I1 Z1".toList) = [first] ++ second :: [] ∧
      [first].foldlM (addLine s) {} = .ok e₀ ∧ addLine s e₀ second = .ok e₁ ∧ e₀.made < e₁.made ∧ e₁.dropped = e₀.dropped ∧
      second.asked e₀.machine.position .z = 1.0 ∧ e₁.machine.position.along? .z = 0.0 ∧
      (e.onLine 2).getLast?.map (·.position.z) = some 0.0 := by
  have hs : Settings.ofValues [] .null (.int 1) = .ok ⟨[], none, .whole 1⟩ := rfl
  have hlines : SourceLine.numbered 1 0 (linesOf "G1 Z100000000000000000\nG2 I1 Z1".toList) =
      [⟨1, 0, "G1 Z100000000000000000".toList⟩] ++ ⟨2, 23, "G2 I1 Z1".toList⟩ :: [] := rfl
  have hdrawn : (ofText ⟨[], none, .whole 1⟩ "G1 Z100000000000000000\nG2 I1 Z1".toList).toOption.map
      (fun e => (e.onLine 2).getLast?.map (·.position.z)) = some (some 0.0) := by decide +kernel
  have hrun : ([⟨1, 0, "G1 Z100000000000000000".toList⟩].foldlM (addLine ⟨[], none, .whole 1⟩) {} >>= fun e₀ =>
      (addLine ⟨[], none, .whole 1⟩ e₀ ⟨2, 23, "G2 I1 Z1".toList⟩).map fun e₁ =>
        (e₀.made, e₁.made, e₀.dropped, e₁.dropped, SourceLine.asked ⟨2, 23, "G2 I1 Z1".toList⟩ e₀.machine.position .z,
          e₁.machine.position.along? .z)).toOption = some (2, 3, 0, 0, 1.0, 0.0) := by decide +kernel
  obtain ⟨e, he, hlast⟩ := Option.map_eq_some_iff.1 hdrawn
  have h := eq_ok_of_toOption he
  obtain ⟨-, e₀, e₁, hdone, hstep, -, -⟩ := onLine_of_split h hlines
  rw [hdone, ok_bind, hstep] at hrun
  simp only [Except.map, Except.toOption, Option.some.injEq, Prod.mk.injEq] at hrun
  obtain ⟨hmade₀, hmade₁, hdropped₀, hdropped₁, hasked, hheight⟩ := hrun
  exact ⟨_, e, _, _, e₀, e₁, hs, h, hlines, hdone, hstep, by omega, by omega, hasked, hheight, hlast⟩

end Extraction

end ToolpathViewer
