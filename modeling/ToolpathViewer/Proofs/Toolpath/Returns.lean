import ToolpathViewer.Proofs.Decimal.Numerals
import ToolpathViewer.Proofs.Toolpath.Attribution

/-!
# When an extraction returns

Three kinds of numbers stop an extraction: the number of a command that is not decimal or has too many digits, a length that has no
square, and a number of chords that is not finite. `returns_iff` says that nothing else does. A command is read only in front of a remark,
and an arc is drawn only when a line asks for one.
-/

namespace ToolpathViewer

/-! ## Commands -/

namespace Code

open Text

/-- What follows the letter of a command is no number, or a number of decimal digits and not too many of them. -/
def Readable (text : List Char) : Prop :=
  isNumber ((upper (strip text)).drop 1) = true →
    (∀ c ∈ (upper (strip text)).drop 1, (decimalValue? c).isSome = true) ∧ ((upper (strip text)).drop 1).length ≤ Decimal.maxDigits

/-- A command has a normal form when its number can be read. -/
theorem exists_normalize_iff (text : List Char) : (∃ code, normalize text = .ok code) ↔ Readable text := by
  rw [normalize, normalizeUpper, Readable]
  generalize (upper (strip text)).drop 1 = digits
  by_cases hnumber : isNumber digits = true
  · have hne : digits ≠ [] := by
      rintro rfl
      cases hnumber
    rw [if_pos hnumber, ← Decimal.isSome_readNat? hne]
    cases Decimal.readNat? digits <;> simp [hnumber]
  · rw [if_neg hnumber]
    simp [hnumber]

end Code

/-! ## Reading a line -/

namespace Line

variable {x : List (List Char)} {l : Line} {plane : Plane} {t : Token}

/-- A command is read when its number can be. -/
theorem exists_readCommand_iff : (∃ r, l.readCommand x plane t = .ok r) ↔ Code.Readable t.text := by
  rw [readCommand, exists_bind_iff, Code.exists_normalize_iff]
  refine and_iff_left fun code _ => ?_
  simp only
  split
  · exact ⟨_, rfl⟩
  · split <;> exact ⟨_, rfl⟩

/-- A coordinate is always read. -/
theorem exists_readCoordinate (ht : t.text ≠ []) : ∃ r, l.readCoordinate plane t = .ok r := by
  unfold readCoordinate
  split
  · contradiction
  · split
    · exact ⟨_, rfl⟩
    · split <;> exact ⟨_, rfl⟩

/-- Only a command in front of a remark can fail to be read. -/
theorem exists_read_iff (ht : t.text ≠ []) :
    (∃ r, l.read x plane t = .ok r) ↔ (l.silenced = false → t.kind = .command → Code.Readable t.text) := by
  unfold read
  by_cases hs : l.silenced = true
  · rw [if_pos hs]
    simp [hs]
  · rw [if_neg hs]
    cases hk : t.kind with
    | command => simpa [hs] using exists_readCommand_iff
    | coordinate => simpa using exists_readCoordinate ht
    | word | comment | number | space | bad => simp

end Line

namespace Token

/-- Every command in front of a remark can be read. -/
def Legible (ts : List Token) : Prop := ∀ t ∈ spoken ts, t.kind = .command → Code.Readable t.text

/-- A line is legible when its first token makes all a remark, or can be read and the rest is legible. -/
theorem legible_cons {t : Token} {ts : List Token} :
    Legible (t :: ts) ↔ t.silences = true ∨ (t.kind = .command → Code.Readable t.text) ∧ Legible ts := by
  cases ht : t.silences <;> simp [Legible, spoken, ht]

/-- Only the kinds and the texts of tokens decide whether they can be read. -/
theorem legible_map_shift (k : Int) (ts : List Token) : Legible (ts.map (shift k)) ↔ Legible ts := by
  simp only [Legible, spoken, List.takeWhile_map, List.forall_mem_map]
  rfl

end Token

namespace Extraction

open Progress

variable {s : Settings} {p q : Progress} {t : Token} {ts : List Token}

/-- A token is read when it is silenced, or no command, or a command that can be read. -/
theorem exists_readToken_iff (ht : '\n' ∉ t.text ∧ t.text ≠ []) :
    (∃ q, readToken s p t = .ok q) ↔ (p.line.silenced = false → t.kind = .command → Code.Readable t.text) := by
  unfold readToken
  by_cases hspace : (t.kind == .space) = true
  · have hkind : t.kind ≠ .command := by
      rw [beq_iff_eq.1 hspace]
      decide
    rw [if_pos hspace, readSpace_of_not_mem s ht.1]
    simp [hkind]
  · have hread : (∃ r, p.line.read s.excluded p.path.machine.plane t = .ok r) ↔ _ := Line.exists_read_iff ht.2
    rw [if_neg hspace, ← hread]
    cases p.line.read s.excluded p.path.machine.plane t <;> simp

/-- The tokens of a line are read unless one of its commands cannot be. -/
theorem exists_foldlM_readToken_iff (hts : ∀ t ∈ ts, '\n' ∉ t.text ∧ t.text ≠ []) (p : Progress) :
    (∃ q, ts.foldlM (readToken s) p = .ok q) ↔ (p.line.silenced = false → Token.Legible ts) := by
  induction ts generalizing p with
  | nil => simp [Token.Legible, Token.spoken, pure, Except.pure]
  | cons t ts ih =>
    obtain ⟨ht, hts⟩ := List.forall_mem_cons.1 hts
    have hrest : ∀ q, readToken s p t = .ok q → ((∃ q', ts.foldlM (readToken s) q = .ok q') ↔
        (p.line.silenced = false → t.silences = false → Token.Legible ts)) := by
      intro q hq
      rw [ih hts, (readToken_of_not_mem ht.1 hq).2.silenced_eq, Bool.or_eq_false_iff, and_imp]
    rw [List.foldlM_cons, exists_bind_iff, exists_readToken_iff ht, Token.legible_cons]
    constructor
    · rintro ⟨hfirst, h⟩ hp
      obtain ⟨q, hq⟩ := (exists_readToken_iff (s := s) (p := p) ht).2 hfirst
      cases hs : t.silences with
      | true => exact Or.inl rfl
      | false => exact Or.inr ⟨hfirst hp, (hrest q hq).1 (h q hq) hp hs⟩
    · intro h
      refine ⟨fun hp hk => ?_, fun q hq => (hrest q hq).2 fun hp hs => ?_⟩
      · rcases h hp with hs | h
        · exact absurd hs (by simp [Line.silences_of_kind_ne (show t.kind ≠ .word by rw [hk]; decide)])
        · exact h.1 hk
      · rcases h hp with hs' | h
        · exact absurd hs' (by simp [hs])
        · exact h.2

/-- A line of a program as it has been read, before it is ended. -/
def readLine (s : Settings) (e : Extraction) (l : SourceLine) : Except Interruption Progress :=
  (Token.scan l.start l.text).foldlM (readToken s) { path := e, line := { number := l.number, start := l.start } }

/-- A line is read and then finished. -/
theorem addLine_eq (s : Settings) (e : Extraction) (l : SourceLine) :
    addLine s e l = readLine s e l >>= fun p => p.path.finishLine s p.line := rfl

/-- Reading a line leaves the path as it is, but for its plane and what has been found. -/
theorem samePath_readLine {l : SourceLine} (hl : '\n' ∉ l.text) {p : Progress} (h : readLine s e l = .ok p) :
    SamePath e p.path ∧ p.line.number = l.number :=
  foldlM_readToken_samePath (Token.newline_not_mem_of_mem_scan hl) h

/-- A line is read when it is legible. -/
theorem exists_readLine_iff {l : SourceLine} (hl : '\n' ∉ l.text) (e : Extraction) :
    (∃ p, readLine s e l = .ok p) ↔ Token.Legible (Token.ofText l.text) := by
  have hts : ∀ t ∈ Token.scan l.start l.text, '\n' ∉ t.text ∧ t.text ≠ [] :=
    fun t ht => ⟨Token.newline_not_mem_of_mem_scan hl t ht, Token.text_ne_nil_of_mem_scan ht⟩
  rw [readLine, exists_foldlM_readToken_iff hts, Token.scan_eq_map_shift, Token.legible_map_shift]
  exact ⟨fun h => h rfl, fun h _ => h⟩

end Extraction

/-! ## Arcs -/

namespace FloatScalar

/-- The second power of a value is finite if the value is. -/
def HasSquare (x : Float) : Prop := isFinite x = true → isFinite (secondPower x) = true

/-- When a number can be squared. -/
theorem exists_square_iff (x : Float) : (∃ y, square x = .ok y) ↔ HasSquare x := by
  rw [square, HasSquare]
  cases isFinite x <;> cases isFinite (secondPower x) <;> simp

/-- A number can be raised to an integer when it is finite. -/
theorem exists_ceiling_iff (x : Float) : (∃ n, ceiling x = .ok n) ↔ isFinite x = true := by
  rw [ceiling, isFinite]
  cases Decimal.parts x <;> simp

end FloatScalar

namespace Arc

open Scalar

variable {turn : Turn} {start stop center : Vec2 Float} {radius turned : Float} {divisions : Amount Float}

/-- The size of a radius and half the chord have squares, where both are used. -/
def Squarable (start stop : Vec2 Float) (radius : Float) : Prop :=
  ∀ half, less (magnitude radius) tiny = false → halfChord? (hypot (stop.a - start.a) (stop.b - start.b)) (magnitude radius) = some half →
    (FloatScalar.HasSquare (magnitude radius) ∧ FloatScalar.HasSquare half)

/-- The number of chords that a sweep takes, before it is rounded up, is finite. -/
def Countable (turned : Float) (divisions : Amount Float) : Prop :=
  ∃ d, divisions.atLeastOne.value = .ok d ∧ FloatScalar.isFinite (d * magnitude turned / fullTurn) = true

/-- A center is looked for when the chord and the radius can be squared. -/
theorem exists_centerOfRadius_iff :
    (∃ center, centerOfRadius turn start stop radius = .ok center) ↔ Squarable start stop radius := by
  unfold centerOfRadius Squarable
  simp only
  cases hsmall : less (magnitude radius) tiny with
  | true => simp [pure, Except.pure]
  | false =>
    simp only [Bool.false_eq_true, if_false]
    cases hhalf : halfChord? (hypot (stop.a - start.a) (stop.b - start.b)) (magnitude radius) with
    | none => simp [pure, Except.pure]
    | some half =>
      have hsquare : ∀ x : Float, (∃ y, square x = .ok y) ↔ FloatScalar.HasSquare x := FloatScalar.exists_square_iff
      simp only [exists_bind_iff, hsquare, Option.some.injEq, forall_eq', forall_const]
      constructor
      · rintro ⟨hsize, hrest⟩
        obtain ⟨a, ha⟩ := (hsquare _).2 hsize
        exact ⟨hsize, (hrest a ha).1⟩
      · rintro ⟨hsize, hchord⟩
        exact ⟨hsize, fun _ _ => ⟨hchord, fun _ _ => ⟨_, rfl⟩⟩⟩

/-- The chords are counted when their count is finite. -/
theorem exists_chordCount_iff : (∃ n, chordCount turned divisions = .ok n) ↔ Countable turned divisions := by
  have hceiling : ∀ x : Float, (∃ n, ceiling x = .ok n) ↔ FloatScalar.isFinite x = true := FloatScalar.exists_ceiling_iff
  unfold chordCount Countable
  simp only [exists_bind_iff, hceiling]
  constructor
  · rintro ⟨⟨d, hd⟩, h⟩
    exact ⟨d, hd, (h d hd).1⟩
  · rintro ⟨d, hd, hfinite⟩
    refine ⟨⟨d, hd⟩, fun d' hd' => ⟨?_, fun _ _ => ⟨_, rfl⟩⟩⟩
    rwa [← Except.ok.inj (hd.symm.trans hd')]

/-- An arc is split when its chords can be counted. -/
theorem exists_tessellate_iff :
    (∃ chords, tessellate turn start stop center divisions = .ok chords) ↔ Countable (sweep turn start stop center) divisions := by
  unfold tessellate
  rw [← exists_chordCount_iff, exists_bind_iff]
  exact and_iff_left fun pieces _ => ⟨_, rfl⟩

end Arc

/-! ## Ending a line -/

/-- A line asks for an arc: by its own motion command, or by the modal one if the line has no command. -/
def Line.AsksArc (l : Line) (modal : Option Motion) (turn : Arc.Turn) : Prop :=
  l.hasAxes = true ∧ l.motion.or (if l.named || l.excluded then none else modal) = some (.arc turn)

namespace Extraction

open Progress

variable {s : Settings} {e : Extraction} {m : Machine} {turn : Arc.Turn} {l : Line}

/-- The numbers that drawing an arc takes can be computed: the squares of its radius, if it has one, and the number of its chords. -/
structure ArcInRange (s : Settings) (m : Machine) (turn : Arc.Turn) (l : Line) : Prop where
  radius : ∀ r, l.arc.r = some r →
    Arc.Squarable (m.plane.project m.position) (m.plane.project (target m l.axes)) r
  chords : ∀ center,
    arcCenter m.plane turn l.arc (m.plane.project m.position) (m.plane.project (target m l.axes)) = .ok (some center) →
      apart (m.plane.project m.position) center = true →
        Arc.Countable (Arc.sweep turn (m.plane.project m.position) (m.plane.project (target m l.axes)) center) s.divisions

/-- The center of a line is found, or found not to be there, when its radius can be squared. -/
theorem exists_arcCenter_iff {plane : Plane} {w : ArcWords} {start stop : Vec2 Float} :
    (∃ center, arcCenter plane turn w start stop = .ok center) ↔ ∀ r, w.r = some r → Arc.Squarable start stop r := by
  unfold arcCenter
  cases w.r with
  | none => simp
  | some r => simpa using Arc.exists_centerOfRadius_iff

/-- An arc is drawn when it is in range. -/
theorem exists_moveArc_iff : (∃ e', e.moveArc s turn l (target e.machine l.axes) = .ok e') ↔ ArcInRange s e.machine turn l := by
  unfold moveArc
  simp only
  rw [exists_bind_iff, exists_arcCenter_iff]
  constructor
  · rintro ⟨hradius, hrest⟩
    refine ⟨hradius, fun center hcenter hapart => ?_⟩
    have hdrawn := hrest _ hcenter
    rw [Option.filter_some, if_pos hapart] at hdrawn
    exact Arc.exists_tessellate_iff.1 (exists_bind_iff.1 hdrawn).1
  · rintro ⟨hradius, hchords⟩
    refine ⟨hradius, fun center? hcenter => ?_⟩
    split
    · exact ⟨_, rfl⟩
    · rename_i center hfilter
      obtain ⟨rfl, hapart⟩ := Option.filter_eq_some_iff.1 hfilter
      exact exists_bind_iff.2 ⟨Arc.exists_tessellate_iff.2 (hchords center hcenter hapart), fun _ _ => ⟨_, rfl⟩⟩

/-- A line is performed when any arc that it draws is in range. -/
theorem exists_perform_iff {motion : Motion} :
    (∃ e', perform s l e motion = .ok e') ↔ ∀ turn, motion = .arc turn → l.hasAxes = true → ArcInRange s e.machine turn l := by
  unfold perform
  cases hl : l.hasAxes with
  | false => simp
  | true =>
    cases motion with
    | rapid | linear => simp
    | arc turn => simpa using exists_moveArc_iff

/-- Which command is modal does not matter to an arc. -/
theorem arcInRange_setMotion {modal : Option Motion} : ArcInRange s { m with motion := modal } turn l ↔ ArcInRange s m turn l :=
  ⟨fun h => ⟨h.radius, h.chords⟩, fun h => ⟨h.radius, h.chords⟩⟩

/-- Ending a line can fail only when it asks for an arc. -/
theorem exists_finishLine_iff :
    (∃ e', e.finishLine s l = .ok e') ↔ ∀ turn, l.AsksArc e.machine.motion turn → ArcInRange s e.machine turn l := by
  unfold finishLine Line.AsksArc
  cases l.motion with
  | some motion =>
    simp only [attempt, exists_mapError_iff, exists_perform_iff, arcInRange_setMotion, Option.some_or, Option.some.injEq]
    exact forall_congr' fun turn => ⟨fun h ⟨ha, hm⟩ => h hm ha, fun h hm ha => h ⟨ha, hm⟩⟩
  | none =>
    dsimp only
    rw [Option.none_or]
    cases ha : l.hasAxes with
    | false => simp
    | true =>
      cases hown : l.named || l.excluded with
      | true =>
        rw [if_neg (by grind)]
        simp
      | false =>
        rw [if_pos (by grind)]
        cases e.machine.motion with
        | none => simp
        | some motion => simp [attempt, exists_mapError_iff, exists_perform_iff, ha]

/-- The arc that a line of a program asks for, if it asks for one, can be drawn behind a path. -/
def DrawsInRange (s : Settings) (e : Extraction) (src : SourceLine) : Prop :=
  ∀ p, readLine s e src = .ok p → ∀ turn, p.line.AsksArc p.path.machine.motion turn → ArcInRange s p.path.machine turn p.line

/-- A line is added when it is legible and draws only what is in range. -/
theorem exists_addLine_iff {src : SourceLine} (hsrc : '\n' ∉ src.text) :
    (∃ e', addLine s e src = .ok e') ↔ Token.Legible (Token.ofText src.text) ∧ DrawsInRange s e src := by
  rw [addLine_eq, exists_bind_iff, exists_readLine_iff hsrc]
  simp only [exists_finishLine_iff, DrawsInRange]

/-- An extraction returns when every command in front of a remark can be read, and every arc that it comes to can be drawn. -/
theorem returns_iff (s : Settings) (text : List Char) :
    (∃ e, ofText s text = .ok e) ↔
      (∀ src ∈ linesOf text, ∀ t ∈ Token.spoken (Token.ofText src), t.kind = .command → Code.Readable t.text) ∧
      ∀ done src rest, SourceLine.numbered 1 0 (linesOf text) = done ++ src :: rest →
        ∀ e, done.foldlM (addLine s) {} = .ok e → DrawsInRange s e src := by
  have htexts := SourceLine.map_text_numbered 1 0 (linesOf text)
  have hsrc : ∀ src ∈ SourceLine.numbered 1 0 (linesOf text), '\n' ∉ src.text := by
    intro src hmem
    exact newline_not_mem_of_mem_linesOf (htexts ▸ List.mem_map_of_mem hmem)
  have hlegible : (∀ src ∈ SourceLine.numbered 1 0 (linesOf text), Token.Legible (Token.ofText src.text)) ↔
      ∀ src ∈ linesOf text, Token.Legible (Token.ofText src) := by
    rw [← htexts, List.forall_mem_map, htexts]
  have hpass := exists_foldlM_iff_and (Q := fun src : SourceLine => Token.Legible (Token.ofText src.text)) (R := DrawsInRange s) (b := {})
    fun e src hmem => exists_addLine_iff (hsrc src hmem)
  rw [ofText_eq_addLines, hpass, hlegible]
  rfl

/-- A superscript counts as a digit and has no decimal value: it stops the extraction. -/
theorem stopped_by_superscript :
    ∃ s i, Settings.ofValues [] .null (.int 64) = .ok s ∧ ofText s "G²".toList = .error i ∧ i.fault = .malformedInteger := by
  have hs : Settings.ofValues [] .null (.int 64) = .ok ⟨[], none, .whole 64⟩ := rfl
  have hfault : ((ofText ⟨[], none, .whole 64⟩ "G²".toList).mapError (·.fault)).map (·.segmentCount) = .error .malformedInteger := by
    decide +kernel
  cases h : ofText ⟨[], none, .whole 64⟩ "G²".toList with
  | ok e =>
    rw [h] at hfault
    cases hfault
  | error i =>
    rw [h] at hfault
    exact ⟨_, i, hs, h, Except.error.inj hfault⟩

end Extraction

end ToolpathViewer
