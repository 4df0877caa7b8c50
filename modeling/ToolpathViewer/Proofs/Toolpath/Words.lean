import ToolpathViewer.Proofs.Outcome
import ToolpathViewer.Proofs.Token.Lines
import ToolpathViewer.Toolpath.Extraction

/-!
# What a token does to a line

`Line.Reads` lists all that reading one token can do to the line that is being gathered, with what the token must be for it.
Reading tokens moves nothing: the path keeps its movements, and the machine its position and its motion command, until the line ends
(`readToken_of_not_mem`).
-/

namespace ToolpathViewer

open Text

namespace Token

/-- A word that makes the rest of its line a remark. -/
def silences (t : Token) : Bool := t.kind == .word && t.text.head? == some ';'

/-- The letters of the axes. -/
def axisLetters : List Char := ['X', 'Y', 'Z']

/-- A coordinate of an axis whose value is a number. -/
def givesAxis (t : Token) : Bool :=
  t.kind == .coordinate &&
    match t.text with
    | [] => false
    | c :: value => isOneOf axisLetters c && (Decimal.readDecimal? value).isSome

end Token

namespace Line

variable {x : List (List Char)} {l : Line} {plane : Plane} {t : Token} {r : Read}

/-- What reading a token makes of a line, when the commands of `x` are left out. -/
inductive Reads (x : List (List Char)) (l : Line) (t : Token) : Line → Prop where
  /-- The token means nothing, or cannot be read. -/
  | skip (h : l.silenced = true ∨ t.silences = false) : Reads x l t l
  /-- The rest of the line is a remark. -/
  | silence (hl : l.silenced = false) (ht : t.silences = true) : Reads x l t { l with silenced := true }
  /-- The token is a command that is left out. -/
  | exclude (hl : l.silenced = false) (ht : t.kind = .command) : Reads x l t { l with excluded := true }
  /-- The token is another command, perhaps for a motion. -/
  | command (code : List Char) (hl : l.silenced = false) (ht : t.kind = .command) (hcode : code ∉ x) :
    Reads x l t { l with named := true, motion := (Motion.ofCode? code).or l.motion }
  /-- The token gives a value that the line keeps. -/
  | value (c : Char) (text : List Char) (store : Float → Line → Line) (v : Float) (hl : l.silenced = false)
    (ht : t.kind = .coordinate) (htext : t.text = c :: text) (hstore : store? (upperChar c) = some store)
    (hv : Decimal.readDecimal? text = some v) : Reads x l t (store v l)

/-- Only words make the rest of a line a remark. -/
theorem silences_of_kind_ne {t : Token} (h : t.kind ≠ .word) : t.silences = false := by
  simp [Token.silences, h]

/-- What reading a command does to a line. -/
theorem reads_of_readCommand (hl : l.silenced = false) (ht : t.kind = .command) (h : l.readCommand x plane t = .ok r) :
    Reads x l t r.line := by
  obtain ⟨code, -, h⟩ := bind_eq_ok.1 h
  simp only at h
  split at h
  · obtain rfl := Except.ok.inj h
    exact .exclude hl ht
  · rename_i hx
    have hcode : code ∉ x := fun hmem => hx (List.contains_iff_mem.2 hmem)
    have hcmd := Reads.command (l := l) (t := t) code hl ht hcode
    split at h
    · rename_i m hm
      obtain rfl := Except.ok.inj h
      simpa [hm] using hcmd
    · rename_i hm
      obtain rfl := Except.ok.inj h
      simpa [hm] using hcmd

/-- What reading a coordinate does to a line. -/
theorem reads_of_readCoordinate (hl : l.silenced = false) (ht : t.kind = .coordinate)
    (h : l.readCoordinate plane t = .ok r) : Reads x l t r.line := by
  have hskip : Reads x l t l := .skip (Or.inr (silences_of_kind_ne (by rw [ht]; decide)))
  unfold readCoordinate at h
  split at h
  · cases h
  · rename_i c text htext
    split at h
    · obtain rfl := Except.ok.inj h
      exact hskip
    · rename_i store hstore
      split at h
      · rename_i v hv
        obtain rfl := Except.ok.inj h
        exact .value c text store v hl ht htext hstore hv
      · obtain rfl := Except.ok.inj h
        exact hskip

/-- What reading a word does to a line. -/
theorem reads_readWord (hl : l.silenced = false) (ht : t.kind = .word) : Reads x l t (l.readWord plane t).line := by
  unfold readWord
  split
  · rename_i hsemi
    exact .silence hl (by simp [Token.silences, ht, hsemi])
  · rename_i hsemi
    have hskip : Reads x l t l := .skip (Or.inr (by simp [Token.silences, hsemi]))
    split <;> exact hskip

/-- Reading a token does one of the things that `Reads` lists. -/
theorem reads_of_read (h : l.read x plane t = .ok r) : Reads x l t r.line := by
  unfold read at h
  by_cases hs : l.silenced = true
  · rw [if_pos hs] at h
    obtain rfl := Except.ok.inj h
    exact .skip (Or.inl hs)
  · rw [if_neg hs] at h
    have hl : l.silenced = false := Bool.eq_false_iff.2 hs
    cases hk : t.kind with
    | command => exact reads_of_readCommand hl hk (by simpa [hk] using h)
    | coordinate => exact reads_of_readCoordinate hl hk (by simpa [hk] using h)
    | word =>
      simp only [hk, Except.ok.injEq] at h
      exact h ▸ reads_readWord hl hk
    | comment | number | space | bad =>
      simp only [hk, Except.ok.injEq] at h
      subst h
      exact .skip (Or.inr (silences_of_kind_ne (by rw [hk]; decide)))

/-- Storing a value changes the axes and the arc words of a line, each by itself, and nothing else of it. -/
theorem store?_eq {letter : List Char} {store : Float → Line → Line} (h : store? letter = some store) :
    ∃ (axes : Float → AxisWords → AxisWords) (arc : Float → ArcWords → ArcWords),
      ∀ v l, store v l = { l with axes := axes v l.axes, arc := arc v l.arc } := by
  unfold store? at h
  split at h
  · obtain rfl := Option.some.inj h
    exact ⟨fun v a => { a with x := some v }, fun _ w => w, fun _ _ => rfl⟩
  · obtain rfl := Option.some.inj h
    exact ⟨fun v a => { a with y := some v }, fun _ w => w, fun _ _ => rfl⟩
  · obtain rfl := Option.some.inj h
    exact ⟨fun v a => { a with z := some v }, fun _ w => w, fun _ _ => rfl⟩
  · obtain rfl := Option.some.inj h
    exact ⟨fun _ a => a, fun v w => { w with i := some v }, fun _ _ => rfl⟩
  · obtain rfl := Option.some.inj h
    exact ⟨fun _ a => a, fun v w => { w with j := some v }, fun _ _ => rfl⟩
  · obtain rfl := Option.some.inj h
    exact ⟨fun _ a => a, fun v w => { w with k := some v }, fun _ _ => rfl⟩
  · obtain rfl := Option.some.inj h
    exact ⟨fun _ a => a, fun v w => { w with r := some v }, fun _ _ => rfl⟩
  · cases h

/-- What storing a value leaves as it was, and whose values count as axes. -/
theorem store?_spec {letter : List Char} {store : Float → Line → Line} (h : store? letter = some store) (v : Float)
    (l : Line) :
    (store v l).number = l.number ∧ (store v l).start = l.start ∧ (store v l).motion = l.motion ∧
      (store v l).silenced = l.silenced ∧
      ((store v l).hasAxes = true → l.hasAxes = true ∨ letter = ['X'] ∨ letter = ['Y'] ∨ letter = ['Z']) := by
  unfold store? at h
  split at h <;> first
    | (obtain rfl := Option.some.inj h; simp [hasAxes])
    | cases h

/-- Reading a token keeps the number of the line. -/
theorem Reads.number_eq {l' : Line} (h : Reads x l t l') : l'.number = l.number := by
  cases h with
  | value c text store v hl ht htext hstore hv => exact (store?_spec hstore v l).1
  | skip | silence | exclude | command => rfl

/-- Reading a token keeps the start of the line. -/
theorem Reads.start_eq {l' : Line} (h : Reads x l t l') : l'.start = l.start := by
  cases h with
  | value c text store v hl ht htext hstore hv => exact (store?_spec hstore v l).2.1
  | skip | silence | exclude | command => rfl

/-- Reading a token makes the rest of the line a remark only if the token does so. -/
theorem Reads.silenced_eq {l' : Line} (h : Reads x l t l') : l'.silenced = (l.silenced || t.silences) := by
  cases h with
  | skip h => rcases h with h | h <;> simp [h]
  | silence hl ht => simp [ht]
  | exclude hl ht | command code hl ht hcode =>
    have hs : t.silences = false := silences_of_kind_ne (by rw [ht]; decide)
    simp [hs]
  | value c text store v hl ht htext hstore hv =>
    have hs : t.silences = false := silences_of_kind_ne (by rw [ht]; decide)
    simp [hs, (store?_spec hstore v l).2.2.2.1]

end Line

namespace Extraction

open Progress

/-- The second path is as far as the first one: only the plane and the diagnostics may differ. -/
structure SamePath (e e' : Extraction) : Prop where
  movements : e'.movements = e.movements
  dropped : e'.dropped = e.dropped
  position : e'.machine.position = e.machine.position
  motion : e'.machine.motion = e.machine.motion

/-- A path is the same as itself. -/
theorem SamePath.refl (e : Extraction) : SamePath e e := ⟨rfl, rfl, rfl, rfl⟩

/-- Being the same path is transitive. -/
theorem SamePath.trans {e e' e'' : Extraction} (h : SamePath e e') (h' : SamePath e' e'') : SamePath e e'' :=
  ⟨h'.movements.trans h.movements, h'.dropped.trans h.dropped, h'.position.trans h.position, h'.motion.trans h.motion⟩

/-- Without line ends among them, spaces change nothing. -/
theorem readSpace_of_not_mem (s : Settings) {text : List Char} (h : '\n' ∉ text) (start : Int) (p : Progress) :
    readSpace s start text p = .ok p := by
  induction text generalizing start with
  | nil => rfl
  | cons c text ih =>
    obtain ⟨hc, ht⟩ := not_or.1 (mt List.mem_cons.2 h)
    have hc' : (c == '\n') = false := beq_eq_false_iff_ne.2 (Ne.symm hc)
    simp only [readSpace, hc', Bool.false_eq_true, if_false]
    exact ih ht _

/-- A token without a line end is read into the line, and the path stays where it is. -/
theorem readToken_of_not_mem {s : Settings} {p q : Progress} {t : Token} (ht : '\n' ∉ t.text)
    (h : readToken s p t = .ok q) : SamePath p.path q.path ∧ Line.Reads s.excluded p.line t q.line := by
  unfold readToken at h
  split at h
  · rename_i hk
    rw [readSpace_of_not_mem s ht] at h
    obtain rfl := Except.ok.inj h
    exact ⟨SamePath.refl _, .skip (Or.inr (Line.silences_of_kind_ne (by rw [beq_iff_eq.1 hk]; decide)))⟩
  · split at h
    · cases h
    · rename_i r hr
      obtain rfl := Except.ok.inj h
      exact ⟨⟨rfl, rfl, rfl, rfl⟩, Line.reads_of_read hr⟩

/-- Reading tokens without line ends keeps the path and the number of the line. -/
theorem foldlM_readToken_samePath {s : Settings} {ts : List Token} {p q : Progress} (hts : ∀ t ∈ ts, '\n' ∉ t.text)
    (h : ts.foldlM (readToken s) p = .ok q) : SamePath p.path q.path ∧ q.line.number = p.line.number := by
  refine foldlM_invariant (fun _ q => SamePath p.path q.path ∧ q.line.number = p.line.number) ?_ ⟨SamePath.refl _, rfl⟩ h
  intro t ht _ b b' hb hread
  obtain ⟨hpath, hreads⟩ := readToken_of_not_mem (hts t ht) hread
  exact ⟨hb.1.trans hpath, hreads.number_eq.trans hb.2⟩

end Extraction

end ToolpathViewer
