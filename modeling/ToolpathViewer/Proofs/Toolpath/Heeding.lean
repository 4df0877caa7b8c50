import ToolpathViewer.Proofs.Token.Replacing
import ToolpathViewer.Proofs.Toolpath.Edits
import ToolpathViewer.Proofs.Toolpath.Simulation

/-!
# Lines without positions

What a line does to a path does not depend on where its tokens stand, only what is reported about them does. `Line.heed` reads a word for
what it asks, wherever it stands: it changes what has been gathered of the line, and the plane. Reading the tokens of a line goes along
with heeding their texts one after the other (`corresponds_readTokens`), so that two lines do the same to a path when heeding them leaves
the same, or at least something that ends alike (`corresponds_addLine`).
-/

namespace ToolpathViewer

open Text

namespace Line

/-- What a command makes of a line and the plane. -/
def obey (x : List (List Char)) (code : List Char) (st : Line × Plane) : Line × Plane :=
  if x.contains code then ({ st.1 with excluded := true }, st.2)
  else
    match Motion.ofCode? code with
    | some m => ({ st.1 with named := true, motion := some m }, st.2)
    | none => ({ st.1 with named := true }, (Plane.ofCode? code).getD st.2)

/-- What a coordinate makes of a line: it keeps the value, if its letter has a place and the value is a number. -/
def keep (c : Char) (value : List Char) (l : Line) : Line :=
  match store? (upperChar c), Decimal.readDecimal? value with
  | some store, some v => store v l
  | _, _ => l

/-- Reads a word for what it asks of a line and the plane. Of all words, only commands and coordinates ask anything. -/
def heed (x : List (List Char)) (st : Line × Plane) (word : List Char) : Except Fault (Line × Plane) :=
  match word with
  | [] => .ok st
  | c :: value =>
    match Token.Kind.ofFirst c with
    | .command => return obey x (← Code.normalize word) st
    | .coordinate => .ok (keep c value st.1, st.2)
    | .comment | .number | .word | .space | .bad => .ok st

variable {x : List (List Char)} {l : Line} {plane : Plane} {st st' : Line × Plane} {t : Token} {c : Char} {value word : List Char}

/-- A command is heeded by its code. -/
theorem heed_command (hk : Token.Kind.ofFirst c = .command) :
    heed x st (c :: value) = Code.normalize (c :: value) >>= fun code => .ok (obey x code st) := by
  rw [heed, hk]
  rfl

/-- A coordinate is heeded by its value. -/
theorem heed_coordinate (hk : Token.Kind.ofFirst c = .coordinate) : heed x st (c :: value) = .ok (keep c value st.1, st.2) := by
  rw [heed, hk]

/-- Any other word is not heeded. -/
theorem heed_of_ne (hcommand : Token.Kind.ofFirst c ≠ .command) (hcoordinate : Token.Kind.ofFirst c ≠ .coordinate) :
    heed x st (c :: value) = .ok st := by
  rw [heed]
  split <;> first | contradiction | rfl

/-- A coordinate changes the axes and the arc words of a line, each by itself, and nothing else of it. -/
theorem keep_eq (c : Char) (value : List Char) :
    ∃ (axes : AxisWords → AxisWords) (arc : ArcWords → ArcWords), ∀ l, keep c value l = { l with axes := axes l.axes, arc := arc l.arc } := by
  unfold keep
  cases hstore : store? (upperChar c) with
  | none => exact ⟨id, id, fun _ => rfl⟩
  | some store =>
    cases Decimal.readDecimal? value with
    | none => exact ⟨id, id, fun _ => rfl⟩
    | some v =>
      obtain ⟨axes, arc, hkeeps⟩ := store?_eq hstore
      exact ⟨axes v, arc v, hkeeps v⟩

/-- A command changes the notes of a line on its commands, and leaves the axes and the arc words alone. -/
theorem obey_eq (x : List (List Char)) (code : List Char) :
    ∃ (named excluded : Bool → Bool) (motion : Option Motion → Option Motion) (select : Plane → Plane), ∀ st,
      obey x code st = ({ st.1 with named := named st.1.named, excluded := excluded st.1.excluded, motion := motion st.1.motion },
        select st.2) := by
  unfold obey
  split
  · exact ⟨id, fun _ => true, id, id, fun _ => rfl⟩
  · cases Motion.ofCode? code with
    | some m => exact ⟨fun _ => true, id, fun _ => some m, id, fun _ => rfl⟩
    | none => exact ⟨fun _ => true, id, id, (Plane.ofCode? code).getD, fun _ => rfl⟩

/-- Heeding a word does not silence the line. -/
theorem silenced_heed (h : heed x st word = .ok st') : st'.1.silenced = st.1.silenced := by
  cases word with
  | nil =>
    obtain rfl := Except.ok.inj h
    rfl
  | cons c value =>
    by_cases hcommand : Token.Kind.ofFirst c = .command
    · rw [heed_command hcommand] at h
      obtain ⟨code, -, h⟩ := bind_eq_ok.1 h
      obtain rfl := Except.ok.inj h
      obtain ⟨named, excluded, motion, select, hobey⟩ := obey_eq x code
      rw [hobey]
    · by_cases hcoordinate : Token.Kind.ofFirst c = .coordinate
      · rw [heed_coordinate hcoordinate] at h
        obtain rfl := Except.ok.inj h
        obtain ⟨axes, arc, hkeep⟩ := keep_eq c value
        rw [hkeep]
      · rw [heed_of_ne hcommand hcoordinate] at h
        obtain rfl := Except.ok.inj h
        rfl

/-- Reading a command does to a line what heeding its text does. -/
theorem readCommand_eq_heed (hk : Token.Kind.ofFirst c = .command) (ht : t.text = c :: value) :
    (l.readCommand x plane t).map (fun r => (r.line, r.plane)) = heed x (l, plane) t.text := by
  rw [ht, heed_command hk, readCommand, ht]
  cases Code.normalize (c :: value) with
  | error fault => rfl
  | ok code =>
    simp only [ok_bind, obey]
    split
    · rfl
    · cases Motion.ofCode? code <;> rfl

/-- Reading a coordinate does to a line what heeding its text does. -/
theorem readCoordinate_eq_heed (hk : Token.Kind.ofFirst c = .coordinate) (ht : t.text = c :: value) :
    (l.readCoordinate plane t).map (fun r => (r.line, r.plane)) = heed x (l, plane) t.text := by
  rw [ht, heed_coordinate hk, readCoordinate, ht, keep]
  dsimp only
  cases store? (upperChar c) with
  | none => rfl
  | some store => cases Decimal.readDecimal? value <;> rfl

/-- Reading a token makes of the line and the plane what heeding its text does, unless the token makes the rest of the line a remark. -/
theorem read_eq_heed (hl : l.silenced = false) (hk : Token.Kind.ofFirst c = t.kind) (ht : t.text = c :: value)
    (hs : t.silences = false) : (l.read x plane t).map (fun r => (r.line, r.plane)) = heed x (l, plane) t.text := by
  rw [read, if_neg (by simp [hl])]
  cases hkind : t.kind with
  | command => exact readCommand_eq_heed (hk.trans hkind) ht
  | coordinate => exact readCoordinate_eq_heed (hk.trans hkind) ht
  | word =>
    rw [ht, heed_of_ne (by rw [hk, hkind]; decide) (by rw [hk, hkind]; decide)]
    have hsemicolon : (t.text.head? == some ';') = false := by simpa [Token.silences, hkind] using hs
    simp only [readWord, hsemicolon, Bool.false_eq_true, if_false]
    split <;> rfl
  | comment | number | space | bad =>
    rw [ht, heed_of_ne (by rw [hk, hkind]; decide) (by rw [hk, hkind]; decide)]
    rfl

end Line

namespace Extraction

variable {s : Settings} {e e' : Extraction} {st st' : Line × Plane} {p p' : Progress} {t : Token} {ts : List Token}

/-! ## Reading and heeding -/

/-- The path with its machine in a plane. -/
def onPlane (e : Extraction) (plane : Plane) : Extraction := { e with machine := { e.machine with plane } }

/-- A run that set out from a path has come to a line and a plane: apart from problems on the way, nothing else has changed. -/
structure Tracks (e : Extraction) (st : Line × Plane) (p : Progress) : Prop where
  silenced : st.1.silenced = false
  line : p.line = st.1
  path : Agree (e.onPlane st.2) p.path

/-- Tokens as a scan gives them that mean something to their line. -/
def Plain (t : Token) : Prop := (∃ c value, t.text = c :: value ∧ Token.Kind.ofFirst c = t.kind) ∧ t.kind ≠ .space ∧ t.silences = false

/-- The tokens that are heard on a line are plain. -/
theorem plain_of_mem_heard {start : Int} {text : List Char} (h : t ∈ Token.heard (Token.scan start text)) : Plain t :=
  ⟨(Token.tiling_scan start text).opens t (Token.mem_of_mem_heard h), Token.of_mem_heard h⟩

/-- Reading a token goes along with heeding its text. -/
theorem Tracks.readToken (h : Tracks e st p) (ht : Plain t) :
    Corresponds (Tracks e) (Line.heed s.excluded st t.text) (Progress.readToken s p t) := by
  obtain ⟨⟨c, value, htext, hfirst⟩, hspace, hs⟩ := ht
  have hplane : p.path.machine.plane = st.2 := by rw [h.path.machine, onPlane]
  have hread : (st.1.read s.excluded st.2 t).map (fun r => (r.line, r.plane)) = Line.heed s.excluded st t.text :=
    Line.read_eq_heed h.silenced hfirst htext hs
  rw [Progress.readToken, if_neg (by simpa using hspace), h.line, hplane]
  cases hr : st.1.read s.excluded st.2 t with
  | error fault =>
    rw [hr] at hread
    rw [← show Except.error fault = Line.heed s.excluded st t.text from hread]
    exact .fail _ _
  | ok r =>
    rw [hr] at hread
    have hheed : Line.heed s.excluded st t.text = .ok (r.line, r.plane) := hread.symm
    have hsilenced : r.line.silenced = false := (Line.silenced_heed hheed).trans h.silenced
    rw [hheed]
    refine .ok ⟨hsilenced, rfl, ?_, h.path.movements, h.path.dropped⟩
    dsimp only
    rw [h.path.machine]
    rfl

/-- Reading tokens goes along with heeding their texts. -/
theorem corresponds_readTokens (hts : ∀ t ∈ ts, Plain t) (h : Tracks e st p) :
    Corresponds (Tracks e) ((ts.map Token.text).foldlM (Line.heed s.excluded) st) (ts.foldlM (Progress.readToken s) p) := by
  have hpairs : List.Forall₂ (fun word t => word = Token.text t ∧ Plain t) (ts.map Token.text) ts := by
    rw [List.forall₂_map_left_iff, List.forall₂_same]
    exact fun t ht => ⟨rfl, hts t ht⟩
  refine Corresponds.foldlM hpairs ?_ h
  rintro st p _ t hp ⟨rfl, ht⟩
  exact hp.readToken ht

/-- What heeding a line leaves, before its end. -/
def heedLine (x : List (List Char)) (plane : Plane) (src : SourceLine) : Except Fault (Line × Plane) :=
  ((Token.heard (Token.scan src.start src.text)).map Token.text).foldlM (Line.heed x) ({ number := src.number, start := src.start }, plane)

/-- Lines do the same to paths that agree when what is left of heeding them ends alike. -/
theorem corresponds_addLine {src src' : SourceLine} (hsrc : '\n' ∉ src.text) (hsrc' : '\n' ∉ src'.text) (h : Agree e e')
    {S : Line × Plane → Line × Plane → Prop}
    (hheed : Corresponds S (heedLine s.excluded e.machine.plane src) (heedLine s.excluded e.machine.plane src'))
    (hend : ∀ st st', S st st' → ∀ r r', Agree (e.onPlane st.2) r → Agree (e'.onPlane st'.2) r' →
      Corresponds Agree (r.finishLine s st.1) (r'.finishLine s st'.1)) :
    Corresponds Agree (addLine s e src) (addLine s e' src') := by
  have hread : ∀ (e : Extraction) (src : SourceLine), Corresponds (Tracks e) (heedLine s.excluded e.machine.plane src)
      ((Token.heard (Token.scan src.start src.text)).foldlM (Progress.readToken s)
        { path := e, line := { number := src.number, start := src.start } }) := fun e src =>
    corresponds_readTokens (fun _ ht => plain_of_mem_heard ht) ⟨rfl, rfl, Agree.refl e⟩
  have hread' := hread e' src'
  rw [h.machine] at hread'
  rw [addLine_eq_heard hsrc, addLine_eq_heard hsrc']
  refine (hheed.join (hread e src) hread').bind ?_
  rintro q q' ⟨st, st', hst, hq, hq'⟩
  rw [hq.line, hq'.line]
  exact hend st st' hst _ _ hq.path hq'.path

/-- Lines do the same to paths that agree when heeding them leaves the same. -/
theorem corresponds_addLine_of_eq {src src' : SourceLine} (hsrc : '\n' ∉ src.text) (hsrc' : '\n' ∉ src'.text) (h : Agree e e')
    (hheed : heedLine s.excluded e.machine.plane src' = heedLine s.excluded e.machine.plane src) :
    Corresponds Agree (addLine s e src) (addLine s e' src') := by
  refine corresponds_addLine hsrc hsrc' h (S := Eq) (hheed ▸ .refl (fun _ => rfl) _) ?_
  rintro st _ rfl r r' hr hr'
  have hplanes : Agree (e.onPlane st.2) (e'.onPlane st.2) := by
    refine ⟨?_, h.movements, h.dropped⟩
    rw [onPlane, onPlane, h.machine]
  exact ((hr.symm.trans hplanes).trans hr').corresponds_finishLine st.1

end Extraction

end ToolpathViewer
