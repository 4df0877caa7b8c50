import ToolpathViewer.Proofs.Toolpath.ByLine

/-!
# Extractions that run alike

Two extractions of one text run alike when the paths of the second are images of the paths of the first: an image under a map that
goes along with the few things that an extraction does to a path (`Simulates`). What happens to the path of a text then follows from
what the map does to one movement and one diagnostic. Where the text stands in a longer one does not matter: columns count from the
start of a line. Neither does what was found before: paths that differ in nothing else (`Agree`) are images of one path.
-/

namespace ToolpathViewer

/-! ## Lines that stand elsewhere -/

/-- A moved token keeps its kind. -/
@[simp] theorem Token.kind_shift (k : Int) (t : Token) : (t.shift k).kind = t.kind := rfl

/-- A moved token keeps its text. -/
@[simp] theorem Token.text_shift (k : Int) (t : Token) : (t.shift k).text = t.text := rfl

namespace Line

/-- A line that starts a distance further on. -/
def shift (k : Int) (l : Line) : Line := { l with start := l.start + k }

/-- What a token leaves of a line that starts a distance further on. -/
def Read.shift (k : Int) (r : Read) : Read := { r with line := r.line.shift k }

/-- A line that is moved nowhere stays. -/
theorem shift_zero (l : Line) : l.shift 0 = l := by
  rw [shift, Int.add_zero]

/-- A moved line keeps its motion. -/
@[simp] theorem motion_shift (k : Int) (l : Line) : (l.shift k).motion = l.motion := rfl

/-- A moved line names a command as before. -/
@[simp] theorem named_shift (k : Int) (l : Line) : (l.shift k).named = l.named := rfl

/-- A moved line is excluded as before. -/
@[simp] theorem excluded_shift (k : Int) (l : Line) : (l.shift k).excluded = l.excluded := rfl

/-- A moved line is silenced as before. -/
@[simp] theorem silenced_shift (k : Int) (l : Line) : (l.shift k).silenced = l.silenced := rfl

/-- A moved line has values for axes as before. -/
@[simp] theorem hasAxes_shift (k : Int) (l : Line) : (l.shift k).hasAxes = l.hasAxes := rfl

/-- Columns count from the start of the line. -/
@[simp] theorem diagnostic_shift (k : Int) (l : Line) (t : Token) (message : String) :
    (l.shift k).diagnostic (t.shift k) message = l.diagnostic t message := by
  simp only [diagnostic, shift, Token.shift, Int.add_sub_add_right]

variable {x : List (List Char)} {l : Line} {plane : Plane} {t : Token}

/-- Values are stored alike in a moved line. -/
theorem store?_shift {letter : List Char} {store : Float → Line → Line} (h : store? letter = some store) (k : Int) (v : Float)
    (l : Line) : store v (l.shift k) = (store v l).shift k := by
  obtain ⟨axes, arc, hstore⟩ := store?_eq h
  rw [hstore, hstore]
  rfl

/-- Commands are read alike on a moved line. -/
theorem readCommand_shift (k : Int) :
    (l.shift k).readCommand x plane (t.shift k) = (l.readCommand x plane t).map (Read.shift k) := by
  simp only [readCommand, Token.text_shift, diagnostic_shift]
  cases Code.normalize t.text with
  | error fault => rfl
  | ok code =>
    simp only [ok_bind]
    split
    · rfl
    · split <;> rfl

/-- Coordinates are read alike on a moved line. -/
theorem readCoordinate_shift (k : Int) :
    (l.shift k).readCoordinate plane (t.shift k) = (l.readCoordinate plane t).map (Read.shift k) := by
  simp only [readCoordinate, Token.text_shift, diagnostic_shift]
  cases t.text with
  | nil => rfl
  | cons c value =>
    dsimp only
    cases hstore : store? (Text.upperChar c) with
    | none => rfl
    | some store =>
      dsimp only
      cases Decimal.readDecimal? value with
      | none => rfl
      | some v =>
        dsimp only
        rw [store?_shift hstore]
        rfl

/-- Words are read alike on a moved line. -/
theorem readWord_shift (k : Int) : (l.shift k).readWord plane (t.shift k) = (l.readWord plane t).shift k := by
  simp only [readWord, Token.text_shift, diagnostic_shift]
  split
  · rfl
  · split <;> rfl

/-- A token means the same on a line that stands elsewhere. -/
theorem read_shift (k : Int) : (l.shift k).read x plane (t.shift k) = (l.read x plane t).map (Read.shift k) := by
  unfold read
  by_cases hs : l.silenced = true
  · rw [if_pos hs, if_pos (show (l.shift k).silenced = true from hs)]
    rfl
  · rw [if_neg hs, if_neg (show ¬(l.shift k).silenced = true from hs), Token.kind_shift]
    cases t.kind with
    | command => exact readCommand_shift k
    | coordinate => exact readCoordinate_shift k
    | word => exact congrArg Except.ok (readWord_shift k)
    | comment | number | space | bad => rfl

end Line

namespace Extraction

/-! ## Images of paths -/

/-- The image of an outcome: the path up to a fault goes by the map of paths. -/
def carry {α β : Type} (F : Extraction → Extraction) (g : α → β) : Except Interruption α → Except Interruption β
  | .error i => .error { i with path := F i.path }
  | .ok a => .ok (g a)

variable {s s' : Settings} {F : Extraction → Extraction} {e e' : Extraction}

/-- Images of two computations in a row make the image of both. -/
theorem carry_bind {α β γ δ : Type} {f : α → Except Interruption β} {f' : γ → Except Interruption δ} {g : α → γ} {g' : β → δ}
    (h : ∀ a, f' (g a) = carry F g' (f a)) (x : Except Interruption α) : carry F g x >>= f' = carry F g' (x >>= f) := by
  cases x with
  | error i => rfl
  | ok a => exact h a

/-- The image of a computation returns images only. -/
theorem carry_eq_ok {α β : Type} {g : α → β} {x : Except Interruption α} {b : β} (h : carry F g x = .ok b) :
    ∃ a, x = .ok a ∧ g a = b := by
  cases x with
  | error i => cases h
  | ok a => exact ⟨a, rfl, Except.ok.inj h⟩

/-- A map of paths that goes along with what extractions do: it leaves the machine alone, and takes movements made under the first
settings to movements made under the second. -/
structure Simulates (s s' : Settings) (F : Extraction → Extraction) : Prop where
  excluded : s'.excluded = s.excluded
  divisions : s'.divisions = s.divisions
  machine : ∀ e, (F e).machine = e.machine
  setMachine : ∀ e m, F { e with machine := m } = { F e with machine := m }
  find : ∀ e ds, F { e with diagnostics := e.diagnostics ++ ds } = { F e with diagnostics := (F e).diagnostics ++ ds }
  moveTo : ∀ motion line e target, F (e.moveTo s motion line target) = (F e).moveTo s' motion line target

namespace Simulates

variable (h : Simulates s s' F)

include h

/-- A report on the image is the image of the report. -/
theorem report (e : Extraction) (line : Nat) (message : String) : F (e.report line message) = (F e).report line message := by
  simp only [Extraction.report, Array.push_eq_append]
  exact h.find e _

/-- Moves of the image are images of the moves. -/
theorem foldl_moveTo (motion : Motion) (line : Nat) (points : List (Vec3 Float)) (e : Extraction) :
    points.foldl (Extraction.moveTo s' motion line) (F e) = F (points.foldl (Extraction.moveTo s motion line) e) := by
  induction points generalizing e with
  | nil => rfl
  | cons p points ih => rw [List.foldl_cons, List.foldl_cons, ← h.moveTo, ih]

/-- An arc of the image is the image of the arc. -/
theorem moveArc (turn : Arc.Turn) (l : Line) (e : Extraction) (target : Vec3 Float) :
    (F e).moveArc s' turn l target = (e.moveArc s turn l target).map F := by
  unfold Extraction.moveArc
  simp only [h.machine, h.divisions]
  cases arcCenter e.machine.plane turn l.arc (e.machine.plane.project e.machine.position) (e.machine.plane.project target) with
  | error fault => rfl
  | ok center =>
    simp only [ok_bind]
    split
    · rw [← h.report, ← h.moveTo]
      rfl
    · rename_i c hc
      cases Arc.tessellate turn (e.machine.plane.project e.machine.position) (e.machine.plane.project target) c s.divisions with
      | error fault => rfl
      | ok chords => exact congrArg Except.ok (h.foldl_moveTo _ _ _ e)

/-- Performing a line on the image gives the image. -/
theorem perform (l : Line) (e : Extraction) (motion : Motion) :
    Extraction.perform s' l (F e) motion = (Extraction.perform s l e motion).map F := by
  unfold Extraction.perform
  rw [h.machine]
  split
  · rfl
  · split
    · exact h.moveArc _ l e _
    · exact congrArg Except.ok (h.moveTo _ _ e _).symm

/-- An attempt on the image gives the image, also of a failure. -/
theorem attempt (l : Line) (e : Extraction) (motion : Motion) :
    Extraction.attempt (F e) (Extraction.perform s' l · motion) = carry F F (Extraction.attempt e (Extraction.perform s l · motion)) := by
  rw [Extraction.attempt, Extraction.attempt, h.perform]
  cases Extraction.perform s l e motion <;> rfl

/-- Ending a line. -/
theorem finishLine (k : Int) (e : Extraction) (l : Line) : (F e).finishLine s' (l.shift k) = carry F F (e.finishLine s l) := by
  unfold Extraction.finishLine
  rw [Line.motion_shift]
  cases l.motion with
  | some motion =>
    dsimp only
    rw [h.machine, ← h.setMachine]
    exact h.attempt l _ motion
  | none =>
    dsimp only
    rw [Line.hasAxes_shift, Line.named_shift, Line.excluded_shift, h.machine]
    by_cases hmoves : (l.hasAxes && !l.named && !l.excluded) = true
    · rw [if_pos hmoves, if_pos hmoves]
      cases e.machine.motion with
      | some motion => exact h.attempt l e motion
      | none => exact congrArg Except.ok (h.report e _ _).symm
    · rw [if_neg hmoves, if_neg hmoves]
      rfl

/-! ## Runs -/

/-- The image of a path and a line in the making, when the line stands elsewhere. -/
def image (F : Extraction → Extraction) (k : Int) (p : Progress) : Progress := ⟨F p.path, p.line.shift k⟩

/-- Ending a line of the image gives the image. -/
theorem nextLine (k : Int) (p : Progress) (start : Int) :
    (image F k p).nextLine s' (start + k) = carry F (image F k) (p.nextLine s start) := by
  have hfinish : (image F k p).path.finishLine s' (image F k p).line = carry F F (p.path.finishLine s p.line) :=
    h.finishLine k p.path p.line
  rw [Progress.nextLine, Progress.nextLine, hfinish]
  cases p.path.finishLine s p.line <;> rfl

/-- Reading spaces on the image gives the image. -/
theorem readSpace (k start : Int) (text : List Char) (p : Progress) :
    Progress.readSpace s' (start + k) text (image F k p) = carry F (image F k) (Progress.readSpace s start text p) := by
  induction text generalizing start p with
  | nil => rfl
  | cons c text ih =>
    simp only [Progress.readSpace, Int.add_right_comm start k 1]
    split
    · rw [h.nextLine]
      exact carry_bind (fun q => ih (start + 1) q) _
    · exact ih (start + 1) p

/-- The line that a token is read into. -/
theorem read (k : Int) (p : Progress) (t : Token) :
    (image F k p).line.read s'.excluded (image F k p).path.machine.plane (t.shift k) =
      (p.line.read s.excluded p.path.machine.plane t).map (Line.Read.shift k) := by
  rw [h.excluded, image, h.machine]
  exact Line.read_shift k

/-- Reading a token on the image gives the image. -/
theorem readToken (k : Int) (p : Progress) (t : Token) :
    Progress.readToken s' (image F k p) (t.shift k) = carry F (image F k) (Progress.readToken s p t) := by
  unfold Progress.readToken
  by_cases hspace : (t.kind == .space) = true
  · rw [if_pos hspace, if_pos (show ((t.shift k).kind == .space) = true from hspace)]
    exact h.readSpace k t.start t.text p
  · rw [if_neg hspace, if_neg (show ¬((t.shift k).kind == .space) = true from hspace), h.read]
    cases p.line.read s.excluded p.path.machine.plane t with
    | error fault => rfl
    | ok r =>
      have hpath : F { p.path with
            machine := { p.path.machine with plane := r.plane }
            diagnostics := p.path.diagnostics ++ r.found.toArray } =
          { F p.path with
            machine := { (F p.path).machine with plane := r.plane }
            diagnostics := (F p.path).diagnostics ++ r.found.toArray } := by
        rw [h.machine]
        exact (h.setMachine { p.path with diagnostics := p.path.diagnostics ++ r.found.toArray } _).trans
          (congrArg (fun e : Extraction => { e with machine := { p.path.machine with plane := r.plane } }) (h.find p.path _))
      simp only [carry, image, hpath]
      rfl

/-- Reading tokens on the image gives the image. -/
theorem foldlM_readToken (k : Int) (ts : List Token) (p : Progress) :
    (ts.map (Token.shift k)).foldlM (Progress.readToken s') (image F k p) =
      carry F (image F k) (ts.foldlM (Progress.readToken s) p) := by
  induction ts generalizing p with
  | nil => rfl
  | cons t ts ih =>
    rw [List.map_cons, List.foldlM_cons, List.foldlM_cons, h.readToken]
    exact carry_bind (fun q => ih q) _

/-- Adding a line, wherever it stands. -/
theorem addLine (k : Int) (e : Extraction) (number : Nat) (start : Int) (text : List Char) :
    Extraction.addLine s' (F e) ⟨number, start + k, text⟩ = carry F F (Extraction.addLine s e ⟨number, start, text⟩) := by
  have hread := h.foldlM_readToken k (Token.scan start text) { path := e, line := { number, start } }
  rw [← Token.scan_shift] at hread
  unfold Extraction.addLine
  exact (congrArg (· >>= fun p => p.path.finishLine s' p.line) hread).trans
    (carry_bind (fun p => h.finishLine k p.path p.line) _)

/-- Adding lines, wherever they stand. -/
theorem addLines (k : Int) (e : Extraction) (number : Nat) (start : Int) (lines : List (List Char)) :
    (SourceLine.numbered number (start + k) lines).foldlM (Extraction.addLine s') (F e) =
      carry F F ((SourceLine.numbered number start lines).foldlM (Extraction.addLine s) e) := by
  induction lines generalizing e number start with
  | nil => rfl
  | cons text lines ih =>
    have hnext : start + k + (text.length : Int) + 1 = start + text.length + 1 + k := by omega
    simp only [SourceLine.numbered, List.foldlM_cons, h.addLine, hnext]
    exact carry_bind (fun e' => ih e' (number + 1) (start + text.length + 1)) _

end Simulates

/-! ## Paths that agree -/

/-- Two paths differ in nothing but the problems that were found on the way. -/
structure Agree (e e' : Extraction) : Prop where
  machine : e'.machine = e.machine
  movements : e'.movements = e.movements
  dropped : e'.dropped = e.dropped

/-- A path agrees with itself. -/
theorem Agree.refl (e : Extraction) : Agree e e := ⟨rfl, rfl, rfl⟩

/-- Agreement is symmetric. -/
theorem Agree.symm (h : Agree e e') : Agree e' e := ⟨h.machine.symm, h.movements.symm, h.dropped.symm⟩

/-- Agreement is transitive. -/
theorem Agree.trans {e'' : Extraction} (h : Agree e e') (h' : Agree e' e'') : Agree e e'' :=
  ⟨h'.machine.trans h.machine, h'.movements.trans h.movements, h'.dropped.trans h.dropped⟩

/-- A path without the problems that were found on the way. -/
def silent (e : Extraction) : Extraction := { e with diagnostics := #[] }

/-- Paths that agree are equal without their diagnostics. -/
theorem Agree.silent_eq (h : Agree e e') : e'.silent = e.silent := by
  rw [silent, silent, h.machine, h.movements, h.dropped]

/-- A path on which other problems were found before. -/
def foundBefore (ds : Array Diagnostic) (e : Extraction) : Extraction := { e with diagnostics := ds ++ e.diagnostics }

/-- A path is its silent form behind its own diagnostics. -/
theorem foundBefore_silent (e : Extraction) : e.silent.foundBefore e.diagnostics = e := by
  rw [foundBefore, silent, Array.append_empty]

/-- What was found before does not matter to what follows. -/
theorem simulates_foundBefore (s : Settings) (ds : Array Diagnostic) : Simulates s s (foundBefore ds) where
  excluded := rfl
  divisions := rfl
  machine := fun _ => rfl
  setMachine := fun _ _ => rfl
  find := fun e found => by rw [foundBefore, foundBefore, Array.append_assoc]
  moveTo := fun _ _ _ _ => apply_ite (foundBefore ds) _ _ _

/-- The end of a line, wherever it stands, does to a path what it does to the path on which nothing was found before. -/
theorem finishLine_silent (s : Settings) (k : Int) (e : Extraction) (l : Line) :
    e.finishLine s (l.shift k) = carry (foundBefore e.diagnostics) (foundBefore e.diagnostics) (e.silent.finishLine s l) := by
  have hcarry := (simulates_foundBefore s e.diagnostics).finishLine k e.silent l
  rwa [foundBefore_silent] at hcarry

/-- The end of a line keeps paths in agreement. -/
theorem Agree.corresponds_finishLine (h : Agree e e') (l : Line) : Corresponds Agree (e.finishLine s l) (e'.finishLine s l) := by
  -- Both paths are images of the path on which nothing was found.
  rw [← l.shift_zero, finishLine_silent, finishLine_silent, h.silent_eq]
  cases e.silent.finishLine s l with
  | error i => exact .fail _ _
  | ok r => exact .ok ⟨rfl, rfl, rfl⟩

/-- A line is finished alike on paths that agree. -/
theorem Agree.finishLine {l : Line} {r : Extraction} (h : Agree e e') (hr : e.finishLine s l = .ok r) :
    ∃ r', e'.finishLine s l = .ok r' ∧ Agree r r' :=
  (h.corresponds_finishLine l).exists_of_ok hr

end Extraction

end ToolpathViewer
