import ToolpathViewer.Proofs.Toolpath.ByLine

/-!
# Which line drew what

Every movement of a path but the first belongs to a line of the program and to a motion command. `Attributed` says what holds of the
path through some lines of a program: the numbers of the lines do not go back, a line has one command, no command is left out, and a
line that drew something gives a value for an axis. One more line keeps this (`Attributed.addLine`), so it holds of every path
(`attributed_of_ofText`).
-/

namespace ToolpathViewer

open Text

namespace Token

/-- The tokens in front of the first word that makes the rest of its line a remark. -/
def spoken (ts : List Token) : List Token := ts.takeWhile fun t => !t.silences

/-- A token that is spoken is a token of the line. -/
theorem mem_of_mem_spoken {t : Token} {ts : List Token} (h : t ∈ spoken ts) : t ∈ ts := (List.takeWhile_sublist _).subset h

/-- One more token stands in front of the remark of a line if neither it nor a token before it opens one. -/
theorem spoken_append_singleton (ts : List Token) (t : Token) :
    spoken (ts ++ [t]) = if ts.any silences || t.silences then spoken ts else spoken ts ++ [t] := by
  induction ts with
  | nil => cases ht : t.silences <;> simp [spoken, ht]
  | cons u ts ih =>
    simp only [spoken] at ih
    cases hu : u.silences with
    | true => simp [spoken, hu]
    | false =>
      simp only [spoken, List.cons_append, List.takeWhile_cons, hu, Bool.not_false, if_true, List.any_cons, Bool.false_or, ih]
      split <;> rfl

/-- Some token that counts gives a value for an axis. -/
def anyAxis (ts : List Token) : Bool := (spoken ts).any givesAxis

/-- One more token adds a value for an axis if it gives one and nothing has silenced it. -/
theorem anyAxis_append_singleton (ts : List Token) (t : Token) :
    anyAxis (ts ++ [t]) = (anyAxis ts || (!ts.any silences && (!t.silences && t.givesAxis))) := by
  rw [anyAxis, anyAxis, spoken_append_singleton]
  cases ts.any silences <;> cases t.silences <;> simp

/-- A line that gives a value for an axis gives it also with a token more. -/
theorem anyAxis_append_left {ts : List Token} (t : Token) (h : anyAxis ts = true) : anyAxis (ts ++ [t]) = true := by
  rw [anyAxis_append_singleton, h, Bool.true_or]

/-- Only the kinds and the texts of the tokens decide whether one gives a value for an axis. -/
theorem anyAxis_map_shift (k : Int) (ts : List Token) : anyAxis (ts.map (shift k)) = anyAxis ts := by
  simp only [anyAxis, spoken, List.takeWhile_map, List.any_map]
  rfl

end Token

namespace Line

variable {x : List (List Char)} {l l' : Line} {ts : List Token} {t : Token}

/-- What has been gathered of a line from some tokens. -/
structure Gathers (x : List (List Char)) (ts : List Token) (l : Line) : Prop where
  silenced : l.silenced = ts.any Token.silences
  axes : l.hasAxes = true → Token.anyAxis ts = true
  motion : ∀ m, l.motion = some m → m.code.toList ∉ x

/-- A new line has gathered nothing. -/
theorem gathers_nil (number : Nat) (start : Int) : Gathers x [] { number, start } :=
  ⟨rfl, fun h => absurd h (by simp [hasAxes, Vec3.fill]), fun _ h => nomatch h⟩

/-- The code of the motion command that a code names is that code. -/
theorem code_of_ofCode? {code : List Char} {m : Motion} (h : Motion.ofCode? code = some m) : m.code.toList = code := by
  simpa using List.find?_some h

/-- A value that a line keeps for an axis comes from a token that gives one. -/
theorem givesAxis_of_value {c : Char} {text : List Char} {v : Float} (ht : t.kind = .coordinate)
    (htext : t.text = c :: text) (hv : Decimal.readDecimal? text = some v)
    (hletter : upperChar c = ['X'] ∨ upperChar c = ['Y'] ∨ upperChar c = ['Z']) : t.givesAxis = true := by
  rcases hletter with h | h | h <;>
    simp [Token.givesAxis, ht, htext, hv, Token.isOneOf, h, Token.axisLetters]

/-- A line gathers one token more by reading it. -/
theorem Gathers.append (h : Gathers x ts l) (hr : Reads x l t l') : Gathers x (ts ++ [t]) l' := by
  have hsilenced : l'.silenced = (ts ++ [t]).any Token.silences := by
    rw [hr.silenced_eq, h.silenced]
    simp
  cases hr with
  | skip | silence | exclude => exact ⟨hsilenced, fun ha => Token.anyAxis_append_left t (h.axes ha), h.motion⟩
  | command code hl ht hcode =>
    refine ⟨hsilenced, fun ha => Token.anyAxis_append_left t (h.axes ha), fun m hm => ?_⟩
    rcases Option.or_eq_some_iff.1 hm with hm | ⟨-, hm⟩
    · rwa [code_of_ofCode? hm]
    · exact h.motion m hm
  | value c text store v hl ht htext hstore hv =>
    obtain ⟨-, -, hmotion, -, haxes⟩ := store?_spec hstore v l
    refine ⟨hsilenced, fun ha => ?_, fun m hm => h.motion m (hmotion ▸ hm)⟩
    rcases haxes ha with ha | hletter
    · exact Token.anyAxis_append_left t (h.axes ha)
    · have hs : t.silences = false := silences_of_kind_ne (by rw [ht]; decide)
      have hts : ts.any Token.silences = false := h.silenced ▸ hl
      have hg := givesAxis_of_value ht htext hv hletter
      rw [Token.anyAxis_append_singleton, hts, hs, hg]
      simp

end Line

namespace Extraction

open Progress

variable {s : Settings} {e e' e'' : Extraction} {motion : Motion} {line : Nat}

/-- The movements behind the first. -/
def drawn (e : Extraction) : List Movement := e.movements.toList.tail

/-- The second path goes on from the first one with movements of one command on one line. -/
def Draws (motion : Motion) (line : Nat) (e e' : Extraction) : Prop :=
  e'.machine.motion = e.machine.motion ∧
    ∃ added : List Movement, e'.movements.toList = e.movements.toList ++ added ∧
      ∀ m ∈ added, m.command = some motion ∧ m.line = line

/-- A path draws nothing from itself to itself. -/
theorem Draws.refl (motion : Motion) (line : Nat) (e : Extraction) : Draws motion line e e :=
  ⟨rfl, [], (List.append_nil _).symm, by simp⟩

/-- What is drawn in two parts is drawn. -/
theorem Draws.trans (h : Draws motion line e e') (h' : Draws motion line e' e'') : Draws motion line e e'' := by
  obtain ⟨hm, added, ha, hall⟩ := h
  obtain ⟨hm', added', ha', hall'⟩ := h'
  refine ⟨hm'.trans hm, added ++ added', by rw [ha', ha, List.append_assoc], fun m hmem => ?_⟩
  rcases List.mem_append.1 hmem with hmem | hmem
  · exact hall m hmem
  · exact hall' m hmem

/-- A report draws nothing. -/
theorem draws_report (motion : Motion) (line : Nat) (e : Extraction) (n : Nat) (message : String) :
    Draws motion line e (e.report n message) :=
  ⟨rfl, [], (List.append_nil _).symm, by simp⟩

/-- A move draws its movement or loses it. -/
theorem draws_moveTo (s : Settings) (motion : Motion) (line : Nat) (e : Extraction) (target : Vec3 Float) :
    Draws motion line e (e.moveTo s motion line target) := by
  unfold moveTo
  simp only
  split
  · exact ⟨rfl, [], (List.append_nil _).symm, by simp⟩
  · exact ⟨rfl, [⟨target, some motion, line⟩], by simp, by simp⟩

/-- Moves to several points draw their movements in order, or lose them. -/
theorem draws_foldl_moveTo (s : Settings) (motion : Motion) (line : Nat) (points : List (Vec3 Float)) (e : Extraction) :
    Draws motion line e (points.foldl (moveTo s motion line) e) := by
  induction points generalizing e with
  | nil => exact Draws.refl motion line e
  | cons p points ih => exact (draws_moveTo s motion line e p).trans (ih _)

/-- An arc draws movements of its own command and line. -/
theorem draws_of_moveArc {turn : Arc.Turn} {l : Line} {target : Vec3 Float} (h : e.moveArc s turn l target = .ok e') :
    Draws (.arc turn) l.number e e' := by
  unfold moveArc at h
  simp only at h
  obtain ⟨center, -, h⟩ := bind_eq_ok.1 h
  split at h
  · obtain rfl := Except.ok.inj h
    exact (draws_report _ _ _ _ _).trans (draws_moveTo s _ _ _ target)
  · obtain ⟨chords, -, h⟩ := bind_eq_ok.1 h
    obtain rfl := Except.ok.inj h
    exact draws_foldl_moveTo s _ _ _ e

/-- Carrying out a command draws nothing unless the line gives a value for an axis. -/
theorem draws_of_perform {l : Line} (h : perform s l e motion = .ok e') :
    Draws motion l.number e e' ∧ (l.hasAxes = false → e' = e) := by
  unfold perform at h
  split at h
  · obtain rfl := Except.ok.inj h
    exact ⟨Draws.refl _ _ _, fun _ => rfl⟩
  · rename_i ha
    refine ⟨?_, fun hno => absurd hno (by simpa using ha)⟩
    split at h
    · exact draws_of_moveArc h
    · obtain rfl := Except.ok.inj h
      exact draws_moveTo s _ _ _ _

/-- The second path has the movements of the first one, and perhaps more that a line adds: by the command that is modal afterwards, if
the line gives a value for an axis. -/
def Adds (l : Line) (e e' : Extraction) : Prop :=
  e'.movements = e.movements ∨
    l.hasAxes = true ∧ ∃ motion added, e'.machine.motion = some motion ∧
      e'.movements.toList = e.movements.toList ++ added ∧ ∀ m ∈ added, m.command = some motion ∧ m.line = l.number

/-- A performed line draws movements of the command that is in force. -/
theorem adds_of_perform {l : Line} (hmotion : e.machine.motion = some motion)
    (h : attempt e (perform s l · motion) = .ok e') : e'.machine.motion = some motion ∧ Adds l e e' := by
  obtain ⟨⟨hm, added, hadded, hall⟩, hno⟩ := draws_of_perform (mapError_eq_ok.1 h)
  refine ⟨hm.trans hmotion, ?_⟩
  cases ha : l.hasAxes with
  | false => exact Or.inl (by rw [hno ha])
  | true => exact Or.inr ⟨ha, motion, added, hm.trans hmotion, hadded, hall⟩

/-- Ending a line makes its motion command the modal one, if it has one, and draws nothing that is not its own. -/
theorem adds_of_finishLine {l : Line} (h : e.finishLine s l = .ok e') :
    e'.machine.motion = l.motion.or e.machine.motion ∧ Adds l e e' := by
  unfold finishLine at h
  split at h
  · rename_i motion hl
    rw [hl]
    exact adds_of_perform (e := { e with machine := { e.machine with motion := some motion } }) rfl h
  · rename_i hl
    rw [hl, Option.none_or]
    split at h
    · split at h
      · rename_i motion hmotion
        rw [hmotion]
        exact adds_of_perform hmotion h
      · obtain rfl := Except.ok.inj h
        exact ⟨rfl, Or.inl rfl⟩
    · obtain rfl := Except.ok.inj h
      exact ⟨rfl, Or.inl rfl⟩

/-- The tokens of a line, read on its own. -/
theorem gathers_of_readTokens {ts : List Token} {p q : Progress} (hts : ∀ t ∈ ts, '\n' ∉ t.text)
    (hp : Line.Gathers s.excluded [] p.line) (h : ts.foldlM (readToken s) p = .ok q) :
    Line.Gathers s.excluded ts q.line := by
  refine foldlM_invariant (fun ts q => Line.Gathers s.excluded ts q.line) ?_ hp h
  intro t ht seen b b' hb hread
  exact hb.append (readToken_of_not_mem (hts t ht) hread).2

/-- A path that belongs to the lines of a program, when the commands of `x` are left out. -/
structure Attributed (x : List (List Char)) (lines : List (List Char)) (e : Extraction) : Prop where
  origin : e.movements.toList = .origin :: e.drawn
  ordered : (e.drawn.map (·.line)).Pairwise (· ≤ ·)
  modal : ∀ motion, e.machine.motion = some motion → motion.code.toList ∉ x
  named : ∀ m ∈ e.drawn, ∃ motion, m.command = some motion ∧ motion.code.toList ∉ x
  uniform : e.drawn.Pairwise fun m n => m.line = n.line → m.command = n.command
  asked : ∀ m ∈ e.drawn, 1 ≤ m.line ∧ ∃ src, lines[m.line - 1]? = some src ∧ Token.anyAxis (Token.ofText src) = true

/-- The path of no lines is attributed to none. -/
theorem attributed_nil (x : List (List Char)) : Attributed x [] {} where
  origin := rfl
  ordered := List.Pairwise.nil
  modal := fun _ h => nomatch h
  named := fun _ h => nomatch h
  uniform := List.Pairwise.nil
  asked := fun _ h => nomatch h

variable {x lines : List (List Char)}

/-- The number of a drawn movement is one of the lines. -/
theorem Attributed.line_le (h : Attributed x lines e) {m : Movement} (hm : m ∈ e.drawn) : m.line ≤ lines.length := by
  obtain ⟨hpos, src, hsrc, -⟩ := h.asked m hm
  have := (List.getElem?_eq_some_iff.1 hsrc).1
  omega

/-- A movement is asked for by the same line when more lines follow. -/
theorem Attributed.asked_append (h : Attributed x lines e) (src : List Char) {m : Movement} (hm : m ∈ e.drawn) :
    1 ≤ m.line ∧ ∃ l, (lines ++ [src])[m.line - 1]? = some l ∧ Token.anyAxis (Token.ofText l) = true := by
  obtain ⟨hpos, l, hl, hany⟩ := h.asked m hm
  refine ⟨hpos, l, ?_, hany⟩
  rw [List.getElem?_append_left (List.getElem?_eq_some_iff.1 hl).1, hl]

/-- A line that draws nothing keeps a path in order. -/
theorem Attributed.of_movements_eq (h : Attributed x lines e) (src : List Char) (hmov : e'.movements = e.movements)
    (hmodal : ∀ motion, e'.machine.motion = some motion → motion.code.toList ∉ x) : Attributed x (lines ++ [src]) e' := by
  have hdrawn : e'.drawn = e.drawn := by rw [drawn, hmov, drawn]
  refine ⟨?_, ?_, hmodal, ?_, ?_, ?_⟩
  · rw [hdrawn, hmov]
    exact h.origin
  · rw [hdrawn]
    exact h.ordered
  · rw [hdrawn]
    exact h.named
  · rw [hdrawn]
    exact h.uniform
  · rw [hdrawn]
    exact fun m hm => h.asked_append src hm

/-- Movements by one command on the next line keep a path in order. -/
theorem Attributed.of_movements_append {src : List Char} {added : List Movement} (h : Attributed x lines e)
    (hadded : e'.movements.toList = e.movements.toList ++ added)
    (hall : ∀ m ∈ added, m.command = some motion ∧ m.line = lines.length + 1)
    (hany : Token.anyAxis (Token.ofText src) = true) (hmotion : e'.machine.motion = some motion)
    (hcode : motion.code.toList ∉ x) : Attributed x (lines ++ [src]) e' := by
  have hdrawn : e'.drawn = e.drawn ++ added := by
    rw [drawn, hadded, h.origin]
    rfl
  have hlt : ∀ m ∈ e.drawn, ∀ n ∈ added, m.line < n.line := by
    intro m hm n hn
    have := h.line_le hm
    rw [(hall n hn).2]
    omega
  refine ⟨?_, ?_, ?_, ?_, ?_, ?_⟩
  · rw [hdrawn, hadded, h.origin]
    rfl
  · rw [hdrawn, List.pairwise_map, List.pairwise_append]
    refine ⟨List.pairwise_map.1 h.ordered, ?_, fun m hm n hn => (hlt m hm n hn).le⟩
    refine List.pairwise_of_forall_mem_list fun m hm n hn => ?_
    rw [(hall m hm).2, (hall n hn).2]
  · intro motion' hm
    obtain rfl := Option.some.inj (hmotion.symm.trans hm)
    exact hcode
  · intro m hm
    rcases List.mem_append.1 (hdrawn ▸ hm) with hm | hm
    · exact h.named m hm
    · exact ⟨motion, (hall m hm).1, hcode⟩
  · rw [hdrawn, List.pairwise_append]
    refine ⟨h.uniform, ?_, fun m hm n hn heq => absurd heq (hlt m hm n hn).ne⟩
    refine List.pairwise_of_forall_mem_list fun m hm n hn _ => ?_
    rw [(hall m hm).1, (hall n hn).1]
  · intro m hm
    rcases List.mem_append.1 (hdrawn ▸ hm) with hm | hm
    · exact h.asked_append src hm
    · rw [(hall m hm).2]
      exact ⟨Nat.le_add_left 1 _, src, by simp, hany⟩

/-- One more line keeps a path in order. -/
theorem Attributed.addLine {src : List Char} {start : Int} (hsrc : '\n' ∉ src) (h : Attributed s.excluded lines e)
    (hstep : Extraction.addLine s e ⟨lines.length + 1, start, src⟩ = .ok e') :
    Attributed s.excluded (lines ++ [src]) e' := by
  obtain ⟨p, hp, hfinish⟩ := bind_eq_ok.1 hstep
  have hts : ∀ t ∈ Token.scan start src, '\n' ∉ t.text := Token.newline_not_mem_of_mem_scan hsrc
  obtain ⟨hpath, hnum⟩ := foldlM_readToken_samePath hts hp
  have hgathers := gathers_of_readTokens hts (Line.gathers_nil _ _) hp
  obtain ⟨hmotion, hadds⟩ := adds_of_finishLine hfinish
  have hmodal : ∀ motion, e'.machine.motion = some motion → motion.code.toList ∉ s.excluded := by
    intro motion hm
    rw [hmotion, hpath.motion] at hm
    rcases Option.or_eq_some_iff.1 hm with hm | ⟨-, hm⟩
    · exact hgathers.motion motion hm
    · exact h.modal motion hm
  rcases hadds with hsame | ⟨haxes, motion, added, hcmd, hadded, hall⟩
  · exact h.of_movements_eq src (hsame.trans hpath.movements) hmodal
  · rw [hpath.movements] at hadded
    -- A line stands elsewhere in the program than on its own, with the same tokens.
    have hany : Token.anyAxis (Token.ofText src) = true := by
      rw [Token.ofText, ← Token.anyAxis_map_shift start, ← Token.scan_shift, Int.zero_add]
      exact hgathers.axes haxes
    exact h.of_movements_append hadded (fun m hm => ⟨(hall m hm).1, (hall m hm).2.trans hnum⟩) hany hcmd
      (hmodal motion hcmd)

/-- Going through more lines keeps a path in order. -/
theorem Attributed.addLines {more : List (List Char)} {start : Int} (hmore : ∀ src ∈ more, '\n' ∉ src)
    (h : Attributed s.excluded lines e)
    (hsteps : (SourceLine.numbered (lines.length + 1) start more).foldlM (Extraction.addLine s) e = .ok e') :
    Attributed s.excluded (lines ++ more) e' := by
  induction more generalizing lines start e with
  | nil =>
    obtain rfl := Except.ok.inj hsteps
    rwa [List.append_nil]
  | cons src more ih =>
    obtain ⟨e₁, hstep, hrest⟩ := bind_eq_ok.1 hsteps
    have hnext := h.addLine (hmore src List.mem_cons_self) hstep
    have hlen : (lines ++ [src]).length = lines.length + 1 := by simp
    have := ih (fun l hl => hmore l (List.mem_cons_of_mem _ hl)) hnext (by rw [hlen]; exact hrest)
    rwa [List.append_assoc, List.singleton_append] at this

/-- The path of a program belongs to its lines. -/
theorem attributed_of_ofText {text : List Char} (h : ofText s text = .ok e) :
    Attributed s.excluded (linesOf text) e := by
  rw [ofText_eq_addLines] at h
  exact (attributed_nil s.excluded).addLines (fun _ hl => newline_not_mem_of_mem_linesOf hl) h

/-- Two drawn movements of one line have one command, in whatever order they are taken. -/
theorem Attributed.command_eq (h : Attributed x lines e) {m n : Movement} (hm : m ∈ e.drawn) (hn : n ∈ e.drawn)
    (hline : m.line = n.line) : m.command = n.command := by
  have hflip : e.drawn.Pairwise (flip fun m n => m.line = n.line → m.command = n.command) :=
    h.uniform.imp fun hmn heq => (hmn heq.symm).symm
  exact h.uniform.forall_of_forall_of_flip (fun _ _ _ => rfl) hflip hm hn hline

/-- The code of a movement with a command is that of one of the four motions. -/
theorem code_mem_of_command {m : Movement} {motion : Motion} (h : m.command = some motion) :
    m.code ∈ ["G0", "G1", "G2", "G3"] ∧ m.code = motion.code := by
  have hcode : m.code = motion.code := by rw [Movement.code, h]; rfl
  refine ⟨?_, hcode⟩
  rw [hcode]
  rcases motion with _ | _ | turn
  · decide
  · decide
  · cases turn <;> decide

/-- The excluded codes of settings are the normal forms of those that were given. -/
theorem codesOf_of_ofValues {codes : List Json} {limit divisions : Json} (h : Settings.ofValues codes limit divisions = .ok s) :
    Settings.codesOf codes = .ok s.excluded := by
  obtain ⟨excluded, bound, least, hx, -, -, rfl⟩ := Settings.ofValues_eq_ok.1 h
  exact hx

/-- The path of a program starts at the origin, and every later movement belongs to a line of the program: the numbers of the lines
never go back and are numbers of lines; the command is one of the four motions and is not left out; the movements of a line share it;
and the line, scanned on its own, gives a value for an axis before any word that makes the rest of it a remark. -/
theorem movements_belong_to_lines {codes : List Json} {limit divisions : Json} {text : List Char}
    (hs : Settings.ofValues codes limit divisions = .ok s) (h : ofText s text = .ok e) :
    e.movements.toList = .origin :: e.drawn ∧
      (e.drawn.map (·.line)).Pairwise (· ≤ ·) ∧
      (∀ m ∈ e.drawn, 1 ≤ m.line ∧ m.line ≤ text.count '\n' + 1) ∧
      (∃ excluded, Settings.codesOf codes = .ok excluded ∧
        ∀ m ∈ e.drawn, m.code ∈ ["G0", "G1", "G2", "G3"] ∧ m.code.toList ∉ excluded) ∧
      (∀ m ∈ e.drawn, ∀ n ∈ e.drawn, m.line = n.line → m.code = n.code) ∧
      ∀ m ∈ e.drawn, ∃ src, (linesOf text)[m.line - 1]? = some src ∧
        ∃ t ∈ Token.spoken (Token.ofText src), t.givesAxis = true := by
  have ha := attributed_of_ofText h
  refine ⟨ha.origin, ha.ordered, ?_, ⟨s.excluded, codesOf_of_ofValues hs, ?_⟩, ?_, ?_⟩
  · intro m hm
    have hle := ha.line_le hm
    rw [length_linesOf] at hle
    exact ⟨(ha.asked m hm).1, hle⟩
  · intro m hm
    obtain ⟨motion, hcmd, hx⟩ := ha.named m hm
    obtain ⟨hmem, hcode⟩ := code_mem_of_command hcmd
    exact ⟨hmem, hcode ▸ hx⟩
  · intro m hm n hn hline
    rw [Movement.code, Movement.code, ha.command_eq hm hn hline]
  · intro m hm
    obtain ⟨-, src, hsrc, hany⟩ := ha.asked m hm
    obtain ⟨t, ht, hgives⟩ := List.any_eq_true.1 hany
    exact ⟨src, hsrc, t, ht, hgives⟩

/-- A program with a blank line, a left out command and a remark: lines 1 and 4 draw. -/
theorem movements_belong_to_lines_one_and_four :
    ∃ s e, Settings.ofValues [.str " g090 "] .null (.int 64) = .ok s ∧
      ofText s "g1 x1 (y2)\r\n \nG90 X5\nY2;Z3\n".toList = .ok e ∧ e.drawn.map (·.line) = [1, 4] ∧
        ∀ m ∈ e.drawn, 1 ≤ m.line ∧ m.line ≤ 5 := by
  have hs : Settings.ofValues [.str " g090 "] .null (.int 64) = .ok ⟨["G90".toList], none, .whole 64⟩ := rfl
  have hlines : ((ofText ⟨["G90".toList], none, .whole 64⟩ "g1 x1 (y2)\r\n \nG90 X5\nY2;Z3\n".toList).toOption.map
      fun e => e.drawn.map (·.line)) = some [1, 4] := by decide +kernel
  obtain ⟨e, he, hdrawn⟩ := Option.map_eq_some_iff.1 hlines
  have h := eq_ok_of_toOption he
  exact ⟨_, e, hs, h, hdrawn, (movements_belong_to_lines hs h).2.2.1⟩

end Extraction

end ToolpathViewer
