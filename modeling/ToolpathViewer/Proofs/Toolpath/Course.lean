import ToolpathViewer.Proofs.Toolpath.Returns

/-!
# Courses

A line takes the tool to its target in one move, or along an arc, or not at all. Which of these it is depends on the words of the line and
on the machine that they find, and neither on what has been drawn nor on how much of it is kept or how finely arcs are split. So the end
of a line is taken apart into its course and the moves along it (`follow_of_finishLine`).

The lines of a program come one behind the other, and each draws its own movements: `onLine_of_split` says what the path of the whole
program has on one of them.
-/

namespace ToolpathViewer

open Extraction

/-! ## The course of a line -/

/-- How a line takes the tool to its target. -/
inductive Course where
  /-- It does not ask for that. -/
  | stay
  /-- It asks for that, and no command says how. -/
  | lost
  /-- In one move, as its command says. -/
  | straight (motion : Motion)
  /-- In one move, although its command asks for an arc: no center can be used. -/
  | flat (turn : Arc.Turn)
  /-- Along the chords of an arc around a center. -/
  | around (turn : Arc.Turn) (center : Vec2 Float)

namespace Line

/-- The command that a line carries out: its own one, or the modal one if it has no command at all. -/
def command (l : Line) (modal : Option Motion) : Option Motion :=
  l.motion.or (if l.named || l.excluded then none else modal)

/-- The center of the arc that a line asks for, and none if it cannot be used. -/
def center (l : Line) (m : Machine) (turn : Arc.Turn) : Except Fault (Option (Vec2 Float)) := do
  let found ← arcCenter m.plane turn l.arc (m.plane.project m.position) (m.plane.project (target m l.axes))
  return found.filter (apart (m.plane.project m.position))

/-- The course of a line that carries out a command. -/
def courseBy (l : Line) (m : Machine) : Option Motion → Except Fault Course
  | none => .ok (if l.named || l.excluded then .stay else .lost)
  | some (.arc turn) => do return (← l.center m turn).elim (.flat turn) (.around turn)
  | some motion => .ok (.straight motion)

/-- The course of a line. -/
def course (l : Line) (m : Machine) : Except Fault Course :=
  if l.hasAxes then l.courseBy m (l.command m.motion) else .ok .stay

/-- A line is drawn as an arc that is split into chords: it asks for an arc, and has a center that is apart from where the arc starts. -/
def Curves (l : Line) (m : Machine) : Prop :=
  ∃ turn center, l.AsksArc m.motion turn ∧
    arcCenter m.plane turn l.arc (m.plane.project m.position) (m.plane.project (target m l.axes)) = .ok (some center) ∧
    apart (m.plane.project m.position) center = true

variable {l : Line} {m : Machine}

/-- The course of a line is an arc only by a command for one, and around the center that the line gives. -/
theorem courseBy_eq_around {command : Option Motion} {turn : Arc.Turn} {center : Vec2 Float}
    (h : l.courseBy m command = .ok (.around turn center)) : command = some (.arc turn) ∧ l.center m turn = .ok (some center) := by
  unfold courseBy at h
  split at h
  · split at h <;> cases h
  · obtain ⟨found, hfound, h⟩ := bind_eq_ok.1 h
    cases found with
    | none => cases h
    | some found =>
      cases h
      exact ⟨rfl, hfound⟩
  · cases h

/-- A line goes around a center only if it is drawn as an arc. -/
theorem curves_of_course {turn : Arc.Turn} {center : Vec2 Float} (h : l.course m = .ok (.around turn center)) : l.Curves m := by
  unfold course at h
  split at h
  · rename_i haxes
    obtain ⟨hcommand, hcenter⟩ := courseBy_eq_around h
    obtain ⟨found, hfound, h⟩ := bind_eq_ok.1 hcenter
    obtain ⟨rfl, hapart⟩ := Option.filter_eq_some_iff.1 (Except.ok.inj h)
    exact ⟨turn, center, ⟨haxes, hcommand⟩, hfound, hapart⟩
  · cases h

end Line

namespace Extraction

variable {s : Settings} {e e' : Extraction} {l : Line}

/-- A path behind which the motion command of a line, if it has one, is the modal one. -/
def commanded (e : Extraction) (l : Line) : Extraction :=
  { e with machine := { e.machine with motion := l.motion.or e.machine.motion } }

/-- Takes the tool to the target of a line. -/
def follow (s : Settings) (l : Line) (e : Extraction) : Course → Except Fault Extraction
  | .stay => .ok e
  | .lost => .ok (e.report l.number "Axis words without an active motion command")
  | .straight motion => .ok (e.moveTo s motion l.number (target e.machine l.axes))
  | .flat turn =>
    .ok ((e.report l.number ((Motion.arc turn).code ++ " without a usable arc center; drawn as a line")).moveTo s (.arc turn) l.number
      (target e.machine l.axes))
  | .around turn center => do
    let start := e.machine.position
    let stop := target e.machine l.axes
    let chords ← Arc.tessellate turn (e.machine.plane.project start) (e.machine.plane.project stop) center s.divisions
    return (helix e.machine.plane start stop chords).foldl (moveTo s (.arc turn) l.number) e

/-- Moving along an arc follows the course of the line. -/
theorem follow_of_moveArc {turn : Arc.Turn} (h : e.moveArc s turn l (target e.machine l.axes) = .ok e') :
    ∃ course, l.courseBy e.machine (some (.arc turn)) = .ok course ∧ e.follow s l course = .ok e' := by
  unfold moveArc at h
  obtain ⟨found, hfound, h⟩ := bind_eq_ok.1 h
  have hcenter : l.center e.machine turn = .ok (found.filter (apart (e.machine.plane.project e.machine.position))) := by
    unfold Line.center
    rw [hfound]
    rfl
  refine ⟨_, by rw [Line.courseBy, hcenter]; rfl, ?_⟩
  split at h
  · rename_i hnone
    rw [hnone]
    exact h
  · rename_i center hsome
    rw [hsome]
    exact h

/-- Carrying out a command of a line that has a value for an axis follows the course of the line. -/
theorem follow_of_perform {motion : Motion} (haxes : l.hasAxes = true) (h : perform s l e motion = .ok e') :
    ∃ course, l.courseBy e.machine (some motion) = .ok course ∧ e.follow s l course = .ok e' := by
  unfold perform at h
  rw [haxes] at h
  cases motion with
  | rapid | linear => exact ⟨_, rfl, h⟩
  | arc turn => exact follow_of_moveArc h

/-- The end of a line follows its course. -/
theorem follow_of_finishLine (h : e.finishLine s l = .ok e') :
    ∃ course, l.course e.machine = .ok course ∧ (e.commanded l).follow s l course = .ok e' := by
  unfold finishLine at h
  unfold Line.course Line.command
  cases hmotion : l.motion with
  | some motion =>
    have hready : e.commanded l = { e with machine := { e.machine with motion := some motion } } := by
      rw [commanded, hmotion, Option.some_or]
    rw [hmotion] at h
    rw [hready, Option.some_or]
    have hperform := mapError_eq_ok.1 h
    cases haxes : l.hasAxes with
    | true => exact follow_of_perform haxes hperform
    | false =>
      unfold perform at hperform
      rw [haxes] at hperform
      exact ⟨.stay, rfl, hperform⟩
  | none =>
    have hready : e.commanded l = e := by
      rw [commanded, hmotion, Option.none_or]
    rw [hmotion] at h
    rw [hready, Option.none_or]
    dsimp only at h
    cases haxes : l.hasAxes with
    | false =>
      rw [haxes] at h
      exact ⟨.stay, rfl, congrArg Except.ok (Except.ok.inj h)⟩
    | true =>
      rw [if_pos rfl]
      cases hown : l.named || l.excluded with
      | true =>
        rw [if_neg (by grind)] at h
        exact ⟨.stay, by simp [Line.courseBy, hown], congrArg Except.ok (Except.ok.inj h)⟩
      | false =>
        rw [if_pos (by grind)] at h
        rw [if_neg Bool.false_ne_true]
        cases hmodal : e.machine.motion with
        | some motion =>
          rw [hmodal] at h
          exact follow_of_perform haxes (mapError_eq_ok.1 h)
        | none =>
          rw [hmodal] at h
          exact ⟨.lost, by simp [Line.courseBy, hown], congrArg Except.ok (Except.ok.inj h)⟩

end Extraction

/-- The last chord of an arc ends at the end of the arc. -/
theorem Arc.exists_of_tessellate {turn : Arc.Turn} {start stop center : Vec2 Float} {divisions : Amount Float}
    {chords : List (Arc.Chord Float)} (h : Arc.tessellate turn start stop center divisions = .ok chords) :
    ∃ inner, chords = inner ++ [⟨stop, 1.0⟩] := by
  obtain ⟨pieces, -, h⟩ := bind_eq_ok.1 h
  obtain rfl := Except.ok.inj h
  exact ⟨_, rfl⟩

namespace Extraction

variable {s : Settings} {e e' : Extraction} {l : Line}

/-! ## Moving -/

/-- The number of movements that were made, kept or not. -/
def made (e : Extraction) : Nat := e.movements.size + e.dropped

/-- A move leads the machine to its target. -/
@[simp] theorem machine_moveTo (s : Settings) (motion : Motion) (line : Nat) (e : Extraction) (target : Vec3 Float) :
    (e.moveTo s motion line target).machine = { e.machine with position := target } := by
  unfold moveTo
  simp only
  split <;> rfl

/-- A movement is kept unless it is counted as dropped. -/
theorem moveTo_cases (s : Settings) (motion : Motion) (line : Nat) (e : Extraction) (target : Vec3 Float) :
    (e.moveTo s motion line target).dropped = e.dropped + 1 ∨
      (e.moveTo s motion line target).dropped = e.dropped ∧
        (e.moveTo s motion line target).movements.toList = e.movements.toList ++ [⟨target, some motion, line⟩] := by
  unfold moveTo
  simp only
  split
  · exact Or.inl rfl
  · exact Or.inr ⟨rfl, by simp⟩

/-- Moves never make lost movements good. -/
theorem dropped_le_foldl_moveTo (s : Settings) (motion : Motion) (line : Nat) (points : List (Vec3 Float)) (e : Extraction) :
    e.dropped ≤ (points.foldl (moveTo s motion line) e).dropped := by
  induction points generalizing e with
  | nil => exact le_refl _
  | cons p points ih =>
    refine le_trans ?_ (ih (e.moveTo s motion line p))
    rcases moveTo_cases s motion line e p with h | ⟨h, -⟩ <;> omega

/-- Behind points of which no movement is dropped, all of them are in the path. -/
theorem movements_foldl_moveTo {motion : Motion} {line : Nat} {points : List (Vec3 Float)}
    (h : (points.foldl (moveTo s motion line) e).dropped = e.dropped) :
    (points.foldl (moveTo s motion line) e).movements.toList = e.movements.toList ++ points.map (⟨·, some motion, line⟩) := by
  induction points generalizing e with
  | nil => simp
  | cons p points ih =>
    rw [List.foldl_cons] at h ⊢
    have hle := dropped_le_foldl_moveTo s motion line points (e.moveTo s motion line p)
    rcases moveTo_cases s motion line e p with hdropped | ⟨hdropped, hkept⟩
    · omega
    · rw [ih (h.trans hdropped.symm), hkept]
      simp

/-- Moves to several points lead the machine to the last of them. -/
theorem machine_foldl_moveTo (s : Settings) (motion : Motion) (line : Nat) (points : List (Vec3 Float)) (last : Vec3 Float)
    (e : Extraction) :
    ((points ++ [last]).foldl (moveTo s motion line) e).machine = { e.machine with position := last } := by
  rw [List.foldl_append, List.foldl_cons, List.foldl_nil, machine_moveTo]
  induction points generalizing e with
  | nil => rfl
  | cons p points ih => rw [List.foldl_cons, ih, machine_moveTo]

/-! ## Arriving -/

/-- Where the last chord of an arc ends: in the plane at the end of the arc, and over it where both heights take it. -/
def landing (plane : Plane) (start stop : Vec3 Float) : Vec3 Float :=
  plane.lift (plane.project stop)
    (start.along? plane.normal + (stop.along? plane.normal - start.along? plane.normal) * 1.0)

/-- The points of an arc end there. -/
theorem helix_append_last (plane : Plane) (start stop : Vec3 Float) (inner : List (Arc.Chord Float)) :
    helix plane start stop (inner ++ [⟨plane.project stop, 1.0⟩]) = helix plane start stop inner ++ [landing plane start stop] := by
  rw [helix, List.map_append]
  rfl

/-- Where an arc lands: at the end of its line in the plane, and at the whole fraction along its normal. -/
theorem along?_landing (plane : Plane) (start stop : Vec3 Float) (axis : Axis) :
    (landing plane start stop).along? axis =
      if axis = plane.normal then start.along? axis + (stop.along? axis - start.along? axis) * 1.0 else stop.along? axis := by
  cases plane <;> cases axis <;> rfl

/-- The target of a line keeps the position along axes without a value. -/
theorem along?_target (m : Machine) (axes : AxisWords) (axis : Axis) :
    (target m axes).along? axis = (axes.along? axis).getD (m.position.along? axis) := by
  cases axis <;> rfl

/-- The way around a center goes along points that it is split into, the last of which is where the last chord ends. -/
theorem follow_around {turn : Arc.Turn} {center : Vec2 Float} (h : e.follow s l (.around turn center) = .ok e') :
    ∃ points, e' = (points ++ [landing e.machine.plane e.machine.position (target e.machine l.axes)]).foldl
      (moveTo s (.arc turn) l.number) e := by
  obtain ⟨chords, hchords, h⟩ := bind_eq_ok.1 h
  obtain ⟨inner, rfl⟩ := Arc.exists_of_tessellate hchords
  obtain rfl := Except.ok.inj h
  exact ⟨_, by rw [helix_append_last]⟩

/-- The second path goes on from the first one to a point, the last of those that the tool moves to. -/
def Reaches (s : Settings) (line : Nat) (e : Extraction) (last : Vec3 Float) (e' : Extraction) : Prop :=
  ∃ ready motion points, ready.machine = e.machine ∧ ready.movements = e.movements ∧ ready.dropped = e.dropped ∧
    e' = (points ++ [last]).foldl (moveTo s motion line) ready

/-- The way along a course ends at the target, or at the end of the last chord. Without a move there is none. -/
theorem reaches_of_follow {course : Course} (h : e.follow s l course = .ok e') :
    e'.made = e.made ∨ Reaches s l.number e (target e.machine l.axes) e' ∨
      ∃ turn center, course = .around turn center ∧
        Reaches s l.number e (landing e.machine.plane e.machine.position (target e.machine l.axes)) e' := by
  cases course with
  | stay | lost =>
    obtain rfl := Except.ok.inj h
    exact Or.inl rfl
  | straight motion =>
    obtain rfl := Except.ok.inj h
    exact Or.inr (Or.inl ⟨e, motion, [], rfl, rfl, rfl, rfl⟩)
  | flat turn =>
    obtain rfl := Except.ok.inj h
    exact Or.inr (Or.inl ⟨e.report l.number _, .arc turn, [], rfl, rfl, rfl, rfl⟩)
  | around turn center =>
    obtain ⟨points, rfl⟩ := follow_around h
    exact Or.inr (Or.inr ⟨turn, center, rfl, e, .arc turn, points, rfl, rfl, rfl, rfl⟩)

/-- A path that reaches a point has the machine there. -/
theorem Reaches.machine_eq {line : Nat} {last : Vec3 Float} (h : Reaches s line e last e') :
    e'.machine = { e.machine with position := last } := by
  obtain ⟨ready, motion, points, hmachine, -, -, rfl⟩ := h
  rw [machine_foldl_moveTo, hmachine]

/-- Unless movements were dropped, the last one is the last point. -/
theorem Reaches.movements_eq {line : Nat} {last : Vec3 Float} (h : Reaches s line e last e') (hkept : e'.dropped = e.dropped) :
    ∃ motion front, e'.movements.toList = e.movements.toList ++ front ++ [⟨last, some motion, line⟩] := by
  obtain ⟨ready, motion, points, -, hmovements, hdropped, rfl⟩ := h
  refine ⟨motion, points.map (⟨·, some motion, line⟩), ?_⟩
  rw [movements_foldl_moveTo (hkept.trans hdropped.symm), hmovements]
  simp

end Extraction

/-! ## The lines of a program -/

namespace SourceLine

/-- Behind a path, a line is drawn as an arc that is split into chords. -/
def Curves (src : SourceLine) (s : Extraction.Settings) (e : Extraction) : Prop :=
  ∃ p, readLine s e src = .ok p ∧ p.line.Curves p.path.machine

/-- Lines come in the order of their numbers. -/
theorem pairwise_numbered (number : Nat) (start : Int) (lines : List (List Char)) :
    (numbered number start lines).Pairwise (·.number < ·.number) ∧ ∀ src ∈ numbered number start lines, number ≤ src.number := by
  induction lines generalizing number start with
  | nil => exact ⟨List.Pairwise.nil, by simp [numbered]⟩
  | cons text lines ih =>
    obtain ⟨hpairs, hle⟩ := ih (number + 1) (start + text.length + 1)
    rw [numbered, List.pairwise_cons, List.forall_mem_cons]
    exact ⟨⟨hle, hpairs⟩, le_refl number, fun src hsrc => Nat.le_of_succ_le (hle src hsrc)⟩

/-- The lines of a text hold no line ends. -/
theorem newline_not_mem {text : List Char} {number : Nat} {start : Int} {src : SourceLine}
    (h : src ∈ numbered number start (linesOf text)) : '\n' ∉ src.text := by
  have hmem : src.text ∈ (numbered number start (linesOf text)).map SourceLine.text := List.mem_map_of_mem h
  rw [map_text_numbered] at hmem
  exact newline_not_mem_of_mem_linesOf hmem

end SourceLine

namespace Extraction

variable {s : Settings} {e e' : Extraction}

/-- The movements of a path that belong to a line. -/
def onLine (e : Extraction) (line : Nat) : List Movement := e.movements.toList.filter (·.line == line)

/-- The movements of a line among those that were added. -/
theorem onLine_append {added : List Movement} (h : e'.movements.toList = e.movements.toList ++ added) (line : Nat) :
    e'.onLine line = e.onLine line ++ added.filter (·.line == line) := by
  rw [onLine, h, List.filter_append]
  rfl

/-- Movements of one line are all of this line. -/
theorem filter_line_eq_self {ms : List Movement} {line : Nat} (h : ∀ m ∈ ms, m.line = line) : ms.filter (·.line == line) = ms := by
  rw [List.filter_eq_self]
  intro m hm
  exact beq_iff_eq.2 (h m hm)

/-- Movements of other lines are none of this one. -/
theorem filter_line_eq_nil {ms : List Movement} {line : Nat} (h : ∀ m ∈ ms, m.line ≠ line) : ms.filter (·.line == line) = [] := by
  rw [List.filter_eq_nil_iff]
  intro m hm heq
  exact h m hm (beq_iff_eq.1 heq)

/-- A line adds movements of its own to a path. -/
theorem adds_of_addLine {src : SourceLine} (hsrc : '\n' ∉ src.text) (h : addLine s e src = .ok e') :
    ∃ added, e'.movements.toList = e.movements.toList ++ added ∧ ∀ m ∈ added, m.line = src.number := by
  obtain ⟨p, hp, hfinish⟩ := bind_eq_ok.1 h
  obtain ⟨hpath, hnumber⟩ := samePath_readLine hsrc hp
  rcases (adds_of_finishLine hfinish).2 with hsame | ⟨-, motion, added, -, hadded, hall⟩
  · exact ⟨[], by rw [hsame, hpath.movements, List.append_nil], by simp⟩
  · refine ⟨added, by rw [hadded, hpath.movements], fun m hm => ?_⟩
    rw [(hall m hm).2]
    exact hnumber

/-- Lines add movements of their own to a path. -/
theorem adds_of_addLines {lines : List SourceLine} (hlines : ∀ src ∈ lines, '\n' ∉ src.text)
    (h : lines.foldlM (addLine s) e = .ok e') :
    ∃ added, e'.movements.toList = e.movements.toList ++ added ∧ ∀ m ∈ added, ∃ src ∈ lines, m.line = src.number := by
  refine foldlM_invariant (fun seen e' => ∃ added, e'.movements.toList = e.movements.toList ++ added ∧
    ∀ m ∈ added, ∃ src ∈ seen, m.line = src.number) ?_ ⟨[], by simp, by simp⟩ h
  rintro src hmem seen e₁ e₂ ⟨added, hadded, hall⟩ hstep
  obtain ⟨more, hmore, hline⟩ := adds_of_addLine (hlines src hmem) hstep
  refine ⟨added ++ more, by rw [hmore, hadded, List.append_assoc], fun m hm => ?_⟩
  rcases List.mem_append.1 hm with hm | hm
  · obtain ⟨src', hsrc', heq⟩ := hall m hm
    exact ⟨src', List.mem_append_left _ hsrc', heq⟩
  · exact ⟨src, by simp, hline m hm⟩

/-- A program up to a line of it, the line, and the rest of the program. The movements of the program that belong to the line are those
that the line adds. -/
theorem onLine_of_split {text : List Char} {done rest : List SourceLine} {src : SourceLine} (h : ofText s text = .ok e)
    (hsplit : SourceLine.numbered 1 0 (linesOf text) = done ++ src :: rest) :
    '\n' ∉ src.text ∧ ∃ e₀ e₁, done.foldlM (addLine s) {} = .ok e₀ ∧ addLine s e₀ src = .ok e₁ ∧ rest.foldlM (addLine s) e₁ = .ok e ∧
      e₁.movements.toList = e₀.movements.toList ++ e.onLine src.number := by
  have hlines : ∀ l ∈ done ++ src :: rest, '\n' ∉ l.text := fun l hl => SourceLine.newline_not_mem (hsplit ▸ hl)
  obtain ⟨hpairs, hpos⟩ := SourceLine.pairwise_numbered 1 0 (linesOf text)
  rw [hsplit] at hpairs hpos
  rw [ofText_eq_addLines, hsplit, List.foldlM_append] at h
  obtain ⟨e₀, hdone, h⟩ := bind_eq_ok.1 h
  rw [List.foldlM_cons] at h
  obtain ⟨e₁, hstep, hrest⟩ := bind_eq_ok.1 h
  obtain ⟨hbefore, hafter⟩ : (∀ l ∈ done, l.number < src.number) ∧ ∀ l ∈ rest, src.number < l.number := by
    rw [List.pairwise_append, List.pairwise_cons] at hpairs
    exact ⟨fun l hl => hpairs.2.2 l hl src List.mem_cons_self, hpairs.2.1.1⟩
  obtain ⟨early, hearly, hearlier⟩ := adds_of_addLines (fun l hl => hlines l (List.mem_append_left _ hl)) hdone
  obtain ⟨added, hadded, hown⟩ := adds_of_addLine (hlines src (by simp)) hstep
  obtain ⟨late, hlate, hlater⟩ := adds_of_addLines (fun l hl => hlines l (by simp [hl])) hrest
  have hsrcpos : 1 ≤ src.number := hpos src (by simp)
  have hnone : ∀ m ∈ e₀.movements.toList, m.line ≠ src.number := by
    rw [hearly]
    intro m hm
    rcases List.mem_append.1 hm with hm | hm
    · obtain rfl := List.mem_singleton.1 hm
      exact Nat.ne_of_lt hsrcpos
    · obtain ⟨l, hl, hline⟩ := hearlier m hm
      rw [hline]
      exact (hbefore l hl).ne
  have hlateNone : ∀ m ∈ late, m.line ≠ src.number := by
    intro m hm
    obtain ⟨l, hl, hline⟩ := hlater m hm
    rw [hline]
    exact (hafter l hl).ne'
  refine ⟨hlines src (by simp), e₀, e₁, hdone, hstep, hrest, ?_⟩
  rw [onLine_append hlate, onLine_append hadded, onLine, filter_line_eq_nil hnone, filter_line_eq_self hown,
    filter_line_eq_nil hlateNone, List.nil_append, List.append_nil, hadded]

end Extraction

end ToolpathViewer
