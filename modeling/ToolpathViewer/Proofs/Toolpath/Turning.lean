import Mathlib.Data.List.ReduceOption
import ToolpathViewer.Proofs.Token.Relabelling
import ToolpathViewer.Proofs.Toolpath.Attribution

/-!
# Programs with the axes turned

No axis is treated in a way of its own. When every name in a program gives way to the name of the next axis, and the plane to start with to
the next plane, what was drawn along an axis is drawn along the next one, arcs of every form included (`relabelled_is_turned`). A plane is
seen only through its two axes and the axis that stands on it, and these turn along (`Plane.project_turned`, `Plane.lift_turned`). Two runs
stay turned from line to line (`Turns`); they differ in the problems that they find, which quote the program, and in where lines start.
-/

namespace ToolpathViewer

open Text

/-! ## Turned points -/

section

variable {α : Type}

/-- The axis behind an axis, in turn. -/
def Axis.next : Axis → Axis
  | .x => .y
  | .y => .z
  | .z => .x

/-- The vector along the next axes: what it has along an axis, the turned one has along the next. -/
def Vec3.turned (v : Vec3 α) : Vec3 α := ⟨v.z, v.x, v.y⟩

/-- The components of a turned vector. -/
@[simp] theorem Vec3.along?_turned (v : Vec3 α) (a : Axis) : v.turned.along? a.next = v.along? a := by
  cases a <;> rfl

namespace Plane

/-- The first axis of the next plane is the next axis. -/
@[simp] theorem first_next (p : Plane) : p.next.first = p.first.next := by cases p <;> rfl

/-- The second axis of the next plane is the next axis. -/
@[simp] theorem second_next (p : Plane) : p.next.second = p.second.next := by cases p <;> rfl

/-- The normal of the next plane is the next axis. -/
@[simp] theorem normal_next (p : Plane) : p.next.normal = p.normal.next := by cases p <;> rfl

/-- A turned point lies in the next plane where the point lies in its plane. -/
@[simp] theorem project_turned (p : Plane) (v : Vec3 α) : p.next.project v.turned = p.project v := by
  simp only [project, first_next, second_next, Vec3.along?_turned]

/-- A point over the next plane is the turned point over the plane. -/
@[simp] theorem lift_turned (p : Plane) (v : Vec2 α) (height : α) : p.next.lift v height = (p.lift v height).turned := by
  cases p <;> rfl

end Plane

end

/-- A movement to the turned position. -/
def Movement.turned (m : Movement) : Movement := { m with position := m.position.turned }

/-- The origin stays where it is. -/
@[simp] theorem Movement.turned_origin : Movement.origin.turned = .origin := rfl

/-- A machine at the turned position, with the next plane. -/
def Machine.turned (m : Machine) : Machine := { m with position := m.position.turned, plane := m.plane.next }

/-- The words of an arc, each for the next axis. -/
def ArcWords.turned (w : ArcWords) : ArcWords := ⟨w.k, w.i, w.j, w.r⟩

namespace Extraction

/-- The way to the center is the same in the next plane. -/
@[simp] theorem centerOffset?_turned (p : Plane) (w : ArcWords) : centerOffset? p.next w.turned = centerOffset? p w := by
  cases p <;> rfl

/-- The center is the same in the next plane. -/
@[simp] theorem arcCenter_turned (p : Plane) (turn : Arc.Turn) (w : ArcWords) (start stop : Vec2 Float) :
    arcCenter p.next turn w.turned start stop = arcCenter p turn w start stop := by
  rw [arcCenter, arcCenter, centerOffset?_turned]
  rfl

/-- The points of an arc are turned with its ends. -/
@[simp] theorem helix_turned (p : Plane) (start stop : Vec3 Float) (chords : List (Arc.Chord Float)) :
    helix p.next start.turned stop.turned chords = (helix p start stop chords).map Vec3.turned := by
  simp [helix]

/-- The target is turned with the machine and the values. -/
@[simp] theorem target_turned (m : Machine) (axes : AxisWords) : target m.turned axes.turned = (target m axes).turned := rfl

end Extraction

/-! ## Turned lines -/

namespace Line

variable {x : List (List Char)} {l l' : Line} {plane : Plane} {t t' : Token}

/-- The second line asks for what the first one asks for, along the next axes. -/
structure Turns (l l' : Line) : Prop where
  number : l'.number = l.number
  named : l'.named = l.named
  motion : l'.motion = l.motion
  excluded : l'.excluded = l.excluded
  axes : l'.axes = l.axes.turned
  arc : l'.arc = l.arc.turned
  silenced : l'.silenced = l.silenced

/-- A turned line has values for axes when the line has. -/
theorem Turns.hasAxes (h : Turns l l') : l'.hasAxes = l.hasAxes := by
  rw [Line.hasAxes, Line.hasAxes, h.axes, Vec3.turned, Bool.or_assoc, Bool.or_comm]

/-- Lines stay turned with turned values for axes. -/
theorem Turns.setAxes (h : Turns l l') {axes axes' : AxisWords} (haxes : axes' = axes.turned) :
    Turns { l with axes } { l' with axes := axes' } :=
  { h with axes := haxes }

/-- Lines stay turned with turned values for the center. -/
theorem Turns.setArc (h : Turns l l') {arc arc' : ArcWords} (harc : arc' = arc.turned) :
    Turns { l with arc } { l' with arc := arc' } :=
  { h with arc := harc }

/-- What reading a token leaves is turned. -/
structure Read.Turns (r r' : Read) : Prop where
  line : r.line.Turns r'.line
  plane : r'.plane = r.plane.next

/-- The ways in which two lines keep a value keep them turned. -/
def StoresTurn (store store' : Float → Line → Line) : Prop := ∀ v l l', Turns l l' → Turns (store v l) (store' v l')

/-- A letter that is no name of an axis, or of the way to a center along one, stands for the radius or for nothing. -/
theorem storesTurn_of_others {letter : List Char} (h : ∀ other ∈ ['X', 'Y', 'Z', 'I', 'J', 'K'], letter ≠ [other]) :
    Option.Rel StoresTurn (store? letter) (store? letter) := by
  unfold store?
  split
  case h_7 => exact .some fun v l l' hl => hl.setArc (by rw [hl.arc]; rfl)
  case h_8 => exact .none
  all_goals exact absurd rfl (h _ (by decide))

/-- The value of a name is kept where that of the next name is kept, turned. -/
theorem storesTurn_nextLetter (c : Char) :
    Option.Rel StoresTurn (store? (upperChar c)) (store? (upperChar (Token.nextLetter c))) := by
  unfold Token.nextLetter
  split
  case h_1 h | h_2 h | h_3 h =>
    rw [h]
    exact .some fun v l l' hl => hl.setAxes (by rw [hl.axes]; rfl)
  case h_4 h | h_5 h | h_6 h =>
    rw [h]
    exact .some fun v l l' hl => hl.setArc (by rw [hl.arc]; rfl)
  case h_7 h₁ h₂ h₃ h₄ h₅ h₆ =>
    refine storesTurn_of_others fun other hother heq => ?_
    simp only [List.mem_cons, List.not_mem_nil, or_false] at hother
    rcases hother with rfl | rfl | rfl | rfl | rfl | rfl <;> contradiction

/-! ## Reading tokens of both -/

/-- A command for a plane that is not left out selects the plane. -/
theorem readCommand_plane {p : Plane} (ht : Code.normalize t.text = .ok p.code.toList) (hp : p.code.toList ∉ x) :
    l.readCommand x plane t = .ok ⟨{ l with named := true }, p, none⟩ := by
  have hnumber : Code.isNumber (p.code.toList.drop 1) = true := by cases p <;> decide
  have hmotion : Motion.ofCode? p.code.toList = none := by cases p <;> decide
  have hcontains : x.contains p.code.toList = false := by simpa using hp
  unfold readCommand
  simp only [ht, ok_bind, hnumber, hcontains, hmotion, Plane.ofCode?_code]
  rfl

/-- Another command means the same to both lines. -/
theorem Turns.readCommand_same (h : Turns l l') (htext : t'.text = t.text) (hplane : Token.plane? t.text = none) :
    Corresponds Read.Turns (l.readCommand x plane t) (l'.readCommand x plane.next t') := by
  unfold Line.readCommand
  rw [htext]
  cases hcode : Code.normalize t.text with
  | error fault => exact .fail _ _
  | ok code =>
    have hnone : Plane.ofCode? code = none := by
      rw [Token.plane?, hcode] at hplane
      exact hplane
    simp only [ok_bind, hnone]
    split
    · exact .ok ⟨{ h with excluded := rfl }, rfl⟩
    · cases Motion.ofCode? code with
      | some m => exact .ok ⟨{ h with named := rfl, motion := rfl }, rfl⟩
      | none => exact .ok ⟨{ h with named := rfl }, rfl⟩

/-- A relabelled command is read to the turned line. -/
theorem Turns.readCommand (h : Turns l l') (ht : Token.Relabels t t') (hk : t.kind = .command) (hx : ∀ p : Plane, p.code.toList ∉ x) :
    Corresponds Read.Turns (l.readCommand x plane t) (l'.readCommand x plane.next t') := by
  have htext := ht.text
  rw [Token.relabelled, hk] at htext
  cases hplane : Token.plane? t.text with
  | none =>
    rw [hplane] at htext
    exact h.readCommand_same htext hplane
  | some p =>
    rw [hplane] at htext
    -- The new name is the code of the next plane as it is; how the old one was spelled does not matter.
    have hnext : Code.normalize t'.text = .ok p.next.code.toList := by
      rw [htext]
      exact p.next.normalize_code
    rw [readCommand_plane (Token.normalize_of_plane? hplane) (hx p), readCommand_plane hnext (hx p.next)]
    exact .ok ⟨{ h with named := rfl }, rfl⟩

/-- A relabelled coordinate is read to the turned line. -/
theorem Turns.readCoordinate (h : Turns l l') (ht : Token.Relabels t t') (hk : t.kind = .coordinate) :
    Corresponds Read.Turns (l.readCoordinate plane t) (l'.readCoordinate plane.next t') := by
  have htext := ht.text
  rw [Token.relabelled, hk] at htext
  unfold Line.readCoordinate
  rw [htext]
  cases t.text with
  | nil => exact .fail _ _
  | cons c value =>
    have hstores := storesTurn_nextLetter c
    simp only [List.modifyHead_cons]
    generalize store? (upperChar c) = store at hstores ⊢
    generalize store? (upperChar (Token.nextLetter c)) = store' at hstores ⊢
    cases hstores with
    | none => exact .ok ⟨h, rfl⟩
    | some hstore =>
      cases Decimal.readDecimal? value with
      | some v => exact .ok ⟨hstore v l l' h, rfl⟩
      | none => exact .ok ⟨h, rfl⟩

/-- A word is read to the turned line. -/
theorem Turns.readWord (h : Turns l l') (htext : t'.text = t.text) :
    Read.Turns (l.readWord plane t) (l'.readWord plane.next t') := by
  unfold Line.readWord
  rw [htext]
  split
  · exact ⟨{ h with silenced := rfl }, rfl⟩
  · split <;> exact ⟨h, rfl⟩

/-- A token of a program and the same token with its new name are read alike. -/
theorem Turns.read (h : Turns l l') (ht : Token.Relabels t t') (hx : ∀ p : Plane, p.code.toList ∉ x) :
    Corresponds Read.Turns (l.read x plane t) (l'.read x plane.next t') := by
  unfold Line.read
  rw [h.silenced, ht.kind]
  split
  · exact .ok ⟨h, rfl⟩
  · cases hk : t.kind with
    | command => exact h.readCommand ht hk hx
    | coordinate => exact h.readCoordinate ht hk
    | word =>
      have htext := ht.text
      rw [Token.relabelled, hk] at htext
      exact .ok (h.readWord htext)
    | comment | number | space | bad => exact .ok ⟨h, rfl⟩

end Line

namespace Extraction

variable {s : Settings} {e e' : Extraction} {l l' : Line}

/-! ## Moving along both -/

/-- The second path is the first one with the axes turned. The problems that were found may differ. -/
structure Turns (e e' : Extraction) : Prop where
  machine : e'.machine = e.machine.turned
  movements : e'.movements = e.movements.map Movement.turned
  dropped : e'.dropped = e.dropped

/-- Reports keep paths turned, whatever they say. -/
theorem Turns.report (h : Turns e e') (n n' : Nat) (message message' : String) :
    Turns (e.report n message) (e'.report n' message') :=
  { h with }

/-- A move to the turned target keeps paths turned. -/
theorem Turns.moveTo (h : Turns e e') (motion : Motion) (n : Nat) (target : Vec3 Float) :
    Turns (e.moveTo s motion n target) (e'.moveTo s motion n target.turned) := by
  have hmachine : { e'.machine with position := target.turned } = Machine.turned { e.machine with position := target } := by
    rw [h.machine]
    rfl
  have hsize : e'.movements.size = e.movements.size := by rw [h.movements, Array.size_map]
  unfold Extraction.moveTo
  simp only [hsize]
  split
  · exact ⟨hmachine, h.movements, congrArg (· + 1) h.dropped⟩
  · refine ⟨hmachine, ?_, h.dropped⟩
    rw [h.movements, Array.map_push]
    rfl

/-- Moves to turned points keep paths turned. -/
theorem Turns.foldl_moveTo (h : Turns e e') (motion : Motion) (n : Nat) (points : List (Vec3 Float)) :
    Turns (points.foldl (Extraction.moveTo s motion n) e) ((points.map Vec3.turned).foldl (Extraction.moveTo s motion n) e') := by
  induction points generalizing e e' with
  | nil => exact h
  | cons p points ih => exact ih (h.moveTo motion n p)

/-- A turned arc keeps paths turned. -/
theorem Turns.moveArc (h : Turns e e') (hl : l.Turns l') (turn : Arc.Turn) (target : Vec3 Float) :
    Corresponds Turns (e.moveArc s turn l target) (e'.moveArc s turn l' target.turned) := by
  unfold Extraction.moveArc
  -- Seen in the plane of its machine, the turned arc has the same ends and words, hence the same center and the same chords.
  simp only [h.machine, Machine.turned, Plane.project_turned, hl.arc, arcCenter_turned, hl.number]
  cases arcCenter e.machine.plane turn l.arc (e.machine.plane.project e.machine.position) (e.machine.plane.project target) with
  | error fault => exact .fail _ _
  | ok center =>
    simp only [ok_bind]
    split
    · exact .ok ((h.report _ _ _ _).moveTo _ _ target)
    · rename_i c hc
      cases Arc.tessellate turn (e.machine.plane.project e.machine.position) (e.machine.plane.project target) c s.divisions with
      | error fault => exact .fail _ _
      | ok chords =>
        simp only [ok_bind, helix_turned]
        exact .ok (h.foldl_moveTo _ _ _)

/-- Performing a turned line keeps paths turned. -/
theorem Turns.perform (h : Turns e e') (hl : l.Turns l') (motion : Motion) :
    Corresponds Turns (Extraction.perform s l e motion) (Extraction.perform s l' e' motion) := by
  unfold Extraction.perform
  rw [hl.hasAxes, h.machine, hl.axes, target_turned, hl.number]
  split
  · exact .ok h
  · split
    · exact h.moveArc hl _ _
    · exact .ok (h.moveTo _ _ _)

/-- The end of a line keeps two paths turned. -/
theorem Turns.finishLine (h : Turns e e') (hl : l.Turns l') :
    Corresponds Turns (e.finishLine s l) (e'.finishLine s l') := by
  unfold Extraction.finishLine
  rw [hl.motion]
  cases l.motion with
  | some motion =>
    have hset : Turns { e with machine := { e.machine with motion := some motion } }
        { e' with machine := { e'.machine with motion := some motion } } :=
      { h with machine := by rw [h.machine]; rfl }
    exact (hset.perform hl motion).mapError _ _
  | none =>
    have hmotion : e'.machine.motion = e.machine.motion := by
      rw [h.machine]
      rfl
    dsimp only
    rw [hl.hasAxes, hl.named, hl.excluded, hmotion]
    split
    · cases e.machine.motion with
      | some motion => exact (h.perform hl motion).mapError _ _
      | none => exact .ok (h.report _ _ _ _)
    · exact .ok h

/-! ## Runs of both -/

/-- Both the path and the line in the making are turned. -/
structure Progress.Turns (p p' : Progress) : Prop where
  path : p.path.Turns p'.path
  line : p.line.Turns p'.line

variable {p p' : Progress} {t t' : Token}

/-- Ending a line keeps the two runs turned. -/
theorem Progress.Turns.nextLine (h : p.Turns p') (start start' : Int) :
    Corresponds Progress.Turns (p.nextLine s start) (p'.nextLine s start') := by
  refine (h.path.finishLine h.line).bind fun e e' he => .ok ⟨he, ?_⟩
  exact ⟨congrArg (· + 1) h.line.number, rfl, rfl, rfl, rfl, rfl, rfl⟩

/-- Spaces keep the two runs turned. -/
theorem Progress.Turns.readSpace (h : p.Turns p') (start start' : Int) (text : List Char) :
    Corresponds Progress.Turns (Progress.readSpace s start text p) (Progress.readSpace s start' text p') :=
  corresponds_readSpace (fun _ _ start start' hp => hp.nextLine start start') (List.forall₂_same.2 fun _ _ => rfl) h start start'

/-- A relabelled token keeps the two runs turned. -/
theorem Progress.Turns.readToken (h : p.Turns p') (ht : Token.Relabels t t') (hx : ∀ p : Plane, p.code.toList ∉ s.excluded) :
    Corresponds Progress.Turns (Progress.readToken s p t) (Progress.readToken s p' t') := by
  unfold Progress.readToken
  rw [ht.kind]
  by_cases hspace : (t.kind == .space) = true
  · have htext := ht.text
    rw [Token.relabelled, beq_iff_eq.1 hspace] at htext
    rw [if_pos hspace, if_pos hspace, htext]
    exact h.readSpace _ _ _
  · rw [if_neg hspace, if_neg hspace]
    have hplane : p'.path.machine.plane = p.path.machine.plane.next := by
      rw [h.path.machine]
      rfl
    have hread : Corresponds Line.Read.Turns (p.line.read s.excluded p.path.machine.plane t)
        (p'.line.read s.excluded p.path.machine.plane.next t') := h.line.read ht hx
    rw [hplane]
    generalize p.line.read s.excluded p.path.machine.plane t = r at hread ⊢
    generalize p'.line.read s.excluded p.path.machine.plane.next t' = r' at hread ⊢
    cases hread with
    | fail i i' => exact .fail _ _
    | ok hr =>
      refine .ok ⟨⟨?_, h.path.movements, h.path.dropped⟩, hr.line⟩
      simp only [h.path.machine, hr.plane]
      rfl

/-! ## Programs behind the command for a plane -/

/-- A command for a plane that is not left out turns the machine to the plane. -/
theorem readToken_plane {q : Progress} {plane : Plane} (hk : t.kind = .command) (hq : q.line.silenced = false)
    (ht : Code.normalize t.text = .ok plane.code.toList) (hx : plane.code.toList ∉ s.excluded) :
    Progress.readToken s q t =
      .ok { path := { q.path with machine := { q.path.machine with plane } }, line := { q.line with named := true } } := by
  have hread : q.line.read s.excluded q.path.machine.plane t = .ok ⟨{ q.line with named := true }, plane, none⟩ := by
    rw [Line.read, if_neg (by simp [hq]), hk]
    exact Line.readCommand_plane ht hx
  unfold Progress.readToken
  rw [if_neg (by simp [hk]), hread]
  simp

/-- A program behind the command for a plane, which stands on a line of its own, is read with that plane. -/
theorem ofText_code {plane : Plane} (hx : plane.code.toList ∉ s.excluded) (text : List Char) :
    ofText s (plane.code.toList ++ '\n' :: text) =
      (Token.scan (plane.code.toList.length + 1) text).foldlM (Progress.readToken s)
          { path := { machine := { plane } }, line := { number := 2, start := plane.code.toList.length + 1 } } >>=
        fun q => q.path.finishLine s q.line := by
  have hcommand := readToken_plane (s := s) (q := {}) (t := ⟨.command, 0, plane.code.toList.length, plane.code.toList⟩) rfl rfl
    plane.normalize_code hx
  have hend (start : Int) :
      Progress.nextLine s { path := { machine := { plane } }, line := { number := 1, start := 0, named := true } } start =
        .ok { path := { machine := { plane } }, line := { number := 2, start } } := rfl
  rw [ofText, ofTokens, Token.ofText, Token.foldlM_scan_newline (splitsSpaces_readToken s), Token.scan_code, List.foldlM_cons, hcommand,
    ok_bind, List.foldlM_nil, pure_bind, readToken_newline, hend, ok_bind, Int.zero_add]

/-- A program behind the command for a plane, and the relabelled program behind the command for the next plane. -/
theorem corresponds_relabel (hx : ∀ p : Plane, p.code.toList ∉ s.excluded) (p : Plane) (text : List Char) :
    Corresponds Turns (ofText s (p.code.toList ++ '\n' :: text)) (ofText s (p.next.code.toList ++ '\n' :: Token.relabel text)) := by
  rw [ofText_code (hx p), ofText_code (hx p.next)]
  have hstart : Progress.Turns { path := { machine := { plane := p } }, line := { number := 2, start := p.code.toList.length + 1 } }
      { path := { machine := { plane := p.next } }, line := { number := 2, start := p.next.code.toList.length + 1 } } :=
    ⟨⟨rfl, by simp, rfl⟩, ⟨rfl, rfl, rfl, rfl, rfl, rfl, rfl⟩⟩
  refine (Corresponds.foldlM (Token.forall₂_scan_relabel _ _ text) ?_ hstart).bind fun q q' hq => hq.path.finishLine hq.line
  exact fun q q' t t' hq ht => hq.readToken ht hx

/-- The commands that are left out are the normal forms of codes. -/
theorem Settings.exists_of_mem_codesOf {codes : List Json} {normal : List (List Char)} (h : codesOf codes = .ok normal)
    {c : List Char} (hc : c ∈ normal) : ∃ code, Json.str code ∈ codes ∧ Code.normalize code.toList = .ok c := by
  obtain ⟨given, hgiven, h⟩ := bind_eq_ok.1 h
  split at h
  · cases h
  · obtain rfl := Except.ok.inj h
    obtain ⟨code, hcode, hnormal⟩ := exists_of_mem_mapM hgiven hc
    have htext := (List.takeWhile_prefix _).subset (List.reduceOption_mem_iff.1 (List.mem_of_mem_filter hcode))
    obtain ⟨value, hvalue, hstr⟩ := List.mem_map.1 htext
    refine ⟨code, ?_, hnormal⟩
    cases value with
    | str text =>
      obtain rfl := Option.some.inj hstr
      exact hvalue
    | null | bool | int | num | arr | obj => cases hstr

/-- Where no command for a plane is left out, the extraction of a relabelled program that starts in the next plane returns when that of
the program does. It draws the same, along the next axes: every movement is of the same command and the same line, and what was its x is
its y, what was its y is its z, and what was its z is its x. -/
theorem relabelled_is_turned {codes : List Json} {limit divisions : Json} {s : Settings}
    (hs : Settings.ofValues codes limit divisions = .ok s)
    (hcodes : ∀ code, Json.str code ∈ codes → ∀ p : Plane, Code.normalize code.toList ≠ .ok p.code.toList) (text : List Char) :
    ((∃ e, ofText s ("G17\n".toList ++ text) = .ok e) ↔ ∃ e', ofText s ("G19\n".toList ++ Token.relabel text) = .ok e') ∧
      ∀ e e', ofText s ("G17\n".toList ++ text) = .ok e → ofText s ("G19\n".toList ++ Token.relabel text) = .ok e' →
        e'.dropped = e.dropped ∧ e'.movements.toList = e.movements.toList.map Movement.turned := by
  have hx : ∀ p : Plane, p.code.toList ∉ s.excluded := by
    intro p hp
    obtain ⟨code, hcode, hnormal⟩ := Settings.exists_of_mem_codesOf (codesOf_of_ofValues hs) hp
    exact hcodes code hcode p hnormal
  have hboth : Corresponds Turns (ofText s ("G17\n".toList ++ text)) (ofText s ("G19\n".toList ++ Token.relabel text)) :=
    corresponds_relabel hx .xy text
  refine ⟨hboth.exists_ok_iff, fun e e' he he' => ?_⟩
  rw [he, he'] at hboth
  have hturns := hboth.of_ok
  exact ⟨hturns.dropped, by rw [hturns.movements, Array.toList_map]⟩

/-- Of three movements, in three planes, the first two are kept. -/
theorem relabelled_is_turned_three_planes :
    ∃ s e e', Settings.ofValues [.str " g028"] (.int 3) (.int 64) = .ok s ∧
      ofText s ("G17\n".toList ++ "g01 x1 Y2 (X)\nG018 G0 Z3;G17 X\nG28 I4\nX2\ng19".toList) = .ok e ∧
      ofText s ("G19\n".toList ++ "g01 Y1 Z2 (X)\nG17 G0 X3;G17 Y\nG28 J4\nY2\nG18".toList) = .ok e' ∧
      e.movements.toList.map (·.line) = [0, 2, 3] ∧ e.dropped = 1 ∧
      e'.dropped = e.dropped ∧ e'.movements.toList = e.movements.toList.map Movement.turned := by
  have hs : Settings.ofValues [.str " g028"] (.int 3) (.int 64) = .ok ⟨["G28".toList], some 3, .whole 64⟩ := rfl
  have hcodes : ∀ code, Json.str code ∈ [Json.str " g028"] → ∀ p : Plane, Code.normalize code.toList ≠ .ok p.code.toList := by
    intro code hcode p
    obtain rfl := Json.str.inj (List.mem_singleton.1 hcode)
    cases p <;> decide
  have hnames : Token.relabel "g01 x1 Y2 (X)\nG018 G0 Z3;G17 X\nG28 I4\nX2\ng19".toList =
      "g01 Y1 Z2 (X)\nG17 G0 X3;G17 Y\nG28 J4\nY2\nG18".toList := by decide +kernel
  have hdrawn : ((ofText ⟨["G28".toList], some 3, .whole 64⟩
      ("G17\n".toList ++ "g01 x1 Y2 (X)\nG018 G0 Z3;G17 X\nG28 I4\nX2\ng19".toList)).toOption.map
        fun e => (e.movements.toList.map (·.line), e.dropped)) = some ([0, 2, 3], 1) := by decide +kernel
  obtain ⟨e, he, hlines⟩ := Option.map_eq_some_iff.1 hdrawn
  have h := eq_ok_of_toOption he
  obtain ⟨hreturns, hturned⟩ := relabelled_is_turned hs hcodes "g01 x1 Y2 (X)\nG018 G0 Z3;G17 X\nG28 I4\nX2\ng19".toList
  obtain ⟨e', he'⟩ := hreturns.1 ⟨e, h⟩
  obtain ⟨hdropped, hmovements⟩ := hturned e e' h he'
  rw [hnames] at he'
  exact ⟨_, e, e', hs, h, he', congrArg Prod.fst hlines, congrArg Prod.snd hlines, hdropped, hmovements⟩

end Extraction

end ToolpathViewer
