import ToolpathViewer.Proofs.Toolpath.Edits

/-!
# The commands on a line

Some commands are left out of an extraction. A line notes such a command and nothing else of it (`read_of_isExcluded`), and a token that is
not left out means what it means to an extraction that leaves nothing out (`read_mark`). Only another command sets a motion or a plane
(`Notes`).
-/

namespace ToolpathViewer

open Text

namespace Token

/-- The token is a command of `x`. -/
def isExcluded (x : List (List Char)) (t : Token) : Bool :=
  t.kind == .command && (Code.normalize t.text).toOption.any x.contains

/-- The token is a command that is not of `x`. -/
def names (x : List (List Char)) (t : Token) : Bool := t.kind == .command && !t.isExcluded x

variable {x : List (List Char)} {t : Token}

/-- Moving a token does not change whether it is left out. -/
@[simp] theorem isExcluded_shift (k : Int) (t : Token) : (t.shift k).isExcluded x = t.isExcluded x := rfl

/-- Moving a token does not change whether it names a command. -/
@[simp] theorem names_shift (k : Int) (t : Token) : (t.shift k).names x = t.names x := rfl

/-- Only commands are left out. -/
theorem kind_of_isExcluded (h : t.isExcluded x = true) : t.kind = .command := by
  rw [isExcluded, Bool.and_eq_true, beq_iff_eq] at h
  exact h.1

/-- A token that is left out is no space. -/
theorem kind_ne_space_of_isExcluded (t : Token) (h : t.isExcluded x = true) : t.kind ≠ .space := by
  rw [kind_of_isExcluded h]
  decide

/-- Only commands name one. -/
theorem kind_of_names (h : t.names x = true) : t.kind = .command := by
  rw [names, Bool.and_eq_true, beq_iff_eq] at h
  exact h.1

/-- Whether a command with some property is heard does not depend on the other tokens. -/
theorem any_heard {f : Token → Bool} (hf : ∀ t, f t = true → t.kind = .command) (ts : List Token) :
    (heard ts).any f = (spoken ts).any f := by
  rw [heard, List.any_filter]
  congr 1
  funext t
  cases ht : f t with
  | false => rw [Bool.and_false]
  | true => simp [counts, hf t ht]

end Token

namespace Line

variable {x : List (List Char)} {l : Line} {plane : Plane} {t : Token} {r : Read} {b : Bool}

/-- A line with a note on whether a command that is left out stands on it. -/
def mark (b : Bool) (l : Line) : Line := { l with excluded := b }

/-- What a token leaves of a line with such a note. -/
def Read.mark (b : Bool) (r : Read) : Read := { r with line := r.line.mark b }

/-- A mark does not change the motion of a line. -/
@[simp] theorem motion_mark (b : Bool) (l : Line) : (l.mark b).motion = l.motion := rfl

/-- A mark does not change whether a line names a command. -/
@[simp] theorem named_mark (b : Bool) (l : Line) : (l.mark b).named = l.named := rfl

/-- A mark does not change whether a line has values for axes. -/
@[simp] theorem hasAxes_mark (b : Bool) (l : Line) : (l.mark b).hasAxes = l.hasAxes := rfl

/-- Values are stored alike in a marked line. -/
theorem store?_mark {letter : List Char} {store : Float → Line → Line} (h : store? letter = some store) (b : Bool) (v : Float)
    (l : Line) : store v (l.mark b) = (store v l).mark b := by
  obtain ⟨axes, arc, hstore⟩ := store?_eq h
  rw [hstore, hstore]
  rfl

/-- Storing a value does not touch the notes of a line on its commands. -/
theorem store?_notes {letter : List Char} {store : Float → Line → Line} (h : store? letter = some store) (v : Float) (l : Line) :
    (store v l).named = l.named ∧ (store v l).excluded = l.excluded ∧ (store v l).motion = l.motion := by
  obtain ⟨axes, arc, hstore⟩ := store?_eq h
  rw [hstore]
  exact ⟨rfl, rfl, rfl⟩

/-- A command that is not left out means the same to a line with another note, and to an extraction that leaves nothing out. -/
theorem readCommand_mark (ht : (Code.normalize t.text).toOption.any x.contains = false) :
    (l.mark b).readCommand [] plane t = (l.readCommand x plane t).map (Read.mark b) := by
  unfold readCommand
  cases hcode : Code.normalize t.text with
  | error fault => rfl
  | ok code =>
    rw [hcode] at ht
    have hx : x.contains code = false := ht
    simp only [ok_bind, hx, List.contains_nil, Bool.false_eq_true, if_false]
    cases Motion.ofCode? code <;> rfl

/-- Coordinates are read alike on a marked line. -/
theorem readCoordinate_mark : (l.mark b).readCoordinate plane t = (l.readCoordinate plane t).map (Read.mark b) := by
  unfold readCoordinate
  cases t.text with
  | nil => rfl
  | cons c value =>
    dsimp only
    cases hstore : store? (upperChar c) with
    | none => rfl
    | some store =>
      dsimp only
      cases Decimal.readDecimal? value with
      | none => rfl
      | some v =>
        dsimp only
        rw [store?_mark hstore]
        rfl

/-- Words are read alike on a marked line. -/
theorem readWord_mark : (l.mark b).readWord plane t = (l.readWord plane t).mark b := by
  unfold readWord
  split
  · rfl
  · split <;> rfl

/-- A token that is not left out means the same to a line with another note, and to an extraction that leaves nothing out. -/
theorem read_mark (ht : t.isExcluded x = false) : (l.mark b).read [] plane t = (l.read x plane t).map (Read.mark b) := by
  unfold read
  by_cases hs : l.silenced = true
  · rw [if_pos hs, if_pos (show (l.mark b).silenced = true from hs)]
    rfl
  · rw [if_neg hs, if_neg (show ¬(l.mark b).silenced = true from hs)]
    cases hk : t.kind with
    | command =>
      refine readCommand_mark ?_
      rwa [Token.isExcluded, hk, BEq.rfl, Bool.true_and] at ht
    | coordinate => exact readCoordinate_mark
    | word => exact congrArg Except.ok readWord_mark
    | comment | number | space | bad => rfl

/-- What reading a token makes of the notes of a line on its commands. A token that is no other command than those of `x` is idle: it sets
no motion and no plane. -/
structure Notes (x : List (List Char)) (l : Line) (plane : Plane) (t : Token) (r : Read) : Prop where
  named : r.line.named = (l.named || t.names x)
  excluded : r.line.excluded = (l.excluded || t.isExcluded x)
  idle : t.names x = false → r.line.motion = l.motion ∧ r.plane = plane

/-- A token that is no command leaves the notes as they are. -/
theorem notes_of_kind_ne (ht : t.kind ≠ .command) (hnamed : r.line.named = l.named) (hexcluded : r.line.excluded = l.excluded)
    (hmotion : r.line.motion = l.motion) (hplane : r.plane = plane) : Notes x l plane t r where
  named := by simp [hnamed, Token.names, ht]
  excluded := by simp [hexcluded, Token.isExcluded, ht]
  idle := fun _ => ⟨hmotion, hplane⟩

/-- A command that is left out does nothing but that the line notes it. -/
theorem readCommand_of_isExcluded (ht : t.isExcluded x = true) (h : l.readCommand x plane t = .ok r) :
    r.line = l.mark true ∧ r.plane = plane := by
  obtain ⟨code, hcode, h⟩ := bind_eq_ok.1 h
  rw [Token.isExcluded, hcode, Bool.and_eq_true] at ht
  have hx : x.contains code = true := ht.2
  simp only [hx, if_true] at h
  obtain rfl := Except.ok.inj h
  exact ⟨rfl, rfl⟩

/-- To an extraction that leaves nothing out, it is as if a command that is left out had not been read. -/
theorem read_of_isExcluded (ht : t.isExcluded x = true) (h : l.read x plane t = .ok r) :
    r.line.mark false = l.mark false ∧ r.plane = plane := by
  unfold read at h
  split at h
  · obtain rfl := Except.ok.inj h
    exact ⟨rfl, rfl⟩
  · rw [Token.kind_of_isExcluded ht] at h
    obtain ⟨hline, hplane⟩ := readCommand_of_isExcluded ht h
    rw [hline]
    exact ⟨rfl, hplane⟩

/-- A command that is not left out names one for its line. -/
theorem readCommand_of_names (ht : t.names x = true) (h : l.readCommand x plane t = .ok r) :
    r.line.named = true ∧ r.line.excluded = l.excluded := by
  obtain ⟨code, hcode, h⟩ := bind_eq_ok.1 h
  have hx : x.contains code = false := by
    simp only [Token.names, Token.isExcluded, hcode, Bool.and_eq_true, Bool.not_eq_true'] at ht
    rw [ht.1, Bool.true_and] at ht
    exact ht.2
  simp only [hx, Bool.false_eq_true, if_false] at h
  cases hm : Motion.ofCode? code with
  | some m =>
    simp only [hm] at h
    obtain rfl := Except.ok.inj h
    exact ⟨rfl, rfl⟩
  | none =>
    simp only [hm] at h
    obtain rfl := Except.ok.inj h
    exact ⟨rfl, rfl⟩

/-- What reading a command notes. -/
theorem notes_of_readCommand (ht : t.kind = .command) (h : l.readCommand x plane t = .ok r) : Notes x l plane t r := by
  cases hx : t.isExcluded x with
  | true =>
    have hnames : t.names x = false := by simp [Token.names, hx]
    obtain ⟨hline, hplane⟩ := readCommand_of_isExcluded hx h
    refine ⟨?_, ?_, fun _ => ⟨?_, hplane⟩⟩
    · rw [hline, hnames, Bool.or_false, named_mark]
    · rw [hline, hx, Bool.or_true]
      rfl
    · rw [hline, motion_mark]
  | false =>
    have hnames : t.names x = true := by simp [Token.names, hx, ht]
    obtain ⟨hnamed, hexcluded⟩ := readCommand_of_names hnames h
    refine ⟨?_, ?_, ?_⟩
    · rw [hnamed, hnames, Bool.or_true]
    · rw [hexcluded, hx, Bool.or_false]
    · rw [hnames]
      nofun

/-- What reading a coordinate notes. -/
theorem notes_of_readCoordinate (ht : t.kind = .coordinate) (h : l.readCoordinate plane t = .ok r) : Notes x l plane t r := by
  have hk : t.kind ≠ .command := by
    rw [ht]
    decide
  unfold readCoordinate at h
  split at h
  · cases h
  · split at h
    · obtain rfl := Except.ok.inj h
      exact notes_of_kind_ne hk rfl rfl rfl rfl
    · rename_i store hstore
      split at h
      · rename_i v hv
        obtain rfl := Except.ok.inj h
        obtain ⟨hnamed, hexcluded, hmotion⟩ := store?_notes hstore v l
        exact notes_of_kind_ne hk hnamed hexcluded hmotion rfl
      · obtain rfl := Except.ok.inj h
        exact notes_of_kind_ne hk rfl rfl rfl rfl

/-- What reading a word notes. -/
theorem notes_readWord (ht : t.kind = .word) : Notes x l plane t (l.readWord plane t) := by
  have hk : t.kind ≠ .command := by
    rw [ht]
    decide
  unfold readWord
  split
  · exact notes_of_kind_ne hk rfl rfl rfl rfl
  · split <;> exact notes_of_kind_ne hk rfl rfl rfl rfl

/-- A line notes the commands that are read into it. -/
theorem notes_of_read (hl : l.silenced = false) (h : l.read x plane t = .ok r) : Notes x l plane t r := by
  rw [read, if_neg (by simp [hl])] at h
  cases hk : t.kind with
  | command => exact notes_of_readCommand hk (by simpa only [hk] using h)
  | coordinate => exact notes_of_readCoordinate hk (by simpa only [hk] using h)
  | word =>
    simp only [hk, Except.ok.injEq] at h
    exact h ▸ notes_readWord hk
  | comment | number | space | bad =>
    simp only [hk, Except.ok.injEq] at h
    subst h
    exact notes_of_kind_ne (by rw [hk]; decide) rfl rfl rfl rfl

end Line

end ToolpathViewer
