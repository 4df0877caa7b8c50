import ToolpathViewer.Proofs.Toolpath.Heeding

/-!
# Words in another order

On a line of commands, coordinates and numbers with a space between them, the order of the words matters only within a lane: commands keep
theirs among themselves, and so do coordinates with the same letter (`word_order_is_free`). Words of different lanes ask for different
things, so that heeding them commutes (`heed_comm`), and `foldlM_reordered` carries this from two words to the line.
-/

namespace ToolpathViewer

open Text

namespace Token

/-! ## Words of a line -/

/-- The text is scanned as one token, and this is a command, a coordinate or a number. -/
def isWord (w : List Char) : Bool :=
  match ofText w with
  | [t] => t.kind == .command || t.kind == .coordinate || t.kind == .number
  | _ => false

/-- The words that have to keep their order among themselves: the commands, and the coordinates with one letter, in either case. -/
inductive Lane where
  | commands
  | letter (upper : List Char)
deriving DecidableEq

/-- The lane of a word. Numbers are in none. -/
def lane? : List Char → Option Lane
  | [] => none
  | c :: _ =>
    match Kind.ofFirst c with
    | .command => some .commands
    | .coordinate => some (.letter (upperChar c))
    | .comment | .number | .word | .space | .bad => none

/-- The second words are the first ones in another order, in which each lane has kept its own. -/
structure Reordered (ws ws' : List (List Char)) : Prop where
  perm : ws.Perm ws'
  lanes : ∀ lane, ws'.filter (fun w => lane? w == some lane) = ws.filter fun w => lane? w == some lane

/-- Only the lanes of the words themselves need to be looked at. -/
theorem reordered_iff {ws ws' : List (List Char)} :
    Reordered ws ws' ↔ ws.Perm ws' ∧
      ∀ w ∈ ws, ∀ lane ∈ lane? w, ws'.filter (fun w => lane? w == some lane) = ws.filter fun w => lane? w == some lane := by
  constructor
  · intro h
    exact ⟨h.perm, fun _ _ lane _ => h.lanes lane⟩
  · rintro ⟨hperm, hlanes⟩
    refine ⟨hperm, fun lane => ?_⟩
    by_cases hused : ∃ w ∈ ws, lane? w = some lane
    · obtain ⟨w, hw, hlane⟩ := hused
      exact hlanes w hw lane hlane
    · have hnone : ∀ w ∈ ws, ¬(lane? w == some lane) = true := fun w hw hlane => hused ⟨w, hw, by simpa using hlane⟩
      have hnone' : ∀ w ∈ ws', ¬(lane? w == some lane) = true := fun w hw => hnone w (hperm.symm.subset hw)
      rw [List.filter_eq_nil_iff.2 hnone, List.filter_eq_nil_iff.2 hnone']

instance (ws ws' : List (List Char)) : Decidable (Reordered ws ws') := decidable_of_iff' _ reordered_iff

/-- A word is one token, at the end of a line and in front of a space. -/
theorem whole_of_isWord {w : List Char} (h : isWord w = true) :
    ∃ c more, w = c :: more ∧ (Kind.ofFirst c = .command ∨ Kind.ofFirst c = .coordinate ∨ Kind.ofFirst c = .number) ∧
      Whole (Kind.ofFirst c) w [] ∧ ∀ after, Whole (Kind.ofFirst c) w (' ' :: after) := by
  unfold isWord at h
  have htiling := tiling_scan 0 w
  rw [← ofText] at htiling
  split at h
  · rename_i t hscan
    rw [hscan] at htiling
    cases htiling with
    | @cons _ c more after _ hwhole hrest =>
      cases hrest
      have hkind : Kind.ofFirst c = .command ∨ Kind.ofFirst c = .coordinate ∨ Kind.ofFirst c = .number := by
        simpa [or_assoc] using h
      rw [List.append_nil]
      refine ⟨c, more, rfl, hkind, hwhole, fun after => ?_⟩
      generalize Kind.ofFirst c = k at hwhole hkind
      cases hwhole with
      | closed hremark => simp at hkind
      | unclosed hremark hafter => simp at hkind
      | run hcomment _ hmore hafter =>
        refine .run hcomment c hmore fun d hd => ?_
        obtain rfl := Option.some.inj hd
        rcases hkind with rfl | rfl | rfl <;> decide
  · cases h

/-- On a line of words with a space between them, these words are heard. -/
theorem map_text_heard_joined {ws : List (List Char)} (hws : ∀ w ∈ ws, isWord w = true) (start : Int) :
    (heard (scan start ([' '].intercalate ws))).map text = ws := by
  induction ws generalizing start with
  | nil =>
    rw [List.intercalate_nil, scan_nil]
    rfl
  | cons w ws ih =>
    obtain ⟨hw, hrest⟩ := List.forall_mem_cons.1 hws
    obtain ⟨c, more, rfl, hkind, hlast, hnext⟩ := whole_of_isWord hw
    have hheard : ∀ (stop : Int) (ts : List Token), heard (⟨Kind.ofFirst c, start, stop, c :: more⟩ :: ts) =
        ⟨Kind.ofFirst c, start, stop, c :: more⟩ :: heard ts := by
      intro stop ts
      have hcounts : counts ⟨Kind.ofFirst c, start, stop, c :: more⟩ = true := by
        rcases hkind with hk | hk | hk <;> simp [counts, hk]
      exact heard_of_counts (Line.silences_of_kind_ne (by rcases hkind with hk | hk | hk <;> simp [hk])) hcounts ts
    cases ws with
    | nil =>
      have hscan := scan_whole hlast start
      rw [List.append_nil, scan_nil] at hscan
      rw [List.intercalate_singleton, hscan, hheard]
      rfl
    | cons w' ws =>
      have hrest := ih hrest (start + (c :: more).length + 1)
      rw [List.intercalate_cons_cons, List.append_assoc, List.singleton_append, scan_whole (hnext _), hheard, ← heard_significant,
        significant_scan_space (by decide), heard_significant, List.map_cons, hrest]

/-- The length of words joined by single spaces. -/
theorem length_joined (ws : List (List Char)) : ([' '].intercalate ws).length = (ws.map List.length).sum + (ws.length - 1) := by
  induction ws with
  | nil => rfl
  | cons w ws ih =>
    cases ws with
    | nil => simp
    | cons w' ws =>
      rw [List.intercalate_cons_cons, List.length_append, List.length_append, ih]
      simp only [List.map_cons, List.sum_cons, List.length_cons, List.length_nil]
      omega

end Token

namespace Line

variable {x : List (List Char)} {w w' : List Char}

/-! ## Words that commute -/

/-- Values for different letters are kept in different places. -/
theorem store?_comm {u u' : List Char} {f g : Float → Line → Line} (hf : store? u = some f) (hg : store? u' = some g) (hne : u ≠ u')
    (v v' : Float) (l : Line) : f v (g v' l) = g v' (f v l) := by
  unfold store? at hf hg
  split at hf
  case h_8 => cases hf
  all_goals
    obtain rfl := Option.some.inj hf
    split at hg
    case h_8 => cases hg
    all_goals
      obtain rfl := Option.some.inj hg
      first
        | rfl
        | exact absurd rfl hne

/-- Coordinates with different letters may be kept in either order. -/
theorem keep_comm {c c' : Char} (hne : upperChar c ≠ upperChar c') (value value' : List Char) (l : Line) :
    keep c value (keep c' value' l) = keep c' value' (keep c value l) := by
  unfold keep
  cases hf : store? (upperChar c) with
  | none => rfl
  | some f =>
    cases hg : store? (upperChar c') with
    | none => rfl
    | some g =>
      cases Decimal.readDecimal? value with
      | none => cases Decimal.readDecimal? value' <;> rfl
      | some v =>
        cases Decimal.readDecimal? value' with
        | none => rfl
        | some v' => exact store?_comm hf hg hne v v' l

/-- A command and a coordinate change different things of a line. -/
theorem obey_keep (code : List Char) (c : Char) (value : List Char) (st : Line × Plane) :
    obey x code (keep c value st.1, st.2) = (keep c value (obey x code st).1, (obey x code st).2) := by
  obtain ⟨named, excluded, motion, select, hobey⟩ := obey_eq x code
  obtain ⟨axes, arc, hkeep⟩ := keep_eq c value
  rw [hobey, hobey, hkeep, hkeep]

/-- A word asks nothing, or is a command, or a coordinate. -/
theorem heed_cases (x : List (List Char)) (w : List Char) :
    (∀ st, heed x st w = .ok st) ∨
      (Token.lane? w = some .commands ∧ ∀ st, heed x st w = Code.normalize w >>= fun code => .ok (obey x code st)) ∨
      ∃ c value, Token.lane? w = some (.letter (upperChar c)) ∧ ∀ st, heed x st w = .ok (keep c value st.1, st.2) := by
  cases w with
  | nil => exact Or.inl fun _ => rfl
  | cons c value =>
    by_cases hcommand : Token.Kind.ofFirst c = .command
    · exact Or.inr (Or.inl ⟨by rw [Token.lane?, hcommand], fun _ => heed_command hcommand⟩)
    · by_cases hcoordinate : Token.Kind.ofFirst c = .coordinate
      · exact Or.inr (Or.inr ⟨c, value, by rw [Token.lane?, hcoordinate], fun _ => heed_coordinate hcoordinate⟩)
      · exact Or.inl fun _ => heed_of_ne hcommand hcoordinate

/-- A command and a coordinate may change places. -/
theorem heed_comm_of_command {c : Char} {value : List Char}
    (hw : ∀ st, heed x st w = Code.normalize w >>= fun code => .ok (obey x code st))
    (hw' : ∀ st, heed x st w' = .ok (keep c value st.1, st.2)) (st : Line × Plane) :
    (heed x st w >>= fun st => heed x st w') = heed x st w' >>= fun st => heed x st w := by
  rw [hw', ok_bind, hw, hw]
  cases Code.normalize w with
  | error fault => rfl
  | ok code =>
    simp only [ok_bind]
    rw [hw', obey_keep]

/-- Words that do not share a lane may change places. -/
theorem heed_comm (h : ∀ lane, Token.lane? w = some lane → Token.lane? w' ≠ some lane) (st : Line × Plane) :
    (heed x st w >>= fun st => heed x st w') = heed x st w' >>= fun st => heed x st w := by
  rcases heed_cases x w with hidle | ⟨hlane, hw⟩ | ⟨c, value, hlane, hw⟩
  · rw [hidle, ok_bind]
    simp only [hidle]
    exact (bind_pure _).symm
  · rcases heed_cases x w' with hidle' | ⟨hlane', hw'⟩ | ⟨c', value', hlane', hw'⟩
    · rw [hidle', ok_bind]
      simp only [hidle']
      exact bind_pure _
    · exact absurd hlane' (h _ hlane)
    · exact heed_comm_of_command hw hw' st
  · rcases heed_cases x w' with hidle' | ⟨hlane', hw'⟩ | ⟨c', value', hlane', hw'⟩
    · rw [hidle', ok_bind]
      simp only [hidle']
      exact bind_pure _
    · exact (heed_comm_of_command hw' hw st).symm
    · have hne : upperChar c ≠ upperChar c' := fun heq => h _ hlane (by rw [hlane', heq])
      rw [hw, hw', ok_bind, ok_bind, hw, hw', keep_comm hne]

end Line

namespace Extraction

variable {s : Settings} {e e' : Extraction} {line line' : List Char}

/-! ## Lines and programs -/

/-- A line is another one, or holds the words of the other one in an order that keeps the lanes. -/
def Rearranged (line line' : List Char) : Prop :=
  line' = line ∨ ∃ ws ws', (∀ w ∈ ws, Token.isWord w = true) ∧ Token.Reordered ws ws' ∧
    line = [' '].intercalate ws ∧ line' = [' '].intercalate ws'

/-- A line in another order is as long as before. -/
theorem Rearranged.length_eq (h : Rearranged line line') : line'.length = line.length := by
  rcases h with rfl | ⟨ws, ws', -, hreordered, rfl, rfl⟩
  · rfl
  · have hperm := hreordered.perm
    rw [Token.length_joined, Token.length_joined, hperm.length_eq, (hperm.map List.length).sum_eq]

/-- Heeding a line in another order leaves the same. -/
theorem Rearranged.heedLine_eq (h : Rearranged line line') (x : List (List Char)) (plane : Plane) (number : Nat) (start : Int) :
    heedLine x plane ⟨number, start, line'⟩ = heedLine x plane ⟨number, start, line⟩ := by
  rcases h with rfl | ⟨ws, ws', hws, hreordered, rfl, rfl⟩
  · rfl
  · have hws' : ∀ w ∈ ws', Token.isWord w = true := fun w hw => hws w (hreordered.perm.symm.subset hw)
    rw [heedLine, heedLine, Token.map_text_heard_joined hws, Token.map_text_heard_joined hws']
    exact foldlM_reordered (fun w w' hlanes st => Line.heed_comm hlanes st) hreordered.perm hreordered.lanes _

/-- Programs whose lines are rearranged do the same to paths that agree. -/
theorem corresponds_rearranged {lines lines' : List (List Char)} (h : List.Forall₂ Rearranged lines lines')
    (hlines : ∀ line ∈ lines, '\n' ∉ line) (hlines' : ∀ line ∈ lines', '\n' ∉ line) (number : Nat) (start : Int) (he : Agree e e') :
    Corresponds Agree ((SourceLine.numbered number start lines).foldlM (addLine s) e)
      ((SourceLine.numbered number start lines').foldlM (addLine s) e') := by
  induction h generalizing number start e e' with
  | nil => exact .ok he
  | @cons line line' _ _ hline _ ih =>
    obtain ⟨hn, hlines⟩ := List.forall_mem_cons.1 hlines
    obtain ⟨hn', hlines'⟩ := List.forall_mem_cons.1 hlines'
    rw [SourceLine.numbered, SourceLine.numbered, List.foldlM_cons, List.foldlM_cons, hline.length_eq]
    refine (corresponds_addLine_of_eq hn hn' he (hline.heedLine_eq _ _ _ _)).bind fun r r' hr => ?_
    exact ih hlines hlines' _ _ hr

/-- The words of a line of commands, coordinates and numbers may stand in any order that the commands keep among themselves, and the
coordinates with one letter: the extraction returns as before, with the same movements, as many lost ones and the same state of the
machine. -/
theorem word_order_is_free (s : Settings) {text text' : List Char} (h : List.Forall₂ Rearranged (linesOf text) (linesOf text')) :
    ((∃ e, ofText s text = .ok e) ↔ ∃ e', ofText s text' = .ok e') ∧
      ∀ e e', ofText s text = .ok e → ofText s text' = .ok e' →
        e'.movements = e.movements ∧ e'.dropped = e.dropped ∧ e'.machine = e.machine := by
  have hboth : Corresponds Agree (ofText s text) (ofText s text') := by
    rw [ofText_eq_addLines, ofText_eq_addLines]
    exact corresponds_rearranged h (fun _ => newline_not_mem_of_mem_linesOf) (fun _ => newline_not_mem_of_mem_linesOf) 1 0 (Agree.refl {})
  refine ⟨hboth.exists_ok_iff, fun e e' he he' => ?_⟩
  rw [he, he'] at hboth
  have hagree := hboth.of_ok
  exact ⟨hagree.movements, hagree.dropped, hagree.machine⟩

/-- All words of the first line stand elsewhere but for the two commands and the two values for one axis, of which the second counts. -/
theorem word_order_is_free_two_lines :
    List.Forall₂ Rearranged (linesOf "G1 X1 G18 Y2 x3 7\nY5".toList) (linesOf "Y2 X1 7 G1 x3 G18\nY5".toList) ∧
      ∃ e e', ofText ⟨[], none, .whole 64⟩ "G1 X1 G18 Y2 x3 7\nY5".toList = .ok e ∧
        ofText ⟨[], none, .whole 64⟩ "Y2 X1 7 G1 x3 G18\nY5".toList = .ok e' ∧
        e.movements.toList.map (·.line) = [0, 1, 2] ∧ e.machine = ⟨⟨3.0, 5.0, 0.0⟩, some .linear, .zx⟩ ∧
        e'.movements = e.movements ∧ e'.dropped = e.dropped ∧ e'.machine = e.machine := by
  have hlines : List.Forall₂ Rearranged (linesOf "G1 X1 G18 Y2 x3 7\nY5".toList) (linesOf "Y2 X1 7 G1 x3 G18\nY5".toList) := by
    have hfirst : Rearranged "G1 X1 G18 Y2 x3 7".toList "Y2 X1 7 G1 x3 G18".toList :=
      Or.inr ⟨["G1", "X1", "G18", "Y2", "x3", "7"].map String.toList, ["Y2", "X1", "7", "G1", "x3", "G18"].map String.toList,
        by decide +kernel, by decide +kernel, by decide, by decide⟩
    exact .cons hfirst (.cons (Or.inl rfl) .nil)
  have hdrawn : ((ofText ⟨[], none, .whole 64⟩ "G1 X1 G18 Y2 x3 7\nY5".toList).toOption.map
      fun e => (e.movements.toList.map (·.line), e.machine)) = some ([0, 1, 2], ⟨⟨3.0, 5.0, 0.0⟩, some .linear, .zx⟩) := by
    decide +kernel
  obtain ⟨e, he, hfound⟩ := Option.map_eq_some_iff.1 hdrawn
  obtain ⟨hmovements, hmachine⟩ := Prod.mk.inj hfound
  have h := eq_ok_of_toOption he
  have hfree := word_order_is_free ⟨[], none, .whole 64⟩ hlines
  obtain ⟨e', he'⟩ := hfree.1.1 ⟨e, h⟩
  exact ⟨hlines, e, e', h, he', hmovements, hmachine, hfree.2 e e' h he'⟩

end Extraction

end ToolpathViewer
