import ToolpathViewer.Proofs.Scene.Spans

/-!
# Scenes under calls

A scene keeps its path, the buffers of its segments, the selection and the scrubber apart, and seven calls change them. Here it is
shown that they never get out of step: `Picked` is what selecting, coloring and scrubbing keep, `Presents` is what loading decides,
and a history of calls keeps both.
-/

namespace ToolpathViewer.Scene

/-! ## Selection, scrubber and colors -/

/-- The selection and the scrubber stand within the segments, and the colors are those of the selection and the theme. -/
structure Picked (s : Scene) : Prop where
  selection_none : s.selection = none ↔ s.segmentCount = 0
  selection_within : ∀ span, s.selection = some span → span.first ≤ span.last ∧ span.last < s.segmentCount
  scrubber_le : s.scrubber ≤ s.segmentCount - 1
  colors : s.colors = ((List.range s.segmentCount).map fun (i : Nat) => s.colorOf i).toArray

/-- An index that is clamped lies in its range. -/
theorem clampIndex_le (last : Nat) (i : Int) : clampIndex last i ≤ last := by
  rw [clampIndex]
  omega

/-- An index in its range is clamped to itself. -/
theorem clampIndex_of_le {last i : Nat} (h : i ≤ last) : clampIndex last i = i := by
  unfold clampIndex
  omega

/-- Selecting puts the selection and the colors right, whatever they were. -/
theorem picked_select {s : Scene} (hscrubber : s.scrubber ≤ s.segmentCount - 1) (first last : Int) :
    (s.select first last).Picked := by
  unfold select
  by_cases hn : s.segmentCount = 0
  · rw [if_pos hn]
    constructor
    · exact iff_of_true rfl hn
    · intro span h
      cases h
    · exact hscrubber
    · change #[] = ((List.range s.segmentCount).map _).toArray
      rw [hn, List.range_zero, List.map_nil]
  · rw [if_neg hn]
    constructor
    · exact iff_of_false (fun h => by cases h) hn
    · intro span h
      obtain rfl := Option.some.inj h
      have hlow := clampIndex_le (s.segmentCount - 1) first
      have hhigh := clampIndex_le (s.segmentCount - 1) last
      refine ⟨le_max_left _ _, ?_⟩
      change max _ _ < s.segmentCount
      omega
    · exact hscrubber
    · rfl

/-- A change of the theme keeps what is picked. -/
theorem Picked.setTheme {s : Scene} (h : s.Picked) (name : String) : (s.setTheme name).2.Picked := by
  unfold Scene.setTheme
  split
  · exact h
  · exact ⟨h.selection_none, h.selection_within, h.scrubber_le, rfl⟩

/-- Scrubbing picks segments of the scene. -/
theorem Picked.scrubTo {s : Scene} (h : s.Picked) (i : Int) : (s.scrubTo i).2.Picked := by
  unfold Scene.scrubTo
  split
  · rename_i hi
    simp only [Bool.and_eq_true, decide_eq_true_eq] at hi
    refine picked_select ?_ i i
    change i.toNat ≤ s.segmentCount - 1
    omega
  · exact h

/-- The scrubber may be put on any segment. -/
theorem Picked.withScrubber {s : Scene} (h : s.Picked) {i : Nat} (hi : i < s.segmentCount) :
    ({ s with scrubber := i } : Scene).Picked :=
  ⟨h.selection_none, h.selection_within, Nat.le_sub_one_of_lt hi, h.colors⟩

/-- A segment whose line is known is a segment. -/
theorem lt_segmentCount_of_lineOfSegment? {s : Scene} {i line : Nat} (h : s.lineOfSegment? i = some line) :
    i < s.segmentCount := by
  unfold lineOfSegment? at h
  split at h
  · rename_i hi
    simp only [Bool.and_eq_true, decide_eq_true_eq] at hi
    exact Int.ofNat_lt.1 hi.2
  · cases h

/-- A click picks segments of the scene. -/
theorem Picked.click {s : Scene} (h : s.Picked) (beam : Beam) (threshold : Float) : (s.click beam threshold).2.Picked := by
  unfold Scene.click
  split
  · exact h
  · dsimp only
    split
    · exact h
    · exact picked_select le_rfl _ _
  · rename_i i _
    split
    · exact h
    · rename_i line hline
      have hi := lt_segmentCount_of_lineOfSegment? hline
      dsimp only
      split
      · exact h.withScrubber hi
      · refine (picked_select h.scrubber_le _ _).withScrubber ?_
        rwa [segmentCount_of_content_eq (content_select _ _ _)]

/-- The caret puts the scrubber on the last segment of its line, which has to be a segment. -/
theorem Picked.selectLine {s : Scene} (h : s.Picked) {line : Int}
    (hspan : ∀ span, s.spanOfLine? line = some span → span.last < s.segmentCount) : (s.selectLine line).2.Picked := by
  unfold Scene.selectLine
  split
  · exact h
  · rename_i span hline
    exact picked_select (Nat.le_sub_one_of_lt (hspan span hline)) _ _

/-- A program that is taken over has its first segment picked. -/
theorem picked_install (s : Scene) (e : Extraction) : (s.install e).Picked :=
  picked_select (Nat.zero_le _) 0 0

/-! ## The path -/

/-- A scene before any program: it holds no path. -/
structure Blank (s : Scene) : Prop where
  movements : s.movements = #[]
  dropped : s.dropped = 0
  segments : s.segments = #[]
  spans : s.spans = ∅

/-- A scene with the content of a blank one is blank. -/
theorem Blank.of_content_eq {s s' : Scene} (h : s.Blank) (h' : s'.content = s.content) : s'.Blank :=
  ⟨(congrArg Scene.movements h').trans h.movements, (congrArg Scene.dropped h').trans h.dropped,
    (congrArg Scene.segments h').trans h.segments, (congrArg Scene.spans h').trans h.spans⟩

/-- The path of a program by its codes and the amounts of a scene. -/
def PathOf (limit divisions : Json) (text : String) (codes : List Json) (e : Extraction) : Prop :=
  ∃ settings, Extraction.Settings.ofValues codes limit divisions = .ok settings ∧
    Extraction.ofText settings text.toList = .ok e

/-- A scene extracts a program with its own codes and amounts. -/
theorem extract_eq_ok {s : Scene} {text : String} {e : Extraction} :
    s.extract text = .ok e ↔ PathOf s.limit s.divisions text s.codes e := by
  constructor
  · intro h
    obtain ⟨settings, hsettings, hpath⟩ := bind_eq_ok.1 h
    exact ⟨settings, hsettings, mapError_eq_ok.1 hpath⟩
  · rintro ⟨settings, hsettings, hpath⟩
    exact bind_eq_ok.2 ⟨settings, hsettings, mapError_eq_ok.2 hpath⟩

/-- The segments of a path are in the order of their lines. -/
theorem PathOf.ordered {limit divisions : Json} {text : String} {codes : List Json} {e : Extraction}
    (h : PathOf limit divisions text codes e) : (e.drawn.map (·.line)).Pairwise (· ≤ ·) := by
  obtain ⟨settings, -, hpath⟩ := h
  exact (Extraction.attributed_of_ofText hpath).ordered

/-- What a scene shows of the program that was last taken over: its path, and nothing without a program. -/
def Presents (s : Scene) : Option (String × List Json) → Prop
  | none => s.Blank
  | some (text, codes) => ∃ e, PathOf s.limit s.divisions text codes e ∧ s.Shows e

/-- Which program a scene presents depends on its content only. -/
theorem Presents.of_content_eq {s s' : Scene} {program : Option (String × List Json)} (h : s.Presents program)
    (h' : s'.content = s.content) : s'.Presents program := by
  cases program with
  | none => exact Blank.of_content_eq h h'
  | some p =>
    obtain ⟨hlimit, hdivisions⟩ := amounts_of_content_eq h'
    obtain ⟨e, hpath, hshows⟩ := h
    refine ⟨e, ?_, hshows.holds.of_content_eq h', hshows.ordered⟩
    rwa [hlimit, hdivisions]

/-- Other codes do not change which program a scene presents. -/
theorem Presents.withCodes {s : Scene} {program : Option (String × List Json)} (h : s.Presents program) (codes : List Json) :
    (s.withCodes codes).Presents program := by
  cases program with
  | none =>
    have hblank : s.Blank := h
    exact ⟨hblank.movements, hblank.dropped, hblank.segments, hblank.spans⟩
  | some p =>
    obtain ⟨e, hpath, hshows⟩ := h
    obtain ⟨hloaded, hmovements, hdropped, hdiagnostics, hsegments, hspans⟩ := hshows.holds
    exact ⟨e, hpath, ⟨hloaded, hmovements, hdropped, hdiagnostics, hsegments, hspans⟩, hshows.ordered⟩

/-- The segments of a scene join its movements. -/
theorem Presents.segments_eq {s : Scene} {program : Option (String × List Json)} (h : s.Presents program) :
    s.segments = (segmentsOf s.movements.toList).toArray := by
  cases program with
  | none =>
    rw [Blank.segments h, Blank.movements h]
    rfl
  | some p =>
    obtain ⟨e, -, hshows⟩ := h
    rw [hshows.holds.segments, hshows.holds.movements]

/-- The segments of a line are segments of the scene. -/
theorem Presents.span_last_lt {s : Scene} {program : Option (String × List Json)} (h : s.Presents program) {line : Int}
    {span : Span} (hspan : s.spanOfLine? line = some span) : span.last < s.segmentCount := by
  obtain ⟨n, rfl⟩ := exists_natCast_of_spanOfLine? hspan
  cases program with
  | none =>
    rw [spanOfLine?, if_neg (by omega), Blank.spans h] at hspan
    simp at hspan
  | some p =>
    obtain ⟨e, -, hshows⟩ := h
    exact (hshows.span_bounds hspan).2

/-! ## Calls -/

/-- The calls that change a scene. -/
inductive Call where
  | load (text : String) (codes : Option (List Json))
  | change (text : String) (codes : Option (List Json))
  | selectLine (line : Int)
  | select (first last : Int)
  | scrubTo (i : Int)
  | click (beam : Beam) (threshold : Float)
  | setTheme (name : String)

/-- A scene and what its calls have asked for: the codes given last, the theme named last, and the program taken over last, with
the codes that it was extracted with. -/
structure History where
  scene : Scene
  codes : List Json
  theme : Theme
  program : Option (String × List Json) := none

namespace History

/-- The history of a scene that nothing has been asked of. -/
def start (s : Scene) : History := { scene := s, codes := s.codes, theme := s.theme }

/-- A program was given. It is the program taken over last when loading it gave a result. -/
def give (h : History) (text : String) (codes : Option (List Json)) (l : Loading) : History :=
  let codes := codes.getD h.codes
  { h with scene := l.scene, codes, program := if l.result.isOk then some (text, codes) else h.program }

/-- One call. -/
def step (h : History) : Call → History
  | .load text codes => h.give text codes (h.scene.load text codes)
  | .change text codes => h.give text codes (h.scene.change text codes)
  | .selectLine line => { h with scene := (h.scene.selectLine line).2 }
  | .select first last => { h with scene := h.scene.select first last }
  | .scrubTo i => { h with scene := (h.scene.scrubTo i).2 }
  | .click beam threshold => { h with scene := (h.scene.click beam threshold).2 }
  | .setTheme name => { h with scene := (h.scene.setTheme name).2, theme := (Theme.ofName? name).getD h.theme }

/-- The scene is what its history says: it has the codes and the theme that were asked for, presents the program that was taken
over, and its selection, scrubber and colors are in step. -/
structure Consistent (limit divisions : Json) (h : History) : Prop where
  codes : h.scene.codes = h.codes
  theme : h.scene.theme = h.theme
  limit : h.scene.limit = limit
  divisions : h.scene.divisions = divisions
  presents : h.scene.Presents h.program
  picked : h.scene.Picked

variable {limit divisions : Json} {h : History}

/-- A call that only selects and colors keeps a history consistent, as long as it leaves selection, scrubber and colors in step. -/
theorem Consistent.of_content_eq (hc : h.Consistent limit divisions) {s : Scene} {theme : Theme}
    (hs : s.content = h.scene.content) (htheme : s.theme = theme) (hpicked : s.Picked) :
    ({ h with scene := s, theme := theme } : History).Consistent limit divisions := by
  constructor
  · exact (congrArg Scene.codes hs).trans hc.codes
  · exact htheme
  · exact (congrArg Scene.limit hs).trans hc.limit
  · exact (congrArg Scene.divisions hs).trans hc.divisions
  · exact hc.presents.of_content_eq hs
  · exact hpicked

/-- Selecting keeps the theme. -/
theorem theme_select (s : Scene) (first last : Int) : (s.select first last).theme = s.theme := by
  unfold Scene.select
  split <;> rfl

/-- Selecting a line keeps the theme. -/
theorem theme_selectLine (s : Scene) (line : Int) : (s.selectLine line).2.theme = s.theme := by
  unfold Scene.selectLine
  split
  · rfl
  · exact theme_select _ _ _

/-- Scrubbing keeps the theme. -/
theorem theme_scrubTo (s : Scene) (i : Int) : (s.scrubTo i).2.theme = s.theme := by
  unfold Scene.scrubTo
  split
  · exact theme_select _ _ _
  · rfl

/-- A click keeps the theme. -/
theorem theme_click (s : Scene) (beam : Beam) (threshold : Float) : (s.click beam threshold).2.theme = s.theme := by
  unfold Scene.click
  split
  · rfl
  · dsimp only
    split
    · rfl
    · exact theme_select _ _ _
  · split
    · rfl
    · dsimp only
      split
      · rfl
      · exact theme_select _ _ _

/-- The theme is the one that is named, if there is one of that name. -/
theorem theme_setTheme (s : Scene) (name : String) : (s.setTheme name).2.theme = (Theme.ofName? name).getD s.theme := by
  unfold Scene.setTheme
  cases Theme.ofName? name <;> rfl

/-- A program that cannot be extracted leaves a consistent history. -/
theorem Consistent.give_of_error (hc : h.Consistent limit divisions) {text : String} {codes : Option (List Json)} {reframe : Bool}
    {fault : Fault} (he : (h.scene.withCodes (codes.getD h.codes)).extract text = .error fault) :
    (h.give text codes (h.scene.rebuild text codes reframe)).Consistent limit divisions := by
  rw [← hc.codes] at he
  rw [rebuild_of_error he, give, hc.codes]
  refine ⟨rfl, hc.theme, hc.limit, hc.divisions, hc.presents.withCodes _, ?_⟩
  exact ⟨hc.picked.selection_none, hc.picked.selection_within, hc.picked.scrubber_le, hc.picked.colors⟩

/-- A program that can be extracted leaves a consistent history. -/
theorem Consistent.give_of_ok (hc : h.Consistent limit divisions) {text : String} {codes : Option (List Json)} {reframe : Bool}
    {e : Extraction} (he : (h.scene.withCodes (codes.getD h.codes)).extract text = .ok e) :
    (h.give text codes (h.scene.rebuild text codes reframe)).Consistent limit divisions := by
  have hpath := extract_eq_ok.1 he
  obtain ⟨hcodes, htheme, hlimit, hdivisions⟩ := install_keeps (h.scene.withCodes (codes.getD h.codes)) e
  rw [← hc.codes] at he
  rw [rebuild_of_ok he, give, hc.codes]
  refine ⟨hcodes, htheme.trans hc.theme, hlimit.trans hc.limit, hdivisions.trans hc.divisions, ?_, picked_install _ e⟩
  refine ⟨e, ?_, holds_install _ e, hpath.ordered⟩
  rwa [hlimit, hdivisions]

/-- Giving a program keeps a history consistent, whether the program is taken over or not. -/
theorem Consistent.give (hc : h.Consistent limit divisions) (text : String) (codes : Option (List Json)) (reframe : Bool) :
    (h.give text codes (h.scene.rebuild text codes reframe)).Consistent limit divisions := by
  cases he : (h.scene.withCodes (codes.getD h.codes)).extract text with
  | error fault => exact hc.give_of_error he
  | ok e => exact hc.give_of_ok he

/-- Every call keeps a history consistent. -/
theorem Consistent.step (hc : h.Consistent limit divisions) (call : Call) : (h.step call).Consistent limit divisions := by
  cases call with
  | load text codes => exact hc.give text codes true
  | change text codes => exact hc.give text codes false
  | selectLine line =>
    refine hc.of_content_eq (content_selectLine _ _) ((theme_selectLine _ _).trans hc.theme) ?_
    exact hc.picked.selectLine fun span hspan => hc.presents.span_last_lt hspan
  | select first last =>
    exact hc.of_content_eq (content_select _ _ _) ((theme_select _ _ _).trans hc.theme) (picked_select hc.picked.scrubber_le _ _)
  | scrubTo i =>
    exact hc.of_content_eq (content_scrubTo _ _) ((theme_scrubTo _ _).trans hc.theme) (hc.picked.scrubTo i)
  | click beam threshold =>
    exact hc.of_content_eq (content_click _ _ _) ((theme_click _ _ _).trans hc.theme) (hc.picked.click beam threshold)
  | setTheme name =>
    refine hc.of_content_eq (content_setTheme _ _) ?_ (hc.picked.setTheme name)
    rw [theme_setTheme, hc.theme]

/-- Every run of calls keeps a history consistent. -/
theorem Consistent.run (hc : h.Consistent limit divisions) (calls : List Call) :
    (calls.foldl History.step h).Consistent limit divisions := by
  induction calls generalizing h with
  | nil => exact hc
  | cons call calls ih => exact ih (hc.step call)

/-- A new scene is consistent. -/
theorem consistent_start {codes : List Json} {theme : Json} {s : Scene} (h : make codes limit divisions theme = .ok s) :
    (start s).Consistent limit divisions := by
  obtain ⟨t, -, hs⟩ := bind_eq_ok.1 h
  obtain rfl := Except.ok.inj hs
  refine ⟨rfl, rfl, rfl, rfl, ⟨rfl, rfl, rfl, rfl⟩, ⟨iff_of_true rfl rfl, ?_, le_rfl, rfl⟩⟩
  intro span h
  cases h

end History

/-! ## The buffers of a consistent scene -/

/-- Lists of one length, joined. -/
theorem length_flatMap_const {α β : Type} {f : α → List β} {k : Nat} (hf : ∀ a, (f a).length = k) (as : List α) :
    (as.flatMap f).length = k * as.length := by
  induction as with
  | nil => rfl
  | cons a as ih => rw [List.flatMap_cons, List.length_append, hf, ih, List.length_cons, Nat.mul_succ, Nat.add_comm]

/-- In a row of pieces of one length, the piece of an item stands at its index. -/
theorem take_drop_flatMap {α β : Type} {f : α → List β} {k : Nat} (hf : ∀ a, (f a).length = k) {as : List α} {i : Nat} {a : α}
    (h : as[i]? = some a) : ((as.flatMap f).drop (k * i)).take k = f a := by
  induction as generalizing i with
  | nil => simp at h
  | cons b as ih =>
    cases i with
    | zero =>
      obtain rfl := Option.some.inj h
      rw [Nat.mul_zero, List.drop_zero, List.flatMap_cons, ← hf b, List.take_left]
    | succ i =>
      rw [List.getElem?_cons_succ] at h
      rw [List.flatMap_cons, Nat.mul_succ, Nat.add_comm, ← List.drop_drop]
      have hdrop : (f b ++ as.flatMap f).drop k = as.flatMap f := by rw [← hf b, List.drop_left]
      rw [hdrop]
      exact ih h

variable {s : Scene}

/-- A segment joins the movement with its index to the next one. -/
theorem segment_at (h : s.segments = (segmentsOf s.movements.toList).toArray) {i : Nat} (hi : i < s.segmentCount) :
    ∃ a b, s.movements[i]? = some a ∧ s.movements[i + 1]? = some b ∧
      s.segments.toList[i]? = some ⟨a.position, b.position, b.command, b.line⟩ := by
  rw [segmentCount] at hi
  have ha : i < s.movements.size := by omega
  have hb : i + 1 < s.movements.size := by omega
  refine ⟨s.movements[i], s.movements[i + 1], Array.getElem?_eq_getElem ha, Array.getElem?_eq_getElem hb, ?_⟩
  rw [h, getElem?_segmentsOf, Array.getElem?_toList, Array.getElem?_toList, Array.getElem?_eq_getElem ha,
    Array.getElem?_eq_getElem hb]
  rfl

/-- The count of segments is how many there are. -/
theorem size_segments (h : s.segments = (segmentsOf s.movements.toList).toArray) : s.segments.size = s.segmentCount := by
  rw [h, List.size_toArray, length_segmentsOf, Array.length_toList, segmentCount]

/-- The positions of a segment are its ends, six numbers for each segment. -/
theorem positions_at (h : s.segments = (segmentsOf s.movements.toList).toArray) :
    s.positions.length = 6 * s.segmentCount ∧
      ∀ i < s.segmentCount, ∃ a b, s.movements[i]? = some a ∧ s.movements[i + 1]? = some b ∧
        (s.positions.drop (6 * i)).take 6 = a.position.toList ++ b.position.toList := by
  constructor
  · have hlength := length_flatMap_const (k := 6) (f := fun g : Segment => g.start.toList ++ g.stop.toList) (fun _ => rfl)
    rw [positions, hlength, Array.length_toList, size_segments h]
  · intro i hi
    obtain ⟨a, b, ha, hb, hsegment⟩ := segment_at h hi
    exact ⟨a, b, ha, hb, take_drop_flatMap (f := fun g : Segment => g.start.toList ++ g.stop.toList) (fun _ => rfl) hsegment⟩

/-- Both ends of a segment have the color that the theme gives to its place beside the selection. -/
theorem Picked.vertexColors_at (h : s.Picked) :
    s.vertexColors.length = 6 * s.segmentCount ∧
      ∀ i < s.segmentCount,
        (s.vertexColors.drop (6 * i)).take 6 = (s.colorOf (i : Nat)).toList ++ (s.colorOf (i : Nat)).toList := by
  have hcolors : s.colors.toList = (List.range s.segmentCount).map fun (i : Nat) => s.colorOf i := by rw [h.colors]
  constructor
  · have hlength := length_flatMap_const (k := 6) (f := fun c : Color => c.toList ++ c.toList) (fun _ => rfl)
    rw [vertexColors, hlength, hcolors, List.length_map, List.length_range]
  · intro i hi
    refine take_drop_flatMap (f := fun c : Color => c.toList ++ c.toList) (fun _ => rfl) ?_
    rw [hcolors, List.getElem?_map, List.getElem?_range hi, Option.map_some]

/-- The movements at the ends of the selection are there. -/
theorem Picked.markers?_eq (h : s.Picked) {span : Span} (hspan : s.selection = some span) :
    ∃ a b, s.movements[span.first]? = some a ∧ s.movements[span.last + 1]? = some b ∧
      s.markers? = some (a.position, b.position) := by
  obtain ⟨hle, hlt⟩ := h.selection_within span hspan
  rw [segmentCount] at hlt
  have ha : span.first < s.movements.size := by omega
  have hb : span.last + 1 < s.movements.size := by omega
  refine ⟨s.movements[span.first], s.movements[span.last + 1], Array.getElem?_eq_getElem ha, Array.getElem?_eq_getElem hb, ?_⟩
  rw [markers?, hspan]
  change (s.movements[span.first]?.bind fun a => s.movements[span.last + 1]?.bind fun b => some (a.position, b.position)) = _
  rw [Array.getElem?_eq_getElem ha, Array.getElem?_eq_getElem hb]
  rfl

/-- After any calls on a new scene, its parts agree with each other and with what was asked for: the path is that of the program
taken over last; positions, segments and colors have their entries for every segment, each in its place; the selection and the
scrubber stand within the segments; and the theme is the one named last. -/
theorem scene_agrees_after_calls {codes : List Json} {limit divisions theme : Json} {s₀ : Scene}
    (hmake : make codes limit divisions theme = .ok s₀) (calls : List Call) {h : History} {s : Scene} {n : Nat}
    (hh : h = calls.foldl History.step (History.start s₀)) (hs : s = h.scene) (hn : n = s.segmentCount) :
    (match h.program with
      | none => s.movements = #[] ∧ s.dropped = 0
      | some (text, used) => ∃ settings e, Extraction.Settings.ofValues used limit divisions = .ok settings ∧
          Extraction.ofText settings text.toList = .ok e ∧ s.movements = e.movements ∧ s.dropped = e.dropped) ∧
      (s.positions.length = 6 * n ∧
        ∀ i < n, ∃ a b, s.movements[i]? = some a ∧ s.movements[i + 1]? = some b ∧
          (s.positions.drop (6 * i)).take 6 = a.position.toList ++ b.position.toList) ∧
      (s.segments.size = n ∧
        ∀ i < n, s.segments[i]?.map (·.command) = s.movements[i + 1]?.map (·.command)) ∧
      ((s.selection = none ↔ n = 0) ∧ ∀ span, s.selection = some span → span.first ≤ span.last ∧ span.last < n) ∧
      (if n = 0 then s.scrubber = 0 else s.scrubber < n) ∧
      (s.vertexColors.length = 6 * n ∧
        ∀ i < n, ∃ color, (s.vertexColors.drop (6 * i)).take 6 = color.toList ++ color.toList ∧
          color = h.theme.color (match s.selection with
            | none => .feed
            | some span => if i < span.first then .feed else if i ≤ span.last then .selected else .afterSelected)) ∧
      (match s.selection with
        | none => s.markers? = none
        | some span => ∃ a b, s.movements[span.first]? = some a ∧ s.movements[span.last + 1]? = some b ∧
            s.markers? = some (a.position, b.position) ∧ s.readout = b.position) := by
  have hc : h.Consistent limit divisions := hh ▸ (History.consistent_start hmake).run calls
  subst hs hn
  have hpicked := hc.picked
  have hsegments := hc.presents.segments_eq
  refine ⟨?_, positions_at hsegments, ⟨size_segments hsegments, ?_⟩, ⟨hpicked.selection_none, hpicked.selection_within⟩, ?_,
    ⟨hpicked.vertexColors_at.1, ?_⟩, ?_⟩
  · have hp := hc.presents
    cases hprogram : h.program with
    | none =>
      rw [hprogram] at hp
      exact ⟨Blank.movements hp, Blank.dropped hp⟩
    | some p =>
      rw [hprogram] at hp
      obtain ⟨e, ⟨settings, hsettings, hpath⟩, hshows⟩ := hp
      rw [hc.limit, hc.divisions] at hsettings
      exact ⟨settings, e, hsettings, hpath, hshows.holds.movements, hshows.holds.dropped⟩
  · intro i hi
    obtain ⟨a, b, -, hb, hsegment⟩ := segment_at hsegments hi
    rw [← Array.getElem?_toList, hsegment, hb]
    rfl
  · have hle := hpicked.scrubber_le
    split <;> omega
  · intro i hi
    refine ⟨_, hpicked.vertexColors_at.2 i hi, ?_⟩
    rw [colorOf, hc.theme]
    cases h.scene.selection with
    | none => rfl
    | some span => simp only [shade, Nat.cast_lt, Nat.cast_le]
  · split
    · rename_i hnone
      rw [markers?, hnone]
      rfl
    · rename_i span hspan
      obtain ⟨a, b, ha, hb, hmarkers⟩ := hpicked.markers?_eq hspan
      refine ⟨a, b, ha, hb, hmarkers, ?_⟩
      rw [readout, hmarkers]
      rfl

/-- Codes that cannot be used leave the path of the program before them, and the scrubber moves in it. -/
theorem scene_agrees_after_calls_refused_change :
    ∃ h : History, h = [Call.load "G0 X1\nG1 Y1" none, .change "G0 X5" (some [.int 1]), .scrubTo 1, .setTheme "dark"].foldl
        History.step (History.start { theme := .light }) ∧
      h.program.map (·.1) = some "G0 X1\nG1 Y1" ∧ h.scene.positions.length = 12 ∧ h.scene.scrubber < 2 := by
  have hmake : make [] .null (.int 64) (.str "light") = .ok { theme := .light } := by rfl
  refine ⟨_, rfl, by decide +kernel, ?_⟩
  obtain ⟨-, ⟨hpositions, -⟩, -, -, hscrubber, -⟩ := scene_agrees_after_calls hmake
    [Call.load "G0 X1\nG1 Y1" none, .change "G0 X5" (some [.int 1]), .scrubTo 1, .setTheme "dark"] (n := 2) rfl rfl
    (by decide +kernel)
  exact ⟨hpositions, hscrubber⟩

end ToolpathViewer.Scene
