import ToolpathViewer.Proofs.Toolpath.Attribution
import ToolpathViewer.Scene.Picking

/-!
# Lines and segments

A scene knows of each line only the first and the last segment that the line drew. Since the lines of a path do not go back, this
is enough for the two ways between lines and segments to agree. All calls that only select and color keep the `content` of a
scene.
-/

namespace ToolpathViewer.Scene

/-! ## The content of a scene -/

/-- What loading a program decides: the scene with nothing selected and no colors. -/
def content (s : Scene) : Scene := { s with theme := .dark, colors := #[], selection := none, scrubber := 0 }

/-- The count of segments is a part of the content. -/
theorem segmentCount_of_content_eq {s s' : Scene} (h : s'.content = s.content) : s'.segmentCount = s.segmentCount :=
  (congrArg segmentCount h : s'.content.segmentCount = s.content.segmentCount)

/-- The limit and the count of chords are parts of the content. -/
theorem amounts_of_content_eq {s s' : Scene} (h : s'.content = s.content) : s'.limit = s.limit ∧ s'.divisions = s.divisions :=
  ⟨(congrArg limit h : s'.content.limit = s.content.limit), (congrArg divisions h : s'.content.divisions = s.content.divisions)⟩

/-- Selecting keeps the content. -/
@[simp] theorem content_select (s : Scene) (first last : Int) : (s.select first last).content = s.content := by
  unfold select
  split <;> rfl

/-- Selecting a line keeps the content. -/
@[simp] theorem content_selectLine (s : Scene) (line : Int) : (s.selectLine line).2.content = s.content := by
  unfold selectLine
  split
  · rfl
  · exact content_select _ _ _

/-- Scrubbing keeps the content. -/
@[simp] theorem content_scrubTo (s : Scene) (i : Int) : (s.scrubTo i).2.content = s.content := by
  unfold scrubTo
  split
  · exact content_select _ _ _
  · rfl

/-- A change of the theme keeps the content. -/
@[simp] theorem content_setTheme (s : Scene) (name : String) : (s.setTheme name).2.content = s.content := by
  unfold setTheme
  split <;> rfl

/-- A click keeps the content. -/
@[simp] theorem content_click (s : Scene) (beam : Beam) (threshold : Float) :
    (s.click beam threshold).2.content = s.content := by
  unfold click
  split
  · rfl
  · dsimp only
    split
    · rfl
    · exact content_select _ _ _
  · split
    · rfl
    · dsimp only
      split
      · rfl
      · exact content_select _ _ _

/-- A scene that holds a path: all that loading takes over from it. -/
structure Holds (s : Scene) (e : Extraction) : Prop where
  loaded : s.loaded = true
  movements : s.movements = e.movements
  dropped : s.dropped = e.dropped
  diagnostics : s.diagnostics = e.diagnostics.toList
  segments : s.segments = (segmentsOf e.movements.toList).toArray
  spans : s.spans = spansOf (segmentsOf e.movements.toList)

/-- Which path a scene holds depends on its content only. -/
theorem Holds.of_content_eq {s s' : Scene} {e : Extraction} (h : s.Holds e) (h' : s'.content = s.content) : s'.Holds e :=
  ⟨(congrArg Scene.loaded h').trans h.loaded, (congrArg Scene.movements h').trans h.movements,
    (congrArg Scene.dropped h').trans h.dropped, (congrArg Scene.diagnostics h').trans h.diagnostics,
    (congrArg Scene.segments h').trans h.segments, (congrArg Scene.spans h').trans h.spans⟩

/-- A scene holds the path that it takes over. -/
theorem holds_install (s : Scene) (e : Extraction) : (s.install e).Holds e := by
  unfold install
  refine Holds.of_content_eq ?_ (content_select _ _ _)
  exact ⟨rfl, rfl, rfl, rfl, rfl, rfl⟩

/-- Taking over a path keeps the codes, the theme and the amounts. -/
theorem install_keeps (s : Scene) (e : Extraction) :
    (s.install e).codes = s.codes ∧ (s.install e).theme = s.theme ∧ (s.install e).limit = s.limit ∧
      (s.install e).divisions = s.divisions := by
  unfold install select
  dsimp only
  split <;> exact ⟨rfl, rfl, rfl, rfl⟩

/-- The scene with other codes, before any program has been extracted with them. -/
def withCodes (s : Scene) (codes : List Json) : Scene := { s with codes }

section Rebuild

variable {s : Scene} {text : String} {codes : Option (List Json)} {reframe : Bool}

/-- A program that cannot be extracted leaves everything but the codes. -/
theorem rebuild_of_error {fault : Fault} (h : (s.withCodes (codes.getD s.codes)).extract text = .error fault) :
    s.rebuild text codes reframe = { scene := s.withCodes (codes.getD s.codes), result := .error fault } := by
  unfold withCodes at h ⊢
  simp only [rebuild, h]

/-- A program that can be extracted is taken over with its codes. -/
theorem rebuild_of_ok {e : Extraction} (h : (s.withCodes (codes.getD s.codes)).extract text = .ok e) :
    s.rebuild text codes reframe =
      { scene := (s.withCodes (codes.getD s.codes)).install e, log := loadLog e, result := .ok ⟨e.segmentCount, e.dropped, reframe⟩ } := by
  unfold withCodes at h ⊢
  simp only [rebuild, h]

/-- Replacing the program succeeds when the extraction does, and then the scene takes over the path. -/
theorem rebuild_eq_ok {r : LoadResult} (h : (s.rebuild text codes reframe).result = .ok r) :
    ∃ e, (s.withCodes (codes.getD s.codes)).extract text = .ok e ∧
      (s.rebuild text codes reframe).scene = (s.withCodes (codes.getD s.codes)).install e := by
  cases he : (s.withCodes (codes.getD s.codes)).extract text with
  | error fault =>
    rw [rebuild_of_error he] at h
    cases h
  | ok e => exact ⟨e, rfl, congrArg Loading.scene (rebuild_of_ok he)⟩

end Rebuild

/-! ## Segments -/

/-- A segment joins the movement with its index to the next one. -/
theorem getElem?_segmentsOf (ms : List Movement) (i : Nat) :
    (segmentsOf ms)[i]? = do
      let m ← ms[i]?
      let n ← ms[i + 1]?
      return ⟨m.position, n.position, n.command, n.line⟩ := by
  induction ms generalizing i with
  | nil => rfl
  | cons m ms ih =>
    cases ms with
    | nil => cases i <;> rfl
    | cons n rest =>
      cases i with
      | zero => rfl
      | succ i =>
        rw [segmentsOf, List.getElem?_cons_succ, ih i]
        rfl

/-- The line of a segment is that of the movement at its end. -/
theorem map_line_segmentsOf (ms : List Movement) : (segmentsOf ms).map (·.line) = ms.tail.map (·.line) := by
  induction ms with
  | nil => rfl
  | cons m ms ih =>
    cases ms with
    | nil => rfl
    | cons n rest =>
      rw [segmentsOf, List.map_cons, ih]
      rfl

/-- There is one segment less than there are movements. -/
theorem length_segmentsOf (ms : List Movement) : (segmentsOf ms).length = ms.length - 1 := by
  have h := congrArg List.length (map_line_segmentsOf ms)
  simpa using h

/-! ## Spans -/

/-- The spans of a list of lines, one line for each segment: they hold every segment, and end in segments of their line. -/
structure Indexes (lines : List Nat) (spans : Std.HashMap Nat Span) : Prop where
  complete : ∀ i line, lines[i]? = some line → ∃ span : Span, spans[line]? = some span ∧ span.first ≤ i ∧ i ≤ span.last
  ends : ∀ line (span : Span), spans[line]? = some span → lines[span.first]? = some line ∧ lines[span.last]? = some line

/-- Where there are no segments, no line has any. -/
theorem indexes_nil : Indexes [] ∅ :=
  ⟨fun _ _ h => by simp at h, fun _ _ h => by simp at h⟩

/-- A further segment starts the span of its line, or extends it to itself. -/
theorem getElem?_addToSpan (spans : Std.HashMap Nat Span) (p : Segment × Nat) (line : Nat) :
    (addToSpan spans p)[line]? =
      if p.1.line = line then some ⟨(spans[line]?.map (·.first)).getD p.2, p.2⟩ else spans[line]? := by
  rw [addToSpan, Std.HashMap.getElem?_alter]
  by_cases h : p.1.line = line
  · subst h
    rw [if_pos rfl, if_pos (by simp)]
    cases spans[p.1.line]? <;> rfl
  · rw [if_neg h, if_neg (by simpa using h)]

/-- One more segment. Its line keeps the first segment that it had. -/
theorem Indexes.add {lines : List Nat} {spans : Std.HashMap Nat Span} (h : Indexes lines spans) (g : Segment) :
    Indexes (lines ++ [g.line]) (addToSpan spans (g, lines.length)) := by
  constructor
  · intro i line hi
    rw [getElem?_addToSpan]
    by_cases hline : g.line = line
    · subst hline
      refine ⟨_, if_pos rfl, ?_⟩
      have hlt : i < lines.length + 1 := by simpa using (List.getElem?_eq_some_iff.1 hi).1
      rcases Nat.lt_succ_iff_lt_or_eq.1 hlt with hlt | rfl
      · rw [List.getElem?_append_left hlt] at hi
        obtain ⟨span, hspan, hfirst, -⟩ := h.complete i _ hi
        rw [hspan]
        exact ⟨hfirst, hlt.le⟩
      · refine ⟨?_, le_rfl⟩
        cases hspan : spans[g.line]? with
        | none => exact le_rfl
        | some span =>
          have := (List.getElem?_eq_some_iff.1 (h.ends _ _ hspan).1).1
          exact this.le
    · simp only [hline, if_false]
      refine h.complete i line ?_
      have hlt : i < lines.length := by
        by_contra hge
        rw [List.getElem?_append_right (by omega)] at hi
        have hmem := List.mem_of_getElem? hi
        exact hline (List.mem_singleton.1 hmem).symm
      rwa [List.getElem?_append_left hlt] at hi
  · intro line span hspan
    rw [getElem?_addToSpan] at hspan
    split at hspan
    · rename_i hline
      subst hline
      obtain rfl := Option.some.inj hspan
      refine ⟨?_, by simp⟩
      cases hold : spans[g.line]? with
      | none => simp
      | some old =>
        have hfirst := (h.ends _ _ hold).1
        simp only [Option.map_some, Option.getD_some]
        rw [List.getElem?_append_left (List.getElem?_eq_some_iff.1 hfirst).1, hfirst]
    · obtain ⟨hfirst, hlast⟩ := h.ends line span hspan
      rw [List.getElem?_append_left (List.getElem?_eq_some_iff.1 hfirst).1,
        List.getElem?_append_left (List.getElem?_eq_some_iff.1 hlast).1]
      exact ⟨hfirst, hlast⟩

/-- Further segments are indexed one after the other. -/
theorem Indexes.addAll {lines : List Nat} {spans : Std.HashMap Nat Span} (h : Indexes lines spans) (segments : List Segment) :
    Indexes (lines ++ segments.map (·.line)) ((segments.zipIdx lines.length).foldl addToSpan spans) := by
  induction segments generalizing lines spans with
  | nil => simpa using h
  | cons g segments ih =>
    have hnext := ih (h.add g)
    rw [List.length_append, List.length_singleton] at hnext
    rw [List.zipIdx_cons, List.foldl_cons, List.map_cons, List.append_cons]
    exact hnext

/-- The spans of segments index the lines of the segments. -/
theorem indexes_spansOf (segments : List Segment) : Indexes (segments.map (·.line)) (spansOf segments) := by
  have h := indexes_nil.addAll segments
  rwa [List.nil_append] at h

/-- When the lines do not go back, a span holds the segments of its line and no others. -/
theorem Indexes.mem_span_iff {lines : List Nat} {spans : Std.HashMap Nat Span} (h : Indexes lines spans)
    (hlines : lines.Pairwise (· ≤ ·)) (i line : Nat) :
    (∃ span, spans[line]? = some span ∧ span.first ≤ i ∧ i ≤ span.last) ↔ lines[i]? = some line := by
  refine ⟨?_, h.complete i line⟩
  rintro ⟨span, hspan, hfirst, hlast⟩
  obtain ⟨hf, hl⟩ := h.ends line span hspan
  obtain ⟨hflt, hf⟩ := List.getElem?_eq_some_iff.1 hf
  obtain ⟨hllt, hl⟩ := List.getElem?_eq_some_iff.1 hl
  have hilt : i < lines.length := by omega
  have hmono := List.pairwise_iff_getElem.1 hlines
  have hlow : line ≤ lines[i] := by
    rcases hfirst.eq_or_lt with rfl | hlt
    · exact hf.ge
    · exact hf ▸ hmono _ _ hflt hilt hlt
  have hhigh : lines[i] ≤ line := by
    rcases hlast.eq_or_lt with rfl | hlt
    · exact hl.le
    · exact hl ▸ hmono _ _ hilt hllt hlt
  rw [List.getElem?_eq_getElem hilt, le_antisymm hhigh hlow]

/-- A span is not empty. -/
theorem Indexes.first_le_last {lines : List Nat} {spans : Std.HashMap Nat Span} (h : Indexes lines spans) {line : Nat}
    {span : Span} (hspan : spans[line]? = some span) : span.first ≤ span.last := by
  obtain ⟨span', hspan', -, hle⟩ := h.complete _ _ (h.ends line span hspan).1
  obtain rfl := Option.some.inj (hspan'.symm.trans hspan)
  exact hle

/-- The spans stand in the order of their lines. -/
theorem Indexes.last_lt_first {lines : List Nat} {spans : Std.HashMap Nat Span} (h : Indexes lines spans)
    (hlines : lines.Pairwise (· ≤ ·)) {line line' : Nat} {span span' : Span} (hspan : spans[line]? = some span)
    (hspan' : spans[line']? = some span') (hlt : line < line') : span.last < span'.first := by
  obtain ⟨hl, hlast⟩ := List.getElem?_eq_some_iff.1 (h.ends line span hspan).2
  obtain ⟨hf, hfirst⟩ := List.getElem?_eq_some_iff.1 (h.ends line' span' hspan').1
  by_contra hge
  rcases (not_lt.1 hge).eq_or_lt with heq | hgt
  · simp only [heq] at hfirst
    omega
  · have := List.pairwise_iff_getElem.1 hlines _ _ hf hl hgt
    omega

/-! ## A loaded scene -/

variable {s : Scene} {e : Extraction}

/-- The count of segments by the movements of the path. -/
theorem Holds.segmentCount_eq (h : s.Holds e) : s.segmentCount = e.movements.size - 1 := by
  rw [segmentCount, h.movements]

/-- The line of a segment is that of the movement at its end. -/
theorem Holds.lineOfSegment?_eq (h : s.Holds e) (i : Nat) :
    s.lineOfSegment? i = ((segmentsOf e.movements.toList).map (·.line))[i]? := by
  rw [map_line_segmentsOf, List.getElem?_map, List.getElem?_tail, lineOfSegment?, h.segmentCount_eq, h.movements]
  by_cases hi : i < e.movements.size - 1
  · simp [hi]
  · have hnone : e.movements.toList[i + 1]? = none := by
      rw [List.getElem?_eq_none_iff, Array.length_toList]
      omega
    simp [hi, hnone]

/-- The span of a line, by the path that the scene holds. -/
theorem Holds.spanOfLine?_natCast (h : s.Holds e) (line : Nat) :
    s.spanOfLine? line = (spansOf (segmentsOf e.movements.toList))[line]? := by
  rw [spanOfLine?, h.spans, if_neg (by omega), Int.toNat_natCast]

/-- No line has a number below zero. -/
theorem exists_natCast_of_spanOfLine? {line : Int} {span : Span} (h : s.spanOfLine? line = some span) :
    ∃ n : Nat, line = n := by
  unfold spanOfLine? at h
  split at h
  · cases h
  · exact ⟨line.toNat, by omega⟩

/-- A span contains what lies between its first and its last index. -/
theorem Span.contains_iff {span : Span} {i : Nat} : span.contains i = true ↔ span.first ≤ i ∧ i ≤ span.last := by
  simp [Span.contains]

/-- The scene shows a path whose lines do not go back. -/
structure Shows (s : Scene) (e : Extraction) : Prop where
  holds : s.Holds e
  ordered : (e.drawn.map (·.line)).Pairwise (· ≤ ·)

/-- The segments of a scene are in the order of their lines. -/
theorem Shows.pairwise_lines (h : s.Shows e) :
    ((segmentsOf e.movements.toList).map (·.line)).Pairwise (· ≤ ·) := by
  rw [map_line_segmentsOf]
  exact h.ordered

/-- A segment lies in the span of a line exactly when the line drew it. -/
theorem Shows.mem_span_iff (h : s.Shows e) (i line : Nat) :
    (∃ span, s.spanOfLine? line = some span ∧ span.contains i = true) ↔ s.lineOfSegment? i = some line := by
  have hiff := (indexes_spansOf (segmentsOf e.movements.toList)).mem_span_iff h.pairwise_lines i line
  rw [h.holds.lineOfSegment?_eq, ← hiff, h.holds.spanOfLine?_natCast]
  simp only [Span.contains_iff]

/-- The span of a line is a range of segments of the scene. -/
theorem Shows.span_bounds (h : s.Shows e) {line : Nat} {span : Span} (hspan : s.spanOfLine? line = some span) :
    span.first ≤ span.last ∧ span.last < s.segmentCount := by
  have hindexes := indexes_spansOf (segmentsOf e.movements.toList)
  rw [h.holds.spanOfLine?_natCast] at hspan
  refine ⟨hindexes.first_le_last hspan, ?_⟩
  have hlt := (List.getElem?_eq_some_iff.1 (hindexes.ends line span hspan).2).1
  rwa [List.length_map, length_segmentsOf, Array.length_toList, ← h.holds.segmentCount_eq] at hlt

/-- The span of a line ends in front of that of a later one. -/
theorem Shows.last_lt_first (h : s.Shows e) {line line' : Nat} {span span' : Span} (hspan : s.spanOfLine? line = some span)
    (hspan' : s.spanOfLine? line' = some span') (hlt : line < line') : span.last < span'.first := by
  rw [h.holds.spanOfLine?_natCast] at hspan hspan'
  exact (indexes_spansOf (segmentsOf e.movements.toList)).last_lt_first h.pairwise_lines hspan hspan' hlt

/-- Every segment has a line. -/
theorem lineOfSegment?_isSome (s : Scene) {i : Nat} (hi : i < s.segmentCount) : ∃ line, s.lineOfSegment? i = some line := by
  have hsize : i + 1 < s.movements.size := by
    rw [segmentCount] at hi
    omega
  exact ⟨s.movements[i + 1].line, by simp [lineOfSegment?, hi, hsize]⟩

/-- A scene that took over a program shows its path. -/
theorem shows_of_rebuild {text : String} {codes : Option (List Json)} {reframe : Bool} {r : LoadResult}
    (h : (s.rebuild text codes reframe).result = .ok r) :
    ∃ e, (s.withCodes (codes.getD s.codes)).extract text = .ok e ∧ (s.rebuild text codes reframe).scene.Shows e := by
  obtain ⟨e, he, hscene⟩ := rebuild_eq_ok h
  obtain ⟨settings, -, hpath⟩ := bind_eq_ok.1 he
  exact ⟨e, he, hscene ▸ holds_install _ e, (Extraction.attributed_of_ofText (mapError_eq_ok.1 hpath)).ordered⟩

/-- In a scene that took over a program, segments and lines know each other: a segment lies in the span of a line exactly when its
line is that one; and the spans of the lines are not empty, stand in the order of the lines without touching, and have all segments
between them. -/
theorem segments_and_lines_agree {s : Scene} {text : String} {codes : Option (List Json)} {l : Loading} {r : LoadResult}
    (hl : l = s.load text codes ∨ l = s.change text codes) (hr : l.result = .ok r) :
    (∀ (i : Nat) (line : Int), i < l.scene.segmentCount →
      ((∃ span, l.scene.spanOfLine? line = some span ∧ span.contains i = true) ↔
        (l.scene.lineOfSegment? i).map Int.ofNat = some line)) ∧
      (∀ (line : Int) span, l.scene.spanOfLine? line = some span →
        span.first ≤ span.last ∧ span.last < l.scene.segmentCount) ∧
      (∀ (line line' : Int) span span', l.scene.spanOfLine? line = some span → l.scene.spanOfLine? line' = some span' →
        line < line' → span.last < span'.first) ∧
      ∀ i < l.scene.segmentCount, ∃ (line : Int) (span : Span), l.scene.spanOfLine? line = some span ∧ span.contains i = true := by
  have hshows : ∃ e, l.scene.Shows e := by
    rcases hl with rfl | rfl
    · exact (shows_of_rebuild hr).imp fun _ h => h.2
    · exact (shows_of_rebuild hr).imp fun _ h => h.2
  obtain ⟨e, hs⟩ := hshows
  refine ⟨?_, ?_, ?_, ?_⟩
  · intro i line hi
    rw [Option.map_eq_some_iff]
    constructor
    · rintro ⟨span, hspan, hmem⟩
      obtain ⟨n, rfl⟩ := exists_natCast_of_spanOfLine? hspan
      exact ⟨n, (hs.mem_span_iff i n).1 ⟨span, hspan, hmem⟩, rfl⟩
    · rintro ⟨n, hn, rfl⟩
      exact (hs.mem_span_iff i n).2 hn
  · intro line span hspan
    obtain ⟨n, rfl⟩ := exists_natCast_of_spanOfLine? hspan
    exact hs.span_bounds hspan
  · intro line line' span span' hspan hspan' hlt
    obtain ⟨n, rfl⟩ := exists_natCast_of_spanOfLine? hspan
    obtain ⟨n', rfl⟩ := exists_natCast_of_spanOfLine? hspan'
    exact hs.last_lt_first hspan hspan' (by omega)
  · intro i hi
    obtain ⟨line, hline⟩ := lineOfSegment?_isSome l.scene hi
    obtain ⟨span, hspan, hmem⟩ := (hs.mem_span_iff i line).2 hline
    exact ⟨line, span, hspan, hmem⟩

/-- A program of three lines, of which the first and the last draw: the second segment is the second line's of the two. -/
theorem segments_and_lines_agree_third_line :
    ∃ r, (({} : Scene).load "G0 X1\n(none)\nG1 Y1").result = .ok r ∧
      (∃ span, (({} : Scene).load "G0 X1\n(none)\nG1 Y1").scene.spanOfLine? 3 = some span ∧ span.contains 1 = true) := by
  have hr : (({} : Scene).load "G0 X1\n(none)\nG1 Y1").result = .ok ⟨2, 0, true⟩ := by decide +kernel
  have hline : (({} : Scene).load "G0 X1\n(none)\nG1 Y1").scene.lineOfSegment? 1 = some 3 := by decide +kernel
  have hcount : (({} : Scene).load "G0 X1\n(none)\nG1 Y1").scene.segmentCount = 2 := by decide +kernel
  refine ⟨_, hr, ((segments_and_lines_agree (Or.inl rfl) hr).1 1 3 (by rw [hcount]; decide)).2 ?_⟩
  rw [Nat.cast_one, hline]
  rfl

end ToolpathViewer.Scene
