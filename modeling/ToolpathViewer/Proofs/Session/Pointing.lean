import ToolpathViewer.Proofs.Session.Host
import ToolpathViewer.Proofs.Session.Surface

/-!
# From a segment to its line and back

Whoever points at a segment in the view finds the caret on the segment's line, and the caret there selects the line's segments. Four
notions of a line meet on the way: the movements number their lines as the extraction counts them, the scene knows lines as spans of
segments, the host counts the lines of its document, and both sides read line numbers out of messages.
-/

namespace ToolpathViewer

/-! ## Segments under the pointer -/

namespace Scene

variable {s s' : Scene}

/-- The line of a segment is a part of the content. -/
theorem lineOfSegment?_of_content_eq (h : s'.content = s.content) (i : Int) : s'.lineOfSegment? i = s.lineOfSegment? i :=
  (congrArg (lineOfSegment? · i) h : s'.content.lineOfSegment? i = s.content.lineOfSegment? i)

/-- What a ray hits is a segment. -/
theorem hitTest_lt {beam : Beam} {threshold : Float} {i : Nat} (h : s.hitTest beam threshold = .ok (some i)) :
    i < s.segments.size := by
  obtain ⟨c, hc, hi⟩ := bind_eq_ok.1 h
  have hindex : ∀ i, c.index = some i → i < s.segments.size := by
    refine foldlM_invariant (fun _ (c : Candidate) => ∀ i, c.index = some i → i < s.segments.size) ?_ (fun _ h => by cases h) hc
    intro p hp _ b b' hb hstep i hi
    obtain ⟨a, -, hb'⟩ := bind_eq_ok.1 hstep
    obtain rfl := Except.ok.inj hb'
    split at hi
    · obtain rfl := Option.some.inj hi
      have hlt := (List.mem_zipIdx' hp).1
      rwa [Array.length_toList] at hlt
    · exact hb i hi
  exact hindex i (Except.ok.inj hi)

/-- The scrubber names the line of its segment. -/
theorem scrubTo_fst {i n : Nat} (h : s.lineOfSegment? i = some n) : (s.scrubTo i).1 = some n := by
  have hi := lt_segmentCount_of_lineOfSegment? h
  have hcontent : (({ s with scrubber := i } : Scene).select i i).content = s.content := content_select _ _ _
  rw [scrubTo, if_pos (by simpa using hi)]
  exact (lineOfSegment?_of_content_eq hcontent i).trans h

/-- A click names the line of the segment that it hits. -/
theorem click_fst {beam : Beam} {threshold : Float} {i n : Nat} (hhit : s.hitTest beam threshold = .ok (some i))
    (h : s.lineOfSegment? i = some n) : (s.click beam threshold).1 = .ok (some n) := by
  simp only [click, hhit, h]

/-- The caret on a line selects its span, whole. -/
theorem selection_selectLine {line : Int} {span : Span} (h : s.spanOfLine? line = some span) (hle : span.first ≤ span.last)
    (hlt : span.last < s.segmentCount) : (s.selectLine line).2.selection = some span := by
  have hsome : ¬({ s with scrubber := span.last } : Scene).segmentCount = 0 := by
    change ¬s.segmentCount = 0
    omega
  have hlow : clampIndex (s.segmentCount - 1) span.first = span.first := clampIndex_of_le (by omega)
  have hhigh : clampIndex (s.segmentCount - 1) span.last = span.last := clampIndex_of_le (by omega)
  simp only [selectLine, h]
  rw [select, if_neg hsome]
  change some (Span.mk (clampIndex (s.segmentCount - 1) span.first)
    (max (clampIndex (s.segmentCount - 1) span.first) (clampIndex (s.segmentCount - 1) span.last))) = some span
  rw [hlow, hhigh, max_eq_right hle]

variable {text : String} {codes : List Json}

/-- In a scene with a program, a segment's line is a line of the program's text. -/
theorem Presents.line_le (h : s.Presents (some (text, codes))) {i n : Nat} (hline : s.lineOfSegment? i = some n) :
    1 ≤ n ∧ n ≤ text.toList.count '\n' + 1 := by
  obtain ⟨e, ⟨settings, -, hpath⟩, hshows⟩ := h
  have ha := Extraction.attributed_of_ofText hpath
  rw [hshows.holds.lineOfSegment?_eq, map_line_segmentsOf] at hline
  obtain ⟨m, hm, rfl⟩ := List.mem_map.1 (List.mem_of_getElem? hline)
  have hle := ha.line_le hm
  rw [length_linesOf] at hle
  exact ⟨(ha.asked m hm).1, hle⟩

/-- The caret on the line of a segment selects the segments of that line and no others. -/
theorem Presents.selection_of_caret (h : s.Presents (some (text, codes))) {i n : Nat} (hline : s.lineOfSegment? i = some n) :
    ∃ span, (s.selectLine n).2.selection = some span ∧ span.contains i = true ∧
      ∀ j : Nat, span.contains j = true ↔ s.lineOfSegment? j = some n := by
  obtain ⟨e, -, hshows⟩ := h
  obtain ⟨span, hspan, hmem⟩ := (hshows.mem_span_iff i n).2 hline
  obtain ⟨hle, hlt⟩ := hshows.span_bounds hspan
  refine ⟨span, selection_selectLine hspan hle hlt, hmem, fun j => ?_⟩
  rw [← hshows.mem_span_iff j n]
  constructor
  · exact fun hj => ⟨span, hspan, hj⟩
  · rintro ⟨span', hspan', hj⟩
    obtain rfl := Option.some.inj (hspan'.symm.trans hspan)
    exact hj

end Scene

/-! ## The request for a line -/

/-- A line of the document is its own nearest line. -/
theorem Host.nearestLine_eq {ι : Type} {h : Host ι} {n : Nat} (hpos : 1 ≤ n) (hle : n ≤ h.lineCount) : h.nearestLine n = n := by
  rw [Host.nearestLine]
  omega

namespace Surface

/-- The messages that a surface sends to the host. -/
def posts (es : List Effect) : List Message :=
  es.filterMap fun
    | .post m => some m
    | _ => none

/-- The messages of two lists of effects. -/
theorem posts_append (es es' : List Effect) : posts (es ++ es') = posts es ++ posts es' := List.filterMap_append

/-- No report asks for a line. -/
theorem Reports.no_highlight {es : List Effect} (h : Reports es) :
    (posts es).filter (fun m => m.kind? = some .highlight) = [] := by
  rw [List.filter_eq_nil_iff]
  intro m hm
  obtain ⟨e, he, hpost⟩ := List.mem_filterMap.1 hm
  obtain ⟨text, rfl⟩ := h e he
  obtain rfl := Option.some.inj hpost
  have hkind' : (Message.debug (.str text)).kind? = some .debug := Message.kind?_make _ _
  simp [hkind']

variable {s : Surface}

/-- The turn asks for one line, and leaves a scene. -/
structure Points (n : Nat) (scene : Scene) (t : Turn Effect Surface (Option Nat)) : Prop where
  result : t.result = .ok (some n)
  scene : t.state.scene = scene
  posts : (posts t.emitted).filter (fun m => m.kind? = some .highlight) = [Message.highlight (.int n)]

/-- A call that ends by asking for a line and announcing the selection points to this line. -/
theorem points_of_emitted {n : Nat} {scene : Scene} {gate : Gate String} {es : List Effect} (h : Reports es) :
    Points n scene ⟨.ok (some n), ⟨scene, gate⟩, es ++ [.post (.highlight (.int n)), .update .selection none]⟩ := by
  have hkind : (Message.highlight (.int n)).kind? = some .highlight := Message.kind?_make _ _
  refine ⟨rfl, rfl, ?_⟩
  rw [posts_append, List.filter_append, h.no_highlight]
  simp [Surface.posts, hkind]

/-- Scrubbing to a segment with a line points to this line. -/
theorem scrub_points {i : Int} {n : Nat} (h : (s.scene.scrubTo i).1 = some n) :
    Points n (s.scene.scrubTo i).2 (scrub i s) := by
  obtain ⟨gate, es, hdebug, hreports⟩ := exists_debug ("slider highlight line=" ++ toString n)
    { s with scene := (s.scene.scrubTo i).2 }
  have hrun : scrub i s = ⟨.ok (some n), ⟨(s.scene.scrubTo i).2, gate⟩,
      es ++ [.post (.highlight (.int n)), .update .selection none]⟩ := by
    simp only [scrub, Step.bind_run, Step.get_run, Step.set_run, h, hdebug, post, announce, Step.emit_run, Step.pure_run,
      List.nil_append, List.append_nil, List.singleton_append]
  rw [hrun]
  exact points_of_emitted hreports

/-- A click on a segment with a line points to this line. -/
theorem click_points {beam : Scene.Beam} {threshold : Float} {n : Nat} (h : (s.scene.click beam threshold).1 = .ok (some n)) :
    Points n (s.scene.click beam threshold).2 (click beam threshold s) := by
  obtain ⟨gate, es, hdebug, hreports⟩ := exists_debug ("click highlight line=" ++ toString n)
    { s with scene := (s.scene.click beam threshold).2 }
  have hrun : click beam threshold s = ⟨.ok (some n), ⟨(s.scene.click beam threshold).2, gate⟩,
      es ++ [.post (.highlight (.int n)), .update .selection none]⟩ := by
    simp only [click, Step.bind_run, Step.get_run, Step.set_run, Step.ofExcept_run, h, hdebug, post, announce, Step.emit_run,
      Step.pure_run, List.nil_append, List.append_nil, List.singleton_append]
  rw [hrun]
  exact points_of_emitted hreports

/-- Pointing at a segment of a scene with a program asks for the segment's line, and shows the same program afterwards. -/
theorem exists_points {text : String} {codes : List Json} (h : s.scene.Presents (some (text, codes))) {i : Nat}
    {t : Turn Effect Surface (Option Nat)} (ht : (i < s.scene.segmentCount ∧ t = scrub i s) ∨
      ∃ beam threshold, s.scene.hitTest beam threshold = .ok (some i) ∧ t = click beam threshold s) :
    ∃ n scene, s.scene.lineOfSegment? i = some n ∧ scene.content = s.scene.content ∧ Points n scene t := by
  rcases ht with ⟨hi, rfl⟩ | ⟨beam, threshold, hhit, rfl⟩
  · obtain ⟨n, hline⟩ := Scene.lineOfSegment?_isSome s.scene hi
    exact ⟨n, _, hline, Scene.content_scrubTo _ _, scrub_points (Scene.scrubTo_fst hline)⟩
  · have hi : i < s.scene.segmentCount := by
      rw [← Scene.size_segments h.segments_eq]
      exact Scene.hitTest_lt hhit
    obtain ⟨n, hline⟩ := Scene.lineOfSegment?_isSome s.scene hi
    exact ⟨n, _, hline, Scene.content_click _ _ _, click_points (Scene.click_fst hhit hline)⟩

section Room

variable [Json.Room]

/-- A surface that is told where the caret is selects the caret's line. -/
theorem receive_caret_scene {line : Int} {p : Payload} (hp : p.message = .ok (Message.caret (.int line))) :
    (receive p s).state.scene = (s.scene.selectLine line).2 := by
  have hkind : (Message.caret (.int line)).kind? = some .caret := Message.kind?_make _ _
  have hline : (Message.caret (.int line)).line? = some line := Message.line?_caret [] line
  obtain ⟨gate, es, hdebug, -⟩ := exists_debug ("incoming message type=" ++ (Message.caret (.int line)).kind) s
  have hcaret := (receiveCaret_run (s := { s with gate }) hline).1
  simp only [receive, hp, Step.bind_run, hdebug, hkind, hcaret]

/-- Of a view and a host with the same text: whoever scrubs to a segment or clicks on it asks the host once for a line, which is the
segment's and one of the document's. The host moves its caret there and nowhere else; and when the view is told that the caret is
there, it selects the segments of that line and no others, the one pointed at among them. -/
theorem pointing_finds_line {ι : Type} {h : Host ι} (hattached : h.attached = true) {codes₀ : List Json}
    {limit divisions theme : Json} {s₀ : Scene} (hmake : Scene.make codes₀ limit divisions theme = .ok s₀) (calls : List Scene.Call)
    {shown : Scene.History} (hshown : shown = calls.foldl Scene.History.step (Scene.History.start s₀)) {codes : List Json}
    (hprogram : shown.program = some (h.text, codes)) (hscene : s.scene = shown.scene) {i : Nat}
    {t : Turn Effect Surface (Option Nat)} (ht : (i < s.scene.segmentCount ∧ t = scrub i s) ∨
      ∃ beam threshold, s.scene.hitTest beam threshold = .ok (some i) ∧ t = click beam threshold s) :
    ∃ n : Nat, s.scene.lineOfSegment? i = some n ∧ (1 ≤ n ∧ n ≤ h.lineCount) ∧ t.result = .ok (some n) ∧
      (posts t.emitted).filter (fun m => m.kind? = some .highlight) = [Message.highlight (.int n)] ∧
      (∀ p : Payload, p.message = .ok (Message.highlight (.int n)) → Host.receive p h = ⟨.ok (), h, [.moveCaret n]⟩) ∧
      ∀ p : Payload, p.message = .ok (Message.caret (.int n)) →
        ∃ span, (receive p t.state).state.scene.selection = some span ∧ span.contains i = true ∧
          ∀ j : Nat, span.contains j = true ↔ s.scene.lineOfSegment? j = some n := by
  have hconsistent : shown.Consistent limit divisions := hshown ▸ (Scene.History.consistent_start hmake).run calls
  have hpresents : s.scene.Presents (some (h.text, codes)) := hscene ▸ hprogram ▸ hconsistent.presents
  obtain ⟨n, scene, hline, hcontent, hpoints⟩ := exists_points hpresents ht
  obtain ⟨hpos, hle⟩ := hpresents.line_le hline
  refine ⟨n, hline, ⟨hpos, hle⟩, hpoints.result, hpoints.posts, fun p hp => ?_, fun p hp => ?_⟩
  · rw [Host.receive_highlight hp, if_pos hattached, Host.nearestLine_eq hpos hle]
  have hafter := Scene.lineOfSegment?_of_content_eq hcontent
  obtain ⟨span, hspan, hmem, hiff⟩ := (hpresents.of_content_eq hcontent).selection_of_caret ((hafter i).trans hline)
  refine ⟨span, ?_, hmem, fun j => ?_⟩
  · rw [receive_caret_scene hp, hpoints.scene]
    exact hspan
  · rw [hiff j, hafter j]

end Room

/-- A program whose last line draws, without a line end behind it. -/
def unended : String := "G0 X1\n(none)\nG1 Y1"

section Usual

attribute [local instance] Json.Room.usual

/-- The scrubber on the segment of the last line moves the caret there. -/
theorem pointing_finds_line_last :
    ∃ (h : Host Unit) (s : Surface), h.text = unended ∧ s.scene = (({} : Scene).load unended (some [.str "G90"])).scene ∧
      (posts (scrub 1 s).emitted).filter (fun m => m.kind? = some .highlight) = [Message.highlight (.int 3)] ∧
      Host.receive (.value (Message.highlight (.int 3)).toJson) h = ⟨.ok (), h, [.moveCaret 3]⟩ := by
  have hresult : (({} : Scene).load unended (some [.str "G90"])).result = .ok ⟨2, 0, true⟩ := by decide +kernel
  have hline : (({} : Scene).load unended (some [.str "G90"])).scene.lineOfSegment? 1 = some 3 := by decide +kernel
  have hcount : (({} : Scene).load unended (some [.str "G90"])).scene.segmentCount = 2 := by decide +kernel
  have hshown : [Scene.Call.load unended (some [.str "G90"])].foldl Scene.History.step (Scene.History.start {}) =
      { scene := (({} : Scene).load unended (some [.str "G90"])).scene, codes := [.str "G90"], theme := .dark,
        program := some (unended, [.str "G90"]) } := by
    simp only [List.foldl_cons, List.foldl_nil, Scene.History.step, Scene.History.give, Scene.History.start, hresult]
    rfl
  have hprogram : ([Scene.Call.load unended (some [.str "G90"])].foldl Scene.History.step (Scene.History.start {})).program =
      some (unended, [.str "G90"]) := by
    rw [hshown]
  obtain ⟨n, hn, -, -, hposts, hmoves, -⟩ := pointing_finds_line (ι := Unit)
    (h := { channel := { buffer := { capacity := 1 }, token := "secret" }, attached := true, text := unended }) rfl
    (s := { scene := (({} : Scene).load unended (some [.str "G90"])).scene }) (i := 1)
    (show Scene.make [] .null (.int 64) (.str "dark") = .ok {} from rfl) _ rfl hprogram (by rw [hshown])
    (Or.inl ⟨by rw [hcount]; decide, rfl⟩)
  obtain rfl : n = 3 := Option.some.inj (hn.symm.trans hline)
  exact ⟨_, _, rfl, rfl, hposts, hmoves _ (Payload.message_toJson _)⟩

end Usual

end Surface

end ToolpathViewer
