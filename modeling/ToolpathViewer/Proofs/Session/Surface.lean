import ToolpathViewer.Proofs.Message
import ToolpathViewer.Proofs.Scene.Consistency
import ToolpathViewer.Proofs.Step
import ToolpathViewer.Session.Surface

/-!
# What the view makes of messages

A message with a program makes the scene load that program; any other one at most moves the selection. Besides, a surface reports
what it does; one whose reports still wait for the bridge sends nothing while it takes a message of the host.
-/

namespace ToolpathViewer

/-- The scene was last loaded with a program and codes; since then, only the caret has moved. -/
inductive Scene.LoadedWith (text : String) (codes : List Json) : Scene → Prop
  | loaded (s : Scene) (reframe : Bool) {r : LoadResult} (h : (s.rebuild text (some codes) reframe).result = .ok r) :
    LoadedWith text codes (s.rebuild text (some codes) reframe).scene
  | selected {s : Scene} (h : LoadedWith text codes s) (line : Int) : LoadedWith text codes (s.selectLine line).2

/-- A scene that was last loaded with a program presents it. -/
theorem Scene.LoadedWith.presents {text : String} {codes : List Json} {s : Scene} (h : s.LoadedWith text codes) :
    s.Presents (some (text, codes)) := by
  induction h with
  | loaded s reframe h =>
    obtain ⟨e, he, hscene⟩ := Scene.rebuild_eq_ok h
    have hpath := Scene.extract_eq_ok.1 he
    obtain ⟨-, -, hlimit, hdivisions⟩ := Scene.install_keeps (s.withCodes codes) e
    refine ⟨e, ?_, hscene ▸ Scene.holds_install _ e, hpath.ordered⟩
    rw [hscene]
    change Scene.PathOf ((s.withCodes codes).install e).limit ((s.withCodes codes).install e).divisions text codes e
    rw [hlimit, hdivisions]
    exact hpath
  | selected h line ih => exact ih.of_content_eq (Scene.content_selectLine _ line)

namespace Surface

/-- The surface sends nothing: its effects are reports and changes of the view. -/
def Quiet (es : List Effect) : Prop := ∀ e ∈ es, (∃ entry, e = .log entry) ∨ ∃ what result, e = .update what result

/-- Without effects all is quiet. -/
theorem quiet_nil : Quiet [] := fun e h => by cases h

/-- Two quiet lists of effects make a quiet one. -/
theorem Quiet.append {es es' : List Effect} (h : Quiet es) (h' : Quiet es') : Quiet (es ++ es') := by
  intro e he
  rcases List.mem_append.1 he with he | he
  · exact h e he
  · exact h' e he

/-- Reports are quiet. -/
theorem quiet_logs (entries : List Log.Entry) : Quiet (entries.map .log) := by
  intro e he
  obtain ⟨entry, -, rfl⟩ := List.mem_map.1 he
  exact Or.inl ⟨entry, rfl⟩

/-- An announcement is quiet. -/
theorem quiet_update (what : Update) (result : Option LoadResult) : Quiet [.update what result] := by
  intro e he
  exact Or.inr ⟨what, result, List.mem_singleton.1 he⟩

variable {s : Surface}

/-- The surface with one more report waiting. -/
def waiting (s : Surface) (text : String) : Surface :=
  { s with gate := { s.gate with pending := s.gate.pending ++ ["[bridge] " ++ text] } }

/-- Before the bridge is up, a report to the host waits. -/
theorem debug_run (h : s.gate.ready = false) (text : String) : debug text s = ⟨.ok (), s.waiting text, []⟩ := by
  simp [debug, throughGate, Gate.send, h, waiting]

/-- Once the bridge is up, a report to the host is sent. -/
theorem debug_of_ready (h : s.gate.ready = true) (text : String) :
    debug text s = ⟨.ok (), s, [.post (.debug (.str ("[bridge] " ++ text)))]⟩ := by
  simp [debug, throughGate, Gate.send, Gate.beyond, postDebug, h]

/-- The effects are reports to the host. -/
def Reports (es : List Effect) : Prop := ∀ e ∈ es, ∃ text : String, e = .post (.debug (.str text))

/-- A report goes to the host or waits for the bridge, and the scene stays as it is. -/
theorem exists_debug (text : String) (s : Surface) : ∃ gate es, debug text s = ⟨.ok (), { s with gate }, es⟩ ∧ Reports es := by
  by_cases hready : s.gate.ready = true
  · exact ⟨s.gate, _, debug_of_ready hready text, List.forall_mem_singleton.2 ⟨_, rfl⟩⟩
  · exact ⟨(s.waiting text).gate, [], debug_run (Bool.not_eq_true _ |>.mp hready) text, fun e he => by cases he⟩

/-- Taking what loading left. -/
theorem take_run (l : Scene.Loading) : take l s = ⟨l.result, { s with scene := l.scene }, l.log.map .log⟩ := by
  cases hresult : l.result <;> simp [take, hresult]

/-- A message with a program makes the scene load that program, whether that succeeds or not. -/
theorem receiveProgram_scene {m : Message} {codes : List String} {text : String}
    (htext : Json.field? m.fields "ncText" = some (.str text)) (hcodes : m.codes? = some codes) (first : Bool) :
    (receiveProgram m first s).state.scene = (s.scene.rebuild text (some (codes.map .str)) first).scene := by
  cases first with
  | true =>
    obtain ⟨gate, es, hdebug, -⟩ := exists_debug ("loadGCode received length=" ++ toString text.length) s
    simp only [receiveProgram, htext, hcodes, Option.getD_some, if_true, Step.bind_run, hdebug, Step.get_run, take_run]
    change _ = (s.scene.load text (some (codes.map .str))).scene
    cases (s.scene.load text (some (codes.map .str))).result <;> rfl
  | false =>
    simp only [receiveProgram, htext, hcodes, Option.getD_some, Bool.false_eq_true, if_false, Step.bind_run, Step.get_run, take_run]
    change _ = (s.scene.change text (some (codes.map .str))).scene
    cases (s.scene.change text (some (codes.map .str))).result <;> rfl

/-- A surface that takes a program from a message loads that program. -/
theorem receive_program_scene [Json.Room] {codes : List String} (hcodes : codes ≠ []) {first : Bool} {text : String} {p : Payload}
    (hp : p.message = .ok ((Message.Notice.program first text).message codes)) :
    (receive p s).state.scene = (s.scene.rebuild text (some (codes.map .str)) first).scene := by
  obtain ⟨gate, es, hdebug, -⟩ := exists_debug ("incoming message type=" ++ ((Message.Notice.program first text).message codes).kind) s
  have hprogram := receiveProgram_scene (s := { s with gate }) (Message.field?_ncText codes first text)
    (Message.codes?_program hcodes first text)
  simp only [receive, hp, Step.bind_run, hdebug, Message.kind?_program]
  cases first with
  | true => exact hprogram true
  | false => exact hprogram false

/-- A message with a program makes the scene take that over. -/
theorem receiveProgram_run {m : Message} {codes : List String} {text : String} {first : Bool} {r : LoadResult}
    (h : s.gate.ready = false) (htext : Json.field? m.fields "ncText" = some (.str text)) (hcodes : m.codes? = some codes)
    (hload : (s.scene.rebuild text (some (codes.map .str)) first).result = .ok r) :
    (receiveProgram m first s).state.scene = (s.scene.rebuild text (some (codes.map .str)) first).scene ∧
      (receiveProgram m first s).state.gate.ready = false ∧ Quiet (receiveProgram m first s).emitted := by
  cases first with
  | true =>
    have hdebug := debug_run h ("loadGCode received length=" ++ toString text.length)
    have hload' : ((s.waiting ("loadGCode received length=" ++ toString text.length)).scene.load text
      (some (codes.map .str))).result = .ok r := hload
    simp only [receiveProgram, htext, hcodes, Option.getD_some, if_true, Step.bind_run, hdebug, Step.get_run, take_run, hload',
      announce, Step.emit_run, List.nil_append]
    exact ⟨rfl, h, (quiet_logs _).append (quiet_update _ _)⟩
  | false =>
    have hchange : (s.scene.change text (some (codes.map .str))).result = .ok r := hload
    simp only [receiveProgram, htext, hcodes, Option.getD_some, Bool.false_eq_true, if_false, Step.bind_run, Step.get_run, take_run,
      hchange, announce, Step.emit_run, List.nil_append]
    exact ⟨rfl, h, (quiet_logs _).append (quiet_update _ _)⟩

/-- A message with a line selects the line, quietly. -/
theorem receiveCaret_run {m : Message} {line : Int} (hline : m.line? = some line) :
    (receiveCaret m s).state = { s with scene := (s.scene.selectLine line).2 } ∧ Quiet (receiveCaret m s).emitted := by
  simp only [receiveCaret, hline, Step.bind_run, Step.get_run, Step.set_run]
  by_cases hsome : (s.scene.selectLine line).1.isSome = true
  · rw [if_pos hsome]
    exact ⟨rfl, quiet_update _ _⟩
  · rw [if_neg hsome]
    exact ⟨rfl, quiet_nil⟩

/-- The scene that a message of a host makes of another: a program is loaded, and a caret line selected if it arrives. -/
def TakesOver (codes : List String) (m : Message) (before after : Scene) : Prop :=
  match m.program? with
  | some text => ∃ first r, (before.rebuild text (some (codes.map .str)) first).result = .ok r ∧
      after = (before.rebuild text (some (codes.map .str)) first).scene
  | none => after = before ∨ ∃ line, after = (before.selectLine line).2

variable {codes : List String} {m : Message} {before after : Scene} {text : String}

/-- A message with a program is taken over by loading it. -/
theorem takesOver_of_program (hm : m.program? = some text) :
    TakesOver codes m before after ↔ ∃ first r, (before.rebuild text (some (codes.map .str)) first).result = .ok r ∧
      after = (before.rebuild text (some (codes.map .str)) first).scene := by
  rw [TakesOver, hm]

/-- A message without a program is taken over by selecting a line, or not at all. -/
theorem takesOver_of_none (hm : m.program? = none) :
    TakesOver codes m before after ↔ after = before ∨ ∃ line, after = (before.selectLine line).2 := by
  rw [TakesOver, hm]

/-- The amounts of a scene stay as they are. -/
theorem TakesOver.keeps (h : TakesOver codes m before after) : after.limit = before.limit ∧ after.divisions = before.divisions := by
  cases hm : m.program? with
  | some text =>
    obtain ⟨first, r, hr, rfl⟩ := (takesOver_of_program hm).1 h
    obtain ⟨e, -, hscene⟩ := Scene.rebuild_eq_ok hr
    obtain ⟨-, -, hlimit, hdivisions⟩ := Scene.install_keeps (before.withCodes (codes.map .str)) e
    rw [hscene]
    exact ⟨hlimit, hdivisions⟩
  | none =>
    rcases (takesOver_of_none hm).1 h with rfl | ⟨line, rfl⟩
    · exact ⟨rfl, rfl⟩
    · exact Scene.amounts_of_content_eq (Scene.content_selectLine before line)

/-- A program is what the scene was last loaded with afterwards. -/
theorem TakesOver.loadedWith (h : TakesOver codes m before after) (hm : m.program? = some text) :
    after.LoadedWith text (codes.map .str) := by
  obtain ⟨first, r, hr, rfl⟩ := (takesOver_of_program hm).1 h
  exact .loaded before first hr

/-- Without a program, the scene keeps what it shows. -/
theorem TakesOver.content_eq (h : TakesOver codes m before after) (hm : m.program? = none) : after.content = before.content := by
  rcases (takesOver_of_none hm).1 h with rfl | ⟨line, rfl⟩
  · rfl
  · exact Scene.content_selectLine before line

/-- Without a program, the scene was last loaded with what it was before. -/
theorem TakesOver.still {codes' : List String} (h : TakesOver codes m before after) (hm : m.program? = none)
    (hbefore : before.LoadedWith text (codes'.map .str)) : after.LoadedWith text (codes'.map .str) := by
  rcases (takesOver_of_none hm).1 h with rfl | ⟨line, rfl⟩
  · exact hbefore
  · exact .selected hbefore line

/-- A surface takes a message of a host, in the form in which the client hands it on: it does with its scene what the message says,
and sends nothing. -/
theorem receive_told [Json.Room] (h : s.gate.ready = false) (hcodes : codes ≠ []) (hm : m.Told codes)
    (hloads : ∀ text, m.program? = some text → ∀ reframe, ∃ r, (s.scene.rebuild text (some (codes.map .str)) reframe).result = .ok r) :
    TakesOver codes m s.scene (receive (.value (if m.toJson.fits then m.toJson else .str m.encode)) s).state.scene ∧
      (receive (.value (if m.toJson.fits then m.toJson else .str m.encode)) s).state.gate.ready = false ∧
      Quiet (receive (.value (if m.toJson.fits then m.toJson else .str m.encode)) s).emitted := by
  have hmessage := Payload.message_of_readMessage hm
  generalize (if m.toJson.fits then m.toJson else .str m.encode : Json) = v at hmessage ⊢
  by_cases hfits : m.toJson.fits = true
  · rw [if_pos hfits] at hmessage
    have hdebug := debug_run h ("incoming message type=" ++ m.kind)
    have hready : (s.waiting ("incoming message type=" ++ m.kind)).gate.ready = false := h
    obtain ⟨n, rfl⟩ := hm
    simp only [receive, hmessage, Step.bind_run, hdebug, List.nil_append]
    cases n with
    | program load text =>
      obtain ⟨r, hr⟩ := hloads text (Message.program?_program codes load text) load
      obtain ⟨hscene, hgate, hquiet⟩ := receiveProgram_run hready (Message.field?_ncText codes load text)
        (Message.codes?_program hcodes load text) hr
      rw [takesOver_of_program (Message.program?_program codes load text), Message.kind?_program]
      cases load with
      | true => exact ⟨⟨true, r, hr, hscene⟩, hgate, hquiet⟩
      | false => exact ⟨⟨false, r, hr, hscene⟩, hgate, hquiet⟩
    | caret line =>
      have hkind : ((Message.Notice.caret line).message codes).kind? = some .caret := Message.kind?_make _ _
      obtain ⟨hstate, hquiet⟩ := receiveCaret_run (s := s.waiting ("incoming message type=" ++
        ((Message.Notice.caret line).message codes).kind)) (Message.line?_caret codes line)
      simp only [hkind, takesOver_of_none (Message.program?_caret codes line), hstate]
      exact ⟨Or.inr ⟨line, rfl⟩, h, hquiet⟩
  · -- Only a caret line that is too long does not arrive, and the scene stays as it was.
    rw [if_neg hfits] at hmessage
    have hprogram : m.program? = none := by
      cases htext : m.program? with
      | none => rfl
      | some text => exact absurd (Message.fits_of_program? hm htext) hfits
    have hdebug := debug_run h "failed to parse incoming payload"
    simp only [receive, hmessage, Step.bind_run, Step.emit_run, hdebug, takesOver_of_none hprogram, List.append_nil]
    exact ⟨Or.inl rfl, h, fun e he => Or.inl ⟨_, List.mem_singleton.1 he⟩⟩

end Surface

end ToolpathViewer
