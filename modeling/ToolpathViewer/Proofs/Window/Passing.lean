import ToolpathViewer.Proofs.Session.Handing
import ToolpathViewer.Proofs.Window.Feedback

/-!
# What the main window passes to its host

Each event of the main window makes its host take some events, a document, a change, the lines that the editor tells, or what a viewer has
submitted, and does not change the host in any other way. Opening the viewer and closing the window change the channel as well.
-/

namespace ToolpathViewer

open Bridge

namespace Workspace

/-! ## Events -/

/-- What happens to a main window. -/
inductive Event where
  | openViewer
  | closeViewer
  /-- Something happens inside the viewer: a control is used, or a message is taken. -/
  | inViewer (x : Viewer.Call Unit)
  /-- An event that a viewer has submitted, the one that is open or one that was closed before. -/
  | receive (payload : String)
  /-- The user types, or moves the caret. -/
  | edit (x : Editor.Call Unit)
  /-- Typing has paused. -/
  | settle
  | openFile (path : String)
  | save (path : String)
  /-- Others change the files. -/
  | replaceFiles (files : Files)
  | runDiagnosis
  | close

/-- The call that an event makes. -/
def Event.call [Json.Room] : Event → Call Unit
  | .openViewer => Workspace.openViewer
  | .closeViewer => Workspace.closeViewer
  | .inViewer x => onViewer x
  | .receive payload => Workspace.receive payload
  | .edit x => onEditor x
  | .settle => Workspace.settle
  | .openFile path => Workspace.openFile path
  | .save path => Workspace.save path
  | .replaceFiles files => Step.update fun w => { w with files }
  | .runDiagnosis => Workspace.runDiagnosis
  | .close => Workspace.close

/-- The lines that the editor tells, as events of the host. -/
def carets (es : List Editor.Event) : List Host.Event :=
  es.filterMap fun
    | .caretLine line => some (.caret line)
    | .textChanged => none

/-- What an event makes the host take. -/
def Event.passes (w : Workspace) : Event → List Host.Event
  | .openViewer => if w.viewer.isSome || w.host.channel.stopped then [] else [.attach w.text]
  | .closeViewer => if w.viewer.isSome then [.detach] else []
  | .receive payload => [.incoming (.text payload)]
  | .edit x => carets (x w.editor).emitted
  | .settle => if w.settling then [.change w.text] else []
  | .openFile path =>
    match w.files.read path with
    | .error _ => []
    | .ok content =>
      carets (Editor.setText content.toList w.editor).emitted ++ if w.host.attached then [.attach content] else []
  | .close => (if w.viewer.isSome then [.detach] else []) ++ [.detach]
  | .inViewer _ | .save _ | .replaceFiles _ | .runDiagnosis => []

/-- Lines of the caret attach no document. -/
theorem attach_not_mem_carets (es : List Editor.Event) (text : String) : .attach text ∉ carets es := by
  intro hmem
  obtain ⟨e, -, he⟩ := List.mem_filterMap.1 hmem
  cases e with
  | textChanged => cases he
  | caretLine line => cases he

/-- Replacing the text does not fail. -/
theorem setText_result (text : List Char) (e : Editor) : (Editor.setText text e).result = .ok () := by
  simp only [Editor.setText, Editor.caretMoved, Step.bind_run, Step.update_run, Step.emit_run, Step.get_run]
  split <;> rfl

/-- What is set off leaves what it leaves, and its failure goes no further. -/
theorem setOff_run {α : Type} (x : Call α) (w : Workspace) : ∃ out, setOff x w = ⟨.ok (), (x w).state, out⟩ :=
  Step.reporting_run _ x w

variable {w : Workspace}

/-- A call on the open viewer leaves the rest of the window alone. -/
theorem onViewer_run {α : Type} (x : Viewer.Call α) {v : Viewer} (h : w.viewer = some v) :
    onViewer x w = ⟨(x v).result, { w with viewer := some (x v).state }, (x v).emitted⟩ := by
  rw [onViewer, Step.bind_run, Step.get_run]
  dsimp only
  rw [h]
  rfl

/-- Without a viewer, a call on it fails. -/
theorem onViewer_of_none {α : Type} (x : Viewer.Call α) (h : w.viewer = none) : onViewer x w = ⟨.error .noFields, w, []⟩ := by
  rw [onViewer, Step.bind_run, Step.get_run]
  dsimp only
  rw [h]
  rfl

variable [Json.Room]

/-- From one window to another the host has taken some events, and the viewer and the configuration are the same. -/
structure Passed (es : List Host.Event) (w w' : Workspace) : Prop where
  host : w'.host = w.host.follow es
  viewer : w'.viewer = w.viewer
  config : w'.config = w.config

namespace Passed

variable {es es' : List Host.Event} {w w' w'' : Workspace}

/-- Nothing is passed on between a state and itself. -/
theorem refl (w : Workspace) : Passed [] w w := ⟨rfl, rfl, rfl⟩

/-- What is passed on in two steps is passed on. -/
theorem trans (h : Passed es w w') (h' : Passed es' w' w'') : Passed (es ++ es') w w'' := by
  refine ⟨?_, h'.viewer.trans h.viewer, h'.config.trans h.config⟩
  rw [Host.follow_append, ← h.host, h'.host]

/-- A call that passes something on, and one that passes nothing on. -/
theorem bind {α β : Type} {x : Call α} {f : α → Call β} (h : Passed es w (x w).state)
    (hf : ∀ a w', Passed [] w' (f a w').state) : Passed es w ((x >>= f) w).state := by
  rw [Step.bind_run]
  cases (x w).result with
  | error why => exact h
  | ok a => exact List.append_nil es ▸ h.trans (hf a _)

end Passed

/-- A call on the host is passed on, and nothing else is: the editor is sent to lines quietly. -/
theorem passed_onHost (e : Host.Event) : Passed [e] w (onHost e.call w).state := by
  have hkept : (fun w : Workspace => (w.host, w.viewer, w.config)) (onHost e.call w).state =
      ((e.call w.host).state, w.viewer, w.config) := by
    refine Step.Keeps.handling (fun w : Workspace => (w.host, w.viewer, w.config)) (fun effect w => ?_) e.call w
    cases effect with
    | log entry => rfl
    | moveCaret line =>
      obtain ⟨editor, -, heq⟩ := leads_showLineBy caretTold line w
      exact heq ▸ rfl
  obtain ⟨hhost, hrest⟩ := Prod.mk.inj hkept
  obtain ⟨hviewer, hconfig⟩ := Prod.mk.inj hrest
  exact ⟨hhost, hviewer, hconfig⟩

/-- What the editor tells is passed on line by line. -/
theorem passed_hear (e : Editor.Event) : Passed (carets [e]) w (hear caretTold e w).state ∧ (hear caretTold e w).result = .ok () := by
  cases e with
  | textChanged => exact ⟨⟨rfl, rfl, rfl⟩, rfl⟩
  | caretLine line =>
    obtain ⟨out, hrun⟩ := setOff_run (onHost (Host.caret line)) w
    change Passed [.caret line] w (caretTold line w).state ∧ (caretTold line w).result = .ok ()
    rw [caretTold_eq, hrun]
    exact ⟨passed_onHost (.caret line), rfl⟩

/-- The events of the editor pass on the lines of the caret. -/
theorem passed_hearAll (es : List Editor.Event) (w : Workspace) :
    Passed (carets es) w (Step.each (hear caretTold) es w).state ∧ (Step.each (hear caretTold) es w).result = .ok () := by
  refine ⟨?_, Step.each_result (fun e _ => (passed_hear e).2) es w⟩
  induction es generalizing w with
  | nil => exact .refl w
  | cons e es ih =>
    have hcarets : carets (e :: es) = carets [e] ++ carets es := List.filterMap_append (l := [e])
    obtain ⟨hfirst, hresult⟩ := passed_hear (w := w) e
    change Passed _ w ((hear caretTold e >>= fun _ => Step.each (hear caretTold) es) w).state
    rw [hcarets, Step.bind_run, hresult]
    exact hfirst.trans (ih _)

/-- A call on the editor passes on the lines that the editor tells, and returns what it returns. -/
theorem passed_onEditor {α : Type} (x : Editor.Call α) :
    Passed (carets (x w.editor).emitted) w (onEditor x w).state ∧ (onEditor x w).result = (x w.editor).result := by
  obtain ⟨hpassed, hresult⟩ := passed_hearAll (x w.editor).emitted { w with editor := (x w.editor).state }
  have hrun : onEditor x w = (Step.each (hear caretTold) (x w.editor).emitted >>= fun _ => Step.ofExcept (x w.editor).result)
      { w with editor := (x w.editor).state } := rfl
  rw [hrun, Step.bind_run, hresult]
  exact ⟨⟨hpassed.host, hpassed.viewer, hpassed.config⟩, rfl⟩

/-- An opened file replaces the document, if there is one. -/
theorem passed_openFile (path : String) : Passed ((Event.openFile path).passes w) w (openFile path w).state := by
  rw [Event.passes, openFile, Step.bind_run, Step.get_run]
  dsimp only
  cases hread : w.files.read path with
  | error why =>
    dsimp only
    split
    · exact .refl w
    · exact .refl w
  | ok content =>
    obtain ⟨hpassed, hresult⟩ := passed_onEditor (w := w) (Editor.setText content.toList)
    dsimp only
    rw [Step.bind_run, hresult, setText_result]
    dsimp only
    rw [Step.bind_run]
    refine hpassed.trans ?_
    by_cases hattached : w.host.attached = true
    · rw [if_pos hattached, if_pos hattached]
      exact passed_onHost (.attach content)
    · rw [if_neg hattached, if_neg hattached]
      exact .refl _

/-- A diagnosis that is due passes nothing on. -/
theorem passed_diagnose (text : String) : Passed [] w (diagnose text w).state := by
  rw [diagnose, Step.bind_run, Step.get_run]
  dsimp only
  cases w.diagnosis with
  | idle =>
    simp only [Step.bind_run, Step.update_run, Step.ofExcept_run]
    cases w.config.extraction with
    | error why => exact ⟨rfl, rfl, rfl⟩
    | ok settings => exact ⟨rfl, rfl, rfl⟩
  | queued settings text => exact ⟨rfl, rfl, rfl⟩
  | abandoned => exact ⟨rfl, rfl, rfl⟩

/-- A pause in typing passes on the text, if that has changed. -/
theorem passed_settle : Passed (Event.settle.passes w) w (settle w).state := by
  rw [Event.passes, settle, Step.bind_run, Step.get_run]
  dsimp only
  by_cases hsettling : w.settling = true
  · rw [if_pos hsettling, if_pos hsettling, Step.bind_run, Step.set_run]
    dsimp only
    obtain ⟨out, hrun⟩ := setOff_run (do onHost (Host.change w.text); diagnose w.text) { w with settling := false }
    rw [hrun]
    have hpassed := (passed_onHost (w := { w with settling := false }) (.change w.text)).bind fun _ _ => passed_diagnose w.text
    exact ⟨hpassed.host, hpassed.viewer, hpassed.config⟩
  · rw [if_neg hsettling, if_neg hsettling]
    exact .refl w

/-- Saving passes nothing on. -/
theorem passed_save (path : String) : Passed [] w (save path w).state := by
  rw [save]
  split
  · rw [Step.bind_run, Step.get_run]
    dsimp only
    rw [Step.bind_run, Step.ofExcept_run]
    cases w.files.write path w.text with
    | error why => exact .refl w
    | ok files => exact ⟨rfl, rfl, rfl⟩
  · exact .refl w

/-- A diagnosis that ends passes nothing on. -/
theorem passed_diagnosisEnded : Passed [] w (diagnosisEnded w).state := by
  refine Passed.bind ⟨rfl, rfl, rfl⟩ fun _ w => ?_
  rw [Step.bind_run, Step.get_run]
  dsimp only
  cases w.pending with
  | none => exact .refl w
  | some text => exact passed_diagnose text

/-- A diagnosis passes nothing on. -/
theorem passed_runDiagnosis : Passed [] w (runDiagnosis w).state := by
  have hended : ∀ w : Workspace, Passed [] w (setOff diagnosisEnded w).state := by
    intro w
    obtain ⟨out, hrun⟩ := setOff_run diagnosisEnded w
    rw [hrun]
    exact passed_diagnosisEnded
  rw [runDiagnosis, Step.bind_run, Step.get_run]
  dsimp only
  cases w.diagnosis with
  | queued settings text =>
    refine Passed.bind ⟨rfl, rfl, rfl⟩ fun _ w => ?_
    generalize (Diagnosis.run settings text).1 = found
    cases found with
    | none => exact hended w
    | some ds =>
      have hshown : Passed [] w (w.showDiagnostics ds) := by
        unfold showDiagnostics
        split
        · exact .refl w
        · exact ⟨rfl, rfl, rfl⟩
      exact Passed.bind hshown fun _ w => hended w
  | idle => exact .refl w
  | abandoned => exact .refl w

end Workspace

end ToolpathViewer
