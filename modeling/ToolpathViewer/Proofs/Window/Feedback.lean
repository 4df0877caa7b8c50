import ToolpathViewer.Proofs.Session.Host
import ToolpathViewer.Proofs.Session.Surface
import ToolpathViewer.Window.Workspace

/-!
# No feedback

Each side of a session moves something when it hears of a move on the other side: the view moves its slider, the editor its caret.
Neither tells of such a move, for the slider follows the scene silently, and a caret that was sent to a line is not told. So what
one side does because of the other is never taken for what its user does, and letters do not go back and forth.
-/

namespace ToolpathViewer

open Bridge

/-! ## The surface -/

/-- What is sent with an effect of a surface has a property. -/
def Surface.Effect.Sends (P : Message → Prop) (e : Effect) : Prop := ∀ m, e = .post m → P m

namespace Surface

variable {P : Message → Prop}

/-- A report sends nothing. -/
theorem sends_log (entry : Log.Entry) : (Effect.log entry).Sends P := nofun

/-- An announcement sends nothing. -/
theorem sends_update (what : Update) (result : Option LoadResult) : (Effect.update what result).Sends P := nofun

/-- A message that is sent is of the kind that its content is. -/
theorem sends_post {m : Message} (h : P m) : (Effect.post m).Sends P := by
  intro m' heq
  cases heq
  exact h

/-- The message is a report. -/
def IsReport (m : Message) : Prop := m.kind? = some .debug

/-- A report to the host sends reports only. -/
theorem emits_debug (text : String) : (debug text).Emits (Effect.Sends IsReport) := by
  intro s e he
  obtain ⟨gate, es, hrun, hreports⟩ := exists_debug text s
  rw [hrun] at he
  obtain ⟨report, rfl⟩ := hreports e he
  exact sends_post (Message.kind?_make _ _)

/-- Taking over a program sends nothing. -/
theorem emits_take (l : Scene.Loading) : (take l).Emits (Effect.Sends P) := by
  refine (Step.emits_update _).bind fun _ => (Step.emits_emitAll fun e he => ?_).bind fun _ => Step.emits_ofExcept _
  obtain ⟨entry, -, rfl⟩ := List.mem_map.1 he
  exact sends_log entry

/-- Announcing sends nothing. -/
theorem emits_announce (what : Update) (result : Option LoadResult) : (announce what result).Emits (Effect.Sends P) :=
  Step.emits_emit (sends_update what result)

/-- Receiving a program sends reports only. -/
theorem emits_receiveProgram (m : Message) (first : Bool) : (receiveProgram m first).Emits (Effect.Sends IsReport) := by
  unfold receiveProgram
  split
  · cases first with
    | true =>
      exact (emits_debug _).bind fun _ => Step.emits_get.bind fun _ => (emits_take _).bind fun _ => emits_announce _ _
    | false => exact Step.emits_get.bind fun _ => (emits_take _).bind fun _ => emits_announce _ _
  · exact emits_debug _

/-- Receiving the line of the caret sends nothing. -/
theorem emits_receiveCaret (m : Message) : (receiveCaret m).Emits (Effect.Sends P) := by
  unfold receiveCaret
  split
  · exact Step.emits_pure ()
  · refine Step.emits_get.bind fun s => ?_
    exact (Step.emits_set _).bind fun _ => .ite _ (emits_announce _ _) (Step.emits_pure ())

/-- While a surface takes what the host has published, it sends nothing but reports. -/
theorem emits_receive [Json.Room] (p : Payload) : (receive p).Emits (Effect.Sends IsReport) := by
  unfold receive
  split
  · exact (Step.emits_emit (sends_log _)).bind fun _ => emits_debug _
  · exact fun s e he => by cases he
  · rename_i m _
    refine (emits_debug _).bind fun _ => ?_
    split
    · exact emits_receiveProgram m true
    · exact emits_receiveProgram m false
    · exact emits_receiveCaret m
    · exact Step.emits_pure ()

/-- The message is a report, or asks the editor to go to a line. -/
def IsPointer (m : Message) : Prop := m.kind? = some .debug ∨ m.kind? = some .highlight

/-- A report is one of the messages of the pointer. -/
theorem emits_debug_pointer (text : String) : (debug text).Emits (Effect.Sends IsPointer) :=
  (emits_debug text).mono fun _ h m hm => Or.inl (h m hm)

/-- A request for a line is one of the messages of the pointer. -/
theorem emits_post_highlight (line : Json) : (post (.highlight line)).Emits (Effect.Sends IsPointer) :=
  Step.emits_emit (sends_post (Or.inr (Message.kind?_make _ _)))

/-- Scrubbing sends reports, and asks for the line. -/
theorem emits_scrub (i : Int) : (scrub i).Emits (Effect.Sends IsPointer) := by
  unfold scrub
  refine Step.emits_get.bind fun s => ?_
  generalize s.scene.scrubTo i = scrubbed
  obtain ⟨line, scene⟩ := scrubbed
  refine (Step.emits_set _).bind fun _ => ?_
  cases line with
  | none => exact Step.emits_pure _
  | some n =>
    exact (emits_debug_pointer _).bind fun _ => (emits_post_highlight _).bind fun _ => (emits_announce _ _).bind fun _ =>
      Step.emits_pure _

/-- A click sends reports, and asks for the line that it has found. -/
theorem emits_click (beam : Scene.Beam) (threshold : Float) : (click beam threshold).Emits (Effect.Sends IsPointer) := by
  unfold click
  refine Step.emits_get.bind fun s => (Step.emits_set _).bind fun _ => (Step.emits_ofExcept _).bind fun line => ?_
  cases line with
  | none => exact (emits_announce _ _).bind fun _ => Step.emits_pure _
  | some n =>
    exact (emits_debug_pointer _).bind fun _ => (emits_post_highlight _).bind fun _ => (emits_announce _ _).bind fun _ =>
      Step.emits_pure _

end Surface

/-! ## The window of the view -/

namespace Poster

variable {α : Type}

/-- Messages that are posted queue up in order, unless posting has ended. -/
theorem queue_foldl_post (p : Poster α) (ms : List α) :
    (ms.foldl (fun p m => p.post (some m)) p).queue = p.queue ++ if p.stopped then [] else ms.map some := by
  induction ms generalizing p with
  | nil => simp
  | cons m ms ih =>
    rw [List.foldl_cons, ih]
    by_cases h : p.stopped = true
    · simp [post, h]
    · simp [post, h]

/-- What is new in the queue was posted. -/
theorem mem_of_mem_drop {p : Poster α} {ms : List α} {m : α}
    (h : some m ∈ (ms.foldl (fun p m => p.post (some m)) p).queue.drop p.queue.length) : m ∈ ms := by
  rw [queue_foldl_post, List.drop_left] at h
  by_cases hstopped : p.stopped = true
  · rw [if_pos hstopped] at h
    cases h
  · rw [if_neg hstopped] at h
    simpa using h

end Poster

namespace Slider

variable {s : Slider}

/-- A silenced slider comes to a value and tells nothing. -/
theorem setValue_run (h : s.silenced = true) (value : Int) :
    setValue value s = ⟨.ok (), { s with value := Scene.clampIndex s.last value }, []⟩ := by
  obtain ⟨last, old, silenced⟩ := s
  obtain rfl : silenced = true := h
  unfold setValue
  simp only [Step.bind_run, Step.get_run]
  by_cases hsame : Scene.clampIndex last value = old
  · rw [if_neg (by simpa using hsame), hsame]
    rfl
  · rw [if_pos hsame]
    rfl

/-- The slider follows the scene and tells nothing, however far its value moves. -/
theorem follow_run (scene : Scene) (s : Slider) :
    follow scene s =
      ⟨.ok (), { last := scene.segmentCount - 1, value := Scene.clampIndex (scene.segmentCount - 1) scene.scrubber }, []⟩ := by
  simp [follow, silence, setLast, setValue_run]

/-- Following the scene tells nothing. -/
theorem emits_follow (scene : Scene) : (follow scene).Emits (fun _ => False) := by
  intro s value hvalue
  rw [follow_run] at hvalue
  cases hvalue

end Slider

namespace Viewer

variable {P : Message → Prop}

/-- What the poster gets on the way from one window to another has a property. -/
def Posts (P : Message → Prop) (v v' : Viewer) : Prop :=
  ∃ ms : List Message, (∀ m ∈ ms, P m) ∧ v'.poster = ms.foldl (fun p m => p.post (some m)) v.poster

/-- Where the queue is as before, nothing was posted. -/
theorem posts_of_poster_eq {v v' : Viewer} (h : v'.poster = v.poster) : Posts P v v' := ⟨[], nofun, h⟩

/-- Nothing is posted between a state and itself. -/
theorem posts_refl (v : Viewer) : Posts P v v := posts_of_poster_eq rfl

/-- What is posted in two steps is posted. -/
theorem posts_trans (v₁ v₂ v₃ : Viewer) (h : Posts P v₁ v₂) (h' : Posts P v₂ v₃) : Posts P v₁ v₃ := by
  obtain ⟨ms, hms, hposter⟩ := h
  obtain ⟨ms', hms', hposter'⟩ := h'
  refine ⟨ms ++ ms', fun m hm => ?_, ?_⟩
  · exact (List.mem_append.1 hm).elim (hms m) (hms' m)
  · rw [hposter', hposter, List.foldl_append]

section Keeps

variable {τ : Type} {part : Viewer → τ}
  (hpart : ∀ v viewport slider readout, part { v with viewport, slider, readout } = part v)

include hpart

/-- A call on the viewport changes nothing else. -/
theorem keeps_onCanvas {α : Type} (x : Viewport.Call α) : (onCanvas x).Keeps part := by
  intro v
  rw [onCanvas, Step.Keeps.handling part (fun _ _ => rfl) x v]
  exact hpart v _ v.slider v.readout

/-- Following the scene changes nothing but the controls, whatever would be done about a value that the slider tells. -/
theorem keeps_refresh (moved : Nat → Call Unit) (result : Option LoadResult) : (refresh moved result).Keeps part := by
  have hslider : ∀ scene : Scene, (onSlider moved (Slider.follow scene)).Keeps part := fun scene =>
    Step.Leads.handling (R := fun v v' : Viewer => part v' = part v) (fun _ => rfl) (fun _ _ _ h h' => h'.trans h)
      (fun v => hpart v v.viewport _ v.readout) (Slider.emits_follow scene) fun _ h => h.elim
  refine Step.Keeps.bind (fun _ => rfl) fun v => Step.Keeps.bind (hslider _) fun _ =>
    Step.Keeps.bind (fun v => hpart v v.viewport v.slider _) fun _ => Step.Keeps.bind (fun _ => rfl) fun _ => ?_
  split
  · exact keeps_onCanvas hpart _
  · exact keeps_onCanvas hpart _

end Keeps

/-- The window posts what its surface sends, and nothing else. -/
theorem leads_onSurfaceBy (moved : Nat → Call Unit) {α : Type} {x : Surface.Call α} (hx : x.Emits (Surface.Effect.Sends P)) :
    (onSurfaceBy moved x).Leads (Posts P) := by
  refine Step.Leads.handling posts_refl posts_trans (fun v => posts_of_poster_eq rfl) hx fun e he => ?_
  cases e with
  | log e => exact fun v => posts_of_poster_eq rfl
  | post m => exact fun v => ⟨[m], fun m' hm' => List.mem_singleton.1 hm' ▸ he m rfl, rfl⟩
  | update what result => exact fun v => posts_of_poster_eq (keeps_refresh (fun _ _ _ _ => rfl) moved result v)

/-- What is set off posts what its call posts. -/
theorem leads_setOff {α : Type} {x : Call α} (hx : x.Leads (Posts P)) : (setOff x).Leads (Posts P) :=
  Step.Leads.reporting posts_refl posts_trans hx _

/-- A value of the slider posts messages of the pointer. -/
theorem leads_slid (value : Nat) : (slid value).Leads (Posts Surface.IsPointer) :=
  leads_setOff (leads_onSurfaceBy _ (Surface.emits_scrub value))

/-- Moving the slider posts messages of the pointer. -/
theorem leads_setSlider (value : Int) : (setSlider value).Leads (Posts Surface.IsPointer) :=
  Step.Leads.handling posts_refl posts_trans (P := fun _ => True) (fun _ => posts_of_poster_eq rfl) (fun _ _ _ => trivial)
    fun value _ => leads_slid value

/-- A click posts messages of the pointer. -/
theorem leads_clicked (beam : Scene.Beam) : (clicked beam).Leads (Posts Surface.IsPointer) := by
  refine Step.Leads.bind posts_trans posts_refl fun v => Step.Leads.bind posts_trans posts_refl fun threshold => ?_
  exact Step.Leads.bind posts_trans (leads_onSurfaceBy _ (Surface.emits_click beam threshold)) fun _ => posts_refl

/-- A message of the host posts reports only. -/
theorem leads_receive [Json.Room] (p : Payload) : (receive p).Leads (Posts Surface.IsReport) := leads_onSurfaceBy _ (Surface.emits_receive p)

end Viewer

/-! ## The main window -/

namespace Editor

/-- A caret that comes to another line quietly is not told. -/
theorem emits_caretMoved : (caretMoved true).Emits (fun _ => False) := by
  refine Step.emits_get.bind fun e => .ite _ ?_ ?_
  · exact (Step.emits_set _).bind fun _ => Step.emits_update _
  · exact Step.emits_update _

/-- The editor does not tell of a line that it was sent to. -/
theorem emits_goTo (line : Int) : (goTo line).Emits (fun _ => False) := by
  refine Step.emits_get.bind fun e => ?_
  cases e.lineStart? line with
  | none => exact Step.emits_pure ()
  | some p =>
    refine Step.Emits.bind (Step.emits_get.bind fun e => (Step.emits_set _).bind fun _ => .ite _ ?_ ?_) fun _ =>
      Step.emits_update _
    · exact emits_caretMoved
    · exact Step.emits_pure ()

/-- A move of the caret keeps the text. -/
theorem keeps_text_caretMoved (quiet : Bool) : (caretMoved quiet).Keeps Editor.text := by
  intro e
  by_cases hline : e.caretLine = e.toldLine
  · simp [caretMoved, hline, remark]
  · cases quiet <;> simp [caretMoved, hline, remark]

/-- Putting the caret somewhere keeps the text. -/
theorem keeps_text_putCaret (position : Nat) (anchor : Int) (quiet : Bool) : (putCaret position anchor quiet).Keeps Editor.text := by
  intro e
  by_cases hposition : position = e.position
  · simp [putCaret, hposition]
  · simpa [putCaret, hposition] using keeps_text_caretMoved quiet { e with position, anchor }

/-- Going to a line leaves the text as it is. -/
theorem keeps_text_goTo (line : Int) : (goTo line).Keeps Editor.text := by
  refine Step.Keeps.bind (fun _ => rfl) fun e => ?_
  cases e.lineStart? line with
  | none => exact fun _ => rfl
  | some p => exact (keeps_text_putCaret p p true).bind fun _ _ => rfl

end Editor

namespace Workspace

/-- The other window differs in the editor at most, and not in its text. -/
def SameButCaret (w w' : Workspace) : Prop := ∃ editor : Editor, editor.text = w.editor.text ∧ w' = { w with editor }

/-- A window is the same as itself. -/
theorem sameButCaret_refl (w : Workspace) : SameButCaret w w := ⟨w.editor, rfl, rfl⟩

/-- Windows that differ in the caret from one that differs in the caret do so from each other. -/
theorem sameButCaret_trans (w₁ w₂ w₃ : Workspace) (h : SameButCaret w₁ w₂) (h' : SameButCaret w₂ w₃) : SameButCaret w₁ w₃ := by
  obtain ⟨editor, htext, rfl⟩ := h
  obtain ⟨editor', htext', rfl⟩ := h'
  exact ⟨editor', htext'.trans htext, rfl⟩

/-- Showing a line moves the caret and tells nobody, whatever would be done about a line that the editor tells. -/
theorem leads_showLineBy (told : Nat → Call Unit) (line : Int) : (showLineBy told line).Leads SameButCaret := by
  refine Step.Leads.bind sameButCaret_trans ?_ fun _ w => ⟨w.editor.markViewer [line], rfl, rfl⟩
  exact Step.Leads.handling sameButCaret_refl sameButCaret_trans
    (fun w => ⟨_, Editor.keeps_text_goTo line w.editor, rfl⟩) (Editor.emits_goTo line) fun _ h => h.elim

/-- What would be done about another line that the editor tells does not matter. -/
theorem onHostBy_eq (told told' : Nat → Call Unit) {α : Type} (x : Host.Call Unit α) : onHostBy told x = onHostBy told' x := by
  have hgoTo : ∀ line : Int, onEditorBy told (Editor.goTo line) = onEditorBy told' (Editor.goTo line) :=
    fun line => Step.handling_congr (Editor.emits_goTo line) fun _ h => h.elim
  simp only [onHostBy, showLineBy, hgoTo]

/-- A line that the editor tells is passed to the host like any other call on it. -/
theorem caretTold_eq (line : Nat) : caretTold line = setOff (onHost (Host.caret line)) :=
  congrArg setOff (onHostBy_eq _ caretTold _)

/-- Handling a request for a line, or a report, moves the caret at most. -/
theorem leads_receive [Json.Room] {payload : String} {m : Message} (h : (Payload.text payload).message = .ok m) (hm : Surface.IsPointer m) :
    (receive payload).Leads SameButCaret := by
  have hready : (Payload.text payload).saysReady = false := by
    rw [Payload.saysReady, h]
    rcases hm with hm | hm <;> simp [hm]
  refine Step.Leads.reporting sameButCaret_refl sameButCaret_trans ?_ _
  refine Step.Leads.handling sameButCaret_refl sameButCaret_trans (P := fun _ => True) (fun w => ?_) (fun _ _ _ => trivial) fun e _ => ?_
  · have hhost : (Host.receive (.text payload) w.host).state = w.host := Host.receive_state_of_not_ready (by rw [hready]; rfl)
    rw [hhost]
    exact sameButCaret_refl w
  · cases e with
    | log e => exact sameButCaret_refl
    | moveCaret line => exact leads_showLineBy caretTold line

end Workspace

/-! ## Letters -/

/-- A message on its way. -/
inductive Letter where
  | toView (m : Message)
  | toHost (m : Message)

namespace Letter

/-- How many letters may still follow. -/
def rank : Letter → Nat
  | .toView _ => 1
  | .toHost m => if m.kind? = some .debug ∨ m.kind? = some .highlight then 0 else 2

/-- No rank is above two. -/
theorem rank_le (a : Letter) : a.rank ≤ 2 := by
  cases a with
  | toView m => exact Nat.le_succ 1
  | toHost m =>
    rw [rank]
    split <;> omega

end Letter

section Room

variable [Json.Room]

namespace Letter

/-- One letter is sent while another one is handled, in some state of the window that handles it. What the view sends, its poster gets.
What the host sends goes to its channel or waits behind its gate, and may be gone from there by the end; so if handling has changed
the host at all, it may have sent anything. -/
inductive Causes : Letter → Letter → Prop
  | posted {m m' : Message} (p : Payload) (v : Viewer) (hm : p.message = .ok m)
      (hpost : some m' ∈ (Viewer.receive p v).state.poster.queue.drop v.poster.queue.length) : Causes (.toView m) (.toHost m')
  | published {m : Message} (m' : Message) (payload : String) (w : Workspace) (hm : (Payload.text payload).message = .ok m)
      (hchanged : (Workspace.receive payload w).state.host ≠ w.host) : Causes (.toHost m) (.toView m')

/-- Whatever the view sends because of a letter is a report. -/
theorem Causes.toView {m : Message} {b : Letter} (h : Causes (.toView m) b) : ∃ m', b = .toHost m' ∧ Surface.IsReport m' := by
  cases h with
  | posted p v hm hpost =>
    obtain ⟨ms, hms, hposter⟩ := Viewer.leads_receive p v
    rw [hposter] at hpost
    exact ⟨_, rfl, hms _ (Poster.mem_of_mem_drop hpost)⟩

/-- The host sends nothing because of a report, or of a request for a line. -/
theorem not_causes_of_isPointer {m : Message} (hm : Surface.IsPointer m) (b : Letter) : ¬Causes (.toHost m) b := by
  intro h
  cases h with
  | published m' payload w hmessage hchanged =>
    obtain ⟨editor, -, heq⟩ := Workspace.leads_receive hmessage hm w
    rw [heq] at hchanged
    exact hchanged rfl

/-- A letter is of a lower rank than the one that causes it. -/
theorem Causes.rank_lt {a b : Letter} (h : Causes a b) : b.rank < a.rank := by
  cases a with
  | toView m =>
    obtain ⟨m', rfl, hreport⟩ := h.toView
    have hrank : rank (.toHost m') = 0 := if_pos (Or.inl hreport)
    rw [hrank]
    exact Nat.zero_lt_one
  | toHost m =>
    have hrank : rank (.toHost m) = 2 := if_neg fun hm => not_causes_of_isPointer hm b h
    rw [hrank]
    cases h with
    | published m' => exact Nat.lt_succ_self 1

/-- A chain is no longer than the rank of its first letter. -/
theorem length_le_rank {a : Letter} {letters : List Letter} (h : (a :: letters).IsChain Causes) : letters.length ≤ a.rank := by
  induction letters generalizing a with
  | nil => exact Nat.zero_le _
  | cons b letters ih =>
    obtain ⟨hcauses, hchain⟩ := List.isChain_cons_cons.1 h
    have hlt := hcauses.rank_lt
    have hle := ih hchain
    rw [List.length_cons]
    omega

end Letter

/-- Neither side takes for its user what the other side has made it do. Whatever the host has published, the view answers by reports
alone, also when its slider moves. Scrubbing and clicking send requests for lines besides, and neither these nor reports make the
host send anything: they move the caret at most, and nothing but the editor changes. So the letters that follow a message to the view
are reports, no letter follows a report or a request for a line, and no chain of letters is longer than three. -/
theorem no_feedback :
    (∀ (p : Payload) (v : Viewer), Viewer.Posts Surface.IsReport v (Viewer.receive p v).state) ∧
    (∀ (value : Int) (v : Viewer), Viewer.Posts Surface.IsPointer v (Viewer.setSlider value v).state) ∧
    (∀ (beam : Scene.Beam) (v : Viewer), Viewer.Posts Surface.IsPointer v (Viewer.clicked beam v).state) ∧
    (∀ (payload : String) (m : Message) (w : Workspace), (Payload.text payload).message = .ok m → Surface.IsPointer m →
      ∃ editor : Editor, editor.text = w.editor.text ∧ (Workspace.receive payload w).state = { w with editor }) ∧
    (∀ (m : Message) (letters : List Letter), (.toView m :: letters).IsChain Letter.Causes →
      ∀ b ∈ letters, ∃ m', b = .toHost m' ∧ Surface.IsReport m') ∧
    (∀ (m : Message) (letters : List Letter), (.toHost m :: letters).IsChain Letter.Causes → Surface.IsPointer m → letters = []) ∧
    ∀ letters : List Letter, letters.IsChain Letter.Causes → letters.length ≤ 3 := by
  refine ⟨Viewer.leads_receive, Viewer.leads_setSlider, Viewer.leads_clicked, ?_, ?_, ?_, ?_⟩
  · intro payload m w hmessage hm
    exact Workspace.leads_receive hmessage hm w
  · intro m letters hchain b hb
    have hlength := Letter.length_le_rank hchain
    match letters, hb, hlength with
    | [c], hb, _ =>
      obtain rfl := List.mem_singleton.1 hb
      exact (List.isChain_cons_cons.1 hchain).1.toView
  · intro m letters hchain hm
    have hlength := Letter.length_le_rank hchain
    have hrank : Letter.rank (.toHost m) = 0 := if_pos hm
    rw [hrank] at hlength
    exact List.eq_nil_of_length_eq_zero (Nat.le_zero.1 hlength)
  · intro letters hchain
    cases letters with
    | nil => exact Nat.zero_le 3
    | cons a letters => exact Nat.succ_le_succ ((Letter.length_le_rank hchain).trans a.rank_le)

end Room

/-- A viewer whose reports are sent at once. -/
def connectedViewer : Viewer :=
  { surface := { gate := { ready := true } }, client := .make "http://bridge/" "secret", theme := ({} : Surface).scene.theme }

/-- A main window with a program of two lines, followed by a view that is still to say that it is ready. -/
def followedWorkspace : Workspace :=
  { config := {}
    files := []
    port := 0
    host := { channel := { buffer := { capacity := 4 }, token := "secret" }, attached := true, text := "G0\nG1" }
    editor := { text := "G0\nG1".toList, toldLine := 1 } }

section Usual

attribute [local instance] Json.Room.usual

/-- A caret that is sent to the second line is not told, although the editor notes that it is there now. That the view is ready makes
the host send the program, which makes the view send a report, and there the letters end. -/
theorem no_feedback_second_line :
    (∃ editor : Editor, editor.toldLine = 2 ∧
      (Workspace.receive (Client.bodyOf (Message.highlight (.int 2)).toJson) followedWorkspace).state =
        { followedWorkspace with editor }) ∧
    ∃ a b c : Letter, [a, b, c].IsChain Letter.Causes ∧ ∀ d, ¬[a, b, c, d].IsChain Letter.Causes := by
  obtain ⟨-, -, -, hhost, -, -, hchains⟩ := no_feedback
  constructor
  · have hfits : Decimal.Fits 2 := by decide
    obtain ⟨editor, -, heq⟩ :=
      hhost _ _ followedWorkspace (Payload.message_highlight hfits) (Or.inr (Message.kind?_make _ _))
    refine ⟨editor, ?_, heq⟩
    have heditor := congrArg (fun w : Workspace => w.editor.toldLine) heq
    refine heditor.symm.trans ?_
    decide +kernel
  · have hready : (Payload.text Message.ready.toJson.spaced).message = .ok .ready := by
      refine Payload.message_spaced (.obj (List.nodup_singleton _) fun p hp => ?_) rfl
      obtain rfl := List.mem_singleton.1 hp
      exact .str _
    have hchanged : (Workspace.receive Message.ready.toJson.spaced followedWorkspace).state.host ≠ followedWorkspace.host := by
      intro hsame
      have hgate := congrArg (fun h : Host Unit => h.gate.ready) hsame
      revert hgate
      decide +kernel
    have hpost : some (Message.debug (.str "[bridge] incoming message type=cursorPositionChanged")) ∈
        (Viewer.receive (.value (Message.caret .null).toJson) connectedViewer).state.poster.queue.drop
          connectedViewer.poster.queue.length := by
      have hqueue : (Viewer.receive (.value (Message.caret .null).toJson) connectedViewer).state.poster.queue =
          [some (Message.debug (.str "[bridge] incoming message type=cursorPositionChanged"))] := by
        rfl
      rw [hqueue]
      exact List.mem_cons_self
    have hcauses := Letter.Causes.posted _ connectedViewer (Payload.message_toJson _) hpost
    refine ⟨_, _, _, List.isChain_cons_cons.2 ⟨.published _ _ followedWorkspace hready hchanged, List.isChain_cons_cons.2
      ⟨hcauses, List.isChain_singleton _⟩⟩, fun d hchain => ?_⟩
    have hlength := hchains _ hchain
    simp at hlength

end Usual

end ToolpathViewer
