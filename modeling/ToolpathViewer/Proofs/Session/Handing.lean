import ToolpathViewer.Proofs.Session.Transcript

/-!
# What a host hands to its gate

Because of an event a host hands messages to its gate, and the gate publishes each of them, or keeps it until the view is ready, or drops
it with the session. Here this is followed message by message, for any configuration: one that cannot tell its settings hands over
nothing but the lines of the caret. Whatever is published, or waits, was handed over, and in that order (`Orderly.call`).
-/

namespace ToolpathViewer.Host

variable {ι : Type}

/-! ## Messages with settings -/

/-- A message that is made with the settings. Without settings there is none. -/
def withSettings (h : Host ι) (make : Json → Message) : List Message := h.config.settings.toOption.toList.map make

variable {h : Host ι}

/-- A message with the settings is said, if there are settings. -/
theorem sendWith_state (hopen : h.channel.stopped = false) (make : Json → Message) :
    ((do send (make (← settings))) h : Turn Effect (Host ι) Unit).state = (h.withSettings make).foldl telling h := by
  rw [withSettings, Step.bind_run]
  cases hsettings : h.config.settings with
  | error why =>
    simp only [settings, Step.bind_run, Step.get_run, hsettings, Step.ofExcept_run]
    rfl
  | ok v =>
    simp only [settings, Step.bind_run, Step.get_run, hsettings, Step.ofExcept_run, send_run hopen]
    rfl

/-- Sending the document tells one message, if the settings can be made. -/
theorem sendLoad_state (hopen : h.channel.stopped = false) :
    (sendLoad h).state = (h.withSettings (.load (.str h.text))).foldl telling h := by
  rw [← sendWith_state hopen]
  simp only [sendLoad, Step.bind_run, Step.get_run]

/-- Opening the gate does not stop the channel. -/
theorem stopped_opened : h.opened.channel.stopped = h.channel.stopped := by
  unfold opened
  split <;> rfl

/-- Opening the gate keeps the text. -/
theorem text_opened : h.opened.text = h.text := by
  unfold opened
  split <;> rfl

/-! ## Attaching and detaching -/

/-- The host only reports. -/
def Effect.IsLog (e : Effect) : Prop := ∃ entry, e = .log entry

/-- Sending a message emits only reports. -/
theorem emits_send (m : Message) : (send m : Call ι Unit).Emits Effect.IsLog := by
  have hpublish : (publish m : Step Effect (Bridge.Channel ι) Unit).Emits Effect.IsLog :=
    Step.Emits.bind (Step.emits_get.bind fun _ => (Step.emits_ofExcept _).bind fun _ => (Step.emits_set _).bind fun _ =>
      Step.emits_pure _) fun _ => Step.emits_pure _
  refine Step.Emits.bind (Step.Emits.within (Step.emits_get.bind fun p => .ite _ ?_ ?_) _ _) fun _ => Step.emits_pure _
  · exact (hpublish.within _ _).bind fun _ => Step.emits_pure _
  · exact (Step.emits_update _).bind fun _ => Step.emits_pure _

/-- A report is a report. -/
theorem emits_report (entry : Log.Entry) : (report entry : Call ι Unit).Emits Effect.IsLog :=
  Step.emits_emit ⟨entry, rfl⟩

/-- Attaching a document moves no caret. -/
theorem emits_attach (text : String) : (attach text : Call ι Unit).Emits Effect.IsLog := by
  refine (Step.emits_update _).bind fun _ => (emits_report _).bind fun _ => Step.emits_get.bind fun h => ?_
  exact Step.Emits.bind (Step.emits_get.bind fun _ => Step.emits_ofExcept _) fun settings => emits_send _

/-- Attaching a document to a host with an open channel fails only when the host cannot tell its settings. -/
theorem attach_result (hopen : h.channel.stopped = false) (text : String) :
    (attach text h).result = h.config.settings.map fun _ => () := by
  cases hsettings : h.config.settings with
  | error why => simp [attach, report, sendLoad, settings, hsettings, Except.map]
  | ok v => simp [attach, report, sendLoad, settings, hsettings, send_run, hopen, Except.map]

/-- A host that has detached follows no document. -/
theorem attached_detach (h : Host ι) : (detach h).state.attached = false := by
  rw [detach, Step.bind_run, Step.get_run]
  dsimp only
  split <;> rfl

/-! ## What becomes of them -/

/-- Between two states of a host some messages were published and some were handed to the gate: what was published, and what waits now,
waited before or is of those that were handed over, each once and in their order. -/
structure Handed (handed published : List Message) (h h' : Host ι) : Prop where
  buffer : h'.channel.buffer = (h.channel.published published).buffer
  config : h'.config = h.config
  order : (published ++ h'.gate.pending).Sublist (h.gate.pending ++ handed)

namespace Handed

variable {h' h'' : Host ι} {ms ms' ps ps' : List Message}

/-- Between a state and itself nothing is handed over. -/
theorem refl (h : Host ι) : Handed [] [] h h := ⟨rfl, rfl, by simp⟩

/-- What is handed over in two steps is handed over in one. -/
theorem trans (hh : Handed ms ps h h') (hh' : Handed ms' ps' h' h'') : Handed (ms ++ ms') (ps ++ ps') h h'' := by
  refine ⟨?_, hh'.config.trans hh.config, ?_⟩
  · rw [hh'.buffer, ← Bridge.Channel.published_append, Bridge.Channel.published, hh.buffer]
    rfl
  · rw [List.append_assoc, ← List.append_assoc h.gate.pending]
    refine (List.Sublist.append_left hh'.order ps).trans ?_
    rw [← List.append_assoc]
    exact List.Sublist.append_right hh.order ms'

end Handed

/-- What holds of a host at any time: nothing waits behind an open gate, or without a document, and a host whose channel has been stopped
has none. -/
structure Orderly (h : Host ι) : Prop where
  clear : h.gate.ready = true → h.gate.pending = []
  idle : h.attached = false → h.gate.ready = false ∧ h.gate.pending = []
  closed : h.channel.stopped = true → h.attached = false

/-- Telling a message does not stop the channel. -/
@[simp] theorem stopped_telling (m : Message) : (h.telling m).channel.stopped = h.channel.stopped := by
  unfold telling
  split <;> rfl

/-- Telling a message does not attach or detach. -/
@[simp] theorem attached_telling (m : Message) : (h.telling m).attached = h.attached := by
  unfold telling
  split <;> rfl

/-- Opening the gate does not attach or detach. -/
theorem attached_opened : h.opened.attached = h.attached := by
  unfold opened
  split <;> rfl

namespace Orderly

/-- One message more is published, or waits behind what waited. -/
theorem telling (ho : Orderly h) (hattached : h.attached = true) (m : Message) :
    Orderly (h.telling m) ∧ Handed [m] (h.passes m) h (h.telling m) := by
  refine ⟨⟨fun hready => ?_, fun hnot => ?_, fun hstopped => ?_⟩, ⟨?_, config_telling m, ?_⟩⟩
  · rw [ready_telling] at hready
    rw [Host.telling, if_pos hready]
    exact ho.clear hready
  · rw [attached_telling, hattached] at hnot
    cases hnot
  · rw [stopped_telling] at hstopped
    rw [attached_telling]
    exact ho.closed hstopped
  · rw [channel_telling]
  · rw [passes_append_pending ho.clear]

/-- So are several messages. -/
theorem tellingAll (ho : Orderly h) (hattached : h.attached = true) (ms : List Message) :
    Orderly (ms.foldl Host.telling h) ∧ (∃ ps, Handed ms ps h (ms.foldl Host.telling h)) ∧
      (ms.foldl Host.telling h).channel.stopped = h.channel.stopped := by
  induction ms generalizing h with
  | nil => exact ⟨ho, ⟨[], .refl h⟩, rfl⟩
  | cons m ms ih =>
    obtain ⟨hnext, hhanded⟩ := ho.telling hattached m
    obtain ⟨hlast, ⟨ps, hrest⟩, hstopped⟩ := ih hnext ((attached_telling m).trans hattached)
    exact ⟨hlast, ⟨_, hhanded.trans hrest⟩, hstopped.trans (stopped_telling m)⟩

/-- Opening the gate publishes what has waited. -/
theorem opened (ho : Orderly h) (hattached : h.attached = true) :
    Orderly h.opened ∧ Handed [] (if h.gate.ready then [] else h.gate.pending) h h.opened := by
  refine ⟨⟨fun _ => pending_opened ho.clear, fun hnot => ?_, fun hstopped => ?_⟩, ⟨?_, config_opened, ?_⟩⟩
  · rw [attached_opened, hattached] at hnot
    cases hnot
  · rw [stopped_opened] at hstopped
    rw [attached_opened]
    exact ho.closed hstopped
  · rw [channel_opened]
  · rw [pending_opened ho.clear, List.append_nil, List.append_nil]
    split
    · exact List.nil_sublist _
    · exact List.Sublist.refl _

/-- Another channel with the same messages does not matter to what waits. -/
theorem withChannel (ho : h.Orderly) {c : Bridge.Channel ι} (hbuffer : c.buffer = h.channel.buffer)
    (hclosed : c.stopped = true → h.attached = false) :
    ({ h with channel := c } : Host ι).Orderly ∧ Handed [] [] h { h with channel := c } :=
  ⟨⟨ho.clear, ho.idle, hclosed⟩, ⟨hbuffer, rfl, by simp⟩⟩

end Orderly

/-! ## The messages of an event -/

variable [Json.Room]

/-- What a host hands to its gate because of an event. -/
def Event.hands (h : Host ι) : Event → List Message
  | .attach text => h.withSettings (.load (.str text))
  | .change text => if h.attached then h.withSettings (.change (.str text)) else []
  | .caret line => if h.attached then [.caret (.int line)] else []
  | .detach => []
  | .incoming p => if p.saysReady && h.attached then h.withSettings (.load (.str h.text)) else []

/-- The host when it comes to hand them over. -/
def Event.prepared (h : Host ι) : Event → Host ι
  | .attach text => { h with attached := true, text }
  | .change text => if h.attached then { h with text } else h
  | .caret _ => h
  | .detach => { h with attached := false, text := "", gate := ⟨false, []⟩ }
  | .incoming p => if p.saysReady && h.attached then h.opened else h

/-- While the channel is open, an event leaves the prepared host with its messages said. -/
theorem call_of_open (hopen : h.channel.stopped = false) (e : Event) :
    (e.call h).state = (e.hands h).foldl telling (e.prepared h) := by
  cases e with
  | attach text =>
    have hload := sendLoad_state (h := { h with attached := true, text }) hopen
    simp only [Event.call, attach, Step.bind_run, Step.update_run, report, Step.emit_run]
    exact hload
  | change text =>
    by_cases hattached : h.attached = true
    · have hsend := sendWith_state (h := { h with text }) hopen (.change (.str text))
      rw [Event.hands, Event.prepared, if_pos hattached, if_pos hattached]
      refine Eq.trans ?_ hsend
      simp only [Event.call, Host.change, Step.bind_run, Step.get_run, if_pos hattached, Step.set_run]
    · rw [Event.hands, Event.prepared, if_neg hattached, if_neg hattached]
      simp only [Event.call, Host.change, Step.bind_run, Step.get_run, if_neg hattached]
      rfl
  | caret line =>
    by_cases hattached : h.attached = true
    · rw [Event.hands, if_pos hattached]
      simp only [Event.call, Host.caret, Step.bind_run, Step.get_run, if_pos hattached, send_run hopen]
      rfl
    · rw [Event.hands, if_neg hattached]
      simp only [Event.call, Host.caret, Step.bind_run, Step.get_run, if_neg hattached]
      rfl
  | detach =>
    by_cases hattached : h.attached = true
    · simp [Event.call, Host.detach, hattached, report, Event.hands, Event.prepared, Gate.reset]
    · simp [Event.call, Host.detach, hattached, Event.hands, Event.prepared, Gate.reset]
  | incoming p =>
    by_cases hready : (p.saysReady && h.attached) = true
    · obtain ⟨hopened, hattached⟩ := Bool.and_eq_true_iff.1 hready
      obtain ⟨n, hmark⟩ := markReady_run hopen
      have hload := sendLoad_state (h := h.opened) (stopped_opened.trans hopen)
      rw [text_opened] at hload
      rw [Event.hands, Event.prepared, if_pos hready, if_pos hready, withSettings, ← config_opened (h := h)]
      change (receive p h).state = _
      rw [receive_of_ready hopened hattached]
      simp only [viewReady, Step.bind_run, hmark, report, Step.emit_run]
      exact hload
    · rw [Event.hands, Event.prepared, if_neg hready, if_neg hready]
      exact receive_state_of_not_ready (Bool.not_eq_true _ |>.mp hready)

/-- Without a document, no event but that of a document hands anything over, whether the channel is open or not. -/
theorem call_of_not_attached (hattached : h.attached = false) {e : Event} (he : ∀ text, e ≠ .attach text) :
    (e.call h).state = e.prepared h ∧ e.hands h = [] := by
  cases e with
  | attach text => exact absurd rfl (he text)
  | change text => simp [Event.call, Host.change, Event.prepared, Event.hands, hattached]
  | caret line => simp [Event.call, Host.caret, Event.prepared, Event.hands, hattached]
  | detach => simp [Event.call, Host.detach, Event.prepared, Event.hands, hattached, Gate.reset]
  | incoming p =>
    have hready : (p.saysReady && h.attached) = false := by rw [hattached, Bool.and_false]
    rw [Event.prepared, Event.hands, hready]
    exact ⟨receive_state_of_not_ready hready, rfl⟩

/-- The prepared host is as orderly as it was. Only detaching has dropped anything, and has made the host one without a document. -/
theorem Orderly.prepared (ho : Orderly h) (e : Event) (hattach : ∀ text, e = .attach text → h.channel.stopped = false) :
    Orderly (e.prepared h) ∧ (∃ ps, Handed [] ps h (e.prepared h)) ∧ (e.prepared h).channel.stopped = h.channel.stopped ∧
      (e.hands h ≠ [] → (e.prepared h).attached = true) := by
  cases e with
  | attach text =>
    refine ⟨⟨ho.clear, nofun, fun hstopped => ?_⟩, ⟨[], rfl, rfl, by simp [Event.prepared]⟩, rfl, fun _ => rfl⟩
    rw [Event.prepared, hattach text rfl] at hstopped
    cases hstopped
  | change text =>
    rw [Event.prepared, Event.hands]
    split
    · rename_i hattached
      exact ⟨⟨ho.clear, ho.idle, ho.closed⟩, ⟨[], rfl, rfl, by simp⟩, rfl, fun _ => hattached⟩
    · exact ⟨ho, ⟨[], .refl h⟩, rfl, fun hne => absurd rfl hne⟩
  | caret line =>
    refine ⟨ho, ⟨[], .refl h⟩, rfl, fun hne => ?_⟩
    by_contra hattached
    exact hne (if_neg hattached)
  | detach =>
    refine ⟨⟨fun _ => rfl, fun _ => ⟨rfl, rfl⟩, fun _ => rfl⟩, ⟨[], rfl, rfl, ?_⟩, rfl, fun hne => absurd rfl hne⟩
    exact List.nil_sublist _
  | incoming p =>
    rw [Event.prepared, Event.hands]
    split
    · rename_i hready
      have hattached := (Bool.and_eq_true_iff.1 hready).2
      obtain ⟨hopened, hhanded⟩ := ho.opened hattached
      exact ⟨hopened, ⟨_, hhanded⟩, stopped_opened, fun _ => attached_opened.trans hattached⟩
    · exact ⟨ho, ⟨[], .refl h⟩, rfl, fun hne => absurd rfl hne⟩

/-- An event of an orderly host leaves it orderly, and what it hands over is all that comes behind what waited. A document must not be
attached when the channel has been stopped. -/
theorem Orderly.call (ho : Orderly h) (e : Event) (hattach : ∀ text, e = .attach text → h.channel.stopped = false) :
    Orderly (e.call h).state ∧ (∃ ps, Handed (e.hands h) ps h (e.call h).state) ∧
      (e.call h).state.channel.stopped = h.channel.stopped := by
  obtain ⟨hprepared, ⟨ps, hhanded⟩, hstopped, hattached⟩ := ho.prepared e hattach
  cases hclosed : h.channel.stopped with
  | true =>
    have hne : ∀ text, e ≠ .attach text := by
      intro text he
      rw [hattach text he] at hclosed
      cases hclosed
    obtain ⟨hcall, hnone⟩ := call_of_not_attached (ho.closed hclosed) hne
    rw [hcall, hnone]
    exact ⟨hprepared, ⟨ps, hhanded⟩, hstopped.trans hclosed⟩
  | false =>
    rw [call_of_open hclosed]
    cases hands : e.hands h with
    | nil => exact ⟨hprepared, ⟨ps, hhanded⟩, hstopped.trans hclosed⟩
    | cons m ms =>
      obtain ⟨htold, ⟨ps', hhanded'⟩, hstopped'⟩ := hprepared.tellingAll (hattached (hands ▸ List.cons_ne_nil m ms)) (m :: ms)
      exact ⟨htold, ⟨ps ++ ps', hhanded.trans hhanded'⟩, hstopped'.trans (hstopped.trans hclosed)⟩

/-! ## Several events -/

/-- A host after some events. -/
def follow (h : Host ι) (es : List Event) : Host ι := es.foldl (fun h e => (e.call h).state) h

/-- What it has handed to its gate by then. -/
def handsAll : Host ι → List Event → List Message
  | _, [] => []
  | h, e :: es => e.hands h ++ handsAll (e.call h).state es

/-- A host follows events one after the other. -/
theorem follow_append (es es' : List Event) : h.follow (es ++ es') = (h.follow es).follow es' := List.foldl_append

/-- A host without a document gets none but by attaching one. -/
theorem attached_follow (hattached : h.attached = false) {es : List Event} (hes : ∀ text, .attach text ∉ es) :
    (h.follow es).attached = false := by
  induction es generalizing h with
  | nil => exact hattached
  | cons e es ih =>
    refine ih (h := (e.call h).state) ?_ fun text hmem => hes text (List.mem_cons_of_mem e hmem)
    rw [(call_of_not_attached hattached fun text he => hes text (he ▸ List.mem_cons_self)).1]
    cases e with
    | attach text => exact absurd List.mem_cons_self (hes text)
    | change text =>
      rw [Event.prepared, hattached]
      exact hattached
    | caret line => exact hattached
    | detach => rfl
    | incoming p =>
      rw [Event.prepared, hattached, Bool.and_false]
      exact hattached

/-- An orderly host stays orderly along any events that may happen to it, and hands over what they give. -/
theorem Orderly.follow (ho : Orderly h) {es : List Event} (hattach : ∀ text, .attach text ∈ es → h.channel.stopped = false) :
    Orderly (h.follow es) ∧ (∃ ps, Handed (h.handsAll es) ps h (h.follow es)) ∧
      (h.follow es).channel.stopped = h.channel.stopped := by
  induction es generalizing h with
  | nil => exact ⟨ho, ⟨[], .refl h⟩, rfl⟩
  | cons e es ih =>
    obtain ⟨hnext, ⟨ps, hhanded⟩, hstopped⟩ := ho.call e fun text he => hattach text (he ▸ List.mem_cons_self)
    obtain ⟨hlast, ⟨ps', hrest⟩, hstopped'⟩ := ih hnext fun text he => hstopped.trans (hattach text (List.mem_cons_of_mem e he))
    exact ⟨hlast, ⟨ps ++ ps', hhanded.trans hrest⟩, hstopped'.trans hstopped⟩

end ToolpathViewer.Host
