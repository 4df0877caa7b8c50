import ToolpathViewer.Proofs.Bridge.Buffer
import ToolpathViewer.Proofs.Bridge.Polling
import ToolpathViewer.Proofs.Message
import ToolpathViewer.Session.Host

/-!
# What a host publishes

Each event of a host, with the state that it leaves and the messages that it publishes. Published and waiting messages together are
what the host has said; while a document is attached, the last program among them is the document's text.
-/

namespace ToolpathViewer

open Message (settingsOf Told Notice)

variable {ι : Type}

namespace Bridge.Channel

/-- The channel after some messages have been published. -/
def published (c : Channel ι) (ms : List Message) : Channel ι :=
  { c with buffer := ms.foldl (fun b m => (b.append m.encode).2) c.buffer }

/-- Messages published in two parts are published together. -/
theorem published_append (c : Channel ι) (ms ms' : List Message) : (c.published ms).published ms' = c.published (ms ++ ms') := by
  simp [published]

end Bridge.Channel

/-- The payload says that the view is ready. -/
def Payload.saysReady [Json.Room] (p : Payload) : Bool :=
  match p.message with
  | .ok m => m.kind? == some .ready
  | .error _ => false

namespace Host

/-! ## What is said -/

/-- The host with one more message said: it is published or waits for the view. -/
def telling (h : Host ι) (m : Message) : Host ι :=
  if h.gate.ready then { h with channel := h.channel.published [m] }
  else { h with gate := { h.gate with pending := h.gate.pending ++ [m] } }

/-- The messages that are published when one is said. -/
def passes (h : Host ι) (m : Message) : List Message := if h.gate.ready then [m] else []

/-- The host with its waiting messages published. -/
def opened (h : Host ι) : Host ι :=
  if h.gate.ready then h else { h with gate := ⟨true, []⟩, channel := h.channel.published h.gate.pending }

variable {h : Host ι} {codes : List String}

/-- Publishing on an open channel succeeds and emits nothing. -/
theorem publish_run {c : Bridge.Channel ι} (hopen : c.stopped = false) (m : Message) :
    Host.publish m c = ⟨.ok (), c.published [m], []⟩ := by
  simp [Host.publish, Bridge.Channel.publish_run hopen, Bridge.Channel.published]

/-- Sending over an open channel tells the message and emits nothing. -/
theorem send_run (hopen : h.channel.stopped = false) (m : Message) : Host.send m h = ⟨.ok (), h.telling m, []⟩ := by
  by_cases hready : h.gate.ready = true
  · simp [send, throughGate, Gate.send, Gate.beyond, publish_run hopen, hready, telling]
  · simp [send, throughGate, Gate.send, hready, telling]

/-- A flush over an open channel publishes all that waits. -/
theorem flush_run (ms : List Message) (g : Gate Message) {c : Bridge.Channel ι} (hopen : c.stopped = false) :
    Gate.flush Host.publish ms (g, c) = ⟨.ok (), ({ g with pending := [] }, c.published ms), []⟩ := by
  induction ms generalizing g c with
  | nil => rfl
  | cons m ms ih =>
    have hrest := ih { g with pending := m :: ms } (c := c.published [m]) hopen
    simp [Gate.flush, Gate.beyond, publish_run hopen, hrest, Bridge.Channel.published_append]

/-- Opening the gate over an open channel succeeds and emits nothing. -/
theorem markReady_run (hopen : h.channel.stopped = false) :
    ∃ n, throughGate (Gate.markReady Host.publish) h = ⟨.ok n, h.opened, []⟩ := by
  by_cases hready : h.gate.ready = true
  · exact ⟨0, by simp [throughGate, Gate.markReady, hready, opened]⟩
  · exact ⟨h.gate.pending.length, by simp [throughGate, Gate.markReady, hready, flush_run, hopen, opened]⟩

/-- The settings of a host whose codes are texts. -/
theorem settings_eq (hcodes : h.config.excluded = .ok (codes.map .str)) : h.config.settings = .ok (settingsOf codes) := by
  rw [Config.settings, hcodes]
  rfl

/-- Sending the document over an open channel tells its program. -/
theorem sendLoad_run (hopen : h.channel.stopped = false) (hcodes : h.config.excluded = .ok (codes.map .str)) :
    sendLoad h = ⟨.ok (), h.telling ((Notice.program true h.text).message codes), []⟩ := by
  simp [sendLoad, settings, settings_eq hcodes, send_run hopen]
  rfl

/-- A view that is ready gets what waits and then the document. -/
theorem viewReady_state (hopen : h.channel.stopped = false) (hcodes : h.config.excluded = .ok (codes.map .str)) :
    (viewReady h).state = h.opened.telling ((Notice.program true h.text).message codes) := by
  obtain ⟨n, hmark⟩ := markReady_run hopen
  have hopened : h.opened.channel.stopped = false ∧ h.opened.config = h.config ∧ h.opened.text = h.text := by
    unfold opened
    split
    · exact ⟨hopen, rfl, rfl⟩
    · exact ⟨hopen, rfl, rfl⟩
  have hload := sendLoad_run hopened.1 (hopened.2.1 ▸ hcodes)
  rw [hopened.2.2] at hload
  simp [viewReady, hmark, report, hload]

/-- Telling a message keeps the configuration. -/
@[simp] theorem config_telling (m : Message) : (h.telling m).config = h.config := by
  unfold telling
  split <;> rfl

/-- Opening the gate keeps the configuration. -/
@[simp] theorem config_opened : h.opened.config = h.config := by
  unfold opened
  split <;> rfl

/-- The channel behind a message that is told. -/
theorem channel_telling (m : Message) : (h.telling m).channel = h.channel.published (h.passes m) := by
  unfold telling passes
  split <;> rfl

/-- The channel behind the opened gate. -/
theorem channel_opened : h.opened.channel = h.channel.published (if h.gate.ready then [] else h.gate.pending) := by
  unfold opened
  split <;> rfl

/-- An opened gate is open. -/
theorem ready_opened : h.opened.gate.ready = true := by
  unfold opened
  split
  · assumption
  · rfl

/-! ## The messages of a host -/

/-- The last program in some messages. -/
def newest? (ms : List Message) : Option String := ms.reverse.findSome? Message.program?

/-- The newest program is that of the last message, if it has one. -/
theorem newest?_append (ms : List Message) (m : Message) : newest? (ms ++ [m]) = m.program?.or (newest? ms) := by
  rw [newest?, List.reverse_append, List.reverse_singleton, List.singleton_append, List.findSome?_cons]
  cases m.program? <;> rfl

/-- The last program is about one of the messages, and none behind it is about a program. -/
theorem newest?_eq_some {ms : List Message} {text : String} (h : newest? ms = some text) :
    ∃ before m after, ms = before ++ m :: after ∧ m.program? = some text ∧ ∀ m' ∈ after, m'.program? = none := by
  obtain ⟨after, m, before, hms, hm, hafter⟩ := List.findSome?_eq_some_iff.1 h
  refine ⟨before.reverse, m, after.reverse, ?_, hm, fun m' hm' => hafter m' (List.mem_reverse.1 hm')⟩
  rw [← List.reverse_reverse ms, hms]
  simp

/-- What a host has said, published or waiting, follows its document. -/
structure Follows (codes : List String) (usable : String → Prop) (sent : List Message) (h : Host ι) : Prop where
  idle : h.attached = false → h.gate.ready = false ∧ h.gate.pending = []
  clear : h.gate.ready = true → h.gate.pending = []
  told : ∀ m ∈ sent ++ h.gate.pending, Told codes m
  programs : ∀ m ∈ sent ++ h.gate.pending, ∀ text, m.program? = some text → usable text
  newest : h.attached = true → newest? (sent ++ h.gate.pending) = some h.text

variable {usable : String → Prop} {sent : List Message}

/-- One more message of an attached host. -/
theorem follows_telling {m : Message} (hattached : h.attached = true) (hclear : h.gate.ready = true → h.gate.pending = [])
    (htold : ∀ m' ∈ sent ++ h.gate.pending ++ [m], Told codes m')
    (hprograms : ∀ m' ∈ sent ++ h.gate.pending ++ [m], ∀ text, m'.program? = some text → usable text)
    (hnewest : newest? (sent ++ h.gate.pending ++ [m]) = some h.text) :
    Follows codes usable (sent ++ h.passes m) (h.telling m) := by
  by_cases hready : h.gate.ready = true
  · have hpending := hclear hready
    rw [hpending, List.append_nil] at htold hprograms hnewest
    rw [passes, telling, if_pos hready, if_pos hready]
    refine ⟨fun h' => ?_, fun _ => hpending, ?_, ?_, fun _ => ?_⟩
    · rw [hattached] at h'
      cases h'
    · rwa [hpending, List.append_nil]
    · rwa [hpending, List.append_nil]
    · rwa [hpending, List.append_nil]
  · rw [passes, telling, if_neg hready, if_neg hready, List.append_nil]
    rw [List.append_assoc] at htold hprograms hnewest
    refine ⟨fun h' => ?_, fun h' => absurd h' hready, htold, hprograms, fun _ => hnewest⟩
    rw [hattached] at h'
    cases h'

/-- Programs are told by hosts. -/
theorem told_program (codes : List String) (load : Bool) (text : String) : Told codes ((Notice.program load text).message codes) :=
  ⟨_, rfl⟩

/-- Lines of the caret are told by hosts. -/
theorem told_caret (codes : List String) (line : Int) : Told codes ((Notice.caret line).message codes) := ⟨_, rfl⟩

/-- A program that an attached host says becomes the newest one. -/
theorem Follows.telling_program (hf : Follows codes usable sent h) (load : Bool) {text : String} (husable : usable text) :
    Follows codes usable (sent ++ h.passes ((Notice.program load text).message codes))
      (({ h with attached := true, text } : Host ι).telling ((Notice.program load text).message codes)) := by
  refine follows_telling (h := { h with attached := true, text }) rfl hf.clear ?_ ?_ ?_
  · exact List.forall_mem_append.2 ⟨hf.told, List.forall_mem_singleton.2 (told_program codes load text)⟩
  · refine List.forall_mem_append.2 ⟨hf.programs, List.forall_mem_singleton.2 fun text' h' => ?_⟩
    rw [Message.program?_program] at h'
    exact Option.some.inj h' ▸ husable
  · rw [newest?_append, Message.program?_program]
    rfl

/-- A host that opens its gate still follows its document. -/
theorem Follows.opened (hf : Follows codes usable sent h) (hattached : h.attached = true) :
    Follows codes usable (sent ++ if h.gate.ready then [] else h.gate.pending) h.opened := by
  unfold Host.opened
  by_cases hready : h.gate.ready = true
  · rw [if_pos hready, if_pos hready, List.append_nil]
    exact hf
  · rw [if_neg hready, if_neg hready]
    refine ⟨fun h' => ?_, fun _ => rfl, ?_, ?_, ?_⟩
    · change h.attached = false at h'
      rw [hattached] at h'
      cases h'
    · simpa using hf.told
    · simpa using hf.programs
    · simpa using hf.newest

/-- The text of its document that a host follows is usable. -/
theorem Follows.usable_text (hf : Follows codes usable sent h) (hattached : h.attached = true) : usable h.text := by
  obtain ⟨before, m, after, hms, hm, -⟩ := newest?_eq_some (hf.newest hattached)
  exact hf.programs m (hms ▸ List.mem_append_right before List.mem_cons_self) h.text hm

/-! ## Events -/

/-- What happens to a host. -/
inductive Event where
  | attach (text : String)
  | change (text : String)
  | caret (line : Int)
  | detach
  | incoming (p : Payload)

/-- The text that an event brings. -/
def Event.text? : Event → Option String
  | .attach text | .change text => some text
  | .caret _ | .detach | .incoming _ => none

variable [Json.Room]

/-- The call that an event makes. -/
def Event.call : Event → Call ι Unit
  | .attach text => Host.attach text
  | .change text => Host.change text
  | .caret line => Host.caret line
  | .detach => Host.detach
  | .incoming p => Host.receive p

/-- The host after an event, when its channel is open and its codes are known. -/
def Event.after (codes : List String) (h : Host ι) : Event → Host ι
  | .attach text => ({ h with attached := true, text } : Host ι).telling ((Notice.program true text).message codes)
  | .change text =>
    if h.attached then ({ h with text } : Host ι).telling ((Notice.program false text).message codes) else h
  | .caret line => if h.attached then h.telling ((Notice.caret line).message codes) else h
  | .detach => { h with attached := false, text := "", gate := ⟨false, []⟩ }
  | .incoming p =>
    if p.saysReady && h.attached then h.opened.telling ((Notice.program true h.text).message codes) else h

/-- The messages that an event publishes. -/
def Event.publishes (codes : List String) (h : Host ι) : Event → List Message
  | .attach text => h.passes ((Notice.program true text).message codes)
  | .change text => if h.attached then h.passes ((Notice.program false text).message codes) else []
  | .caret line => if h.attached then h.passes ((Notice.caret line).message codes) else []
  | .detach => []
  | .incoming p =>
    if p.saysReady && h.attached then
      (if h.gate.ready then [] else h.gate.pending) ++ [(Notice.program true h.text).message codes]
    else []

/-- A payload that does not say to an attached host that the view is ready leaves the host as it is. -/
theorem receive_state_of_not_ready {p : Payload} (h' : (p.saysReady && h.attached) = false) : (receive p h).state = h := by
  unfold receive
  cases hmessage : p.message with
  | error why => cases why <;> rfl
  | ok m =>
    have hkind : h.attached = true → m.kind? ≠ some .ready := by
      intro hattached heq
      rw [Payload.saysReady, hmessage] at h'
      simp [hattached, heq] at h'
    simp only [obey, Step.bind_run, Step.get_run]
    split
    · rfl
    · split
      · rename_i hattached
        have hne := hkind hattached
        cases hm : m.kind? with
        | none => rfl
        | some kind =>
          cases kind with
          | ready => exact absurd hm hne
          | highlight => cases m.line? <;> rfl
          | load | change | caret | debug => rfl
      · rfl

/-- A request for a line moves the caret of an attached host, and does nothing else. -/
theorem receive_highlight {p : Payload} {line : Int} (hp : p.message = .ok (Message.highlight (.int line))) :
    receive p h = ⟨.ok (), h, if h.attached then [.moveCaret (h.nearestLine line)] else []⟩ := by
  have hkind : (Message.highlight (.int line)).kind? = some .highlight := Message.kind?_make _ _
  have hdebug : ¬(Message.highlight (.int line)).kind? = some .debug := by
    rw [hkind]
    decide
  simp only [receive, hp, obey, Step.bind_run, Step.get_run, if_neg hdebug]
  by_cases hattached : h.attached = true
  · simp only [if_pos hattached, hkind, Message.line?_highlight, moveCaret, Step.bind_run, Step.get_run, Step.emit_run, List.nil_append]
  · simp only [if_neg hattached, Step.pure_run, List.nil_append]

/-- A payload that says that the view is ready is obeyed while there is a document. -/
theorem receive_of_ready {p : Payload} (hready : p.saysReady = true) (hattached : h.attached = true) : receive p h = viewReady h := by
  rw [Payload.saysReady] at hready
  unfold receive
  cases hmessage : p.message with
  | error why =>
    rw [hmessage] at hready
    cases hready
  | ok m =>
    rw [hmessage] at hready
    have hkind : m.kind? = some .ready := by simpa using hready
    change obey m h = _
    simp only [obey, hkind, Step.bind_run, Step.get_run, hattached, if_true, List.nil_append]
    rfl

/-- What an event leaves of the host. -/
theorem call_state (hopen : h.channel.stopped = false) (hcodes : h.config.excluded = .ok (codes.map .str)) (e : Event) :
    (e.call h).state = e.after codes h := by
  cases e with
  | attach text =>
    have hload := sendLoad_run (h := { h with attached := true, text }) hopen hcodes
    simp [Event.call, attach, report, hload, Event.after]
  | change text =>
    by_cases hattached : h.attached = true
    · have hsettings : ({ h with text } : Host ι).config.settings = .ok (settingsOf codes) := settings_eq hcodes
      have hsend : (send ((Notice.program false text).message codes) { h with text }).state =
          ({ h with text } : Host ι).telling ((Notice.program false text).message codes) :=
        congrArg Turn.state (send_run (h := { h with text }) hopen _)
      rw [Event.after, if_pos hattached, ← hsend]
      simp only [Event.call, Host.change, Step.bind_run, Step.get_run, if_pos hattached, Step.set_run, settings, hsettings,
        Step.ofExcept_run]
      rfl
    · rw [Event.after, if_neg hattached]
      simp only [Event.call, Host.change, Step.bind_run, Step.get_run, if_neg hattached]
      rfl
  | caret line =>
    by_cases hattached : h.attached = true
    · have hsend : (send ((Notice.caret line).message codes) h).state = h.telling ((Notice.caret line).message codes) := by
        rw [send_run hopen]
      rw [Event.after, if_pos hattached, ← hsend]
      simp only [Event.call, Host.caret, Step.bind_run, Step.get_run, if_pos hattached]
      rfl
    · rw [Event.after, if_neg hattached]
      simp only [Event.call, Host.caret, Step.bind_run, Step.get_run, if_neg hattached]
      rfl
  | detach =>
    by_cases hattached : h.attached = true
    · simp [Event.call, Host.detach, hattached, report, Event.after, Gate.reset]
    · simp [Event.call, Host.detach, hattached, Event.after, Gate.reset]
  | incoming p =>
    by_cases hready : (p.saysReady && h.attached) = true
    · have hboth := Bool.and_eq_true_iff.1 hready
      rw [Event.after, if_pos hready, ← viewReady_state hopen hcodes, ← receive_of_ready hboth.1 hboth.2]
      rfl
    · rw [Event.after, if_neg hready]
      exact receive_state_of_not_ready (Bool.not_eq_true _ |>.mp hready)

/-- Every event keeps the configuration. -/
theorem config_after (e : Event) : (e.after codes h).config = h.config := by
  cases e with
  | attach text => exact config_telling _
  | change text =>
    rw [Event.after]
    split
    · exact config_telling _
    · rfl
  | caret line =>
    rw [Event.after]
    split
    · exact config_telling _
    · rfl
  | detach => rfl
  | incoming p =>
    rw [Event.after]
    split
    · rw [config_telling, config_opened]
    · rfl

/-- An event publishes its messages in order. -/
theorem channel_after (e : Event) : (e.after codes h).channel = h.channel.published (e.publishes codes h) := by
  cases e with
  | attach text => exact channel_telling _
  | change text =>
    rw [Event.after, Event.publishes]
    split
    · exact channel_telling _
    · rfl
  | caret line =>
    rw [Event.after, Event.publishes]
    split
    · exact channel_telling _
    · rfl
  | detach => rfl
  | incoming p =>
    rw [Event.after, Event.publishes]
    split
    · rw [channel_telling, channel_opened, Bridge.Channel.published_append, passes, ready_opened]
      rfl
    · rfl

/-- Every event keeps what the host has said in step with its document. -/
theorem Follows.after (hf : Follows codes usable sent h) (e : Event) (husable : ∀ text, e.text? = some text → usable text) :
    Follows codes usable (sent ++ e.publishes codes h) (e.after codes h) := by
  cases e with
  | attach text => exact hf.telling_program true (husable text rfl)
  | change text =>
    rw [Event.after, Event.publishes]
    by_cases hattached : h.attached = true
    · rw [if_pos hattached, if_pos hattached]
      have heq : ({ h with text } : Host ι) = { h with attached := true, text } := by simp [hattached]
      rw [heq]
      exact hf.telling_program false (husable text rfl)
    · rw [if_neg hattached, if_neg hattached, List.append_nil]
      exact hf
  | caret line =>
    rw [Event.after, Event.publishes]
    by_cases hattached : h.attached = true
    · rw [if_pos hattached, if_pos hattached]
      refine follows_telling hattached hf.clear ?_ ?_ ?_
      · exact List.forall_mem_append.2 ⟨hf.told, List.forall_mem_singleton.2 (told_caret codes line)⟩
      · refine List.forall_mem_append.2 ⟨hf.programs, List.forall_mem_singleton.2 fun text h' => ?_⟩
        rw [Message.program?_caret] at h'
        cases h'
      · rw [newest?_append, Message.program?_caret, Option.none_or]
        exact hf.newest hattached
    · rw [if_neg hattached, if_neg hattached, List.append_nil]
      exact hf
  | detach =>
    rw [Event.after, Event.publishes, List.append_nil]
    refine ⟨fun _ => ⟨rfl, rfl⟩, nofun, ?_, ?_, nofun⟩
    · intro m hm
      rw [List.append_nil] at hm
      exact hf.told m (List.mem_append_left _ hm)
    · intro m hm
      rw [List.append_nil] at hm
      exact hf.programs m (List.mem_append_left _ hm)
  | incoming p =>
    rw [Event.after, Event.publishes]
    by_cases hready : (p.saysReady && h.attached) = true
    · have hattached := (Bool.and_eq_true_iff.1 hready).2
      rw [if_pos hready, if_pos hready, ← List.append_assoc]
      have hopened := hf.opened hattached
      have hpasses : h.opened.passes ((Notice.program true h.text).message codes) = [(Notice.program true h.text).message codes] := by
        rw [passes, if_pos ready_opened]
      have heq : ({ h.opened with attached := true, text := h.text } : Host ι) = h.opened := by
        unfold Host.opened
        split
        · rw [← hattached]
        · rw [← hattached]
      have htelling := hopened.telling_program true (hf.usable_text hattached)
      rwa [hpasses, heq] at htelling
    · rw [if_neg hready, if_neg hready, List.append_nil]
      exact hf

end Host

end ToolpathViewer
