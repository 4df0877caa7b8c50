import ToolpathViewer.Proofs.Session.Host

/-!
# Sessions of a host

A session lasts from the first document that a host attaches to the time it detaches. What the host has to say in a session is told
by what happens in it alone, the `transcript`. All of it waits until the view says for the first time that it is ready; then it is
published, and from then on whatever comes is published at once. Between two sessions nothing is said.
-/

namespace ToolpathViewer.Host

open Message (settingsOf Notice)

variable {ι : Type}

/-! ## The document -/

/-- The document that is followed after an event, by the one that was followed before it. -/
def Event.document (d : Option String) : Event → Option String
  | .attach text => some text
  | .change text => d.map fun _ => text
  | .detach => none
  | .caret _ | .incoming _ => d

/-- The document that a host follows. -/
def document (h : Host ι) : Option String := if h.attached then some h.text else none

/-- A host with what it has published. -/
structure Record (ι : Type) where
  host : Host ι
  published : List Message := []

/-- A record that was kept from the start: the channel has taken what was published, and what was said follows the document. -/
structure Record.Kept (codes : List String) (config : Config) (channel : Bridge.Channel ι) (r : Record ι) : Prop where
  published : r.host.channel = channel.published r.published
  configured : r.host.config = config
  follows : Follows codes (fun _ => True) r.published r.host

/-- A new host has a kept record. -/
theorem Record.kept_start (codes : List String) (config : Config) (channel : Bridge.Channel ι) :
    Kept codes config channel { host := { channel, config } } :=
  ⟨rfl, rfl, ⟨fun _ => ⟨rfl, rfl⟩, nofun, nofun, nofun, nofun⟩⟩

variable {codes : List String} {h : Host ι}

/-- Telling a message keeps the document. -/
@[simp] theorem document_telling (m : Message) : (h.telling m).document = h.document := by
  unfold telling
  split <;> rfl

/-- Opening the gate keeps the document. -/
@[simp] theorem document_opened : h.opened.document = h.document := by
  unfold opened
  split <;> rfl

/-- Telling a message does not open the gate. -/
theorem ready_telling (m : Message) : (h.telling m).gate.ready = h.gate.ready := by
  unfold telling
  split <;> rfl

/-- Whatever is said is published or waits behind what waited. -/
theorem passes_append_pending (hclear : h.gate.ready = true → h.gate.pending = []) (m : Message) :
    h.passes m ++ (h.telling m).gate.pending = h.gate.pending ++ [m] := by
  unfold passes telling
  split
  · rename_i hready
    rw [hclear hready]
    exact List.append_nil _
  · rfl

/-- Behind an opened gate nothing waits. -/
theorem pending_opened (hclear : h.gate.ready = true → h.gate.pending = []) : h.opened.gate.pending = [] := by
  unfold opened
  split
  · rename_i hready
    exact hclear hready
  · rfl

/-- A host is attached when it has a document. -/
theorem attached_iff : h.attached = true ↔ h.document = some h.text := by
  unfold document
  cases h.attached <;> simp

/-- A host that is not attached has no document. -/
theorem document_of_not_attached (hattached : h.attached = false) : h.document = none := by
  rw [document, hattached]
  rfl

/-- There is a document just when the host is attached. -/
theorem isSome_document : h.document.isSome = h.attached := by
  unfold document
  cases h.attached <;> rfl

/-- What is said only while there is a document: like all that is said, it is published or waits behind what waited. -/
theorem passes_append_pending_of_attached (hclear : h.gate.ready = true → h.gate.pending = []) {g : Host ι} (hgate : g.gate = h.gate)
    (m : Message) :
    (if h.attached then h.passes m else []) ++ (if h.attached then g.telling m else h).gate.pending =
      h.gate.pending ++ if h.document.isSome then [m] else [] := by
  have hpasses : h.passes m = g.passes m := by rw [passes, passes, hgate]
  rw [isSome_document, hpasses, ← hgate]
  split
  · exact passes_append_pending (hgate ▸ hclear) m
  · rw [hgate, List.nil_append, List.append_nil]

/-! ## What there is to say -/

section Room

variable [Json.Room]

/-- What an event gives a host to say: each document and each change once, every caret line, and the document once more whenever the
view is ready. Without a document there is nothing to say. -/
def Event.gives (codes : List String) (d : Option String) : Event → List Message
  | .attach text => [(Notice.program true text).message codes]
  | .change text => if d.isSome then [(Notice.program false text).message codes] else []
  | .caret line => if d.isSome then [(Notice.caret line).message codes] else []
  | .detach => []
  | .incoming p => if p.saysReady then d.toList.map fun text => (Notice.program true text).message codes else []

/-- The view is ready, and there is a document. -/
def Event.opens (d : Option String) : Event → Bool
  | .incoming p => p.saysReady && d.isSome
  | .attach _ | .change _ | .caret _ | .detach => false

/-- What some events give a host to say, in order. -/
def transcript (codes : List String) : Option String → List Event → List Message
  | _, [] => []
  | d, e :: es => e.gives codes d ++ transcript codes (e.document d) es

/-- In the course of some events the view is ready while there is a document. -/
def everOpens : Option String → List Event → Bool
  | _, [] => false
  | d, e :: es => e.opens d || everOpens (e.document d) es

/-- One event. -/
def Record.step (codes : List String) (r : Record ι) (e : Event) : Record ι :=
  { host := (e.call r.host).state, published := r.published ++ e.publishes codes r.host }

/-- The document after an event, whatever the gate lets through. -/
theorem document_after (e : Event) : (e.after codes h).document = e.document h.document := by
  cases e with
  | attach text => exact document_telling _
  | change text =>
    rw [Event.after]
    cases hattached : h.attached with
    | true =>
      rw [if_pos rfl, document_telling, attached_iff.1 hattached]
      rfl
    | false =>
      rw [if_neg (by simp), document_of_not_attached hattached]
      rfl
  | caret line =>
    rw [Event.after]
    split
    · exact document_telling _
    · rfl
  | detach => rfl
  | incoming p =>
    rw [Event.after]
    split
    · rw [document_telling, document_opened]
      rfl
    · rfl

/-- An event other than detaching: what it gives to say comes behind what waited, published or waiting itself. -/
theorem publishes_append_pending (hclear : h.gate.ready = true → h.gate.pending = []) {e : Event} (he : e ≠ .detach) :
    e.publishes codes h ++ (e.after codes h).gate.pending = h.gate.pending ++ e.gives codes h.document := by
  cases e with
  | attach text => exact passes_append_pending (h := { h with attached := true, text }) hclear _
  | change text => exact passes_append_pending_of_attached (g := { h with text }) hclear rfl _
  | caret line => exact passes_append_pending_of_attached hclear rfl _
  | detach => exact absurd rfl he
  | incoming p =>
    rw [Event.publishes, Event.after, Event.gives]
    by_cases hopens : (p.saysReady && h.attached) = true
    · obtain ⟨hready, hattached⟩ := Bool.and_eq_true_iff.1 hopens
      have hpending : (h.opened.telling ((Notice.program true h.text).message codes)).gate.pending = [] := by
        rw [telling, if_pos ready_opened]
        exact pending_opened hclear
      rw [if_pos hopens, if_pos hopens, if_pos hready, attached_iff.1 hattached, hpending, List.append_nil]
      change _ = h.gate.pending ++ [(Notice.program true h.text).message codes]
      split
      · rename_i hready
        rw [hclear hready]
      · rfl
    · rw [if_neg hopens, if_neg hopens, List.nil_append]
      split
      · rename_i hready
        have hattached : h.attached = false := by simpa [hready] using hopens
        rw [document_of_not_attached hattached]
        exact (List.append_nil _).symm
      · exact (List.append_nil _).symm

/-- The gate opens when the view is ready while there is a document, and stays open unless the host detaches. -/
theorem ready_after {e : Event} (he : e ≠ .detach) :
    (e.after codes h).gate.ready = (h.gate.ready || e.opens h.document) := by
  have hkeeps : ∀ b : Bool, (b || false) = b := Bool.or_false
  cases e with
  | attach text => exact (ready_telling _).trans (hkeeps _).symm
  | change text =>
    rw [Event.after, Event.opens, hkeeps]
    split
    · exact ready_telling _
    · rfl
  | caret line =>
    rw [Event.after, Event.opens, hkeeps]
    split
    · exact ready_telling _
    · rfl
  | detach => exact absurd rfl he
  | incoming p =>
    rw [Event.after, Event.opens, isSome_document]
    split
    · rename_i hboth
      rw [ready_telling, ready_opened, hboth, Bool.or_true]
    · rename_i hboth
      rw [Bool.not_eq_true _ |>.mp hboth, hkeeps]

/-- A gate that is closed lets nothing through, and only opens when the view is ready while there is a document. -/
theorem silent_of_closed (codes : List String) (hready : h.gate.ready = false) {e : Event} (hopens : e.opens h.document = false) :
    e.publishes codes h = [] ∧ (e.after codes h).gate.ready = false := by
  have hpasses : ∀ (g : Host ι) (m : Message), g.gate.ready = false → g.passes m = [] := by
    intro g m hg
    rw [passes, if_neg (by simp [hg])]
  have hnext : (e.after codes h).gate.ready = false := by
    by_cases he : e = .detach
    · rw [he]
      rfl
    · rw [ready_after he, hready, hopens]
      rfl
  refine ⟨?_, hnext⟩
  cases e with
  | attach text => exact hpasses h _ hready
  | change text =>
    rw [Event.publishes, hpasses h _ hready, ite_self]
  | caret line =>
    rw [Event.publishes, hpasses h _ hready, ite_self]
  | detach => rfl
  | incoming p =>
    rw [Event.opens, isSome_document] at hopens
    rw [Event.publishes, if_neg (Bool.not_eq_true _ |>.mpr hopens)]

namespace Record

variable {r : Record ι} {channel : Bridge.Channel ι} {config : Config}
variable (hopen : channel.stopped = false) (hcodes : config.excluded = .ok (codes.map .str))

include hopen hcodes

/-- What an event adds to a kept record. -/
theorem Kept.step_eq (hk : r.Kept codes config channel) (e : Event) :
    r.step codes e = ⟨e.after codes r.host, r.published ++ e.publishes codes r.host⟩ := by
  rw [step, call_state (hk.published ▸ hopen) (hk.configured.symm ▸ hcodes)]

/-- Every event keeps the record. -/
theorem Kept.step (hk : r.Kept codes config channel) (e : Event) : (r.step codes e).Kept codes config channel := by
  rw [hk.step_eq hopen hcodes]
  refine ⟨?_, (config_after e).trans hk.configured, hk.follows.after e fun _ _ => trivial⟩
  rw [channel_after, hk.published, Bridge.Channel.published_append]

/-- Every run keeps the record. -/
theorem Kept.run (hk : r.Kept codes config channel) (events : List Event) :
    (events.foldl (Record.step codes) r).Kept codes config channel := by
  induction events generalizing r with
  | nil => exact hk
  | cons e events ih => exact ih (hk.step hopen hcodes e)

/-- The document is the one that the events have led to. -/
theorem Kept.document_run (hk : r.Kept codes config channel) (events : List Event) :
    (events.foldl (Record.step codes) r).host.document = events.foldl Event.document r.host.document := by
  induction events generalizing r with
  | nil => rfl
  | cons e events ih =>
    rw [List.foldl_cons, ih (hk.step hopen hcodes e), hk.step_eq hopen hcodes, document_after, List.foldl_cons]

/-- Behind a closed gate nothing is published until the view is ready while there is a document. -/
theorem Kept.silent_run (hk : r.Kept codes config channel) (hready : r.host.gate.ready = false) {events : List Event}
    (hopens : everOpens r.host.document events = false) : (events.foldl (Record.step codes) r).published = r.published := by
  induction events generalizing r with
  | nil => rfl
  | cons e events ih =>
    obtain ⟨hfirst, hrest⟩ := Bool.or_eq_false_iff.1 hopens
    obtain ⟨hnothing, hstill⟩ := silent_of_closed codes hready hfirst
    have hkept := hk.step hopen hcodes e
    have hstep := hk.step_eq hopen hcodes e
    rw [List.foldl_cons, ih hkept (by rw [hstep]; exact hstill) (by rw [hstep, document_after]; exact hrest), hstep, hnothing,
      List.append_nil]

end Record

/-- In a session, all that there was to say has been published behind what was published before, or waits; while the gate is closed,
nothing of it has been published. -/
structure Record.Speaks (before said : List Message) (r : Record ι) : Prop where
  spoken : r.published ++ r.host.gate.pending = before ++ said
  silent : r.host.gate.ready = false → r.published = before

namespace Record

variable {r : Record ι} {channel : Bridge.Channel ι} {config : Config} {before said : List Message}
variable (hopen : channel.stopped = false) (hcodes : config.excluded = .ok (codes.map .str))

include hopen hcodes

/-- Every event of a session says what it gives to the transcript. -/
theorem Speaks.step (hs : r.Speaks before said) (hk : r.Kept codes config channel) {e : Event} (he : e ≠ .detach) :
    (r.step codes e).Speaks before (said ++ e.gives codes r.host.document) := by
  rw [hk.step_eq hopen hcodes]
  refine ⟨?_, fun hready => ?_⟩
  · change r.published ++ e.publishes codes r.host ++ (e.after codes r.host).gate.pending = _
    rw [List.append_assoc, publishes_append_pending hk.follows.clear he, ← List.append_assoc, hs.spoken, List.append_assoc]
  · change (e.after codes r.host).gate.ready = false at hready
    rw [ready_after he, Bool.or_eq_false_iff] at hready
    change r.published ++ e.publishes codes r.host = before
    rw [(silent_of_closed codes hready.1 hready.2).1, List.append_nil, hs.silent hready.1]

/-- All through a session the host says its transcript, and the gate tells whether the view has been ready. -/
theorem Speaks.run (hs : r.Speaks before said) (hk : r.Kept codes config channel) {events : List Event} (hevents : .detach ∉ events) :
    (events.foldl (Record.step codes) r).Speaks before (said ++ transcript codes r.host.document events) ∧
      (events.foldl (Record.step codes) r).host.gate.ready = (r.host.gate.ready || everOpens r.host.document events) := by
  induction events generalizing r said with
  | nil => exact ⟨by rwa [transcript, List.append_nil], (Bool.or_false _).symm⟩
  | cons e events ih =>
    have he : e ≠ .detach := fun heq => hevents (heq ▸ List.mem_cons_self)
    have hkept := hk.step hopen hcodes e
    obtain ⟨hspeaks, hready⟩ := ih (hs.step hopen hcodes hk he) hkept fun hmem => hevents (List.mem_cons_of_mem e hmem)
    rw [hk.step_eq hopen hcodes, document_after] at hspeaks hready
    rw [List.foldl_cons, hk.step_eq hopen hcodes, transcript, everOpens, ← List.append_assoc, ← Bool.or_assoc, ← ready_after he]
    exact ⟨hspeaks, hready⟩

/-- From an unattached host on, a session without a view that is ready is waiting, and one with such a view is published. -/
theorem Kept.session (hk : r.Kept codes config channel) (hattached : r.host.attached = false) {events : List Event}
    (hevents : .detach ∉ events) :
    (events.foldl (Record.step codes) r).published =
        r.published ++ (if everOpens none events then transcript codes none events else []) ∧
      (events.foldl (Record.step codes) r).host.gate.pending =
        if everOpens none events then [] else transcript codes none events := by
  obtain ⟨hready, hpending⟩ := hk.follows.idle hattached
  have hs : r.Speaks r.published [] := ⟨by rw [hpending], fun _ => rfl⟩
  obtain ⟨hspeaks, hopened⟩ := hs.run hopen hcodes hk hevents
  rw [document_of_not_attached hattached, List.nil_append] at hspeaks
  rw [document_of_not_attached hattached, hready, Bool.false_or] at hopened
  have hspoken := hspeaks.spoken
  cases hopens : everOpens none events with
  | true =>
    rw [hopens] at hopened
    have hclear := (hk.run hopen hcodes events).follows.clear hopened
    rw [hclear, List.append_nil] at hspoken
    exact ⟨hspoken, hclear⟩
  | false =>
    rw [hopens] at hopened
    have hsilent := hspeaks.silent hopened
    rw [hsilent] at hspoken
    exact ⟨by rw [hsilent]; exact (List.append_nil _).symm, List.append_cancel_left hspoken⟩

end Record

/-- Whatever happens to a host over an open channel, the channel takes what the record says, and: without a document the gate is
closed, nothing waits and nothing that happens is published; after the host detached nothing is published before the view is ready
while there is a document; what is published in a session, and what waits, is together the transcript of the session, all of it
published once the view has been ready and none of it before; and the last program that was published or waits is the document that is
followed, with the settings of the host. -/
theorem sessions_are_transcribed {channel : Bridge.Channel ι} {config : Config} {codes : List String}
    (hopen : channel.stopped = false) (hcodes : config.excluded = .ok (codes.map .str)) (events : List Event) {r : Record ι}
    (hr : r = events.foldl (Record.step codes) { host := { channel, config } }) :
    (r.host.channel = channel.published r.published ∧ r.host.document = events.foldl Event.document none) ∧
      (r.host.attached = false → r.host.gate.ready = false ∧ r.host.gate.pending = [] ∧
        ∀ e, (r.step codes e).published = r.published) ∧
      (∀ before after, events = before ++ .detach :: after → everOpens none after = false →
        r.published = (before.foldl (Record.step codes) { host := { channel, config } }).published) ∧
      (∀ before session r₀, events = before ++ session → r₀ = before.foldl (Record.step codes) { host := { channel, config } } →
        r₀.host.attached = false → .detach ∉ session →
        r.published = r₀.published ++ (if everOpens none session then transcript codes none session else []) ∧
          r.host.gate.pending = if everOpens none session then [] else transcript codes none session) ∧
      (r.host.attached = true → r.host.config.settings = .ok (settingsOf codes) ∧
        ∃ before load behind, r.published ++ r.host.gate.pending =
            before ++ (Notice.program load r.host.text).message codes :: behind ∧ ∀ m ∈ behind, m.program? = none) := by
  have hstart := Record.kept_start (ι := ι) codes config channel
  have hk : r.Kept codes config channel := hr ▸ hstart.run hopen hcodes events
  refine ⟨⟨hk.published, ?_⟩, fun hattached => ?_, ?_, ?_, fun hattached => ⟨?_, ?_⟩⟩
  · rw [hr, hstart.document_run hopen hcodes]
    rfl
  · obtain ⟨hready, hpending⟩ := hk.follows.idle hattached
    refine ⟨hready, hpending, fun e => ?_⟩
    have hopens : e.opens r.host.document = false := by
      rw [document_of_not_attached hattached]
      cases e with
      | incoming p => exact Bool.and_false _
      | attach text | change text | caret line | detach => rfl
    rw [hk.step_eq hopen hcodes, (silent_of_closed codes hready hopens).1, List.append_nil]
  · rintro before after rfl hopens
    have hbefore := hstart.run hopen hcodes before
    have hdetached := hbefore.step_eq hopen hcodes .detach
    rw [hr, List.foldl_append, List.foldl_cons,
      (hbefore.step hopen hcodes .detach).silent_run hopen hcodes (by rw [hdetached]; rfl) (by rw [hdetached]; exact hopens), hdetached]
    exact List.append_nil _
  · rintro before session r₀ rfl rfl hattached hsession
    rw [hr, List.foldl_append]
    exact (hstart.run hopen hcodes before).session hopen hcodes hattached hsession
  · exact settings_eq (hk.configured.symm ▸ hcodes)
  · obtain ⟨before, m, behind, hsaid, hm, hbehind⟩ := newest?_eq_some (hk.follows.newest hattached)
    obtain ⟨load, rfl⟩ := (hk.follows.told m (hsaid ▸ List.mem_append_right before List.mem_cons_self)).program hm
    exact ⟨before, load, behind, hsaid, hbehind⟩

end Room

section Usual

attribute [local instance] Json.Room.usual

/-- The second session of a host, over a channel that keeps one message: nothing of the first is left, and what waited is published
with the document once more behind it. -/
theorem sessions_are_transcribed_second_session :
    ∃ r : Record Unit,
      r = [Event.attach "G0 X1", .detach, .attach "G0 X2", .caret 1, .incoming (.value (.obj [("type", .str "webviewReady")])),
        .change "G0 X3"].foldl (Record.step defaultCodes) { host := { channel := { buffer := { capacity := 1 }, token := "secret" } } } ∧
      r.host.gate.pending = [] ∧
      r.published = [(Notice.program true "G0 X2").message defaultCodes, (Notice.caret 1).message defaultCodes,
        (Notice.program true "G0 X2").message defaultCodes, (Notice.program false "G0 X3").message defaultCodes] := by
  have hopen : ({ buffer := { capacity := 1 }, token := "secret" } : Bridge.Channel Unit).stopped = false := rfl
  have hcodes : ({} : Config).excluded = .ok (defaultCodes.map .str) := rfl
  obtain ⟨-, -, -, hsession, -⟩ := sessions_are_transcribed hopen hcodes
    [Event.attach "G0 X1", .detach, .attach "G0 X2", .caret 1, .incoming (.value (.obj [("type", .str "webviewReady")])),
      .change "G0 X3"] rfl
  obtain ⟨hpublished, hpending⟩ := hsession [.attach "G0 X1", .detach] _ _ rfl rfl rfl (by simp)
  exact ⟨_, rfl, hpending, hpublished⟩

end Usual

end ToolpathViewer.Host
