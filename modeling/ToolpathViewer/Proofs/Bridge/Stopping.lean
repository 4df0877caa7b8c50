import ToolpathViewer.Proofs.Bridge.Access

/-!
# After the stop

A channel is stopped for good. Each of its entries makes the check for itself, the direct ones one by one and the requests in front of
whatever they ask for; listeners can still be added and removed, but nothing reaches them any more. So all that can change on a
stopped channel is the list of its listeners (`Use.run_of_stopped`), and what was true right after the stop stays true.
-/

namespace ToolpathViewer.Bridge.Channel

/-- A channel in use: beside it there is what its listeners work on, and a note of each call that they got. -/
structure Usage (ι ω : Type) where
  channel : Channel ι
  world : ω
  calls : List (ι × String) := []

/-- One use of a channel, by a direct call or by a request. -/
inductive Use (ι : Type) where
  | publish (message : String)
  | poll (after : Int) (token : Option String)
  | submit (payload : String) (token : Option String)
  | start (port : Nat)
  | stop
  | addListener (l : ι)
  | removeListener (l : ι)
  | request (r : Request)

variable {ι ω : Type}

/-- A call of a listener, noted before it is made. What it does to the channel and to the rest is its own business. -/
def witnessed (call : ι → String → Step Log.Entry (Channel ι × ω) Unit) (l : ι) (payload : String) :
    Step Log.Entry (Usage ι ω) Unit := do
  Step.update fun u => { u with calls := u.calls ++ [(l, payload)] }
  (call l payload).within (fun u => (u.channel, u.world)) fun p u => { u with channel := p.1, world := p.2 }

/-- A direct call on the channel. -/
def onChannel {α : Type} (x : Step Log.Entry (Channel ι) α) : Step Log.Entry (Usage ι ω) α :=
  x.within (·.channel) fun channel u => { u with channel }

/-- Carries out a use, with the answer if it is a request. -/
def Use.run [Server] [BEq ι] (call : ι → String → Step Log.Entry (Channel ι × ω) Unit) : Use ι → Step Log.Entry (Usage ι ω) (Option Reply)
  | .publish message => do
    let _ ← onChannel (Channel.publish message)
    return none
  | .poll after token => do
    let _ ← Step.ofExcept ((← Step.get).channel.poll after token)
    return none
  | .submit payload token => do
    submitEvent id (witnessed call) (·.channel) payload token
    return none
  | .start port => do
    let _ ← onChannel (Channel.start port)
    return none
  | .stop => do
    onChannel Channel.stop
    return none
  | .addListener l => do
    Step.update fun u => { u with channel := u.channel.addListener l }
    return none
  | .removeListener l => do
    Step.update fun u => { u with channel := u.channel.removeListener l }
    return none
  | .request r => do
    return some (← exchange id (witnessed call) (·.channel) r)

/-! ## What each use comes to on a stopped channel -/

/-- A stopped channel is closed to everyone. -/
theorem standing_of_stopped {c : Channel ι} (h : c.stopped = true) (token : Option String) : c.standing token = .closed := by
  rw [standing, h]
  rfl

/-- A request is told that the channel has been stopped; only a question for permissions is still answered. -/
theorem answer_of_stopped [Server] {c : Channel ι} (h : c.stopped = true) (r : Request) :
    ∃ response, c.answer r = ⟨response, none⟩ ∧ response.status = if r.verb = "OPTIONS" then 204 else 503 := by
  by_cases hverb : r.verb = "OPTIONS"
  · exact ⟨_, answer_of_options c hverb, (if_pos hverb).symm⟩
  · have hrefusal : (c.standing r.token?).refusal? = some (textResponse 503 "stopped") := by
      rw [standing_of_stopped h]
      rfl
    refine ⟨_, answer_of_refused hverb hrefusal, ?_⟩
    rw [if_neg hverb]
    split <;> rfl

section Stopped

variable [Server] [BEq ι] (call : ι → String → Step Log.Entry (Channel ι × ω) Unit) {u : Usage ι ω}

/-- Publishing on a stopped channel fails and does nothing. -/
theorem run_publish_of_stopped (h : u.channel.stopped = true) (message : String) :
    (Use.publish message).run call u = ⟨.error .stopped, u, []⟩ := by
  simp [Use.run, onChannel, publish, checkOpen, h]

/-- A stopped channel cannot be started again. -/
theorem run_start_of_stopped (h : u.channel.stopped = true) (port : Nat) :
    (Use.start port).run call u = ⟨.error .stopped, u, []⟩ := by
  simp [Use.run, onChannel, start, checkOpen, h]

/-- Polling a stopped channel fails and does nothing. -/
theorem run_poll_of_stopped (h : u.channel.stopped = true) (after : Int) (token : Option String) :
    (Use.poll after token).run call u = ⟨.error .stopped, u, []⟩ := by
  have hpoll : u.channel.poll after token = .error .stopped := by
    rw [poll_eq, standing_of_stopped h]
    rfl
  simp [Use.run, hpoll]

/-- Submitting an event to a stopped channel fails and does nothing. -/
theorem run_submit_of_stopped (h : u.channel.stopped = true) (payload : String) (token : Option String) :
    (Use.submit payload token).run call u = ⟨.error .stopped, u, []⟩ := by
  have hsubmit : submitEvent id (witnessed call) (·.channel) payload token u = ⟨.error .stopped, u, []⟩ := by
    rw [submitEvent_run, standing_of_stopped h]
    rfl
  exact Step.bind_of_error hsubmit _

/-- Stopping a stopped channel does nothing. -/
theorem run_stop_of_stopped (h : u.channel.stopped = true) : Use.stop.run call u = ⟨.ok none, u, []⟩ := by
  simp [Use.run, onChannel, stop, h]

/-- A request to a stopped channel is answered without any effect, by a refusal unless it asks for permissions only. -/
theorem run_request_of_stopped (h : u.channel.stopped = true) (r : Request) :
    ∃ status body, (Use.request r).run call u = ⟨.ok (some (.response status body)), u, []⟩ ∧
      status = if r.verb = "OPTIONS" then 204 else 503 := by
  obtain ⟨response, hanswer, hstatus⟩ := answer_of_stopped h r
  have hexchange : exchange id (witnessed call) (·.channel) r u = ⟨.ok (.response response.status response.body), u, []⟩ :=
    exchange_of_event_none hanswer
  exact ⟨_, _, Step.bind_of_ok hexchange _, hstatus⟩

end Stopped

/-! ## What a stopped channel keeps -/

namespace Usage

/-- Nothing but the listeners of the channel has changed. -/
def Kept (u u' : Usage ι ω) : Prop :=
  ∃ listeners, u' = { u with channel := { u.channel with listeners } }

/-- A channel that nothing is done to is kept. -/
theorem Kept.refl (u : Usage ι ω) : u.Kept u := ⟨u.channel.listeners, rfl⟩

/-- Being kept is transitive. -/
theorem Kept.trans {u u' u'' : Usage ι ω} (h : u.Kept u') (h' : u'.Kept u'') : u.Kept u'' := by
  obtain ⟨_, rfl⟩ := h
  obtain ⟨listeners, rfl⟩ := h'
  exact ⟨listeners, rfl⟩

/-- A kept channel is as stopped as before. -/
theorem Kept.stopped {u u' : Usage ι ω} (h : u.Kept u') : u'.channel.stopped = u.channel.stopped := by
  obtain ⟨_, rfl⟩ := h
  rfl

end Usage

section Run

variable [Server] [BEq ι] (call : ι → String → Step Log.Entry (Channel ι × ω) Unit) {u : Usage ι ω}

/-- On a stopped channel no use changes anything but the listeners. -/
theorem Use.run_of_stopped (h : u.channel.stopped = true) (use : Use ι) : u.Kept (use.run call u).state := by
  cases use with
  | publish message => exact run_publish_of_stopped call h message ▸ .refl u
  | poll after token => exact run_poll_of_stopped call h after token ▸ .refl u
  | submit payload token => exact run_submit_of_stopped call h payload token ▸ .refl u
  | start port => exact run_start_of_stopped call h port ▸ .refl u
  | stop => exact run_stop_of_stopped call h ▸ .refl u
  | addListener l => exact ⟨u.channel.listeners ++ [l], rfl⟩
  | removeListener l => exact ⟨u.channel.listeners.erase l, rfl⟩
  | request r =>
    obtain ⟨_, _, hrun, -⟩ := run_request_of_stopped call h r
    exact hrun ▸ .refl u

/-- Several uses, one after the other. One that fails does not keep the next from being made. -/
def Use.runAll (uses : List (Use ι)) (u : Usage ι ω) : Usage ι ω := uses.foldl (fun u use => (use.run call u).state) u

/-- Nor do any number of uses. -/
theorem Use.runAll_of_stopped (h : u.channel.stopped = true) (uses : List (Use ι)) : u.Kept (Use.runAll call uses u) := by
  induction uses generalizing u with
  | nil => exact .refl u
  | cons use uses ih =>
    have hkept := use.run_of_stopped call h
    exact hkept.trans (ih (hkept.stopped.trans h))

/-- What a stop leaves, whether it is the first one or not. -/
theorem run_stop (u : Usage ι ω) : ∃ channel, (Use.stop.run call u).state = { u with channel } ∧ channel.stopped = true ∧
    channel.buffer = u.channel.buffer ∧ channel.port = u.channel.port := by
  cases h : u.channel.stopped with
  | true => exact ⟨u.channel, by rw [run_stop_of_stopped call h], h, rfl, rfl⟩
  | false =>
    refine ⟨{ u.channel with stopped := true, serving := false, listeners := [] }, ?_, rfl, rfl, rfl⟩
    simp [Use.run, onChannel, stop, h]

/-- A stop is final. After it and any further uses, no listener has been called any more, not even one that was added since, what
listeners work on is as it was, and the channel has the messages, the latest version and the port that it had before the stop. Each
publication, poll, submission and start from then on fails for the stop, whatever its secret, each request but a question for
permissions is answered 503, and a further stop does nothing; none of these changes anything. -/
theorem stop_is_final (u₀ : Usage ι ω) (uses : List (Use ι)) :
    let u := Use.runAll call uses (Use.stop.run call u₀).state
    (u.calls = u₀.calls ∧ u.world = u₀.world ∧ u.channel.buffer = u₀.channel.buffer ∧ u.channel.port = u₀.channel.port) ∧
    (∀ message, (Use.publish message).run call u = ⟨.error .stopped, u, []⟩) ∧
    (∀ after token, (Use.poll after token).run call u = ⟨.error .stopped, u, []⟩) ∧
    (∀ payload token, (Use.submit payload token).run call u = ⟨.error .stopped, u, []⟩) ∧
    (∀ port, (Use.start port).run call u = ⟨.error .stopped, u, []⟩) ∧
    (∀ r, ∃ status body, (Use.request r).run call u = ⟨.ok (some (.response status body)), u, []⟩ ∧
      status = if r.verb = "OPTIONS" then 204 else 503) ∧
    Use.stop.run call u = ⟨.ok none, u, []⟩ := by
  obtain ⟨channel, hstop, hstopped, hbuffer, hport⟩ := run_stop call u₀
  have hkept : Usage.Kept { u₀ with channel } (Use.runAll call uses { u₀ with channel }) := Use.runAll_of_stopped call hstopped uses
  have hclosed := hkept.stopped.trans hstopped
  rw [hstop]
  refine ⟨?_, run_publish_of_stopped call hclosed, run_poll_of_stopped call hclosed, run_submit_of_stopped call hclosed,
    run_start_of_stopped call hclosed, run_request_of_stopped call hclosed, run_stop_of_stopped call hclosed⟩
  obtain ⟨listeners, hu⟩ := hkept
  rw [hu]
  exact ⟨rfl, rfl, hbuffer, hport⟩

end Run

section Usual

attribute [local instance] Server.usual

/-- A listener that comes too late is not called, neither by a submission with the right secret nor by a request. -/
theorem stop_is_final_inUse :
    let call : String → String → Step Log.Entry (Channel String × Nat) Unit := fun _ _ => Step.update fun p => (p.1, p.2 + 1)
    let late := Use.runAll call [.addListener "late", .submit "hello" (some "secret"),
      .request { method := "POST", path := "/event", headers := [(tokenHeader, "secret")] }] (Use.stop.run call ⟨inUse, 0, []⟩).state
    late.channel.listeners = ["late"] ∧ late.calls = [] ∧ late.world = 0 ∧
      (Use.submit "again" (some "secret")).run call late = ⟨.error .stopped, late, []⟩ := by
  intro call late
  obtain ⟨⟨hcalls, hworld, -⟩, -, -, hsubmit, -⟩ := stop_is_final call ⟨inUse, 0, []⟩ [.addListener "late",
    .submit "hello" (some "secret"), .request { method := "POST", path := "/event", headers := [(tokenHeader, "secret")] }]
  exact ⟨by decide +kernel, hcalls, hworld, hsubmit "again" (some "secret")⟩

end Usual

end ToolpathViewer.Bridge.Channel
