import Mathlib.Tactic
import ToolpathViewer.Gate
import ToolpathViewer.Proofs.Step

/-!
# What becomes of messages at a gate

A gate in use, where every dispatch may fail. Each message that was sent has been dispatched, waits, was dropped from the queue or was
refused to its sender. What waits are always the last messages sent, so the order of sending is never lost, and what has become of the
others is settled for good.
-/

namespace ToolpathViewer.Gate

variable {ε σ μ : Type}

/-! ## Calls -/

/-- What is asked of a gate. -/
inductive Request (μ : Type) where
  | send (m : μ)
  | markReady
  | reset (drop : Bool)

/-- The messages that a request sends. -/
def Request.sends : Request μ → List μ
  | .send m => [m]
  | .markReady | .reset _ => []

/-- The messages that a request drops from the queue of a gate. -/
def Request.drops (g : Gate μ) : Request μ → List μ
  | .reset true => g.pending
  | .send _ | .markReady | .reset false => []

/-- The call that a request makes. -/
def Request.call (dispatch : μ → Step ε σ Unit) : Request μ → Through ε σ μ Unit
  | .send m => do
    let _ ← Gate.send dispatch m
  | .markReady => do
    let _ ← Gate.markReady dispatch
  | .reset drop => Step.update fun p => (p.1.reset drop, p.2)

/-- A dispatch that notes what it has dispatched. -/
def noting (dispatch : μ → Step ε σ Unit) (m : μ) : Step ε (List μ × σ) Unit := do
  (dispatch m).within Prod.snd fun s p => (p.1, s)
  Step.update fun p => (p.1 ++ [m], p.2)

variable {dispatch : μ → Step ε σ Unit} {g : Gate μ} {m : μ} {s : σ}

/-- A dispatch that succeeds is noted. -/
theorem noting_of_ok (out : List μ) (h : (dispatch m s).result = .ok ()) :
    noting dispatch m (out, s) = ⟨.ok (), (out ++ [m], (dispatch m s).state), (dispatch m s).emitted⟩ := by
  simp [noting, h]

/-- A dispatch that fails is not noted. -/
theorem noting_of_error {fault : Fault} (out : List μ) (h : (dispatch m s).result = .error fault) :
    noting dispatch m (out, s) = ⟨.error fault, (out, (dispatch m s).state), (dispatch m s).emitted⟩ := by
  simp [noting, h]

variable (dispatch)

/-- An open gate dispatches a message at once. -/
theorem send_of_ready (hready : g.ready = true) (m : μ) (s : σ) :
    Gate.send dispatch m (g, s) =
      ⟨(dispatch m s).result.map fun _ => true, (g, (dispatch m s).state), (dispatch m s).emitted⟩ := by
  cases hresult : (dispatch m s).result <;> simp [Gate.send, beyond, hready, hresult, Except.map]

/-- A closed gate keeps a message. -/
theorem send_of_not_ready (hready : g.ready = false) (m : μ) (s : σ) :
    Gate.send dispatch m (g, s) = ⟨.ok false, ({ g with pending := g.pending ++ [m] }, s), []⟩ := by
  simp [Gate.send, hready]

/-- Opening an open gate does nothing. -/
theorem markReady_of_ready (hready : g.ready = true) (s : σ) : Gate.markReady dispatch (g, s) = ⟨.ok 0, (g, s), []⟩ := by
  simp [Gate.markReady, hready]

/-- A flush dispatches the whole queue, or it stops at the first message whose dispatch fails and leaves that one and all behind it. -/
theorem flush_noting (ms : List μ) (g : Gate μ) (out : List μ) (s : σ) :
    (∃ s' es, flush (noting dispatch) ms (g, out, s) = ⟨.ok (), ({ g with pending := [] }, out ++ ms, s'), es⟩) ∨
      ∃ front m later fault s₀ es, ms = front ++ m :: later ∧ (dispatch m s₀).result = .error fault ∧
        flush (noting dispatch) ms (g, out, s) =
          ⟨.error fault, ({ g with pending := m :: later }, out ++ front, (dispatch m s₀).state), es⟩ := by
  induction ms generalizing g out s with
  | nil => exact Or.inl ⟨s, [], by simp [flush]⟩
  | cons m rest ih =>
    cases hresult : (dispatch m s).result with
    | error fault =>
      have hnoting := noting_of_error out hresult
      exact Or.inr ⟨[], m, rest, fault, s, (dispatch m s).emitted, rfl, hresult, by simp [flush, beyond, hnoting]⟩
    | ok u =>
      have hnoting := noting_of_ok out hresult
      rcases ih { g with pending := m :: rest } (out ++ [m]) (dispatch m s).state with
        ⟨s', es, hrest⟩ | ⟨front, m', later, fault, s₀, es, rfl, hfails, hrest⟩
      · exact Or.inl ⟨s', (dispatch m s).emitted ++ es, by simp [flush, beyond, hnoting, hrest]⟩
      · exact Or.inr ⟨m :: front, m', later, fault, s₀, (dispatch m s).emitted ++ es, rfl, hfails,
          by simp [flush, beyond, hnoting, hrest]⟩

/-- Becoming ready dispatches all that waits. If a dispatch fails, the gate is not ready, and the message and all behind it wait. -/
theorem markReady_noting (hready : g.ready = false) (out : List μ) (s : σ) :
    (∃ s' es, Gate.markReady (noting dispatch) (g, out, s) = ⟨.ok g.pending.length, (⟨true, []⟩, out ++ g.pending, s'), es⟩) ∨
      ∃ front m later fault s₀ es, g.pending = front ++ m :: later ∧ (dispatch m s₀).result = .error fault ∧
        Gate.markReady (noting dispatch) (g, out, s) =
          ⟨.error fault, (⟨false, m :: later⟩, out ++ front, (dispatch m s₀).state), es⟩ := by
  rcases flush_noting dispatch g.pending g out s with ⟨s', es, hflush⟩ | ⟨front, m, later, fault, s₀, es, hpending, hfails, hflush⟩
  · exact Or.inl ⟨s', es, by simp [Gate.markReady, hready, hflush]⟩
  · exact Or.inr ⟨front, m, later, fault, s₀, es, hpending, hfails, by simp [Gate.markReady, hready, hflush]⟩

/-! ## Notes change nothing -/

/-- What a call leaves, without the notes. -/
def forget {α : Type} (t : Turn ε (Gate μ × List μ × σ) α) : Turn ε (Gate μ × σ) α :=
  ⟨t.result, (t.state.1, t.state.2.2), t.emitted⟩

/-- Apart from the notes, a flush that is noted is the flush. -/
theorem flush_forget (ms : List μ) (g : Gate μ) (out : List μ) (s : σ) :
    forget (flush (noting dispatch) ms (g, out, s)) = flush dispatch ms (g, s) := by
  induction ms generalizing g out s with
  | nil => rfl
  | cons m rest ih =>
    cases hresult : (dispatch m s).result with
    | error fault =>
      have hnoting := noting_of_error out hresult
      simp [flush, beyond, hnoting, hresult, forget]
    | ok u =>
      have hnoting := noting_of_ok out hresult
      have hrest := ih { g with pending := m :: rest } (out ++ [m]) (dispatch m s).state
      simp [flush, beyond, hnoting, hresult, ← hrest, forget]

/-- Apart from the notes, opening a gate that is noted is opening it. -/
theorem markReady_forget (g : Gate μ) (out : List μ) (s : σ) :
    forget (Gate.markReady (noting dispatch) (g, out, s)) = Gate.markReady dispatch (g, s) := by
  cases hready : g.ready with
  | true => rw [markReady_of_ready _ hready, markReady_of_ready _ hready, forget]
  | false =>
    have hflush := flush_forget dispatch g.pending g out s
    simp only [Gate.markReady, Step.bind_run, Step.get_run, hready, Bool.false_eq_true, if_false, List.nil_append, ← hflush, forget]
    cases (flush (noting dispatch) g.pending (g, out, s)).result <;> simp

/-- Apart from the notes, sending that is noted is sending. -/
theorem send_forget (g : Gate μ) (m : μ) (out : List μ) (s : σ) :
    forget (Gate.send (noting dispatch) m (g, out, s)) = Gate.send dispatch m (g, s) := by
  cases hready : g.ready with
  | false => rw [send_of_not_ready _ hready, send_of_not_ready _ hready, forget]
  | true =>
    rw [send_of_ready _ hready, send_of_ready _ hready]
    cases hresult : (dispatch m s).result with
    | error fault => rw [noting_of_error out hresult, forget]
    | ok u => rw [noting_of_ok out hresult, forget]

/-- Apart from the notes, a request that is noted is the request. -/
theorem call_forget (r : Request μ) (g : Gate μ) (out : List μ) (s : σ) :
    forget (r.call (noting dispatch) (g, out, s)) = r.call dispatch (g, s) := by
  cases r with
  | send m =>
    simp only [Request.call, Step.bind_run, ← send_forget dispatch g m out s, forget]
    cases (Gate.send (noting dispatch) m (g, out, s)).result <;> rfl
  | markReady =>
    simp only [Request.call, Step.bind_run, ← markReady_forget dispatch g out s, forget]
    cases (Gate.markReady (noting dispatch) (g, out, s)).result <;> rfl
  | reset drop => rfl

/-! ## The accounts of a gate -/

/-- What has become of a message that was sent. -/
inductive Fate where
  | dispatched
  | pending
  /-- A reset dropped it from the queue. -/
  | discarded
  /-- It was to be dispatched at once, and its sender was told of the failure. -/
  | refused
deriving DecidableEq

/-- A gate in use, with what it has been seen to do. -/
structure History (σ μ : Type) where
  gate : Gate μ := {}
  /-- What lies behind the gate. -/
  world : σ
  sent : List μ := []
  dispatched : List μ := []
  discarded : List μ := []
  refused : List μ := []

namespace History

/-- One request. -/
def step (dispatch : μ → Step ε σ Unit) (h : History σ μ) (r : Request μ) : History σ μ :=
  let t := r.call (noting dispatch) (h.gate, h.dispatched, h.world)
  { gate := t.state.1
    world := t.state.2.2
    sent := h.sent ++ r.sends
    dispatched := t.state.2.1
    discarded := h.discarded ++ r.drops h.gate
    refused := if t.result.isOk then h.refused else h.refused ++ r.sends }

/-- The messages that were seen to come to a fate. -/
def met (h : History σ μ) : Fate → List μ
  | .dispatched => h.dispatched
  | .pending => h.gate.pending
  | .discarded => h.discarded
  | .refused => h.refused

/-- The ledger has an entry for each message sent, in order, and those seen to come to a fate are the ones that have it there. -/
structure Accounts (h : History σ μ) (ledger : List (μ × Fate)) : Prop where
  sent : ledger.map Prod.fst = h.sent
  met : ∀ f, h.met f = (ledger.filter (·.2 = f)).map Prod.fst

/-- The messages that were sent last wait, and those before them are settled. -/
structure Settles (h : History σ μ) (settled : List (μ × Fate)) : Prop where
  clear : h.gate.ready = true → h.gate.pending = []
  sent : h.sent = settled.map Prod.fst ++ h.gate.pending
  final : ∀ p ∈ settled, p.2 ≠ .pending
  met : ∀ f, f ≠ .pending → h.met f = (settled.filter (·.2 = f)).map Prod.fst

variable {h h' : History σ μ} {settled : List (μ × Fate)}

/-- Before the first request nothing is settled. -/
theorem settles_start (world : σ) : ({ world } : History σ μ).Settles [] := by
  refine ⟨nofun, rfl, nofun, fun f hf => ?_⟩
  cases f with
  | pending => exact absurd rfl hf
  | dispatched | discarded | refused => rfl

/-- Of messages with one fate, those with a given fate are all or none. -/
theorem filter_fate (ms : List μ) (f₀ f : Fate) :
    ((ms.map fun m => (m, f₀)).filter (·.2 = f)).map Prod.fst = if f₀ = f then ms else [] := by
  by_cases hf : f₀ = f
  · have hall : ∀ p ∈ ms.map fun m => (m, f₀), decide (p.2 = f) = true := by
      intro p hp
      obtain ⟨m, -, rfl⟩ := List.mem_map.1 hp
      exact decide_eq_true hf
    rw [if_pos hf, List.filter_eq_self.2 hall, List.map_map, Function.comp_def, List.map_id']
  · simp [hf]

/-- The front of what was waiting comes to a fate, and the rest waits. -/
theorem Settles.advance (hs : h.Settles settled) (front : List μ) (f₀ : Fate) (hf₀ : f₀ ≠ .pending)
    (hclear : h'.gate.ready = true → h'.gate.pending = [])
    (hsent : h'.sent = settled.map Prod.fst ++ (front ++ h'.gate.pending))
    (hdispatched : h'.dispatched = h.dispatched ++ if f₀ = .dispatched then front else [])
    (hdiscarded : h'.discarded = h.discarded ++ if f₀ = .discarded then front else [])
    (hrefused : h'.refused = h.refused ++ if f₀ = .refused then front else []) :
    h'.Settles (settled ++ front.map fun m => (m, f₀)) := by
  refine ⟨hclear, ?_, ?_, fun f hf => ?_⟩
  · rw [hsent, List.map_append, List.map_map, List.append_assoc, Function.comp_def, List.map_id']
  · refine List.forall_mem_append.2 ⟨hs.final, fun p hp => ?_⟩
    obtain ⟨m, -, rfl⟩ := List.mem_map.1 hp
    exact hf₀
  · rw [List.filter_append, List.map_append, filter_fate, ← hs.met f hf]
    cases f with
    | pending => exact absurd rfl hf
    | dispatched => exact hdispatched
    | discarded => exact hdiscarded
    | refused => exact hrefused

/-- Sending a message settles more, and nothing that was settled changes. -/
theorem Settles.step_send (hs : h.Settles settled) (m : μ) : ∃ more, (h.step dispatch (.send m)).Settles (settled ++ more) := by
  cases hready : h.gate.ready with
  | false =>
    have hsend := send_of_not_ready (noting dispatch) hready m (h.dispatched, h.world)
    have hstep : h.step dispatch (.send m) =
        { h with gate := { h.gate with pending := h.gate.pending ++ [m] }, sent := h.sent ++ [m] } := by
      simp [step, Request.call, Request.sends, Request.drops, hsend, Except.isOk, Except.toBool]
    rw [hstep]
    refine ⟨_, hs.advance [] .dispatched (by decide) (fun hready' => ?_) ?_ (List.append_nil _).symm (List.append_nil _).symm
      (List.append_nil _).symm⟩
    · rw [show h.gate.ready = true from hready'] at hready
      cases hready
    · rw [List.nil_append, hs.sent, List.append_assoc]
  | true =>
    have hpending := hs.clear hready
    have hsend := send_of_ready (noting dispatch) hready m (h.dispatched, h.world)
    have hsent : h.sent ++ [m] = settled.map Prod.fst ++ ([m] ++ h.gate.pending) := by
      rw [hs.sent, hpending, List.append_nil, List.append_nil]
    cases hresult : (dispatch m h.world).result with
    | ok u =>
      rw [noting_of_ok _ hresult] at hsend
      have hstep : h.step dispatch (.send m) =
          { h with world := (dispatch m h.world).state, sent := h.sent ++ [m], dispatched := h.dispatched ++ [m] } := by
        simp [step, Request.call, Request.sends, Request.drops, hsend, Except.isOk, Except.toBool, Except.map]
      rw [hstep]
      exact ⟨_, hs.advance [m] .dispatched (by decide) hs.clear hsent rfl (List.append_nil _).symm (List.append_nil _).symm⟩
    | error fault =>
      rw [noting_of_error _ hresult] at hsend
      have hstep : h.step dispatch (.send m) =
          { h with world := (dispatch m h.world).state, sent := h.sent ++ [m], refused := h.refused ++ [m] } := by
        simp [step, Request.call, Request.sends, Request.drops, hsend, Except.isOk, Except.toBool, Except.map]
      rw [hstep]
      exact ⟨_, hs.advance [m] .refused (by decide) hs.clear hsent (List.append_nil _).symm (List.append_nil _).symm rfl⟩

/-- Becoming ready dispatches all that waits, or fails at a message that then waits with all behind it. -/
theorem step_markReady (hclear : h.gate.ready = true → h.gate.pending = []) :
    (∃ n s, (Gate.markReady dispatch (h.gate, h.world)).result = .ok n ∧
        h.step dispatch .markReady = { h with gate := ⟨true, []⟩, world := s, dispatched := h.dispatched ++ h.gate.pending }) ∨
      ∃ front m later fault s₀, (Gate.markReady dispatch (h.gate, h.world)).result = .error fault ∧
        h.gate.pending = front ++ m :: later ∧ (dispatch m s₀).result = .error fault ∧
        h.step dispatch .markReady =
          { h with gate := ⟨false, m :: later⟩, world := (dispatch m s₀).state, dispatched := h.dispatched ++ front } := by
  have hresult : (Gate.markReady dispatch (h.gate, h.world)).result =
      (Gate.markReady (noting dispatch) (h.gate, h.dispatched, h.world)).result :=
    congrArg Turn.result (markReady_forget dispatch h.gate h.dispatched h.world).symm
  rw [hresult]
  cases hready : h.gate.ready with
  | true =>
    have hmark := markReady_of_ready (noting dispatch) hready (h.dispatched, h.world)
    have hgate : h.gate = ⟨true, []⟩ := by rw [← hready, ← hclear hready]
    refine Or.inl ⟨0, h.world, congrArg Turn.result hmark, ?_⟩
    simp [step, Request.call, Request.sends, Request.drops, hmark, ← hgate, hclear hready]
  | false =>
    rcases markReady_noting dispatch hready h.dispatched h.world with
      ⟨s', es, hmark⟩ | ⟨front, m, later, fault, s₀, es, hpending, hfails, hmark⟩
    · refine Or.inl ⟨h.gate.pending.length, s', congrArg Turn.result hmark, ?_⟩
      simp [step, Request.call, Request.sends, Request.drops, hmark]
    · refine Or.inr ⟨front, m, later, fault, s₀, congrArg Turn.result hmark, hpending, hfails, ?_⟩
      simp [step, Request.call, Request.sends, Request.drops, hmark]

/-- What every request does to the messages: those that it settles are the front of those that waited, or the one that it sends. -/
theorem Settles.step (hs : h.Settles settled) (r : Request μ) : ∃ more, (h.step dispatch r).Settles (settled ++ more) := by
  cases r with
  | send m => exact hs.step_send dispatch m
  | markReady =>
    obtain ⟨front, g, s, hpending, hclear, hstep⟩ : ∃ front g s, h.gate.pending = front ++ g.pending ∧
        (g.ready = true → g.pending = []) ∧
        h.step dispatch .markReady = { h with gate := g, world := s, dispatched := h.dispatched ++ front } := by
      rcases step_markReady dispatch hs.clear with
        ⟨n, s, -, hstep⟩ | ⟨front, m, later, fault, s₀, -, hpending, -, hstep⟩
      · exact ⟨h.gate.pending, ⟨true, []⟩, s, (List.append_nil _).symm, fun _ => rfl, hstep⟩
      · exact ⟨front, ⟨false, m :: later⟩, _, hpending, nofun, hstep⟩
    rw [hstep]
    have hsent : h.sent = settled.map Prod.fst ++ (front ++ g.pending) := hs.sent.trans (congrArg _ hpending)
    exact ⟨_, hs.advance front .dispatched (by decide) hclear hsent rfl (List.append_nil _).symm (List.append_nil _).symm⟩
  | reset drop =>
    have hstep : h.step dispatch (.reset drop) =
        { h with gate := h.gate.reset drop, discarded := h.discarded ++ if drop then h.gate.pending else [] } := by
      cases drop <;> simp [History.step, Request.call, Request.sends, Request.drops, Except.isOk, Except.toBool]
    rw [hstep]
    have hsent : h.sent = settled.map Prod.fst ++ ((if drop then h.gate.pending else []) ++ (h.gate.reset drop).pending) := by
      rw [hs.sent]
      cases drop <;> simp [reset]
    exact ⟨_, hs.advance _ .discarded (by decide) nofun hsent (List.append_nil _).symm rfl (List.append_nil _).symm⟩

/-- All along a run, what is settled stays settled. -/
theorem Settles.run (hs : h.Settles settled) (requests : List (Request μ)) :
    ∃ more, (requests.foldl (History.step dispatch) h).Settles (settled ++ more) := by
  induction requests generalizing h settled with
  | nil => exact ⟨[], by rwa [List.append_nil]⟩
  | cons r requests ih =>
    obtain ⟨first, hfirst⟩ := hs.step dispatch r
    obtain ⟨more, hmore⟩ := ih hfirst
    exact ⟨first ++ more, by rwa [← List.append_assoc]⟩

/-- The ledger of what is settled and what waits. -/
theorem Settles.accounts (hs : h.Settles settled) : h.Accounts (settled ++ h.gate.pending.map fun m => (m, .pending)) := by
  refine ⟨?_, fun f => ?_⟩
  · rw [List.map_append, List.map_map, Function.comp_def, List.map_id', hs.sent]
  · rw [List.filter_append, List.map_append, filter_fate]
    by_cases hf : f = .pending
    · subst hf
      have hnone : settled.filter (·.2 = .pending) = [] :=
        List.filter_eq_nil_iff.2 fun p hp => by simpa using hs.final p hp
      rw [hnone, if_pos rfl]
      rfl
    · rw [if_neg (Ne.symm hf), List.append_nil, hs.met f hf]

/-- The messages that met one fate did so in the order in which they were sent. -/
theorem Accounts.sublist {ledger : List (μ × Fate)} (ha : h.Accounts ledger) (f : Fate) : (h.met f).Sublist h.sent := by
  rw [ha.met f, ← ha.sent]
  exact List.filter_sublist.map _

/-- A request does to the gate and what lies behind it what its call does. -/
theorem step_eq_call (h : History σ μ) (r : Request μ) :
    ((h.step dispatch r).gate, (h.step dispatch r).world) = (r.call dispatch (h.gate, h.world)).state :=
  congrArg Turn.state (call_forget dispatch r h.gate h.dispatched h.world)

/-- The messages that a run sends are those of its requests. -/
theorem run_sent (h : History σ μ) (requests : List (Request μ)) :
    (requests.foldl (step dispatch) h).sent = h.sent ++ requests.flatMap Request.sends := by
  induction requests generalizing h with
  | nil => exact (List.append_nil _).symm
  | cons r requests ih => rw [List.foldl_cons, ih, List.flatMap_cons, ← List.append_assoc, step]

/-- What is recorded beside a run does not change where the run leads. -/
theorem run_eq_calls (h : History σ μ) (requests : List (Request μ)) :
    ((requests.foldl (step dispatch) h).gate, (requests.foldl (step dispatch) h).world) =
      requests.foldl (fun p r => (r.call dispatch p).state) (h.gate, h.world) := by
  induction requests generalizing h with
  | nil => rfl
  | cons r requests ih => rw [List.foldl_cons, List.foldl_cons, ih, step_eq_call]

end History

/-- Whatever is asked of a new gate, and wherever dispatches fail: a ready gate has nothing waiting; what was dispatched and what waits
are in the order of sending; every message sent has one fate, under which alone it is found, and which is final unless it waits; a
flush that fails leaves the gate not ready, with the failed message and all behind it waiting and those in front of it dispatched; and
one that returns leaves nothing waiting. -/
theorem messages_accounted_for (dispatch : μ → Step ε σ Unit) (world : σ) (requests more : List (Request μ)) {h h' : History σ μ}
    (hh : h = requests.foldl (History.step dispatch) { world }) (hh' : h' = more.foldl (History.step dispatch) h) :
    ((h.gate, h.world) = requests.foldl (fun p r => (r.call dispatch p).state) ({}, world) ∧ h.sent = requests.flatMap Request.sends) ∧
      (h.gate.ready = true → h.gate.pending = []) ∧
      (h.dispatched.Sublist h.sent ∧ h.gate.pending.Sublist h.sent) ∧
      (∃ ledger ledger', h.Accounts ledger ∧ h'.Accounts ledger' ∧
        ∀ (i : Nat) m f, ledger[i]? = some (m, f) → f ≠ .pending → ledger'[i]? = some (m, f)) ∧
      (∀ fault, (Gate.markReady dispatch (h.gate, h.world)).result = .error fault →
        ∃ front m later, h.gate.pending = front ++ m :: later ∧ (∃ s, (dispatch m s).result = .error fault) ∧
          (h.step dispatch .markReady).gate = ⟨false, m :: later⟩ ∧
          (h.step dispatch .markReady).dispatched = h.dispatched ++ front) ∧
      ∀ n, (Gate.markReady dispatch (h.gate, h.world)).result = .ok n →
        (h.step dispatch .markReady).gate = ⟨true, []⟩ ∧
          (h.step dispatch .markReady).dispatched = h.dispatched ++ h.gate.pending := by
  subst hh hh'
  obtain ⟨settled, hs⟩ := (History.settles_start (σ := σ) world).run dispatch requests
  obtain ⟨later, hs'⟩ := hs.run dispatch more
  generalize hh : requests.foldl (History.step dispatch) { world } = h at hs hs'
  refine ⟨⟨?_, ?_⟩, hs.clear, ⟨hs.accounts.sublist .dispatched, hs.accounts.sublist .pending⟩, ?_, ?_, ?_⟩
  · rw [← hh]
    exact History.run_eq_calls dispatch _ requests
  · rw [← hh]
    exact (History.run_sent dispatch _ requests).trans (List.nil_append _)
  · -- The entries that are settled now are the first ones of both ledgers; all behind them wait now.
    refine ⟨_, _, hs.accounts, hs'.accounts, fun i m f hi hf => ?_⟩
    have hlt : i < settled.length := by
      by_contra hge
      rw [List.nil_append, List.getElem?_append_right (not_lt.1 hge), List.getElem?_map, Option.map_eq_some_iff] at hi
      obtain ⟨m', -, heq⟩ := hi
      exact hf (congrArg Prod.snd heq).symm
    rw [List.nil_append, List.getElem?_append_left hlt] at hi
    rw [List.nil_append, List.append_assoc, List.getElem?_append_left hlt]
    exact hi
  · intro fault hfault
    rcases History.step_markReady dispatch hs.clear with
      ⟨n, s, hresult, -⟩ | ⟨front, m, behind, fault', s₀, hresult, hpending, hfails, hstep⟩
    · rw [hresult] at hfault
      cases hfault
    · obtain rfl := Except.error.inj (hresult.symm.trans hfault)
      exact ⟨front, m, behind, hpending, ⟨s₀, hfails⟩, congrArg History.gate hstep, congrArg History.dispatched hstep⟩
  · intro n hn
    rcases History.step_markReady dispatch hs.clear with
      ⟨-, s, -, hstep⟩ | ⟨-, -, -, fault, -, hresult, -⟩
    · exact ⟨congrArg History.gate hstep, congrArg History.dispatched hstep⟩
    · rw [hresult] at hn
      cases hn

/-- A dispatch that fails when it is called for the second time. -/
def failingOnce (_ : String) : Step Unit Nat Unit := do
  let calls ← Step.get
  Step.set (calls + 1)
  if calls = 1 then Step.fail .unreachable

/-- Of three messages that wait, the second cannot be dispatched. The first is, the other two wait, and when the gate becomes ready
after all, none is dispatched twice. -/
theorem messages_accounted_for_failed_flush :
    ∃ h h' : History Nat String,
      h = [Request.send "a", .send "b", .send "b"].foldl (History.step failingOnce) { world := 0 } ∧
      h' = [Request.markReady, .markReady].foldl (History.step failingOnce) h ∧
      (∃ front m later, h.gate.pending = front ++ m :: later ∧ (h.step failingOnce .markReady).gate = ⟨false, m :: later⟩ ∧
        (h.step failingOnce .markReady).dispatched = h.dispatched ++ front) ∧
      h'.dispatched = ["a", "b", "b"] ∧ h'.dispatched.Sublist h'.sent := by
  have hfails : (Gate.markReady failingOnce (⟨false, ["a", "b", "b"]⟩, 0)).result = .error .unreachable := by rfl
  refine ⟨_, _, rfl, rfl, ?_, by rfl, ?_⟩
  · obtain ⟨-, -, -, -, hflush, -⟩ :=
      messages_accounted_for failingOnce 0 [Request.send "a", .send "b", .send "b"] [] rfl rfl
    obtain ⟨front, m, later, hpending, -, hgate, hdispatched⟩ := hflush _ hfails
    exact ⟨front, m, later, hpending, hgate, hdispatched⟩
  · exact (messages_accounted_for failingOnce 0
      [Request.send "a", .send "b", .send "b", .markReady, .markReady] [] rfl rfl).2.2.1.1

end ToolpathViewer.Gate
