import ToolpathViewer.Proofs.Bridge.Delivery
import ToolpathViewer.Proofs.Bridge.Stopping
import ToolpathViewer.Proofs.Window.Sessions

/-!
# Sessions keep apart

The messages of all sessions go through one gate and one channel. A new session gets nothing of an old one all the same: what waits in the
gate is dropped when the host detaches, and what the channel still holds is older than the version that the client of the new viewer starts
from. Here the clients of all viewers that were ever opened poll in half-steps between the events of the window, and may go on when their
viewer has been closed (`sessions_keep_apart`).
-/

namespace ToolpathViewer

open Bridge

namespace Workspace

/-! ## Lists -/

/-- What holds of all items holds still when one of them is replaced by one of which it holds. -/
theorem forall_mem_modify {α : Type} {P : α → Prop} {f : α → α} (hf : ∀ a, P a → P (f a)) (i : Nat) {as : List α}
    (has : ∀ a ∈ as, P a) : ∀ a ∈ as.modify i f, P a := by
  induction as generalizing i with
  | nil => simp
  | cons a as ih =>
    cases i with
    | zero => simpa [hf a (has a List.mem_cons_self)] using fun b hb => has b (List.mem_cons_of_mem a hb)
    | succ i => simpa [has a List.mem_cons_self] using ih i fun b hb => has b (List.mem_cons_of_mem a hb)

/-- What stands for items at ascending places of a list, from some place on, is told by a part of that list, in its order. -/
theorem exists_sublist_of_ascending {α β : Type} {R : β → α → Prop} {after : β → Int} {xs : List α} {n : Nat} {ps : List β}
    (hplaces : ∀ p ∈ ps, ∃ k m, n ≤ k ∧ xs[k]? = some m ∧ after p = (k + 1 : Nat) ∧ R p m)
    (hascending : (ps.map after).Pairwise (· < ·)) : ∃ ms, ms.Sublist (xs.drop n) ∧ List.Forall₂ R ps ms := by
  induction ps generalizing n with
  | nil => exact ⟨[], List.nil_sublist _, .nil⟩
  | cons p ps ih =>
    obtain ⟨k, m, hle, hat, hafter, hp⟩ := hplaces p List.mem_cons_self
    rw [List.map_cons, List.pairwise_cons] at hascending
    obtain ⟨ms, hms, hrest⟩ := ih (n := k + 1) (fun q hq => by
      obtain ⟨j, m', -, hat', hafter', hq'⟩ := hplaces q (List.mem_cons_of_mem p hq)
      have hlt := hascending.1 (after q) (List.mem_map_of_mem hq)
      exact ⟨j, m', by omega, hat', hafter', hq'⟩) hascending.2
    obtain ⟨hk, hget⟩ := List.getElem?_eq_some_iff.1 hat
    refine ⟨m :: ms, ?_, .cons hp hrest⟩
    have hdrop : xs.drop k = m :: xs.drop (k + 1) := by rw [List.drop_eq_getElem_cons hk, hget]
    have hlater : (xs.drop k).Sublist (xs.drop n) := List.drop_sublist_drop_left xs hle
    exact (hdrop ▸ hms.cons_cons m).trans hlater

/-! ## Runs -/

/-- The client of a viewer from the opening of the viewer on. -/
structure View where
  client : Client Unit
  /-- How many messages had been published when the viewer was opened. -/
  published : Nat
  /-- How many messages the host had handed to its gate by then. -/
  handed : Nat
  /-- The answer that is on its way, and how many messages had been published when it was given. -/
  underway : Option (Reply × Nat) := none
  /-- The polls that are over. -/
  polls : List (Poll Unit) := []

/-- The polls that delivered a message. -/
def View.deliveries (v : View) : List (Poll Unit) := v.polls.filter (·.delivered)

/-- A main window with all that its host has handed to its gate, and the clients of all its viewers. -/
structure Run where
  window : Workspace
  handed : List Message := []
  views : List View := []

/-- What happens in a run: an event of the window, or a half of a poll of one of the clients. -/
inductive Move where
  | window (e : Event)
  /-- The channel answers a poll. -/
  | answer (view : Nat)
  /-- The client receives the answer. -/
  | receive (view : Nat)
  /-- The poll, or the answer to it, is lost. -/
  | lose (view : Nat)
  /-- The client receives an error, or no content, in place of an answer. -/
  | refuse (view : Nat) (status : Nat) (body : String) (hstatus : status ≠ 200)

/-- The channel answers, unless an answer is on its way already. A version that has too many digits to be written is never asked for. -/
def View.answer [Server] (channel : Channel Unit) (v : View) : View :=
  if v.underway.isNone ∧ Decimal.Fits v.client.version then
    { v with underway := some (channel.replyTo (v.client.signed v.client.pollRequest), channel.buffer.latest) }
  else v

/-- The viewer that an event has opened, by the window before and after it. -/
def Event.opened (w w' : Workspace) : Event → Option Viewer
  | .openViewer => if w.viewer.isSome then none else w'.viewer
  | _ => none

section Room

variable [Json.Room]

/-- A poll ends with a reply. The listener hands the message on, and does not fail. -/
def View.settle (v : View) (published : Option Nat) (reply : Reply) : View :=
  let t := Exchange.polling id (fun _ _ => pure ()) v.client () reply
  { v with
    client := t.state.1
    underway := none
    polls := v.polls ++ [⟨v.client.version, t.state.1.version, published, t.result, t.state.2.2⟩] }

/-- The client receives the answer that is on its way. -/
def View.receive (v : View) : View :=
  match v.underway with
  | none => v
  | some (reply, published) => v.settle (some published) reply

namespace Run

/-- One move. -/
def step [Server] (x : Run) : Move → Run
  | .window e =>
    let window := (e.call x.window).state
    let opened := (e.opened x.window window).toList
    { window
      handed := x.handed ++ x.window.host.handsAll (e.passes x.window)
      views := x.views ++ opened.map fun v => ⟨v.client, x.window.host.channel.buffer.latest, x.handed.length, none, []⟩ }
  | .answer i => { x with views := x.views.modify i (View.answer x.window.host.channel) }
  | .receive i => { x with views := x.views.modify i View.receive }
  | .lose i => { x with views := x.views.modify i (View.settle · none .unreachable) }
  | .refuse i status body _ => { x with views := x.views.modify i (View.settle · none (.response status body)) }

/-- Moves in order. -/
def run [Server] (x : Run) (moves : List Move) : Run := moves.foldl step x

end Run

/-! ## One client -/

/-- What holds of the client of a viewer at any time, by the messages that were published and those that wait or were handed over: what was
published since the viewer was opened, or waits, was handed over since; and the polls lead from the version of the opening on. -/
structure View.Sound (capacity : Nat) (published pending handed : List Message) (v : View) : Prop where
  order : (published.drop v.published ++ pending).Sublist (handed.drop v.handed)
  reached : v.published ≤ published.length ∧ v.handed ≤ handed.length
  listening : v.client.listeners = [()]
  coming : ∀ reply n, v.underway = some (reply, n) →
    Exchange.Brings capacity (published.map (·.encode)) v.client (some n) reply ∧ Decimal.Fits v.client.version
  polled : Polled [()] capacity (published.map (·.encode)) v.published v.polls v.client.version
  ahead : v.published ≤ v.client.version
  newer : ∀ p ∈ v.polls, p.delivered = true → v.published < p.after

namespace View.Sound

variable {capacity : Nat} {published pending handed : List Message} {v : View}

/-- Messages that are handed over and published later. -/
theorem append (h : v.Sound capacity published pending handed) {pending' ms ps : List Message}
    (horder : (ps ++ pending').Sublist (pending ++ ms)) : v.Sound capacity (published ++ ps) pending' (handed ++ ms) := by
  refine ⟨?_, ⟨?_, ?_⟩, h.listening, ?_, ?_, h.ahead, h.newer⟩
  · rw [List.drop_append_of_le_length h.reached.1, List.drop_append_of_le_length h.reached.2, List.append_assoc]
    refine (List.Sublist.append_left horder _).trans ?_
    rw [← List.append_assoc]
    exact List.Sublist.append_right h.order ms
  · rw [List.length_append]
    exact h.reached.1.trans (Nat.le_add_right _ _)
  · rw [List.length_append]
    exact h.reached.2.trans (Nat.le_add_right _ _)
  · intro reply n hcoming
    obtain ⟨hbrings, hfits⟩ := h.coming reply n hcoming
    rw [List.map_append]
    exact ⟨hbrings.append _, hfits⟩
  · rw [List.map_append]
    exact h.polled.append _

/-- Whatever comes back for a poll, if it brings only what it may, and nothing when the version could not be asked for. -/
theorem settle (h : v.Sound capacity published pending handed) {n : Option Nat} {reply : Reply}
    (hbrings : Exchange.Brings capacity (published.map (·.encode)) v.client n reply) (hfits : n = none ∨ Decimal.Fits v.client.version) :
    (v.settle n reply).Sound capacity published pending handed := by
  obtain ⟨hclient, hcame⟩ := Exchange.came_of_polling id (fun _ _ => (pure () : Step Log.Entry Unit Unit)) v.client () hbrings
  -- A message that the poll has brought is newer than all before the opening, for its place was asked for behind the client's version.
  have hnewer : ∀ p : Poll Unit, p.before = v.client.version → p.published = n →
      ∀ k m, p.Brought capacity (published.map (·.encode)) k m → v.published < p.after := by
    intro p hbefore hpublished k m hb
    obtain ⟨n', hn, hplace⟩ := hb.place
    have hfits' : Decimal.Fits v.client.version := hfits.resolve_left (by rw [← hpublished, hn]; simp)
    have hahead := h.ahead
    rw [hb.after]
    rw [hbefore, asked_eq, if_pos hfits'] at hplace
    omega
  have hlistening : (v.settle n reply).client.listeners = [()] := (congrArg Client.listeners hclient).trans h.listening
  rw [h.listening] at hcame
  refine ⟨h.order, h.reached, hlistening, nofun, .poll h.polled hcame, ?_, ?_⟩
  · cases hcame with
    | nothing hresult hafter => exact h.ahead.trans hafter.ge
    | delivered k m message hb => exact (hnewer _ rfl rfl k m hb).le
    | tooDeep k m hb => exact (hnewer _ rfl rfl k m hb).le
  · intro p hp hdelivered
    rcases List.mem_append.1 hp with hp | hp
    · exact h.newer p hp hdelivered
    · obtain rfl := List.mem_singleton.1 hp
      obtain ⟨k, m, hb⟩ := hcame.brought hdelivered
      exact hnewer _ rfl rfl k m hb

/-- What a client receives keeps its view sound. -/
theorem receive (h : v.Sound capacity published pending handed) : v.receive.Sound capacity published pending handed := by
  unfold View.receive
  split
  · exact h
  · rename_i reply n hcoming
    obtain ⟨hbrings, hfits⟩ := h.coming reply n hcoming
    exact h.settle hbrings (Or.inr hfits)

/-- An answer that is on its way keeps the view sound. -/
theorem answer [Server] (h : v.Sound capacity published pending handed) {channel : Channel Unit} (hpos : 0 < capacity)
    (hbuffer : channel.buffer = Buffer.filled capacity (published.map (·.encode))) :
    (v.answer channel).Sound capacity published pending handed := by
  unfold View.answer
  split
  · rename_i hasks
    refine ⟨h.order, h.reached, h.listening, ?_, h.polled, h.ahead, h.newer⟩
    intro reply n hcoming
    obtain ⟨rfl, rfl⟩ := Prod.mk.inj (Option.some.inj hcoming)
    refine ⟨?_, hasks.2⟩
    cases hstopped : channel.stopped with
    | true =>
      obtain ⟨response, hanswer, hstatus⟩ := Channel.answer_of_stopped hstopped (v.client.signed v.client.pollRequest)
      rw [Channel.replyTo, hanswer]
      refine Exchange.brings_of_status_ne ?_ _ _ _ _ _
      rw [hstatus]
      split <;> decide
    | false =>
      have hlatest : channel.buffer.latest = (published.map (·.encode)).length := by rw [hbuffer, Buffer.filled_eq hpos]
      rw [hlatest]
      exact Exchange.brings_replyTo hstopped hpos hbuffer v.client
  · exact h

end View.Sound

/-! ## Every client -/

/-- What holds of a run at any time: the window is orderly, the channel holds the last messages of those that were published, and the clients
of all viewers are sound. -/
structure Run.Sound (capacity : Nat) (published : List Message) (x : Run) : Prop where
  orderly : x.window.Orderly
  held : x.window.host.channel.buffer = Buffer.filled capacity (published.map (·.encode))
  views : ∀ v ∈ x.views, v.Sound capacity published x.window.host.gate.pending x.handed

namespace Run.Sound

variable {capacity : Nat} {published : List Message} {x : Run}

/-- A viewer that an event opens finds nothing waiting, and starts behind all that was published. -/
theorem of_opened {w : Workspace} (ho : w.Orderly) {e : Event} {v : Viewer} (h : e.opened w (e.call w).state = some v) :
    w.host.gate.pending = [] ∧ v.client.version = w.host.channel.buffer.latest ∧ v.client.listeners = [()] := by
  cases e with
  | openViewer =>
    rw [Event.opened] at h
    split at h
    · cases h
    · rename_i hnot
      have hviewer : w.viewer = none := by simpa using hnot
      cases hstopped : w.host.channel.stopped with
      | true =>
        have hpassed := openViewer_of_passes_nil (w := w) (by rw [hstopped, Bool.or_true])
        exact absurd (h.symm.trans (hpassed.viewer.trans hviewer)) (by simp)
      | false =>
        obtain ⟨c, -, -, -, -, ⟨hnone, -⟩ | ⟨v', surface, hsome, hsurface, hversion, hlisteners⟩⟩ := openViewer_of_none hviewer hstopped
        · exact absurd (h.symm.trans hnone) (by simp)
        · obtain rfl := Option.some.inj (h.symm.trans hsome)
          have hattached : w.host.attached = false := by
            by_contra hattached
            exact ho.shut hviewer (by simpa using hattached) surface hsurface
          exact ⟨(ho.host.idle hattached).2, hversion, hlisteners⟩
  | closeViewer | inViewer | receive | edit | settle | openFile | save | replaceFiles | runDiagnosis | close => cases h

/-- An event of the window publishes some more messages, and may bring one more client. -/
theorem window [Server] (h : x.Sound capacity published) (hpos : 0 < capacity) (e : Event) :
    ∃ ps, (x.step (.window e)).Sound capacity (published ++ ps) := by
  obtain ⟨horderly, ps, hhanded⟩ := h.orderly.call e
  have hlatest : x.window.host.channel.buffer.latest = published.length := by
    rw [h.held, Buffer.filled_eq hpos, List.length_map]
  refine ⟨ps, horderly, ?_, fun v hv => ?_⟩
  · change (e.call x.window).state.host.channel.buffer = _
    rw [hhanded.buffer, Channel.published, h.held, Buffer.filled, Buffer.filled, List.map_append, List.foldl_append,
      List.foldl_map (l := ps)]
  · rcases List.mem_append.1 hv with hv | hv
    · exact (h.views v hv).append hhanded.order
    · obtain ⟨viewer, hopened, rfl⟩ := List.mem_map.1 hv
      obtain ⟨hpending, hversion, hlisteners⟩ := of_opened h.orderly (Option.mem_toList.1 hopened)
      have horder := hhanded.order
      rw [hpending, List.nil_append] at horder
      have hall : (x.step (.window e)).handed = x.handed ++ x.window.host.handsAll (e.passes x.window) := rfl
      rw [hall]
      refine ⟨?_, ⟨?_, ?_⟩, hlisteners, fun _ _ hunderway => (by cases hunderway), ?_, ?_, fun _ hp => absurd hp List.not_mem_nil⟩
      · dsimp only
        rw [hlatest, List.drop_left, List.drop_left]
        exact horder
      · rw [hlatest, List.length_append]
        exact Nat.le_add_right _ _
      · dsimp only
        rw [List.length_append]
        exact Nat.le_add_right _ _
      · rw [← hversion]
        exact .start
      · exact hversion.ge

/-- So does every move, if any messages. -/
theorem step [Server] (h : x.Sound capacity published) (hpos : 0 < capacity) (move : Move) :
    ∃ ps, (x.step move).Sound capacity (published ++ ps) := by
  have hmodify : ∀ {f : View → View} (i : Nat), (∀ v : View, v.Sound capacity published x.window.host.gate.pending x.handed →
      (f v).Sound capacity published x.window.host.gate.pending x.handed) →
      ∃ ps, Run.Sound capacity (published ++ ps) { x with views := x.views.modify i f } := by
    intro f i hf
    refine ⟨[], ?_⟩
    rw [List.append_nil]
    exact ⟨h.orderly, h.held, forall_mem_modify hf i h.views⟩
  cases move with
  | window e => exact h.window hpos e
  | answer i => exact hmodify i fun v hv => hv.answer hpos h.held
  | receive i => exact hmodify i fun v hv => hv.receive
  | lose i => exact hmodify i fun v hv => hv.settle (Exchange.brings_unreachable _ _ _ _) (Or.inl rfl)
  | refuse i status body hstatus =>
    exact hmodify i fun v hv => hv.settle (Exchange.brings_of_status_ne hstatus _ _ _ _ _) (Or.inl rfl)

/-- All runs of a sound window are sound. -/
theorem run [Server] (h : x.Sound capacity published) (hpos : 0 < capacity) (moves : List Move) :
    ∃ ps, (x.run moves).Sound capacity (published ++ ps) := by
  induction moves generalizing x published with
  | nil => exact ⟨[], by rwa [List.append_nil]⟩
  | cons move moves ih =>
    obtain ⟨ps, hstep⟩ := h.step hpos move
    obtain ⟨ps', hrun⟩ := ih hstep
    exact ⟨ps ++ ps', by rwa [← List.append_assoc]⟩

end Run.Sound

/-! ## What each client receives -/

/-- A poll has delivered a message to the listener of its client. -/
def Received (p : Poll Unit) (m : Message) : Prop :=
  ∃ message, Client.readMessage (.str m.encode) = .ok message ∧ p.calls = [((), message)]

/-- What a client was delivered: each message comes from a place behind all that was published before the viewer was opened. -/
theorem View.Sound.delivered {capacity : Nat} {published pending handed : List Message} {v : View}
    (h : v.Sound capacity published pending handed) :
    ∀ p ∈ v.deliveries, ∃ k m, v.published ≤ k ∧ published[k]? = some m ∧ p.after = (k + 1 : Nat) ∧ Received p m := by
  intro p hp
  obtain ⟨hp, hdelivered⟩ := List.mem_filter.1 hp
  cases h.polled.came p hp with
  | nothing hresult => exact absurd hdelivered (by simp [hresult])
  | delivered k m message hb hresult hread hcalls =>
    obtain ⟨m, hat, rfl⟩ := Option.map_eq_some_iff.1 ((List.getElem?_map ..).symm.trans hb.message)
    have hnewer := h.newer p hp hdelivered
    rw [hb.after] at hnewer
    exact ⟨k, m, by omega, hat, hb.after, message, hread, hcalls⟩
  | tooDeep k m hb hresult => exact absurd hdelivered (by simp [Poll.delivered, hresult])

/-- A poll that delivers nothing calls nobody. -/
theorem View.Sound.silent {capacity : Nat} {published pending handed : List Message} {v : View}
    (h : v.Sound capacity published pending handed) : ∀ p ∈ v.polls, p.delivered = false → p.calls = [] := by
  intro p hp hnot
  cases h.polled.came p hp with
  | nothing hresult hafter hcalls => exact hcalls
  | delivered k m message hb hresult => exact absurd hnot (by simp [Poll.delivered, hresult])
  | tooDeep k m hb hresult hread hcalls => exact hcalls

/-- A new window has an empty channel, no viewer and no document. -/
theorem Run.sound_make {config : Config} {files : Files} {secret : String} {port : Nat} {w : Workspace}
    (h : make config files secret port = .ok w) :
    0 < w.host.channel.buffer.capacity ∧ Run.Sound w.host.channel.buffer.capacity [] { window := w } := by
  rw [make] at h
  cases hcapacity : config.bridgeCapacity with
  | error why =>
    rw [hcapacity] at h
    cases h
  | ok capacity =>
    rw [hcapacity] at h
    cases hbuffer : Buffer.make capacity with
    | error why =>
      simp only [Channel.make, bind, Except.bind, hbuffer] at h
      cases h
    | ok buffer =>
      simp only [Channel.make, bind, Except.bind, hbuffer] at h
      obtain rfl := Except.ok.inj h
      obtain ⟨rfl, hpos⟩ := Buffer.make_eq_ok hbuffer
      have hpos' : 0 < capacity.toNat := by omega
      exact ⟨hpos', ⟨⟨nofun, fun _ => ⟨rfl, rfl⟩, nofun⟩, rfl, nofun⟩, rfl, nofun⟩

/-- Sessions keep apart. However the events of a main window and the halves of the polls of its viewers come in between each other, former
viewers included, and whatever polls are lost or answered with an error: what was published since a viewer was opened, and what still waits
in the gate, is of what the host has handed to the gate since, in that order; what the client of that viewer is delivered are messages
published since, in the order of their versions, each of them as it is read from its published form; and so all that it receives are
messages that the host has handed over since, each at most once and in their order. -/
theorem sessions_keep_apart [Server] {config : Config} {files : Files} {secret : String} {port : Nat} {w : Workspace}
    (hmake : make config files secret port = .ok w) (moves : List Move) {x : Run} (hx : Run.run { window := w } moves = x) :
    ∃ published : List Message,
      x.window.host.channel.buffer = Buffer.filled x.window.host.channel.buffer.capacity (published.map (·.encode)) ∧
      ∀ v ∈ x.views,
        (published.drop v.published ++ x.window.host.gate.pending).Sublist (x.handed.drop v.handed) ∧
        (∀ p ∈ v.deliveries, ∃ k m, v.published ≤ k ∧ published[k]? = some m ∧ p.after = (k + 1 : Nat) ∧ Received p m) ∧
        (v.deliveries.map (·.after)).Pairwise (· < ·) ∧
        (∀ p ∈ v.polls, p.delivered = false → p.calls = []) ∧
        ∃ ms, ms.Sublist (x.handed.drop v.handed) ∧ List.Forall₂ Received v.deliveries ms := by
  obtain ⟨hpos, hstart⟩ := Run.sound_make hmake
  obtain ⟨published, hsound⟩ := hstart.run hpos moves
  rw [hx, List.nil_append] at hsound
  have hcapacity : x.window.host.channel.buffer.capacity = w.host.channel.buffer.capacity := by
    rw [hsound.held, Buffer.filled_eq hpos]
  refine ⟨published, hcapacity ▸ hsound.held, fun v hv => ?_⟩
  have hview := hsound.views v hv
  obtain ⟨ms, hms, hreceived⟩ := exists_sublist_of_ascending hview.delivered hview.polled.ascending
  refine ⟨hview.order, hview.delivered, hview.polled.ascending, hview.silent, ms, ?_, hreceived⟩
  exact hms.trans ((List.sublist_append_left _ _).trans hview.order)

end Room

/-- Two sessions. When the second one has begun, the view of the first one says once more that it is ready. -/
def twoSessions : List Move := [
  .window .openViewer, .window (.receive Message.ready.toJson.spaced), .window .closeViewer,
  .window .openViewer, .window (.receive Message.ready.toJson.spaced), .answer 1, .receive 1]

section Usual

attribute [local instance] Json.Room.usual Server.usual

/-- The late message opens the gate for the second view, which gets the first message of its own session, although the channel still holds
the two of the first session. -/
theorem sessions_keep_apart_late_ready :
    ∃ (w : Workspace) (x : Run), make { codes := .arr [.str "M"] } [] "secret" 0 = .ok w ∧ Run.run { window := w } twoSessions = x ∧
      (x.views.map fun v => (v.published, v.handed, v.deliveries.map (·.after))) = [(0, 0, []), (2, 2, [3])] ∧
      ∀ v ∈ x.views, ∃ ms, ms.Sublist (x.handed.drop v.handed) ∧ List.Forall₂ Received v.deliveries ms := by
  obtain ⟨w, hmake⟩ : ∃ w, make { codes := .arr [.str "M"] } [] "secret" 0 = .ok w := ⟨_, rfl⟩
  obtain ⟨published, -, hviews⟩ := sessions_keep_apart hmake twoSessions rfl
  refine ⟨w, _, hmake, rfl, ?_, fun v hv => (hviews v hv).2.2.2.2⟩
  obtain rfl := Except.ok.inj hmake
  decide +kernel

end Usual

end Workspace

end ToolpathViewer
