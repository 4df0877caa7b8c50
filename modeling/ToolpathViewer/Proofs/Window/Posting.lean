import ToolpathViewer.Proofs.Bridge.Stopping
import ToolpathViewer.Proofs.Json.RoundTrip
import ToolpathViewer.Window.Poster

/-!
# What the poster posts

The poster works beside those who give it messages. Its loop looks whether it was stopped, takes a message, and posts it; in between,
messages come in and the poster is stopped, which first makes it refuse messages and then puts the mark behind what is queued. A message
leaves the queue before it is posted, so it is posted once at most, whatever becomes of the post: the host may take it and answer, or take
it and not be heard, or not take it. So what listeners hear is in the order of posting, with nothing twice and nothing that came after the
stop (`posts_in_order`).
-/

namespace ToolpathViewer

open Bridge
open Channel (Usage witnessed)

/-- Where the loop of a poster is. -/
inductive Poster.Phase (α : Type) where
  /-- It is about to look whether the poster was stopped. -/
  | checking
  /-- It waits for what is next in the queue. -/
  | taking
  /-- It posts a message. -/
  | sending (m : α)
  /-- It has ended. -/
  | ended

/-- The message that is being posted. -/
def Poster.Phase.message? {α : Type} : Phase α → Option α
  | .sending m => some m
  | .checking | .taking | .ended => none

namespace Posting

variable {κ ω : Type}

/-- A post that is over: its message, the listeners that the channel had, whether it was accepted, and the calls that it made. -/
structure Attempt (κ : Type) where
  message : Json
  present : List κ
  accepted : Bool
  heard : List (κ × String)

end Posting

/-- A poster at work, the channel that it posts to, and the posts that are over. -/
structure Posting (κ ω : Type) where
  client : Client Unit
  host : Usage κ ω
  poster : Poster Json := {}
  phase : Poster.Phase Json := .checking
  attempts : List (Posting.Attempt κ) := []

namespace Posting

variable {κ ω : Type}

/-- What becomes of a post. -/
inductive Fate where
  /-- The channel gets it, and its answer comes back. -/
  | answered
  /-- The channel gets it, and its answer is lost. -/
  | unheard
  /-- Something on the way refuses it. -/
  | refused (status : Nat) (body : String) (hstatus : status ≠ 202)
  /-- It does not get to the channel. -/
  | lost

/-- What happens around a poster. -/
inductive Move (κ ω : Type) where
  /-- A message is given to the poster. -/
  | post (m : Json)
  /-- The poster is stopped: from now on it refuses messages, -/
  | stop
  /-- and the mark is put behind what is queued. -/
  | mark
  /-- The loop looks whether the poster was stopped, or takes what is next. -/
  | turn
  /-- The post that the loop makes comes to an end. -/
  | sent (fate : Fate)
  /-- Something else happens to the channel or around it. -/
  | other (f : Channel κ × ω → Channel κ × ω)

section Runs

variable [Server] (call : κ → String → Step Log.Entry (Channel κ × ω) Unit)

/-- A request of a client. -/
def carry (client : Client Unit) : Fate → Request → Step Log.Entry (Usage κ ω) Reply
  | .answered, r => Channel.exchange id (witnessed call) (·.channel) (client.signed r)
  | .unheard, r => do
    let _ ← Channel.exchange id (witnessed call) (·.channel) (client.signed r)
    return .unreachable
  | .refused status body _, _ => return .response status body
  | .lost, _ => return .unreachable

/-- A post of a client. -/
def send (client : Client Unit) (fate : Fate) (m : Json) : Step Log.Entry (Usage κ ω) Bool :=
  Client.post id (carry call client fate) (Client.bodyOf m)

/-- One move. The loop that waits finds nothing in an empty queue, and looks again whether the poster was stopped. -/
def step (x : Posting κ ω) : Move κ ω → Posting κ ω
  | .post m => { x with poster := x.poster.post (some m) }
  | .stop => { x with poster := { x.poster with stopped := true } }
  | .mark => { x with poster := x.poster.finish }
  | .turn =>
    match x.phase, x.poster.queue with
    | .checking, _ => { x with phase := if x.poster.stopped then .ended else .taking }
    | .taking, [] => { x with phase := .checking }
    | .taking, none :: rest => { x with poster := { x.poster with queue := rest }, phase := .ended }
    | .taking, some m :: rest => { x with poster := { x.poster with queue := rest }, phase := .sending m }
    | .sending _, _ | .ended, _ => x
  | .sent fate =>
    match x.phase with
    | .sending m =>
      let t := send call x.client fate m x.host
      { x with
        host := t.state
        phase := .checking
        attempts := x.attempts ++
          [⟨m, x.host.channel.listeners, t.result matches .ok true, t.state.calls.drop x.host.calls.length⟩] }
    | .checking | .taking | .ended => x
  | .other f =>
    let p := f (x.host.channel, x.host.world)
    { x with host := { x.host with channel := p.1, world := p.2 } }

/-- Moves in order. -/
def run (x : Posting κ ω) (moves : List (Move κ ω)) : Posting κ ω := moves.foldl (step call) x

end Runs

/-- The messages that were given to the poster before it was stopped. -/
def posted : List (Move κ ω) → List Json
  | [] => []
  | .post m :: moves => m :: posted moves
  | .stop :: _ => []
  | .mark :: moves | .turn :: moves | .sent _ :: moves | .other _ :: moves => posted moves

/-! ## One post -/

/-- Sending an event is accepted as the reply says. -/
theorem post_of_reply {ε σ : Type} (log : Log.Entry → ε) {fetch : Request → Step ε σ Reply} {body : String} {s s' : σ} {reply : Reply}
    {out : List ε} (h : fetch (Client.postRequest body) s = ⟨.ok reply, s', out⟩) :
    ∃ out', Client.post log fetch body s = ⟨.ok (Client.accepted reply).1, s', out'⟩ := by
  rw [Client.post, Step.bind_of_ok h]
  generalize Client.accepted reply = read
  obtain ⟨accepted, entries⟩ := read
  exact ⟨_, rfl⟩

/-- Only one status accepts an event. -/
theorem accepted_of_status_ne {status : Nat} (h : status ≠ 202) (body : String) :
    (Client.accepted (.response status body)).1 = false := by
  rw [Client.accepted, if_neg h]

section Post

variable (call : κ → String → Step Log.Entry (Channel κ × ω) Unit) (client : Client Unit)

/-- An event is delivered to every listener that there was, once for each time that it was added, and whatever the others do. -/
theorem calls_deliver (payload : String) (listeners : List κ) (u : Usage κ ω) :
    (Channel.deliver id (witnessed call) payload listeners u).state.calls = u.calls ++ listeners.map fun l => (l, payload) := by
  induction listeners generalizing u with
  | nil => exact (List.append_nil _).symm
  | cons l listeners ih =>
    have hcall : (witnessed call l payload u).state.calls = u.calls ++ [(l, payload)] := rfl
    rw [Channel.deliver_state_cons, ih, hcall, List.append_assoc, List.map_cons, List.singleton_append]

/-- The calls that an event makes: none, or one for each of the listeners; and the latter if it was accepted. -/
structure Hears (listeners : List κ) (body : String) (accepted : Bool) (heard : List (κ × String)) : Prop where
  whole : heard = [] ∨ heard = listeners.map fun l => (l, body)
  accepted : accepted = true → heard = listeners.map fun l => (l, body)

variable [Server]

/-- What an event over the wire comes to: it is accepted and delivered, or it is refused and nobody hears of it. -/
theorem exchange_postRequest (u : Usage κ ω) (body : String) :
    ∃ status text state out,
      Channel.exchange id (witnessed call) (·.channel) (client.signed (Client.postRequest body)) u =
        ⟨.ok (.response status text), state, out⟩ ∧
      (status = 202 ∧ state.calls = (u.calls ++ u.channel.listeners.map fun l => (l, body)) ∨ status ≠ 202 ∧ state = u) := by
  cases hstopped : u.channel.stopped with
  | true =>
    obtain ⟨response, hanswer, hstatus⟩ := Channel.answer_of_stopped hstopped (client.signed (Client.postRequest body))
    refine ⟨_, _, _, _, Channel.exchange_of_event_none hanswer, Or.inr ⟨?_, rfl⟩⟩
    rw [hstatus]
    split <;> decide
  | false =>
    have hanswer := answer_postRequest hstopped client body
    by_cases hknown : u.channel.token = client.token ∧ client.token ≠ ""
    · rw [if_pos hknown] at hanswer
      exact ⟨_, _, _, _, Channel.exchange_of_event hanswer, Or.inl ⟨rfl, calls_deliver call body u.channel.listeners u⟩⟩
    · rw [if_neg hknown] at hanswer
      exact ⟨_, _, _, _, Channel.exchange_of_event_none hanswer, Or.inr ⟨by decide, rfl⟩⟩

/-- Whatever becomes of a post, it does not fail, and each listener hears the message once or nobody hears of it. -/
theorem send_run (u : Usage κ ω) (fate : Fate) (m : Json) :
    ∃ accepted state out heard, send call client fate m u = ⟨.ok accepted, state, out⟩ ∧ state.calls = u.calls ++ heard ∧
      Hears u.channel.listeners (Client.bodyOf m) accepted heard := by
  obtain ⟨status, text, state, out, hexchange, hstatus⟩ := exchange_postRequest call client u (Client.bodyOf m)
  cases fate with
  | answered =>
    have hfetch : carry call client .answered (Client.postRequest (Client.bodyOf m)) u = ⟨.ok (.response status text), state, out⟩ := hexchange
    obtain ⟨out', hpost⟩ := post_of_reply id hfetch
    rcases hstatus with ⟨rfl, hcalls⟩ | ⟨hne, rfl⟩
    · exact ⟨_, _, _, _, hpost, hcalls, Or.inr rfl, fun _ => rfl⟩
    · refine ⟨_, _, _, [], hpost, (List.append_nil _).symm, Or.inl rfl, fun haccepted => ?_⟩
      rw [accepted_of_status_ne hne] at haccepted
      cases haccepted
  | unheard =>
    have hfetch : carry call client .unheard (Client.postRequest (Client.bodyOf m)) u = ⟨.ok .unreachable, state, out ++ []⟩ :=
      Step.bind_of_ok hexchange _
    obtain ⟨out', hpost⟩ := post_of_reply id hfetch
    rcases hstatus with ⟨rfl, hcalls⟩ | ⟨hne, rfl⟩
    · exact ⟨_, _, _, _, hpost, hcalls, Or.inr rfl, fun _ => rfl⟩
    · exact ⟨_, _, _, [], hpost, (List.append_nil _).symm, Or.inl rfl, nofun⟩
  | refused status body hne =>
    have hfetch : carry call client (.refused status body hne) (Client.postRequest (Client.bodyOf m)) u =
      ⟨.ok (.response status body), u, []⟩ := rfl
    obtain ⟨out', hpost⟩ := post_of_reply id hfetch
    refine ⟨_, _, _, [], hpost, (List.append_nil _).symm, Or.inl rfl, fun haccepted => ?_⟩
    rw [accepted_of_status_ne hne] at haccepted
    cases haccepted
  | lost =>
    have hfetch : carry call client .lost (Client.postRequest (Client.bodyOf m)) u = ⟨.ok .unreachable, u, []⟩ := rfl
    obtain ⟨out', hpost⟩ := post_of_reply id hfetch
    exact ⟨_, _, _, [], hpost, (List.append_nil _).symm, Or.inl rfl, nofun⟩

end Post

/-! ## Runs -/

/-- What is still to be posted, apart from the message that is being posted. -/
def waiting (p : Poster Json) : List Json := p.queue.filterMap id

/-- The messages that the loop has taken, in order. -/
def taken (x : Posting κ ω) : List Json := x.attempts.map (·.message) ++ x.phase.message?.toList

/-- What holds of a poster at work at any time, by the messages that it was given before it was stopped and the calls that had been made
before it began: all of them have been taken or wait, in order, as long as the loop goes on; and the calls that listeners got are those of
the posts, of which each was heard by all or by nobody. -/
structure Kept (given : List Json) (calls : List (κ × String)) (x : Posting κ ω) : Prop where
  working : x.phase ≠ .ended → x.taken ++ waiting x.poster = given
  before : x.taken <+: given
  calls : x.host.calls = calls ++ x.attempts.flatMap (·.heard)
  hears : ∀ a ∈ x.attempts, Hears a.present (Client.bodyOf a.message) a.accepted a.heard

namespace Kept

variable [Server] (call : κ → String → Step Log.Entry (Channel κ × ω) Unit) {given : List Json} {calls : List (κ × String)} {x : Posting κ ω}

/-- Posting a message keeps the account, with the message unless posting has ended. -/
theorem post (h : x.Kept given calls) (m : Json) :
    (x.step call (.post m)).Kept (given ++ if x.poster.stopped then [] else [m]) calls := by
  cases hstopped : x.poster.stopped with
  | true =>
    have hposter : x.poster.post (some m) = x.poster := by rw [Poster.post, hstopped]; rfl
    rw [step, hposter]
    simpa using h
  | false =>
    have hwaiting : waiting (x.poster.post (some m)) = waiting x.poster ++ [m] := by
      simp [waiting, Poster.post, hstopped]
    refine ⟨fun hphase => ?_, h.before.trans (List.prefix_append _ _), h.calls, h.hears⟩
    change x.taken ++ waiting (x.poster.post (some m)) = _
    rw [hwaiting, ← List.append_assoc, h.working hphase]
    rfl

/-- The loop takes what is next in the queue, or does nothing to it. -/
theorem turn (h : x.Kept given calls) : (x.step call .turn).Kept given calls := by
  obtain ⟨client, host, ⟨queue, stopped⟩, phase, attempts⟩ := x
  cases phase with
  | checking =>
    cases stopped with
    | true => exact ⟨fun hended => absurd rfl hended, h.before, h.calls, h.hears⟩
    | false => exact ⟨fun _ => h.working nofun, h.before, h.calls, h.hears⟩
  | taking =>
    have hworking := h.working nofun
    have hbefore := h.before
    cases queue with
    | nil => exact ⟨fun _ => hworking, hbefore, h.calls, h.hears⟩
    | cons next rest =>
      cases next with
      | none => exact ⟨fun hended => absurd rfl hended, hbefore, h.calls, h.hears⟩
      | some m =>
        have htaken : attempts.map (·.message) ++ m :: waiting ⟨rest, stopped⟩ = given := by
          simpa [taken, waiting, Poster.Phase.message?] using hworking
        refine ⟨fun _ => ?_, ?_, h.calls, h.hears⟩
        · simpa [taken, step, Poster.Phase.message?] using htaken
        · rw [← htaken]
          simp [taken, step, Poster.Phase.message?]
  | sending m => exact h
  | ended => exact h

/-- A post that ends is noted, with the calls that it has made. -/
theorem sent (h : x.Kept given calls) (fate : Fate) : (x.step call (.sent fate)).Kept given calls := by
  obtain ⟨client, host, poster, phase, attempts⟩ := x
  cases phase with
  | sending m =>
    obtain ⟨accepted, state, out, heard, hrun, hcalls, hhears⟩ := send_run call client host fate m
    have hstep : step call ⟨client, host, poster, .sending m, attempts⟩ (.sent fate) =
        ⟨client, state, poster, .checking, attempts ++ [⟨m, host.channel.listeners, accepted, heard⟩]⟩ := by
      simp only [step, hrun, hcalls, List.drop_left]
      cases accepted <;> rfl
    rw [hstep]
    have htaken : taken ⟨client, state, poster, .checking, attempts ++ [⟨m, host.channel.listeners, accepted, heard⟩]⟩ =
        taken ⟨client, host, poster, .sending m, attempts⟩ := by
      simp [taken, Poster.Phase.message?]
    refine ⟨fun _ => ?_, ?_, ?_, ?_⟩
    · rw [htaken]
      exact h.working nofun
    · rw [htaken]
      exact h.before
    · have hbefore : host.calls = calls ++ attempts.flatMap (·.heard) := h.calls
      change state.calls = _
      rw [hcalls, hbefore, List.flatMap_append, List.append_assoc]
      simp
    · intro a ha
      rcases List.mem_append.1 ha with ha | ha
      · exact h.hears a ha
      · obtain rfl := List.mem_singleton.1 ha
        exact hhears
  | checking => exact h
  | taking => exact h
  | ended => exact h

/-- Ending keeps the account. -/
theorem stop (h : x.Kept given calls) : (x.step call .stop).Kept given calls := ⟨h.working, h.before, h.calls, h.hears⟩

/-- The mark that ends the loop keeps the account. -/
theorem mark (h : x.Kept given calls) : (x.step call .mark).Kept given calls := by
  have hwaiting : waiting x.poster.finish = waiting x.poster := by simp [waiting, Poster.finish]
  refine ⟨fun hphase => ?_, h.before, h.calls, h.hears⟩
  change x.taken ++ waiting x.poster.finish = given
  rw [hwaiting]
  exact h.working hphase

/-- What others do keeps the account. -/
theorem other (h : x.Kept given calls) (f : Channel κ × ω → Channel κ × ω) : (x.step call (.other f)).Kept given calls :=
  ⟨h.working, h.before, h.calls, h.hears⟩

/-- Only the stop makes the poster refuse messages. -/
theorem stopped_step (x : Posting κ ω) (move : Move κ ω) (hne : move ≠ .stop) :
    (x.step call move).poster.stopped = x.poster.stopped := by
  cases move with
  | stop => exact absurd rfl hne
  | post m =>
    change (x.poster.post (some m)).stopped = _
    unfold Poster.post
    split <;> rfl
  | turn =>
    simp only [step]
    split <;> rfl
  | sent fate =>
    simp only [step]
    split <;> rfl
  | mark => rfl
  | other f => rfl

/-- Every run keeps the account. -/
theorem run (h : x.Kept given calls) (moves : List (Move κ ω)) :
    (x.run call moves).Kept (given ++ if x.poster.stopped then [] else posted moves) calls := by
  induction moves generalizing x given with
  | nil => simpa [Posting.run, posted] using h
  | cons move moves ih =>
    change ((x.step call move).run call moves).Kept _ calls
    -- A move that neither brings a message nor stops the poster leaves the messages to come as they are.
    have hrest : move ≠ .stop → posted (move :: moves) = posted moves → (x.step call move).Kept given calls →
        ((x.step call move).run call moves).Kept (given ++ if x.poster.stopped then [] else posted (move :: moves)) calls := by
      intro hne hposted hstep
      have hnext := ih hstep
      rwa [stopped_step call x move hne, ← hposted] at hnext
    cases move with
    | post m =>
      have hnext := ih (h.post call m)
      rw [stopped_step call x (.post m) nofun] at hnext
      cases hstopped : x.poster.stopped with
      | true => simpa [hstopped] using hnext
      | false => simpa [hstopped, posted] using hnext
    | stop => simpa [posted, step] using ih (h.stop call)
    | mark => exact hrest nofun rfl (h.mark call)
    | turn => exact hrest nofun rfl (h.turn call)
    | sent fate => exact hrest nofun rfl (h.sent call fate)
    | other f => exact hrest nofun rfl (h.other call f)

end Kept

/-! ## The loop in one go -/

/-- Sending a number of messages sends the first one and then the others. -/
theorem sendUpTo_state {ε σ α : Type} {post : α → Step ε (Poster α × σ) Unit} {m : α} {rest : List (Option α)} {s : σ}
    {p : Poster α × σ} {out : List ε} (h : post m (⟨rest, false⟩, s) = ⟨.ok (), p, out⟩) (n : Nat) :
    (Poster.sendUpTo post (n + 1) (⟨some m :: rest, false⟩, s)).state = (Poster.sendUpTo post n p).state := by
  rw [Poster.sendUpTo, Step.bind_run, Step.get_run]
  dsimp only
  rw [Step.bind_run, Step.set_run]
  dsimp only
  rw [Step.bind_of_ok h]

section Loop

variable [Server] (call : κ → String → Step Log.Entry (Channel κ × ω) Unit)

/-- What the loop does with a message when the post is answered. -/
def sending (client : Client Unit) (m : Json) : Step Log.Entry (Poster Json × Usage κ ω) Unit := do
  let _ ← (send call client .answered m).within Prod.snd fun u p => (p.1, u)

/-- Sending a message does to the channel what a turn of the loop does. -/
theorem sending_run (client : Client Unit) (m : Json) (p : Poster Json) (u : Usage κ ω) :
    ∃ out, sending call client m (p, u) = ⟨.ok (), (p, (send call client .answered m u).state), out⟩ := by
  obtain ⟨accepted, state, out, heard, hrun, -⟩ := send_run call client u .answered m
  exact ⟨_, by rw [sending, Step.bind_run, Step.within_run, hrun]; rfl⟩

/-- A message is taken and posted in three moves. -/
theorem run_sent (client : Client Unit) (host : Usage κ ω) (m : Json) (rest : List (Option Json)) (attempts : List (Attempt κ)) :
    ∃ a, run call ⟨client, host, ⟨some m :: rest, false⟩, .checking, attempts⟩ [.turn, .turn, .sent .answered] =
      ⟨client, (send call client .answered m host).state, ⟨rest, false⟩, .checking, attempts ++ [a]⟩ :=
  ⟨_, rfl⟩

/-- A poster that sends what is queued in one go comes to where its loop comes to by some of its moves, each post being answered. -/
theorem sendUpTo_eq_run (n : Nat) (x : Posting κ ω) (hphase : x.phase = .checking) :
    ∃ moves : List (Move κ ω), (∀ move ∈ moves, move = .turn ∨ move = .sent .answered) ∧
      (Poster.sendUpTo (sending call x.client) n (x.poster, x.host)).state = ((x.run call moves).poster, (x.run call moves).host) := by
  induction n generalizing x with
  | zero => exact ⟨[], nofun, rfl⟩
  | succ n ih =>
    obtain ⟨client, host, ⟨queue, stopped⟩, phase, attempts⟩ := x
    obtain rfl : phase = .checking := hphase
    cases stopped with
    | true => exact ⟨[], nofun, rfl⟩
    | false =>
      cases queue with
      | nil => exact ⟨[], nofun, rfl⟩
      | cons next rest =>
        cases next with
        | none => exact ⟨[.turn, .turn], by simp, rfl⟩
        | some m =>
          obtain ⟨out, hsending⟩ := sending_run call client m ⟨rest, false⟩ host
          obtain ⟨a, hsent⟩ := run_sent call client host m rest attempts
          obtain ⟨moves, hwork, hstate⟩ := ih (Posting.mk client (send call client .answered m host).state ⟨rest, false⟩ .checking
            (attempts ++ [a])) rfl
          refine ⟨[.turn, .turn, .sent .answered] ++ moves, ?_, ?_⟩
          · intro move hmove
            rcases List.mem_append.1 hmove with hmove | hmove
            · simpa using hmove
            · exact hwork move hmove
          · rw [Posting.run, List.foldl_append, ← Posting.run, ← Posting.run, hsent, ← hstate]
            exact sendUpTo_state hsending n

end Loop

/-! ## What listeners hear -/

/-- What a body says: a text stands for itself, and from any other value that can be written down without a fraction the value is read
back. -/
def Says [Json.Room] (body : String) (v : Json) : Prop :=
  (∀ s, v = .str s → body = s) ∧
    ((∀ s, v ≠ .str s) → Json.Readable Json.maxDepth v → v.fits = true → Json.parse body = .ok v)

/-- The body of an event says its message. -/
theorem says_bodyOf [Json.Room] (v : Json) : Says (Client.bodyOf v) v := by
  refine ⟨fun s hs => ?_, fun htext hreadable hfits => ?_⟩
  · rw [hs]
    rfl
  · have hbody : Client.bodyOf v = v.spaced := by
      cases v with
      | str s => exact absurd rfl (htext s)
      | null | bool | int | num | arr | obj => rfl
    rw [hbody, Json.parse_spaced hreadable, hfits]
    rfl

variable [DecidableEq κ]

/-- The bodies that one listener got. -/
def heardBy (l : κ) (calls : List (κ × String)) : List String := (calls.filter (·.1 = l)).map (·.2)

/-- A listener hears an event once for each time that it is registered. -/
theorem heardBy_map (l : κ) (listeners : List κ) (body : String) :
    heardBy l (listeners.map fun l => (l, body)) = List.replicate (listeners.count l) body := by
  induction listeners with
  | nil => rfl
  | cons l' listeners ih =>
    rw [heardBy] at ih ⊢
    by_cases heq : l' = l
    · simp [heq, ih, List.replicate_succ]
    · simp [heq, ih]

/-- A listener that was not added more than once hears a message once at most. -/
theorem heardBy_of_hears {l : κ} {listeners : List κ} {body : String} {accepted : Bool} {heard : List (κ × String)}
    (h : Hears listeners body accepted heard) (hcount : listeners.count l ≤ 1) : (heardBy l heard).Sublist [body] := by
  rcases h.whole with rfl | rfl
  · exact List.nil_sublist _
  · rw [heardBy_map]
    exact (List.replicate_sublist_replicate body (n := 1)).2 hcount

/-- Over several posts it hears a part of their bodies, in order. -/
theorem heardBy_flatMap {l : κ} {attempts : List (Attempt κ)}
    (hhears : ∀ a ∈ attempts, Hears a.present (Client.bodyOf a.message) a.accepted a.heard)
    (hcount : ∀ a ∈ attempts, a.present.count l ≤ 1) :
    (heardBy l (attempts.flatMap (·.heard))).Sublist ((attempts.map (·.message)).map Client.bodyOf) := by
  induction attempts with
  | nil => exact List.nil_sublist _
  | cons a attempts ih =>
    have hfirst := heardBy_of_hears (hhears a List.mem_cons_self) (hcount a List.mem_cons_self)
    have hrest := ih (fun b hb => hhears b (List.mem_cons_of_mem a hb)) fun b hb => hcount b (List.mem_cons_of_mem a hb)
    have hcons : heardBy l ((a :: attempts).flatMap (·.heard)) = heardBy l a.heard ++ heardBy l (attempts.flatMap (·.heard)) := by
      simp [heardBy]
    rw [hcons]
    exact hfirst.append hrest

/-- However messages are given to the poster, its loop goes on, it is stopped, and posts are answered, not heard of, refused or lost in
between each other, and whatever else happens to the channel: what the loop takes and posts is, in order and each message once, a first
part of what was given to the poster before it was stopped. Of each post all listeners of the channel hear, each once for each time that
it was added, or none does, and all do if the post was accepted; no listener fails the others. They get the body of the message, which
says that message, and these are all their calls. So a listener that was not added more than once hears a part of the messages that were
given before the stop, in their order and each at most once. -/
theorem posts_in_order [Json.Room] [Server] (call : κ → String → Step Log.Entry (Channel κ × ω) Unit) (client : Client Unit)
    (host : Usage κ ω) (moves : List (Move κ ω)) {x : Posting κ ω} (hx : run call { client, host } moves = x) :
    x.taken <+: posted moves ∧
      x.host.calls = host.calls ++ x.attempts.flatMap (·.heard) ∧
      (∀ a ∈ x.attempts, Hears a.present (Client.bodyOf a.message) a.accepted a.heard ∧ ∀ c ∈ a.heard, Says c.2 a.message) ∧
      ∀ l, (∀ a ∈ x.attempts, a.present.count l ≤ 1) →
        (heardBy l (x.attempts.flatMap (·.heard))).Sublist ((posted moves).map Client.bodyOf) := by
  have hstart : Kept [] host.calls ({ client, host } : Posting κ ω) :=
    ⟨fun _ => rfl, List.nil_prefix, (List.append_nil _).symm, nofun⟩
  have hkept := hstart.run call moves
  rw [hx] at hkept
  have hbefore : x.taken <+: posted moves := hkept.before
  refine ⟨hbefore, hkept.calls, fun a ha => ⟨hkept.hears a ha, fun c hc => ?_⟩, fun l hcount => ?_⟩
  · have hbody : c.2 = Client.bodyOf a.message := by
      rcases (hkept.hears a ha).whole with hnone | hall
      · rw [hnone] at hc
        cases hc
      · rw [hall] at hc
        obtain ⟨l, -, rfl⟩ := List.mem_map.1 hc
        rfl
    exact hbody ▸ says_bodyOf a.message
  · have hattempts : x.attempts.map (·.message) <+: posted moves := (List.prefix_append _ _).trans hbefore
    exact (heardBy_flatMap hkept.hears hcount).trans (hattempts.sublist.map Client.bodyOf)

/-- Four messages. The answer to the first one is lost, and the poster is stopped while it posts the second one. -/
def interrupted : List (Move String Unit) := [
  .post (.str "one"), .post (.str "two"), .post (.str "three"), .turn, .turn, .sent .unheard, .turn, .turn, .stop, .post (.str "four"),
  .sent .answered, .mark, .turn]

section Usual

attribute [local instance] Json.Room.usual Server.usual

/-- Both are heard once, also behind the listener that fails; the third one has not been posted, and the fourth one was refused. -/
theorem posts_in_order_interrupted :
    ∃ x : Posting String Unit,
      run (fun l _ => if l = "b" then Step.fail .dispatchFailed else Step.done ())
        { client := .make "" "secret", host := ⟨Channel.inUse, (), []⟩ } interrupted = x ∧
      posted interrupted = [.str "one", .str "two", .str "three"] ∧
      x.attempts.map (·.accepted) = [false, true] ∧ heardBy "c" x.host.calls = ["one", "two"] ∧
      (heardBy "c" (x.attempts.flatMap (·.heard))).Sublist ["one", "two", "three"] := by
  obtain ⟨-, -, -, hheard⟩ := posts_in_order (fun l _ => if l = "b" then Step.fail .dispatchFailed else Step.done ())
    (.make "" "secret") ⟨Channel.inUse, (), []⟩ interrupted rfl
  exact ⟨_, rfl, rfl, by decide +kernel, by decide +kernel, hheard "c" (by decide +kernel)⟩

end Usual

end Posting

end ToolpathViewer
