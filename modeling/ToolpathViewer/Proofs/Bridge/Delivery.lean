import ToolpathViewer.Bridge.Server
import ToolpathViewer.Proofs.Bridge.Buffer
import ToolpathViewer.Proofs.Bridge.History
import ToolpathViewer.Proofs.Json.Nesting

/-!
# What a client is delivered

Messages are published on a channel in any order with the polls of a client. A poll has two halves: the channel answers, and the client
receives the answer; it may be lost instead, or an error may come in its place. The versions that are delivered ascend, and a version
is passed over only when the buffer dropped it before the poll was answered, or when its message goes too deep to be read
(`deliveries_ascend`). A message of the second kind is passed over although the buffer still holds it (`deep_message_passed_over`).
-/

namespace ToolpathViewer.Bridge

open ToolpathViewer.Decimal

variable {κ ι ε σ : Type}

/-! ## Publishers and polls in any order -/

/-- What comes back when the channel answers a request. -/
def Channel.replyTo [Server] (c : Channel κ) (r : Request) : Reply :=
  .response (c.answer r).response.status (c.answer r).response.body

/-- A listener's call, written down before it is made. -/
def noting (call : ι → Json → Step ε σ Unit) (l : ι) (message : Json) : Step ε (σ × List (ι × Json)) Unit := do
  Step.update fun s => (s.1, s.2 ++ [(l, message)])
  (call l message).within Prod.fst fun s p => (s, p.2)

/-- A channel and a client that polls it, with what was seen of both. -/
structure Exchange (κ ι σ : Type) where
  channel : Channel κ
  client : Client ι
  /-- The state of those who listen to the client. -/
  world : σ
  /-- The answer that is on its way, and how many messages had been published when it was given. -/
  underway : Option (Reply × Nat) := none
  /-- The envelopes that publishers got back, and which publisher each one. -/
  receipts : List (Nat × Envelope) := []
  /-- The polls that are over. -/
  polls : List (Poll ι) := []

namespace Exchange

/-- What happens between a channel and its client. -/
inductive Move where
  /-- A publisher publishes a message. -/
  | publish (publisher : Nat) (message : String)
  /-- The channel answers the client's poll. -/
  | answer
  /-- The client receives the answer. -/
  | receive
  /-- The poll, or the answer to it, is lost. -/
  | lose
  /-- The client receives an error, or no content, in place of an answer. -/
  | refuse (status : Nat) (body : String) (hstatus : status ≠ 200)

/-- The messages that were published. -/
def messages (x : Exchange κ ι σ) : List String := x.receipts.map fun r => r.2.message

/-- The polls that delivered a message. -/
def deliveries (x : Exchange κ ι σ) : List (Poll ι) := x.polls.filter (·.delivered)

/-- A new channel with room for one message, and a client with its secret and one listener. -/
def fresh : Exchange Unit String Unit where
  channel := { buffer := { capacity := 1 }, token := "s" }
  client := (Client.make "" "s").addListener "view"
  world := ()

/-- The reply of an open channel to a poll: a client without its secret is refused. -/
theorem replyTo_pollRequest [Server] {channel : Channel κ} (hopen : channel.stopped = false) (c : Client ι) :
    channel.replyTo (c.signed c.pollRequest) =
      if channel.token = c.token ∧ c.token ≠ "" then
        .response (pollResponse (channel.buffer.nextAfter (asked c.version))).status
          (pollResponse (channel.buffer.nextAfter (asked c.version))).body
      else .response 401 "unauthorized" := by
  rw [Channel.replyTo, signed_pollRequest, answer_pollRequest hopen]
  split
  · rw [answerPoll_eq]
  · rfl

section Noting

variable {log : Log.Entry → ε} {call : ι → Json → Step ε σ Unit}

/-- A noted call does what the call does, and adds itself to the notes. -/
theorem noting_state (message : Json) (l : ι) (w : σ) (calls : List (ι × Json)) :
    (noting call l message (w, calls)).state = ((call l message w).state, calls ++ [(l, message)]) := by
  simp [noting]

/-- Every listener is called once, in order. -/
theorem notify_noting (message : Json) (listeners : List ι) (w : σ) (calls : List (ι × Json)) :
    (Client.notify log (noting call) message listeners (w, calls)).state.2 = calls ++ listeners.map fun l => (l, message) := by
  induction listeners generalizing w calls with
  | nil => simp [Client.notify, Step.each, Step.done]
  | cons l listeners ih => rw [notify_state_cons, noting_state, ih, List.append_assoc, List.map_cons, List.singleton_append]

end Noting

section Polls

variable [Json.Room] {log : Log.Entry → ε} {call : ι → Json → Step ε σ Unit} {x : Exchange κ ι σ}

/-! ## What a reply can bring -/

/-- A reply brings a client no message but the next one that the channel held when so many had been published. -/
def Brings (capacity : Nat) (messages : List String) (c : Client ι) (published : Option Nat) (reply : Reply) : Prop :=
  ∀ version raw, c.accept reply = .ok (some (version, raw)) →
    ∃ k m, raw = .str m ∧ messages[k]? = some m ∧ version = (k + 1 : Nat) ∧ Fits version ∧
      ∃ n, published = some n ∧ k = max (asked c.version).toNat (n - capacity)

variable {capacity : Nat} {messages : List String} {c : Client ι} {published : Option Nat} {reply : Reply}

/-- What a reply brings does not change when more is published. -/
theorem Brings.append (h : Brings capacity messages c published reply) (more : List String) :
    Brings capacity (messages ++ more) c published reply := by
  intro version raw haccept
  obtain ⟨k, m, hraw, hm, hrest⟩ := h version raw haccept
  refine ⟨k, m, hraw, ?_, hrest⟩
  rw [List.getElem?_append_left (List.getElem?_eq_some_iff.1 hm).1, hm]

/-- A reply that never came brings nothing. -/
theorem brings_unreachable (capacity : Nat) (messages : List String) (c : Client ι) (published : Option Nat) :
    Brings capacity messages c published .unreachable := nofun

/-- An answer without the status of success brings nothing. -/
theorem brings_of_status_ne {status : Nat} (hstatus : status ≠ 200) (capacity : Nat) (messages : List String) (c : Client ι)
    (published : Option Nat) (body : String) : Brings capacity messages c published (.response status body) := by
  intro version raw haccept
  obtain ⟨fields, ⟨body', hbody, -⟩, -⟩ := (c.accept_eq_some_iff _ _ _).1 haccept
  cases hbody
  exact absurd rfl hstatus

/-- A message that cannot be read goes too deep: one that is no JSON is delivered as a text. -/
theorem eq_tooDeep_of_readMessage {m : String} {why : Fault} (h : Client.readMessage (.str m) = .error why) : why = .tooDeep := by
  unfold Client.readMessage at h
  dsimp only at h
  split at h
  · cases h
  · rename_i hplain
    exact (Json.explained_parse m why h).resolve_left fun hmalformed => hplain (by rw [h, hmalformed])

/-- More arrays in each other than can be read. -/
def deepMessage : String := String.ofList (List.replicate (Json.maxDepth + 1) '[')

/-- A text that nests too deeply cannot be read as a message. -/
theorem readMessage_of_tooDeep {m : String} (h : Json.parse m = .error .tooDeep) : Client.readMessage (.str m) = .error .tooDeep := by
  simp only [Client.readMessage, h]

/-- A text of too many brackets nests too deeply. -/
theorem parse_deepMessage : Json.parse deepMessage = .error .tooDeep := by
  rw [deepMessage, ← List.append_nil (List.replicate _ _)]
  exact Json.parse_brackets []

/-! ## What a poll leaves -/

/-- What a client's poll leaves when a reply comes back. -/
def polling (log : Log.Entry → ε) (call : ι → Json → Step ε σ Unit) (c : Client ι) (world : σ) (reply : Reply) :
    Turn ε (Client ι × σ × List (ι × Json)) Bool :=
  Client.poll log (fun _ => pure reply) (noting call) (c, world, [])

/-- The client's poll ends with a reply. -/
def settle (log : Log.Entry → ε) (call : ι → Json → Step ε σ Unit) (x : Exchange κ ι σ) (published : Option Nat)
    (reply : Reply) : Exchange κ ι σ :=
  let t := polling log call x.client x.world reply
  { x with
    client := t.state.1
    world := t.state.2.1
    underway := none
    polls := x.polls ++ [⟨x.client.version, t.state.1.version, published, t.result, t.state.2.2⟩] }

/-- Every poll comes to one of the things that it can come to. -/
theorem came_of_polling (log : Log.Entry → ε) (call : ι → Json → Step ε σ Unit) (c : Client ι) (world : σ)
    (hbrings : Brings capacity messages c published reply) :
    let t := polling log call c world reply
    t.state.1 = { c with version := t.state.1.version } ∧
      Poll.Came c.listeners capacity messages ⟨c.version, t.state.1.version, published, t.result, t.state.2.2⟩ := by
  dsimp only
  cases haccept : c.accept reply with
  | error why =>
    have hpoll : (polling log call c world reply).result = .error why ∧ (polling log call c world reply).state = (c, world, []) :=
      poll_of_refused rfl haccept
    obtain ⟨hresult, hstate⟩ := hpoll
    rw [hresult, hstate]
    exact ⟨rfl, .nothing rfl rfl rfl⟩
  | ok brought =>
    cases brought with
    | none =>
      have hpoll : (polling log call c world reply).result = .ok false ∧ (polling log call c world reply).state = (c, world, []) :=
        poll_of_idle rfl haccept
      obtain ⟨hresult, hstate⟩ := hpoll
      rw [hresult, hstate]
      exact ⟨rfl, .nothing rfl rfl rfl⟩
    | some found =>
      obtain ⟨version, raw⟩ := found
      obtain ⟨k, m, rfl, hm, hversion, hfits, hplace⟩ := hbrings version raw haccept
      cases hread : Client.readMessage (.str m) with
      | ok message =>
        have hpoll : (polling log call c world reply).result = .ok true ∧
            (polling log call c world reply).state =
              ({ c with version }, (Client.notify log (noting call) message c.listeners (world, [])).state) :=
          poll_of_message _ _ rfl haccept hread
        obtain ⟨hresult, hstate⟩ := hpoll
        rw [hresult, hstate]
        exact ⟨rfl, .delivered k m message ⟨hm, hversion, hfits, hplace⟩ rfl hread (notify_noting _ _ _ _)⟩
      | error why =>
        have hpoll : (polling log call c world reply).result = .error why ∧
            (polling log call c world reply).state = ({ c with version }, world, []) :=
          poll_of_unread rfl haccept hread
        obtain ⟨hresult, hstate⟩ := hpoll
        obtain rfl := eq_tooDeep_of_readMessage hread
        rw [hresult, hstate]
        exact ⟨rfl, .tooDeep k m ⟨hm, hversion, hfits, hplace⟩ rfl hread rfl⟩

/-- A reply adds one poll to those that were made, with what it brought and how far the version came. -/
theorem came_of_settle (x : Exchange κ ι σ) (log : Log.Entry → ε) (call : ι → Json → Step ε σ Unit)
    (hbrings : Brings capacity messages x.client published reply) :
    ∃ p : Poll ι, (x.settle log call published reply).polls = x.polls ++ [p] ∧ p.before = x.client.version ∧
      (x.settle log call published reply).client = { x.client with version := p.after } ∧
      p.Came x.client.listeners capacity messages :=
  ⟨_, rfl, rfl, came_of_polling log call x.client x.world hbrings⟩

/-- What holds of a channel and a client at any time: the buffer holds the last messages, the answer on its way was given to one who knew
what the client still knows, and the polls so far lead from the version of the start to the client's. -/
structure Sound (listeners : List ι) (capacity : Nat) (start : Int) (x : Exchange κ ι σ) : Prop where
  opened : x.channel.stopped = false
  held : x.channel.buffer = Buffer.filled capacity x.messages
  numbered : x.receipts.map (·.2) = Buffer.numbered x.messages
  listening : x.client.listeners = listeners
  coming : ∀ reply n, x.underway = some (reply, n) → Brings capacity x.messages x.client (some n) reply
  polled : Polled listeners capacity x.messages start x.polls x.client.version

variable {listeners : List ι} {start : Int}

/-- Whatever comes back for a poll, if it brings only what it may. -/
theorem Sound.settle (h : Sound listeners capacity start x) (hbrings : Brings capacity x.messages x.client published reply) :
    Sound listeners capacity start (x.settle log call published reply) := by
  obtain ⟨p, hpolls, hbefore, hclient, hcame⟩ := x.came_of_settle log call hbrings
  refine ⟨h.opened, h.held, h.numbered, ?_, nofun, ?_⟩
  · rw [hclient]
    exact h.listening
  · rw [hclient, hpolls]
    exact .poll (hbefore ▸ h.polled) (h.listening ▸ hcame)

/-- Before the first move, nothing has been published and nothing polled. -/
theorem sound_start {channel : Channel κ} (hopen : channel.stopped = false) (hbuffer : channel.buffer = { capacity }) (client : Client ι)
    (world : σ) : Sound client.listeners capacity client.version { channel, client, world } where
  opened := hopen
  held := hbuffer
  numbered := rfl
  listening := rfl
  coming := nofun
  polled := .start

/-- Receipts are numbered in the order of publishing, whoever published. -/
theorem Sound.version_eq (h : Sound listeners capacity start x) {k : Nat} {r : Nat × Envelope} (hr : x.receipts[k]? = some r) :
    r.2.version = k + 1 := by
  have hat := Buffer.getElem?_numbered x.messages k
  rw [← h.numbered, List.getElem?_map, hr, Option.map_some] at hat
  obtain ⟨m, -, hm⟩ := Option.map_eq_some_iff.1 hat.symm
  rw [← hm]

/-- The message with a number was published by someone who was told this number. -/
theorem Sound.receipt (h : Sound listeners capacity start x) {k : Nat} {m : String} (hm : x.messages[k]? = some m) :
    ∃ publisher, x.receipts[k]? = some (publisher, ⟨k + 1, m⟩) := by
  have hat := Buffer.getElem?_numbered x.messages k
  rw [← h.numbered, List.getElem?_map, hm, Option.map_some] at hat
  obtain ⟨⟨publisher, envelope⟩, hreceipt, rfl⟩ := Option.map_eq_some_iff.1 hat
  exact ⟨publisher, hreceipt⟩

/-! ## Runs -/

variable [Server]

/-- One move. The client sends its next poll when the last one is over. -/
def step (log : Log.Entry → ε) (call : ι → Json → Step ε σ Unit) (x : Exchange κ ι σ) : Move → Exchange κ ι σ
  | .publish publisher message =>
    let t := (Channel.publish message : Step ε (Channel κ) Envelope) x.channel
    match t.result with
    | .ok envelope => { x with channel := t.state, receipts := x.receipts ++ [(publisher, envelope)] }
    | .error _ => x
  | .answer =>
    match x.underway with
    | none => { x with underway := some (x.channel.replyTo (x.client.signed x.client.pollRequest), x.receipts.length) }
    | some _ => x
  | .receive =>
    match x.underway with
    | none => x
    | some (reply, published) => x.settle log call (some published) reply
  | .lose => x.settle log call none .unreachable
  | .refuse status body _ => x.settle log call none (.response status body)

/-- Moves in order. -/
def run (log : Log.Entry → ε) (call : ι → Json → Step ε σ Unit) (x : Exchange κ ι σ) (moves : List Move) : Exchange κ ι σ :=
  moves.foldl (step log call) x

/-- A run makes its first move and goes on from there. -/
theorem run_cons (log : Log.Entry → ε) (call : ι → Json → Step ε σ Unit) (x : Exchange κ ι σ) (move : Move) (moves : List Move) :
    x.run log call (move :: moves) = (x.step log call move).run log call moves := rfl

/-- A poll whose halves follow each other is a poll of the client that the channel answers at once. -/
theorem poll_in_halves (hidle : x.underway = none) :
    let t := Client.poll log (fun r => pure (x.channel.replyTo (x.client.signed r))) (noting call) (x.client, x.world, [])
    x.run log call [.answer, .receive] =
      { x with
        client := t.state.1
        world := t.state.2.1
        polls := x.polls ++ [⟨x.client.version, t.state.1.version, some x.receipts.length, t.result, t.state.2.2⟩] } := by
  have hfetch : Client.poll log (fun r => pure (x.channel.replyTo (x.client.signed r))) (noting call) (x.client, x.world, []) =
      Client.poll log (fun _ => pure (x.channel.replyTo (x.client.signed x.client.pollRequest))) (noting call)
        (x.client, x.world, []) := by
    simp only [Client.poll, Step.bind_run, Step.get_run, Step.within_run, Step.pure_run]
  rw [hfetch]
  simp only [run, List.foldl_cons, List.foldl_nil, step, hidle, settle, polling]

/-- The channel's own answer brings the message behind the version that the client knows, or the oldest one that is left. -/
theorem brings_replyTo {channel : Channel κ} (hopen : channel.stopped = false) (hpos : 0 < capacity)
    (hbuffer : channel.buffer = Buffer.filled capacity messages) (c : Client ι) :
    Brings capacity messages c (some messages.length) (channel.replyTo (c.signed c.pollRequest)) := by
  rw [replyTo_pollRequest hopen, hbuffer, Buffer.nextAfter_filled_int hpos]
  split
  · cases hm : messages[max (asked c.version).toNat (messages.length - capacity)]? with
    | none => exact brings_of_status_ne (show (204 : Nat) ≠ 200 by decide) _ _ _ _ _
    | some m =>
      intro version raw haccept
      have hread := (accept_envelopeBody c ⟨max (asked c.version).toNat (messages.length - capacity) + 1, m⟩).symm.trans haccept
      by_cases hfits : Fits ((max (asked c.version).toNat (messages.length - capacity) + 1 : Nat) : Int)
      · rw [if_pos hfits] at hread
        obtain ⟨rfl, rfl⟩ := Prod.mk.inj (Option.some.inj (Except.ok.inj hread))
        exact ⟨_, m, rfl, hm, rfl, hfits, _, rfl, rfl⟩
      · rw [if_neg hfits] at hread
        cases hread
  · exact brings_of_status_ne (show (401 : Nat) ≠ 200 by decide) _ _ _ _ _

/-- Publishing appends the message to the buffer, and notes who published it and under which version. -/
theorem step_publish (hopen : x.channel.stopped = false) (publisher : Nat) (message : String) :
    x.step log call (.publish publisher message) =
      { x with
        channel := { x.channel with buffer := (x.channel.buffer.append message).2 }
        receipts := x.receipts ++ [(publisher, (x.channel.buffer.append message).1)] } := by
  simp only [step, Channel.publish_run hopen]

/-- Publishing touches neither the client nor its polls, and what an answer brings was published before. -/
theorem Sound.publish (h : Sound listeners capacity start x) (hpos : 0 < capacity) (publisher : Nat) (message : String) :
    Sound listeners capacity start (x.step log call (.publish publisher message)) := by
  have hversion : x.channel.buffer.latest = x.messages.length := by rw [h.held, Buffer.filled_eq hpos]
  rw [step_publish h.opened]
  have hmessages : x.messages ++ [message] =
      Exchange.messages { x with
        channel := { x.channel with buffer := (x.channel.buffer.append message).2 }
        receipts := x.receipts ++ [(publisher, (x.channel.buffer.append message).1)] } := by
    simp [Exchange.messages, Buffer.append]
  refine ⟨h.opened, ?_, ?_, h.listening, ?_, ?_⟩
  · rw [← hmessages, Buffer.filled_append, ← h.held]
  · rw [← hmessages, Buffer.numbered_append, ← h.numbered, ← hversion, List.map_append]
    rfl
  · intro reply n hcoming
    rw [← hmessages]
    exact (h.coming reply n hcoming).append [message]
  · rw [← hmessages]
    exact h.polled.append [message]

/-- Answering a poll keeps a run sound. -/
theorem Sound.answer (h : Sound listeners capacity start x) (hpos : 0 < capacity) :
    Sound listeners capacity start (x.step log call .answer) := by
  simp only [step]
  split
  · refine ⟨h.opened, h.held, h.numbered, h.listening, ?_, h.polled⟩
    intro reply n hcoming
    obtain ⟨rfl, rfl⟩ := Prod.mk.inj (Option.some.inj hcoming)
    have hlength : x.receipts.length = x.messages.length := (List.length_map _).symm
    rw [hlength]
    exact brings_replyTo h.opened hpos h.held x.client
  · exact h

/-- One move keeps everything in order. -/
theorem Sound.step (h : Sound listeners capacity start x) (hpos : 0 < capacity) (move : Move) :
    Sound listeners capacity start (x.step log call move) := by
  cases move with
  | publish publisher message => exact h.publish hpos publisher message
  | answer => exact h.answer hpos
  | receive =>
    simp only [Exchange.step]
    split
    · exact h
    · rename_i reply n hcoming
      exact h.settle (h.coming reply n hcoming)
  | lose => exact h.settle (brings_unreachable _ _ _ _)
  | refuse status body hstatus => exact h.settle (brings_of_status_ne hstatus _ _ _ _ _)

/-- All runs of a sound exchange are sound. -/
theorem Sound.run (h : Sound listeners capacity start x) (hpos : 0 < capacity) (moves : List Move) :
    Sound listeners capacity start (x.run log call moves) := by
  induction moves generalizing x with
  | nil => exact h
  | cons move moves ih => exact ih (h.step hpos move)

/-- A poll that finds a message that cannot be read takes the client past it. -/
theorem run_of_unread {e : Envelope} {why : Fault} (hidle : x.underway = none) (hopen : x.channel.stopped = false)
    (htoken : x.channel.token = x.client.token ∧ x.client.token ≠ "")
    (hnext : x.channel.buffer.nextAfter (asked x.client.version) = some e) (hfits : Fits e.version)
    (hread : Client.readMessage (.str e.message) = .error why) :
    x.run log call [.answer, .receive] =
      { x with
        client := { x.client with version := e.version }
        polls := x.polls ++ [⟨x.client.version, e.version, some x.receipts.length, .error why, []⟩] } := by
  have haccept : x.client.accept (x.channel.replyTo (x.client.signed x.client.pollRequest)) =
      .ok (some ((e.version : Int), .str e.message)) := by
    have hbody := accept_envelopeBody x.client e
    rw [if_pos hfits] at hbody
    rw [replyTo_pollRequest hopen, if_pos htoken, hnext]
    exact hbody
  have hpoll : (polling log call x.client x.world (x.channel.replyTo (x.client.signed x.client.pollRequest))).result = .error why ∧
      (polling log call x.client x.world (x.channel.replyTo (x.client.signed x.client.pollRequest))).state =
        ({ x.client with version := e.version }, x.world, []) := poll_of_unread rfl haccept hread
  obtain ⟨hresult, hstate⟩ := hpoll
  simp only [run, List.foldl_cons, List.foldl_nil, step, hidle, settle, hresult, hstate]

/-- A poll that fails on a message passes over it, although the buffer still holds it and nothing newer was published. -/
theorem passed_over_of_unread {m : String} {why : Fault} (hread : Client.readMessage (.str m) = .error why) :
    ∃ (x : Exchange Unit String Unit) (p : Poll String),
      run id (fun _ _ => pure ()) fresh [.publish 0 m, .answer, .receive] = x ∧
      x.polls = [p] ∧ p.result = .error why ∧ p.before = 0 ∧ p.after = 1 ∧ p.published = some 1 ∧ p.calls = [] ∧
      x.channel.buffer.nextAfter p.before = some ⟨1, m⟩ ∧ x.channel.buffer.nextAfter p.after = none := by
  have hpublish : fresh.step id (fun _ _ => pure ()) (.publish 0 m) = _ := step_publish rfl 0 m
  have hnext : ((fresh.channel.buffer.append m).2).nextAfter (asked 0) = some ⟨1, m⟩ := by
    rw [asked_eq, if_pos (by decide)]
    rfl
  have hmoves := run_cons id (fun _ _ => pure ()) fresh (.publish 0 m) [.answer, .receive]
  rw [hpublish] at hmoves
  have htoken : fresh.channel.token = fresh.client.token ∧ fresh.client.token ≠ "" := ⟨rfl, by decide⟩
  have hfits : Fits (1 : Nat) := by decide
  have hpolled := hmoves.trans (run_of_unread rfl rfl htoken hnext hfits hread)
  exact ⟨_, _, hpolled, rfl, rfl, rfl, rfl, rfl, rfl, rfl, rfl⟩

/-- However publishers and the polls of a client come in between each other, and whatever polls are lost or answered with an error: the
receipts of the publishers are numbered from 1 on; the versions that are delivered ascend; what is delivered with a version is the message
of that version, to every listener; and the client is past a version above its first one only if that was delivered, if the buffer had
dropped it when the poll that passed over it was answered, or if its message goes too deep. A poll that delivers nothing calls nobody, and
takes the client no further unless its message goes too deep. -/
theorem deliveries_ascend (log : Log.Entry → ε) (call : ι → Json → Step ε σ Unit) {capacity : Int} {channel : Channel κ}
    (hbuffer : Buffer.make capacity = .ok channel.buffer) (hopen : channel.stopped = false) (client : Client ι) (world : σ)
    (moves : List Move) {x : Exchange κ ι σ} (hx : run log call { channel, client, world } moves = x) :
    (∀ k r, x.receipts[k]? = some r → r.2.version = k + 1) ∧
      (x.deliveries.map (·.after)).Pairwise (· < ·) ∧
      (∀ p ∈ x.deliveries, ∃ k publisher m message, x.receipts[k]? = some (publisher, ⟨k + 1, m⟩) ∧ p.after = (k + 1 : Nat) ∧
        Client.readMessage (.str m) = .ok message ∧ p.calls = client.listeners.map fun l => (l, message)) ∧
      (∀ v : Nat, 1 ≤ v → client.version < v → v ≤ x.client.version →
        (∃ p ∈ x.deliveries, p.after = v) ∨
        (∃ p ∈ x.polls, p.before < v ∧ v < p.after ∧ ∃ n, p.published = some n ∧ v + capacity ≤ n) ∨
        ∃ p ∈ x.polls, p.after = v ∧ p.result = .error .tooDeep) ∧
      ∀ p ∈ x.polls, p.delivered = false → p.calls = [] ∧
        (p.after = p.before ∨ p.result = .error .tooDeep ∧ ∃ k publisher m, x.receipts[k]? = some (publisher, ⟨k + 1, m⟩) ∧
          p.after = (k + 1 : Nat) ∧ Client.readMessage (.str m) = .error .tooDeep) := by
  obtain ⟨hempty, hpos⟩ := Buffer.make_eq_ok hbuffer
  have hpos' : 0 < capacity.toNat := by omega
  have hsound : Sound client.listeners capacity.toNat client.version x :=
    hx ▸ (sound_start hopen hempty client world).run hpos' moves
  refine ⟨fun k r hr => hsound.version_eq hr, hsound.polled.ascending, ?_, ?_, ?_⟩
  · intro p hp
    obtain ⟨hp, hdelivered⟩ := List.mem_filter.1 hp
    cases hsound.polled.came p hp with
    | nothing hresult => exact absurd hdelivered (by simp [hresult])
    | delivered k m message hb hresult hread hcalls =>
      obtain ⟨publisher, hreceipt⟩ := hsound.receipt hb.message
      exact ⟨k, publisher, m, message, hreceipt, hb.after, hread, hcalls⟩
    | tooDeep k m hb hresult => exact absurd hdelivered (by simp [Poll.delivered, hresult])
  · intro v hv hstart hversion
    -- A first version that is not understood stays the client's only as long as nothing is brought.
    have hasked : v ≤ asked x.client.version := by
      rcases hsound.polled.version_cases with heq | hfits
      · omega
      · rwa [asked_eq, if_pos hfits]
    rcases hsound.polled.accounted hv hstart hasked with ⟨p, hp, hdelivered, hafter⟩ | ⟨p, hp, hlow, hhigh, n, hn, hle⟩ | hdeep
    · exact Or.inl ⟨p, List.mem_filter.2 ⟨hp, hdelivered⟩, hafter⟩
    · exact Or.inr (Or.inl ⟨p, hp, hlow, hhigh, n, hn, by omega⟩)
    · exact Or.inr (Or.inr hdeep)
  · intro p hp hfailed
    cases hsound.polled.came p hp with
    | nothing hresult hafter hcalls => exact ⟨hcalls, Or.inl hafter⟩
    | delivered k m message hb hresult => exact absurd hfailed (by simp [Poll.delivered, hresult])
    | tooDeep k m hb hresult hread hcalls =>
      obtain ⟨publisher, hreceipt⟩ := hsound.receipt hb.message
      exact ⟨hcalls, Or.inr ⟨hresult, k, publisher, m, hreceipt, hb.after, hread⟩⟩

end Polls

section Usual

attribute [local instance] Json.Room.usual Server.usual

/-- Two publishers and room for one message: the first answer is lost, and with it the first message. -/
theorem deliveries_ascend_lost_answer :
    ∃ x : Exchange Unit String Unit, Buffer.make 1 = .ok fresh.channel.buffer ∧ fresh.channel.stopped = false ∧
      run id (fun _ _ => pure ()) fresh [.publish 0 "a", .answer, .publish 1 "b", .lose, .answer, .receive] = x ∧
      x.deliveries.map (fun p => (p.after, p.calls.map (·.1))) = [(2, ["view"])] ∧
      ((∃ p ∈ x.deliveries, p.after = 1) ∨
        (∃ p ∈ x.polls, p.before < 1 ∧ 1 < p.after ∧ ∃ n, p.published = some n ∧ 1 + 1 ≤ (n : Int)) ∨
        ∃ p ∈ x.polls, p.after = 1 ∧ p.result = .error .tooDeep) := by
  have hbuffer : Buffer.make 1 = .ok fresh.channel.buffer := rfl
  have hopen : fresh.channel.stopped = false := rfl
  have hdelivered : ((run id (fun _ _ => pure ()) fresh
      [.publish 0 "a", .answer, .publish 1 "b", .lose, .answer, .receive]).deliveries.map fun p => (p.after, p.calls.map (·.1))) =
        [(2, ["view"])] := by decide +kernel
  have hversion : (1 : Int) ≤ (run id (fun _ _ => pure ()) fresh
      [.publish 0 "a", .answer, .publish 1 "b", .lose, .answer, .receive]).client.version := by decide +kernel
  obtain ⟨-, -, -, haccounted, -⟩ := deliveries_ascend id (fun _ _ => pure ()) hbuffer hopen fresh.client fresh.world
    [.publish 0 "a", .answer, .publish 1 "b", .lose, .answer, .receive] rfl
  exact ⟨_, hbuffer, hopen, rfl, hdelivered, haccounted 1 le_rfl (by decide) hversion⟩

/-- A failed poll can pass over a message that the buffer still holds: here nothing newer was published, and the client never gets it. -/
theorem deep_message_passed_over :
    ∃ (x : Exchange Unit String Unit) (p : Poll String),
      run id (fun _ _ => pure ()) fresh [.publish 0 deepMessage, .answer, .receive] = x ∧
      x.polls = [p] ∧ p.result = .error .tooDeep ∧ p.before = 0 ∧ p.after = 1 ∧ p.published = some 1 ∧ p.calls = [] ∧
      x.channel.buffer.nextAfter p.before = some ⟨1, deepMessage⟩ ∧ x.channel.buffer.nextAfter p.after = none :=
  passed_over_of_unread (readMessage_of_tooDeep parse_deepMessage)

end Usual

end Exchange

end ToolpathViewer.Bridge
