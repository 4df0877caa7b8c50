import ToolpathViewer.Bridge.Client
import ToolpathViewer.Proofs.Step
import ToolpathViewer.Proofs.Text.Utf8

/-!
# What a channel checks

A channel looks at the secret of a request before it serves anything. The request of a client passes every other check of the server,
and an event that does arrives as the text that was sent. What the check of the secret finds is the standing of the caller, which a
direct call is asked for as well (`Channel.Standing`).
-/

namespace ToolpathViewer.Bridge

variable {ι : Type}

namespace Channel

/-- An open channel takes a message. -/
theorem publish_run {ε : Type} {c : Channel ι} (hopen : c.stopped = false) (message : String) :
    (publish message : Step ε (Channel ι) _) c =
      ⟨.ok (c.buffer.append message).1, { c with buffer := (c.buffer.append message).2 }, []⟩ := by
  simp [publish, checkOpen, hopen]

/-! ## Standings -/

/-- How a caller with some secret stands to a channel. -/
inductive Standing where
  /-- The channel has been stopped. -/
  | closed
  /-- The secret is missing, or is not the channel's. -/
  | stranger
  /-- The secret is the channel's. -/
  | known

namespace Standing

/-- What the caller's direct calls come to before they do anything. -/
def entry : Standing → Except Fault Unit
  | .closed => .error .stopped
  | .stranger => .error .unauthorized
  | .known => .ok ()

/-- What the caller's requests are answered before they are served. -/
def refusal? : Standing → Option Response
  | .closed => some (textResponse 503 "stopped")
  | .stranger => some (textResponse 401 "unauthorized")
  | .known => none

end Standing

/-- How the caller with a secret, or without one, stands to a channel. -/
def standing (c : Channel ι) (token : Option String) : Standing :=
  if c.stopped then .closed else if c.isAuthorized token then .known else .stranger

/-- The two checks of the channel are decided by the standing of the token. -/
theorem checkOpen_authorize (c : Channel ι) (token : Option String) :
    (do c.checkOpen; c.authorize token) = (c.standing token).entry := by
  rw [checkOpen, authorize, standing]
  cases c.stopped with
  | true => rfl
  | false => cases c.isAuthorized token <;> rfl

/-- A poll from within the program is decided by the standing of the token. -/
theorem poll_eq (c : Channel ι) (after : Int) (token : Option String) :
    c.poll after token = (do (c.standing token).entry; return c.buffer.nextAfter after) := by
  rw [← checkOpen_authorize, poll, bind_assoc]

/-- An event from within the program is decided by the standing of the token. -/
theorem submit_eq (c : Channel ι) (token : Option String) :
    c.submit token = (do (c.standing token).entry; return c.listeners) := by
  rw [← checkOpen_authorize, submit, bind_assoc]

end Channel

/-! ## Events -/

section Deliver

variable {ε σ τ κ : Type} {part : σ → τ} {log : Log.Entry → ε} {call : κ → String → Step ε σ Unit} {payload : String}

/-- Delivering an event keeps what every listener keeps. -/
theorem Channel.keeps_deliver (h : ∀ l, (call l payload).Keeps part) (listeners : List κ) :
    (deliver log call payload listeners).Keeps part := by
  refine Step.Keeps.each (fun l => (h l).attempt.bind fun r => ?_) listeners
  cases r with
  | ok _ => exact fun s => rfl
  | error _ => exact fun s => rfl

/-- Hands an event to one listener. -/
def Channel.hand (log : Log.Entry → ε) (call : κ → String → Step ε σ Unit) (payload : String) (l : κ) : Step ε σ Unit := do
  match ← (call l payload).attempt with
  | .ok _ => return
  | .error _ => Step.emit (log (listenerFailure payload))

/-- Whatever a listener does, the others get the event as well. -/
theorem Channel.hand_run (l : κ) (s : σ) :
    (hand log call payload l s).result = .ok () ∧ (hand log call payload l s).state = (call l payload s).state := by
  rw [hand, Step.bind_run, Step.attempt_run]
  dsimp only
  cases (call l payload s).result <;> exact ⟨rfl, rfl⟩

/-- Delivering an event does not fail, whatever its listeners do. -/
theorem Channel.deliver_result (listeners : List κ) (s : σ) : (deliver log call payload listeners s).result = .ok () :=
  Step.each_result (f := hand log call payload) (fun l s => (hand_run l s).1) listeners s

/-- What the first listener leaves is what the others find. -/
theorem Channel.deliver_state_cons (l : κ) (listeners : List κ) (s : σ) :
    (deliver log call payload (l :: listeners) s).state = (deliver log call payload listeners (call l payload s).state).state := by
  have hcons : deliver log call payload (l :: listeners) =
      hand log call payload l >>= fun _ => deliver log call payload listeners := rfl
  rw [hcons, Step.bind_run, (hand_run l s).1, (hand_run l s).2]

end Deliver

/-! ## Requests -/

/-- No resource takes one of the two methods that are treated apart. -/
theorem Resource.method_ne (what : Resource) : what.method ≠ "OPTIONS" ∧ what.method ≠ "HEAD" := by
  cases what <;> decide

/-- A client's own event carries its token. -/
theorem isSigned_postRequest (c : Client ι) (body : String) : (c.signed (Client.postRequest body)).IsSigned c.token :=
  ⟨.inr ⟨"application/json", rfl⟩, rfl, rfl⟩

variable [Server] {r : Request} {token : String}

/-- A request that the server finds a resource for, with the method that this takes. -/
structure Request.Reaches (r : Request) (what : Resource) : Prop where
  found : Server.find r = .ok what
  verb : r.verb = what.method

namespace Request.IsSigned

/-- The empty secret is as good as none. -/
theorem token?_eq (h : r.IsSigned token) : r.token? = if token = "" then none else some token := by
  rw [Request.token?, Server.header?_token h, Server.header?_otherToken h]
  by_cases hempty : token = ""
  · subst hempty
    simp
  · rw [if_neg hempty]
    split
    · rename_i heq
      exact absurd (Option.some.inj heq) hempty
    · rename_i heq
      cases heq
    · rename_i heq
      exact heq.symm

/-- A client's request reaches the resource whose method and path it has. -/
theorem reaches (h : r.IsSigned token) {what : Resource} (hmethod : r.method = what.method) (hpath : r.path = what.path) :
    r.Reaches what where
  found := Server.find_eq h hmethod hpath
  verb := by
    rw [Request.verb, hmethod]
    cases what <;> decide

end Request.IsSigned

namespace Channel

/-- The guard of the requests makes the checks of the direct calls, in their order. -/
theorem guard?_eq (c : Channel ι) (h : r.verb ≠ "OPTIONS") : c.guard? r = (c.standing r.token?).refusal? := by
  rw [guard?, if_neg (by simpa using h), standing]
  cases c.stopped with
  | true => rfl
  | false => cases c.isAuthorized r.token? <;> rfl

/-- A request that reaches a resource is served by it, unless its caller is refused. -/
theorem answer_of_reaches (c : Channel ι) {what : Resource} (h : r.Reaches what) :
    c.answer r = ((c.standing r.token?).refusal?.map (⟨·, none⟩)).getD (c.serve r what) := by
  obtain ⟨hoptions, hhead⟩ := what.method_ne
  rw [← h.verb] at hoptions hhead
  have hmethod : r.method ≠ "HEAD" := by
    intro hmethod
    rw [Request.verb, hmethod] at hhead
    exact hhead (by decide)
  have hroute : c.route r = c.serve r what := by rw [route, h.found]
  rw [answer, guard?_eq c hoptions, if_neg (by simpa using hmethod), hroute]
  cases (c.standing r.token?).refusal? <;> rfl

/-- An open channel serves the client that knows its secret, and refuses the one that does not. -/
theorem answer_of_signed {c : Channel ι} (hopen : c.stopped = false) (h : r.IsSigned token) (what : Resource)
    (hmethod : r.method = what.method) (hpath : r.path = what.path) :
    c.answer r = if c.token = token ∧ token ≠ "" then c.serve r what else ⟨textResponse 401 "unauthorized", none⟩ := by
  have hstanding : c.standing r.token? = if c.token = token ∧ token ≠ "" then .known else .stranger := by
    rw [standing, hopen, if_neg (by decide), isAuthorized, h.token?_eq]
    by_cases hempty : token = ""
    · rw [if_pos hempty, if_neg (by simp), if_neg (by simp [hempty])]
    · by_cases htoken : c.token = token
      · rw [if_neg hempty, if_pos (by simp [htoken]), if_pos ⟨htoken, hempty⟩]
      · rw [if_neg hempty, if_neg (by simpa using Ne.symm htoken), if_neg (by simp [htoken])]
  rw [answer_of_reaches c (h.reaches hmethod hpath), hstanding]
  by_cases hknown : c.token = token ∧ token ≠ ""
  · rw [if_pos hknown, if_pos hknown]
    rfl
  · rw [if_neg hknown, if_neg hknown]
    rfl

end Channel

/-- The body of an event is read whole. -/
theorem body_postRequest (c : Client ι) (body : String) :
    Server.body (c.signed (Client.postRequest body)) = body.toUTF8.toList :=
  Server.body_eq (isSigned_postRequest c body)

/-- An open channel takes an event from who knows its secret, as the text that was sent, and has it for all its listeners. -/
theorem answer_postRequest {κ : Type} {channel : Channel κ} (hopen : channel.stopped = false) (c : Client ι) (body : String) :
    channel.answer (c.signed (Client.postRequest body)) =
      if channel.token = c.token ∧ c.token ≠ "" then ⟨Channel.textResponse 202 "accepted", some (body, channel.listeners)⟩
      else ⟨Channel.textResponse 401 "unauthorized", none⟩ := by
  have hserve : channel.serve (c.signed (Client.postRequest body)) .event =
      ⟨Channel.textResponse 202 "accepted", some (body, channel.listeners)⟩ := by
    rw [Channel.serve, Channel.answerEvent, body_postRequest, Text.Utf8.decodeLossy_toUTF8]
  rw [Channel.answer_of_signed hopen (isSigned_postRequest c body) .event rfl rfl, hserve]

end ToolpathViewer.Bridge
