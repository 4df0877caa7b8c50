import ToolpathViewer.Bridge.Server
import ToolpathViewer.Proofs.Bridge.Service
import ToolpathViewer.Proofs.Json.RoundTrip
import ToolpathViewer.Session.Link

/-!
# The two ways into a channel

A channel is open to direct calls and to requests, and each of the two ways makes checks of its own. A caller stands to the channel in
one of three ways, which the stop and the secret alone decide. Both ways come down to this standing: they let in the same callers,
give them the same, and tell the others nothing that depends on what the channel holds.
-/

namespace ToolpathViewer.Bridge.Channel

variable {ι ε σ : Type}

/-! ## What is written about a message -/

/-- The characters of a written envelope: its message as a JSON text, and its version in digits. -/
theorem toList_envelopeBody (e : Envelope) :
    (envelopeBody e).toList =
      "\x7b\"message\":".toList ++
        (Json.writeString e.message ++ (",\"version\":".toList ++ (Nat.toDigits 10 e.version ++ ['\x7d', '\n']))) := by
  have hversion : (toString (e.version : Int)).toList = Nat.toDigits 10 e.version := by
    rw [Decimal.toList_toString_int, if_neg (by omega), List.nil_append, Int.natAbs_natCast]
  have hnames : Json.writeString "message" = "\"message\"".toList ∧ Json.writeString "version" = "\"version\"".toList := by
    decide
  simp only [envelopeBody, Json.compact, Json.write, Json.writeFields, hversion, hnames, Json.Layout.compact, Json.Layout.newline]
  simp

/-- The written form tells the message and its version. -/
theorem envelopeBody_inj {e e' : Envelope} (h : envelopeBody e = envelopeBody e') : e = e' := by
  have hlists := congrArg String.toList h
  rw [toList_envelopeBody, toList_envelopeBody] at hlists
  obtain ⟨hmessage, hrest⟩ := Json.writeString_append_inj (List.append_cancel_left hlists)
  have hdigits := List.append_cancel_right (List.append_cancel_left hrest)
  obtain ⟨version, message⟩ := e
  obtain ⟨version', message'⟩ := e'
  exact congrArg₂ Envelope.mk (Decimal.toDigits_inj hdigits) hmessage

/-! ## Requests and direct calls -/

variable {log : Log.Entry → ε} {call : ι → String → Step ε σ Unit} {channel : σ → Channel ι} {s : σ} {r : Request}

/-- An event that is submitted from within the program fails by the standing of the token, or is delivered to all listeners. -/
theorem submitEvent_run (payload : String) (token : Option String) :
    submitEvent log call channel payload token s =
      match ((channel s).standing token).entry with
      | .error why => ⟨.error why, s, []⟩
      | .ok () => deliver log call payload (channel s).listeners s := by
  simp only [submitEvent, Step.bind_run, Step.get_run, Step.ofExcept_run, submit_eq]
  cases (channel s).standing token <;> rfl

/-- A poll over the wire is answered as the direct call returns. -/
structure AnswersPoll (status : Nat) (body : String) (direct : Except Fault (Option Envelope)) : Prop where
  message : ∀ e, status = 200 ∧ body = envelopeBody e ↔ direct = .ok (some e)
  nothing : status = 204 ↔ direct = .ok none
  stranger : status = 401 ↔ direct = .error .unauthorized
  closed : status = 503 ↔ direct = .error .stopped
  only : status ∈ [200, 204, 401, 503]

/-- An event over the wire is answered as the direct call returns. -/
structure AnswersEvent (status : Nat) (direct : Except Fault Unit) : Prop where
  accepted : status = 202 ↔ direct = .ok ()
  stranger : status = 401 ↔ direct = .error .unauthorized
  closed : status = 503 ↔ direct = .error .stopped
  only : status ∈ [202, 401, 503]

/-- Who is refused is told why, the same in both ways. -/
theorem Standing.refused {standing : Standing} (h : standing ≠ .known) :
    ∃ why response, standing.entry = .error why ∧ standing.refusal? = some response ∧
      AnswersPoll response.status response.body (.error why) ∧ AnswersEvent response.status (.error why) := by
  cases standing with
  | closed => exact ⟨.stopped, _, rfl, rfl, by constructor <;> simp [textResponse], by constructor <;> simp [textResponse]⟩
  | stranger => exact ⟨.unauthorized, _, rfl, rfl, by constructor <;> simp [textResponse], by constructor <;> simp [textResponse]⟩
  | known => exact absurd rfl h

/-- Who is let in is given the next message, the same in both ways. -/
theorem answersPoll_known (c : Channel ι) (r : Request) :
    ∃ response, c.answerPoll r = ⟨response, none⟩ ∧
      AnswersPoll response.status response.body (.ok (c.buffer.nextAfter (parseAfter (r.query.lookup "after")))) := by
  rw [answerPoll]
  cases c.buffer.nextAfter (parseAfter (r.query.lookup "after")) with
  | none => exact ⟨_, rfl, by constructor <;> simp⟩
  | some e =>
    refine ⟨_, rfl, fun e' => ?_, by simp, by simp, by simp, by simp⟩
    constructor
    · rintro ⟨-, hbody⟩
      rw [envelopeBody_inj hbody]
    · intro h
      cases h
      exact ⟨rfl, rfl⟩

/-- Whatever the listeners leave alone, a direct call leaves alone. -/
theorem keeps_submitEvent {τ : Type} {part : σ → τ} {payload : String} (h : ∀ l, (call l payload).Keeps part)
    (token : Option String) : (submitEvent log call channel payload token).Keeps part :=
  Step.Keeps.bind (fun _ => rfl) fun _ => Step.Keeps.bind (fun _ => rfl) fun listeners => keeps_deliver h listeners

section Server

variable [Server]

/-- What an answer without an event leaves. -/
theorem exchange_of_event_none {response : Response} (h : (channel s).answer r = ⟨response, none⟩) :
    exchange log call channel r s = ⟨.ok (.response response.status response.body), s, []⟩ := by
  simp [exchange, h]

/-- What an answer with an event leaves. -/
theorem exchange_of_event {response : Response} {payload : String} {listeners : List ι}
    (h : (channel s).answer r = ⟨response, some (payload, listeners)⟩) :
    exchange log call channel r s =
      ⟨.ok (.response response.status response.body), (deliver log call payload listeners s).state,
        (deliver log call payload listeners s).emitted⟩ := by
  simp [exchange, h, deliver_result]

/-- A poll over the wire changes nothing, and is answered as the direct call returns. -/
theorem exchange_poll (h : r.Reaches .poll) :
    ∃ status body, exchange log call channel r s = ⟨.ok (.response status body), s, []⟩ ∧
      AnswersPoll status body ((channel s).poll (parseAfter (r.query.lookup "after")) r.token?) := by
  have hanswer := answer_of_reaches (channel s) h
  rw [poll_eq]
  by_cases hknown : (channel s).standing r.token? = .known
  · obtain ⟨response, hresponse, hanswers⟩ := answersPoll_known (channel s) r
    rw [hknown] at hanswer ⊢
    exact ⟨_, _, exchange_of_event_none (hanswer.trans hresponse), hanswers⟩
  · obtain ⟨why, response, hentry, hrefusal, hanswers, -⟩ := Standing.refused hknown
    rw [hrefusal] at hanswer
    rw [hentry]
    exact ⟨_, _, exchange_of_event_none hanswer, hanswers⟩

/-- An event over the wire does what the direct call does, and is answered as that returns. -/
theorem exchange_event (h : r.Reaches .event) {payload : String} (hpayload : Server.body r = payload.toUTF8.toList) :
    ∃ status body, exchange log call channel r s =
        ⟨.ok (.response status body), (submitEvent log call channel payload r.token? s).state,
          (submitEvent log call channel payload r.token? s).emitted⟩ ∧
      AnswersEvent status (submitEvent log call channel payload r.token? s).result := by
  have hanswer := answer_of_reaches (channel s) h
  rw [submitEvent_run]
  by_cases hknown : (channel s).standing r.token? = .known
  · have hserve : (channel s).serve r .event = ⟨textResponse 202 "accepted", some (payload, (channel s).listeners)⟩ := by
      rw [serve, answerEvent, hpayload, Text.Utf8.decodeLossy_toUTF8]
    rw [hknown] at hanswer ⊢
    refine ⟨_, _, exchange_of_event (hanswer.trans hserve), ?_⟩
    dsimp only [Standing.entry]
    rw [deliver_result]
    constructor <;> simp [textResponse]
  · obtain ⟨why, response, hentry, hrefusal, -, hanswers⟩ := Standing.refused hknown
    rw [hrefusal] at hanswer
    rw [hentry]
    exact ⟨_, _, exchange_of_event_none hanswer, hanswers⟩

/-- The requests for messages and events come to what the direct calls come to, with the secret that they carry. A poll is answered
with the message, without one, or with the refusal that the direct call returns. An event reaches the same listeners in the same
order with the same effects, those of listeners that fail included. Neither touches the channel: a poll changes nothing at all, and an
event only what its listeners do. -/
theorem transport_agrees (log : Log.Entry → ε) (call : ι → String → Step ε σ Unit) (channel : σ → Channel ι) (s : σ) (r : Request) :
    (r.Reaches .poll → ∃ status body,
      exchange log call channel r s = ⟨.ok (.response status body), s, []⟩ ∧
      AnswersPoll status body ((channel s).poll (parseAfter (r.query.lookup "after")) r.token?)) ∧
    ∀ payload : String, r.Reaches .event → Server.body r = payload.toUTF8.toList → ∃ status body direct,
      submitEvent log call channel payload r.token? s = direct ∧
      exchange log call channel r s = ⟨.ok (.response status body), direct.state, direct.emitted⟩ ∧
      AnswersEvent status direct.result ∧
      ∀ (τ : Type) (part : σ → τ), (∀ l, (call l payload).Keeps part) → part direct.state = part s := by
  refine ⟨exchange_poll, ?_⟩
  intro payload hreaches hpayload
  obtain ⟨status, body, hexchange, hanswers⟩ := exchange_event hreaches hpayload
  exact ⟨status, body, _, rfl, hexchange, hanswers, fun τ part hkeeps => keeps_submitEvent hkeeps _ s⟩

end Server

/-- A channel with a message and three listeners. -/
def inUse : Channel String :=
  { buffer := { capacity := 4, envelopes := [⟨1, "hello"⟩], latest := 1 }, token := "secret", listeners := ["a", "b", "c"] }

/-- Listeners that tell who hears what. The second one fails. -/
def hears (listener payload : String) : Step String (Channel String) Unit :=
  if listener = "b" then Step.fail .dispatchFailed else Step.emit (listener ++ " hears " ++ payload)

section Usual

attribute [local instance] Server.usual

/-- A poll for no version with the secret in the second header is answered, and an event reaches who stands behind the listener that
fails. -/
theorem transport_agrees_inUse :
    (∃ r : Request, r.path = "/poll" ∧ r.query = [("after", "x")] ∧ r.headers = [(tokenHeader, ""), (otherTokenHeader, "secret")] ∧
      exchange (fun _ => "failed") hears id r inUse = ⟨.ok (.response 200 (envelopeBody ⟨1, "hello"⟩)), inUse, []⟩) ∧
    ∃ (r : Request) (body : String), r.path = "/event" ∧
      exchange (fun _ => "failed") hears id r inUse = ⟨.ok (.response 202 body), inUse, ["a hears é", "failed", "c hears é"]⟩ := by
  constructor
  · let r : Request :=
      { path := "/poll", query := [("after", "x")], headers := [(tokenHeader, ""), (otherTokenHeader, "secret")] }
    have hreaches : r.Reaches .poll := ⟨by decide +kernel, by decide⟩
    obtain ⟨status, body, hexchange, hanswers⟩ := (transport_agrees (fun _ => "failed") hears id inUse r).1 hreaches
    have hdirect : (id inUse : Channel String).poll (parseAfter (r.query.lookup "after")) r.token? = .ok (some ⟨1, "hello"⟩) := by
      decide +kernel
    obtain ⟨rfl, rfl⟩ := (hanswers.message ⟨1, "hello"⟩).2 hdirect
    exact ⟨r, rfl, rfl, rfl, hexchange⟩
  · let r : Request := { method := "POST", path := "/event", headers := [(tokenHeader, "secret")], body := "é".toUTF8.toList }
    have hreaches : r.Reaches .event := ⟨by decide +kernel, by decide⟩
    obtain ⟨status, body, direct, hdirect, hexchange, hanswers, -⟩ :=
      (transport_agrees (fun _ => "failed") hears id inUse r).2 "é" hreaches rfl
    have hrun : submitEvent (fun _ => "failed") hears id "é" r.token? inUse = ⟨.ok (), inUse, ["a hears é", "failed", "c hears é"]⟩ := rfl
    obtain rfl := hdirect.symm.trans hrun
    obtain rfl := hanswers.accepted.2 rfl
    exact ⟨r, body, rfl, hexchange⟩

end Usual

/-! ## Strangers -/

/-- With another token than the channel's, one finds the channel closed or is a stranger. -/
theorem standing_of_ne {c : Channel ι} {token : Option String} (h : token ≠ some c.token) :
    c.standing token = if c.stopped then .closed else .stranger := by
  have hstranger : c.isAuthorized token = false := by simpa [isAuthorized] using h
  rw [standing, hstranger]
  rfl

section Server

variable [Server]

/-- A refusal is all that there is in the answer, whatever is asked for. -/
theorem answer_of_refused {c : Channel ι} (hverb : r.verb ≠ "OPTIONS") {response : Response}
    (h : (c.standing r.token?).refusal? = some response) :
    c.answer r = ⟨if r.method = "HEAD" then { response with body := "" } else response, none⟩ := by
  rw [answer, guard?_eq c hverb, h]
  by_cases hhead : r.method = "HEAD"
  · rw [if_pos (by simpa using hhead), if_pos hhead]
  · rw [if_neg (by simpa using hhead), if_neg hhead]

/-- A question for permissions is answered alike by every channel, to every caller. -/
theorem answer_of_options (c : Channel ι) (hverb : r.verb = "OPTIONS") :
    c.answer r = ⟨{ status := 204, maxAge := some "600" }, none⟩ := by
  have hhead : r.method ≠ "HEAD" := by
    intro hhead
    rw [Request.verb, hhead] at hverb
    exact absurd hverb (by decide)
  rw [answer, guard?, if_neg (by simpa using hhead), if_pos (by simpa using hverb)]

/-- Two requests are answered alike, each by the channel of its own world, and leave both worlds as they are. -/
def AnsweredAlike (log : Log.Entry → ε) (call : ι → String → Step ε σ Unit) (channel : σ → Channel ι) (s s' : σ) (r r' : Request) :
    Prop :=
  ∃ response : Response,
    (channel s).answer r = ⟨response, none⟩ ∧ (channel s').answer r' = ⟨response, none⟩ ∧
    exchange log call channel r s = ⟨.ok (.response response.status response.body), s, []⟩ ∧
    exchange log call channel r' s' = ⟨.ok (.response response.status response.body), s', []⟩

/-- Two requests with one and the same response, and no event with it, are answered alike. -/
theorem answeredAlike_of_answer {s s' : σ} {r r' : Request} {response : Response} (h : (channel s).answer r = ⟨response, none⟩)
    (h' : (channel s').answer r' = ⟨response, none⟩) : AnsweredAlike log call channel s s' r r' :=
  ⟨response, h, h', exchange_of_event_none h, exchange_of_event_none h'⟩

/-- Who does not know the secret of a channel learns nothing of it but whether it has been stopped, and changes nothing. Two channels
that agree in that answer every two such callers alike, whatever these ask for and however wrong their secrets are, if only both or
neither ask for the headers alone. The direct calls fail alike, and a question for permissions tells nothing to anyone. -/
theorem strangers_learn_nothing (log : Log.Entry → ε) (call : ι → String → Step ε σ Unit) (channel : σ → Channel ι) {s s' : σ}
    (hstopped : (channel s).stopped = (channel s').stopped) :
    (∀ r r' : Request, r.verb ≠ "OPTIONS" → r'.verb ≠ "OPTIONS" → (r.method = "HEAD" ↔ r'.method = "HEAD") →
      r.token? ≠ some (channel s).token → r'.token? ≠ some (channel s').token → AnsweredAlike log call channel s s' r r') ∧
    (∀ r r' : Request, r.verb = "OPTIONS" → r'.verb = "OPTIONS" → AnsweredAlike log call channel s s' r r') ∧
    ∃ why, ∀ token token' : Option String, token ≠ some (channel s).token → token' ≠ some (channel s').token →
      (∀ after after', (channel s).poll after token = .error why ∧ (channel s').poll after' token' = .error why) ∧
      ∀ payload payload', submitEvent log call channel payload token s = ⟨.error why, s, []⟩ ∧
        submitEvent log call channel payload' token' s' = ⟨.error why, s', []⟩ := by
  have hrefused : (if (channel s).stopped then Standing.closed else .stranger) ≠ .known := by
    cases (channel s).stopped <;> exact nofun
  obtain ⟨why, response, hentry, hrefusal, -⟩ := Standing.refused hrefused
  refine ⟨?_, ?_, why, ?_⟩
  · intro r r' hverb hverb' hhead htoken htoken'
    have hanswer := answer_of_refused hverb ((standing_of_ne htoken).symm ▸ hrefusal)
    have hanswer' := answer_of_refused hverb' ((standing_of_ne htoken').symm ▸ hstopped ▸ hrefusal)
    refine answeredAlike_of_answer hanswer ?_
    simpa only [hhead] using hanswer'
  · intro r r' hverb hverb'
    exact answeredAlike_of_answer (answer_of_options _ hverb) (answer_of_options _ hverb')
  · intro token token' htoken htoken'
    have hstanding := (congrArg Standing.entry (standing_of_ne htoken)).trans hentry
    have hstanding' := (congrArg Standing.entry (standing_of_ne htoken')).trans (hstopped ▸ hentry)
    refine ⟨fun after after' => ?_, fun payload payload' => ?_⟩
    · rw [poll_eq, poll_eq, hstanding, hstanding']
      exact ⟨rfl, rfl⟩
    · rw [submitEvent_run, submitEvent_run, hstanding, hstanding']
      exact ⟨rfl, rfl⟩

end Server

/-- A channel that nobody uses. -/
def unused : Channel String := { buffer := { capacity := 1 }, token := "other" }

section Usual

attribute [local instance] Server.usual

/-- The same answer comes from a channel in use and from an unused one, to a poll with a wrong secret and to an unknown path without
any. -/
theorem strangers_learn_nothing_inUse :
    AnsweredAlike (fun _ => "failed") hears id inUse unused { path := "/poll", headers := [(otherTokenHeader, "guess")] }
      { method := "PUT", path := "/nowhere" } ∧
    ∃ why, inUse.poll 0 none = .error why ∧
      submitEvent (fun _ => "failed") hears id "payload" (some "guess") inUse = ⟨.error why, inUse, []⟩ := by
  have hstopped : (id inUse).stopped = (id unused).stopped := rfl
  obtain ⟨hrequests, -, why, hdirect⟩ := strangers_learn_nothing (fun _ => "failed") hears id hstopped
  obtain ⟨hpoll, -⟩ := hdirect none none (by decide) (by decide)
  obtain ⟨-, hsubmit⟩ := hdirect (some "guess") none (by decide) (by decide)
  exact ⟨hrequests _ _ (by decide) (by decide) (by decide) (by decide) (by decide), why, (hpoll 0 0).1, (hsubmit "payload" "").1⟩

end Usual

end ToolpathViewer.Bridge.Channel
