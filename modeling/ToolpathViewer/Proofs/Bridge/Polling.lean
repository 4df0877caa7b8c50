import ToolpathViewer.Bridge.Client
import ToolpathViewer.Proofs.Bridge.Service
import ToolpathViewer.Proofs.Json.RoundTrip

/-!
# Polls

A poll from end to end: what the channel answers to the request of a client that has the secret, what the client takes from a reply,
which is said of the fields of the reply alone, and what a poll leaves. An envelope arrives as it is, unless its version has too many
digits; then the answer cannot be read.
-/

namespace ToolpathViewer.Bridge

open ToolpathViewer.Decimal

/-! ## The channel's answer -/

/-- The request of a poll behind a version, with a secret. -/
def pollRequest (token : String) (after : Int) : Request :=
  { path := "/poll", query := [("after", toString after)], headers := [(tokenHeader, token)] }

/-- A client's own question is the one that carries its token and asks for what is newer than its version. -/
theorem signed_pollRequest {ι : Type} (c : Client ι) : c.signed c.pollRequest = pollRequest c.token c.version := rfl

/-- A question to be polled carries its token. -/
theorem isSigned_pollRequest (token : String) (after : Int) : (pollRequest token after).IsSigned token :=
  ⟨.inl rfl, rfl, rfl⟩

variable {ι : Type}

/-- An open channel answers a poll with its secret, and refuses one without. The empty secret is as good as none. -/
theorem answer_pollRequest [Server] {c : Channel ι} (hopen : c.stopped = false) (token : String) (after : Int) :
    c.answer (pollRequest token after) =
      if c.token = token ∧ token ≠ "" then c.answerPoll (pollRequest token after) else ⟨Channel.textResponse 401 "unauthorized", none⟩ :=
  Channel.answer_of_signed hopen (isSigned_pollRequest token after) .poll rfl rfl

/-- The version behind which the channel is asked by who knows a version: one with too many digits is not understood. -/
def asked (after : Int) : Int := Channel.parseAfter (some (toString after))

/-- A version that can be written is asked for as it is, and any other one as zero. -/
theorem asked_eq (after : Int) : asked after = if Fits after then after else 0 := by
  rw [asked, Channel.parseAfter, Option.bind_some, readInt?_toString]
  by_cases h : Fits after
  · rw [if_pos h, if_pos h, Option.getD_some]
  · rw [if_neg h, if_neg h, Option.getD_none]

/-- The response to a poll, by what is newer. -/
def pollResponse : Option Envelope → Response
  | none => { status := 204 }
  | some e => { status := 200, body := Channel.envelopeBody e, contentType := "application/json" }

/-- The answer to a poll with the channel's secret. -/
theorem answerPoll_eq (c : Channel ι) (token : String) (after : Int) :
    c.answerPoll (pollRequest token after) = ⟨pollResponse (c.buffer.nextAfter (asked after)), none⟩ := by
  have hlookup : (pollRequest token after).query.lookup "after" = some (toString after) := by
    simp [pollRequest]
  rw [Channel.answerPoll, hlookup, ← asked]
  cases c.buffer.nextAfter (asked after) <;> rfl

/-- A poll for what is newer than a version is answered by the next message behind it, or by none. -/
theorem answerPoll_pollRequest {c : Channel ι} {after : Int} (h : Fits after) (token : String) :
    c.answerPoll (pollRequest token after) =
      match c.buffer.nextAfter after with
      | none => ⟨{ status := 204 }, none⟩
      | some e => ⟨{ status := 200, body := Channel.envelopeBody e, contentType := "application/json" }, none⟩ := by
  rw [answerPoll_eq, asked_eq, if_pos h]
  cases c.buffer.nextAfter after <;> rfl

/-! ## Listeners -/

section Listeners

variable {ε σ : Type} {log : Log.Entry → ε} {call : ι → Json → Step ε σ Unit} {s : σ}

/-- Hands a message to one listener. -/
def tell (log : Log.Entry → ε) (call : ι → Json → Step ε σ Unit) (message : Json) (l : ι) : Step ε σ Unit := do
  match ← (call l message).attempt with
  | .ok _ => return
  | .error _ => Step.emit (log Client.listenerFailure)

/-- Whatever a listener does, the others are called. -/
theorem tell_run (message : Json) (l : ι) :
    (tell log call message l s).result = .ok () ∧ (tell log call message l s).state = (call l message s).state := by
  unfold tell
  cases hresult : (call l message s).result <;> simp [hresult]

/-- Notifying listeners tells the first one and then the others. -/
theorem notify_cons (message : Json) (l : ι) (listeners : List ι) :
    Client.notify log call message (l :: listeners) = tell log call message l >>= fun _ => Client.notify log call message listeners :=
  rfl

/-- Notifying never fails. -/
theorem notify_result (message : Json) (listeners : List ι) : (Client.notify log call message listeners s).result = .ok () := by
  induction listeners generalizing s with
  | nil => rfl
  | cons l listeners ih =>
    rw [notify_cons, Step.bind_run, (tell_run message l).1]
    exact ih

/-- What the first listener leaves is what the others find. -/
theorem notify_state_cons (message : Json) (l : ι) (listeners : List ι) :
    (Client.notify log call message (l :: listeners) s).state =
      (Client.notify log call message listeners (call l message s).state).state := by
  rw [notify_cons, Step.bind_run, (tell_run message l).1, (tell_run message l).2]

end Listeners

/-! ## Replies that hold a message -/

/-- The version that a client knows which knew another one before and got these fields: their version, or the same if they have none. -/
def Numbered (known : Int) (fields : Json.Fields) (version : Int) : Prop :=
  (Json.field? fields "version" = none ∧ version = known) ∨
    ∃ v, Json.field? fields "version" = some v ∧ Client.versionOf v = .ok version

/-- The message in some fields. -/
def messageIn (fields : Json.Fields) : Json := (Json.field? fields "message").getD .null

/-- The version that a reply comes to is the one it is numbered with. -/
theorem versionOf_getD_eq_ok (known version : Int) (fields : Json.Fields) :
    Client.versionOf ((Json.field? fields "version").getD (.int known)) = .ok version ↔ Numbered known fields version := by
  rw [Numbered]
  cases hfield : Json.field? fields "version" with
  | none =>
    rw [Option.getD_none, Client.versionOf, Except.ok.injEq]
    constructor
    · rintro rfl
      exact .inl ⟨rfl, rfl⟩
    · rintro (⟨-, rfl⟩ | ⟨v, hv, -⟩)
      · rfl
      · cases hv
  | some v =>
    rw [Option.getD_some]
    constructor
    · exact fun h => .inr ⟨v, rfl, h⟩
    · rintro (⟨hnone, -⟩ | ⟨v', hv', h⟩)
      · cases hnone
      · cases hv'
        exact h

variable [Json.Room]

/-- The reply is an object with these fields. -/
def Reply.Has (reply : Reply) (fields : Json.Fields) : Prop := ∃ body, reply = .response 200 body ∧ Json.parse body = .ok (.obj fields)

/-- A reply has its fields only in one way. -/
theorem Reply.Has.fields_eq {reply : Reply} {fields fields' : Json.Fields} (h : reply.Has fields) (h' : reply.Has fields') :
    fields = fields' := by
  obtain ⟨body, rfl, hparse⟩ := h
  obtain ⟨body', hbody, hparse'⟩ := h'
  cases hbody
  cases hparse.symm.trans hparse'
  rfl

/-- What a client takes from a reply that has fields. -/
theorem Client.accept_of_has (c : Client ι) {reply : Reply} {fields : Json.Fields} (h : reply.Has fields) :
    c.accept reply = (Client.versionOf ((Json.field? fields "version").getD (.int c.version))).map fun version =>
      some (version, messageIn fields) := by
  obtain ⟨body, rfl, hparse⟩ := h
  unfold Client.accept
  simp only [show ¬(200 : Nat) = 204 by decide, show ¬(200 : Nat) = 401 by decide, if_false, ne_eq, not_true_eq_false, hparse]
  change (Client.versionOf _ >>= _) = _
  cases Client.versionOf ((Json.field? fields "version").getD (.int c.version)) <;> rfl

/-- A reply without the status of success holds nothing new, or is an error. -/
theorem Client.accept_of_status (c : Client ι) {status : Nat} (hstatus : status ≠ 200) (body : String) :
    c.accept (.response status body) =
      if status = 204 then .ok none else .error (if status = 401 then .unauthorized else .pollStatus status) := by
  unfold Client.accept
  simp only [ne_eq, hstatus, not_false_eq_true, if_true]
  split
  · rfl
  · split <;> rfl

/-- A reply whose body cannot be read, or is no object, fails on the client. -/
theorem Client.accept_of_no_fields (c : Client ι) {body : String} (hfields : ∀ fields, Json.parse body ≠ .ok (.obj fields)) :
    c.accept (.response 200 body) = (Json.parse body).bind fun _ => .error .noFields := by
  unfold Client.accept
  simp only [show ¬(200 : Nat) = 204 by decide, show ¬(200 : Nat) = 401 by decide, if_false, ne_eq, not_true_eq_false]
  cases hread : Json.parse body with
  | error why => rfl
  | ok v =>
    cases v with
    | obj fields => exact absurd hread (hfields fields)
    | null | bool | int | num | str | arr => rfl

/-- All that a reply can be. -/
theorem Reply.cases (reply : Reply) :
    reply = .unreachable ∨ (∃ status body, status ≠ 200 ∧ reply = .response status body) ∨ (∃ fields, reply.Has fields) ∨
      ∃ body, reply = .response 200 body ∧ ∀ fields, Json.parse body ≠ .ok (.obj fields) := by
  cases reply with
  | unreachable => exact .inl rfl
  | response status body =>
    by_cases hstatus : status = 200
    · subst hstatus
      by_cases hfields : ∃ fields, Json.parse body = .ok (.obj fields)
      · obtain ⟨fields, hparse⟩ := hfields
        exact .inr (.inr (.inl ⟨fields, body, rfl, hparse⟩))
      · exact .inr (.inr (.inr ⟨body, rfl, fun fields hparse => hfields ⟨fields, hparse⟩⟩))
    · exact .inr (.inl ⟨status, body, hstatus, rfl⟩)

/-- The client takes a message from a reply exactly when it has fields with a version that denotes an integer, or with none. -/
theorem Client.accept_eq_some_iff (c : Client ι) (reply : Reply) (version : Int) (raw : Json) :
    c.accept reply = .ok (some (version, raw)) ↔ ∃ fields, reply.Has fields ∧ Numbered c.version fields version ∧ raw = messageIn fields := by
  constructor
  · intro haccept
    rcases reply.cases with rfl | ⟨status, body, hstatus, rfl⟩ | ⟨fields, hfields⟩ | ⟨body, rfl, hfields⟩
    · cases haccept
    · rw [c.accept_of_status hstatus] at haccept
      split at haccept <;> cases haccept
    · rw [c.accept_of_has hfields] at haccept
      cases hversion : Client.versionOf ((Json.field? fields "version").getD (.int c.version)) with
      | error why =>
        rw [hversion] at haccept
        cases haccept
      | ok found =>
        rw [hversion] at haccept
        cases haccept
        exact ⟨fields, hfields, (versionOf_getD_eq_ok _ _ _).1 hversion, rfl⟩
    · rw [c.accept_of_no_fields hfields] at haccept
      cases hread : Json.parse body <;> rw [hread] at haccept <;> cases haccept
  · rintro ⟨fields, hfields, hversion, rfl⟩
    rw [c.accept_of_has hfields, (versionOf_getD_eq_ok _ _ _).2 hversion]
    rfl

/-- There is nothing new exactly when the reply has the status that says so. -/
theorem Client.accept_eq_none_iff (c : Client ι) (reply : Reply) : c.accept reply = .ok none ↔ ∃ body, reply = .response 204 body := by
  constructor
  · intro haccept
    rcases reply.cases with rfl | ⟨status, body, hstatus, rfl⟩ | ⟨fields, hfields⟩ | ⟨body, rfl, hfields⟩
    · cases haccept
    · rw [c.accept_of_status hstatus] at haccept
      split at haccept
      · next hnothing => exact ⟨body, by rw [hnothing]⟩
      · cases haccept
    · rw [c.accept_of_has hfields] at haccept
      cases hversion : Client.versionOf ((Json.field? fields "version").getD (.int c.version)) <;> rw [hversion] at haccept <;> cases haccept
    · rw [c.accept_of_no_fields hfields] at haccept
      cases hread : Json.parse body <;> rw [hread] at haccept <;> cases haccept
  · rintro ⟨body, rfl⟩
    exact c.accept_of_status (by decide) body

/-! ## What the client takes from the channel's answer -/

/-- An envelope is a value that can be read. -/
theorem readable_envelope (e : Envelope) :
    Json.Readable Json.maxDepth (.obj [("message", .str e.message), ("version", .int e.version)]) := by
  refine .ample (.obj (by simp) ?_)
  intro p hp
  rcases List.mem_cons.1 hp with rfl | hp
  · exact .str _
  · obtain rfl := List.mem_singleton.1 hp
    exact .int _

/-- A written envelope is read back, unless its version has too many digits. -/
theorem parse_envelopeBody (e : Envelope) :
    Json.parse (Channel.envelopeBody e) =
      Json.outcome (decide (Fits e.version)) (.obj [("message", .str e.message), ("version", .int e.version)]) := by
  have hspace : ∀ c ∈ ['\n'], Json.isSpace c = true := List.forall_mem_singleton.2 rfl
  have hparse := Json.parse_written Json.Layout.plain_compact (readable_envelope e) hspace
  have hfits : Json.fits (.obj [("message", .str e.message), ("version", .int e.version)]) = decide (Fits e.version) := by
    simp [Json.fits, Json.fitsFields]
  have hbody : Channel.envelopeBody e = String.ofList
      (Json.write .compact 0 (.obj [("message", .str e.message), ("version", .int e.version)]) ++ ['\n']) := by
    rw [String.ofList_append]
    rfl
  rw [hbody, hparse, hfits]

/-- A reply with a written envelope has its message and its version. -/
theorem has_envelope {e : Envelope} (h : Fits e.version) :
    Reply.Has (.response 200 (Channel.envelopeBody e)) [("message", .str e.message), ("version", .int e.version)] := by
  refine ⟨_, rfl, ?_⟩
  rw [parse_envelopeBody, decide_eq_true h]
  rfl

/-- The client gets the envelope that was sent, unless its version has too many digits. -/
theorem accept_envelopeBody (c : Client ι) (e : Envelope) :
    c.accept (.response 200 (Channel.envelopeBody e)) =
      if Fits e.version then .ok (some ((e.version : Int), .str e.message)) else .error .malformedJson := by
  by_cases h : Fits e.version
  · rw [if_pos h]
    exact (c.accept_eq_some_iff _ _ _).2 ⟨_, has_envelope h, .inr ⟨.int e.version, rfl, rfl⟩, rfl⟩
  · have hparse : Json.parse (Channel.envelopeBody e) = .error .malformedJson := by
      rw [parse_envelopeBody, decide_eq_false h]
      rfl
    rw [if_neg h, c.accept_of_no_fields (hparse ▸ nofun), hparse]
    rfl

/-! ## A poll of the client -/

section Poll

variable {ε σ : Type} {log : Log.Entry → ε} {fetch : Request → Step ε σ Reply} {call : ι → Json → Step ε σ Unit}
variable {c : Client ι} {s s' : σ} {reply : Reply} {out : List ε}

/-- A poll whose request fails leaves the client as it was. -/
theorem poll_of_unanswered {why : Fault} (hfetch : fetch c.pollRequest s = ⟨.error why, s', out⟩) :
    (Client.poll log fetch call (c, s)).result = .error why ∧ (Client.poll log fetch call (c, s)).state = (c, s') := by
  simp [Client.poll, hfetch]

/-- So does a poll that brings nothing. -/
theorem poll_of_idle (hfetch : fetch c.pollRequest s = ⟨.ok reply, s', out⟩) (haccept : c.accept reply = .ok none) :
    (Client.poll log fetch call (c, s)).result = .ok false ∧ (Client.poll log fetch call (c, s)).state = (c, s') := by
  simp [Client.poll, hfetch, haccept]

/-- So does one that fails on the answer. -/
theorem poll_of_refused {why : Fault} (hfetch : fetch c.pollRequest s = ⟨.ok reply, s', out⟩)
    (haccept : c.accept reply = .error why) :
    (Client.poll log fetch call (c, s)).result = .error why ∧ (Client.poll log fetch call (c, s)).state = (c, s') := by
  simp [Client.poll, hfetch, haccept]

/-- A poll that finds no message in the answer leaves the client as it was. -/
theorem poll_of_no_message (hfetch : fetch c.pollRequest s = ⟨.ok reply, s', out⟩) (hnone : ∀ found, c.accept reply ≠ .ok (some found)) :
    (Client.poll log fetch call (c, s)).result = (c.accept reply).map (fun _ => false) ∧
      (Client.poll log fetch call (c, s)).state = (c, s') := by
  rcases haccept : c.accept reply with why | _ | found
  · exact poll_of_refused hfetch haccept
  · exact poll_of_idle hfetch haccept
  · exact absurd haccept (hnone found)

variable (log call) in
/-- A poll that brings a message takes over its version and hands it to the listeners. -/
theorem poll_of_message {version : Int} {raw message : Json} (hfetch : fetch c.pollRequest s = ⟨.ok reply, s', out⟩)
    (haccept : c.accept reply = .ok (some (version, raw))) (hread : Client.readMessage raw = .ok message) :
    (Client.poll log fetch call (c, s)).result = .ok true ∧
      (Client.poll log fetch call (c, s)).state =
        ({ c with version }, (Client.notify log call message c.listeners s').state) := by
  have hnotify : (Client.notify log call message c.listeners s').result = .ok () := notify_result message c.listeners
  simp [Client.poll, hfetch, haccept, hread, hnotify]

/-- A poll whose message cannot be read takes over its version and fails. -/
theorem poll_of_unread {version : Int} {raw : Json} {why : Fault} (hfetch : fetch c.pollRequest s = ⟨.ok reply, s', out⟩)
    (haccept : c.accept reply = .ok (some (version, raw))) (hread : Client.readMessage raw = .error why) :
    (Client.poll log fetch call (c, s)).result = .error why ∧ (Client.poll log fetch call (c, s)).state = ({ c with version }, s') := by
  simp [Client.poll, hfetch, haccept, hread]

end Poll

end ToolpathViewer.Bridge
