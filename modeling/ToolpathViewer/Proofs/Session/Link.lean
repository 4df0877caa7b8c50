import ToolpathViewer.Proofs.Bridge.Polling
import ToolpathViewer.Proofs.Session.Host
import ToolpathViewer.Proofs.Session.Surface
import ToolpathViewer.Session.Link

/-!
# A linked session step by step

The calls of a session on its host change the host only, and a poll brings the surface the next message that the channel holds, or
nothing.
-/

namespace ToolpathViewer.Session

open ToolpathViewer.Bridge ToolpathViewer.Decimal

variable {s : Session}

/-- A call on the host changes nothing else, and returns what it returns there. -/
theorem exists_onHost {α : Type} (x : Host.Call Unit α) (s : Session) :
    ∃ out, onHost x s = ⟨(x s.host).result, { s with host := (x s.host).state }, out⟩ := by
  unfold onHost
  refine Step.handling_of_emits _ fun e _ => ?_
  cases e with
  | log e => exact ⟨.log e, rfl⟩
  | moveCaret line => exact ⟨.moveCaret line, rfl⟩

/-- A call on the host changes nothing but the host. -/
theorem onHost_state {α : Type} (x : Host.Call Unit α) : (onHost x s).state = { s with host := (x s.host).state } := by
  obtain ⟨out, hout⟩ := exists_onHost x s
  rw [hout]

/-- A call on the host returns what the host returns. -/
theorem onHost_result {α : Type} (x : Host.Call Unit α) : (onHost x s).result = (x s.host).result := by
  obtain ⟨out, hout⟩ := exists_onHost x s
  rw [hout]

variable [Json.Room] [Server]

/-- A call on the surface that sends nothing changes nothing else. -/
theorem onSurface_state {α : Type} {x : Surface.Call α} (hquiet : Surface.Quiet (x s.surface).emitted) :
    (onSurface x s).state = { s with surface := (x s.surface).state } := by
  unfold onSurface
  refine Step.handling_state fun e he => ?_
  rcases hquiet e he with ⟨entry, rfl⟩ | ⟨what, result, rfl⟩
  · exact ⟨.log entry, rfl⟩
  · exact ⟨.update what result, rfl⟩

/-! ## Polls -/

/-- The request of a poll is answered on the spot, and no event comes of it. -/
theorem request_pollRequest (hopen : s.host.channel.stopped = false) (hfits : Fits s.client.version) :
    request s.client.pollRequest s =
      ⟨.ok (if s.host.channel.token = s.client.token ∧ s.client.token ≠ "" then
          match s.host.channel.buffer.nextAfter s.client.version with
          | none => .response 204 ""
          | some e => .response 200 (Channel.envelopeBody e)
        else .response 401 "unauthorized"), s, []⟩ := by
  have hanswer := answer_pollRequest hopen s.client.token s.client.version
  rw [← signed_pollRequest] at hanswer
  have hpoll := answerPoll_pollRequest (c := s.host.channel) hfits s.client.token
  rw [← signed_pollRequest] at hpoll
  simp only [request, Channel.exchange, Step.bind_run, Step.get_run, hanswer]
  by_cases htoken : s.host.channel.token = s.client.token ∧ s.client.token ≠ ""
  · simp only [if_pos htoken, hpoll]
    cases s.host.channel.buffer.nextAfter s.client.version <;> rfl
  · simp only [if_neg htoken]
    rfl

/-- The state that a poll leaves, from that of the client's poll. -/
theorem poll_state :
    (poll s).state =
      let p := (Client.poll .log request (fun _ m => onSurface (Surface.receive (.value m))) (s.client, s)).state
      { p.2 with client := p.1 } := by
  unfold poll
  rw [Step.within_run]

variable (hopen : s.host.channel.stopped = false) (hfits : Fits s.client.version)

include hopen hfits

/-- A poll without the secret, or when there is nothing newer, changes nothing. -/
theorem poll_of_nothing (h : ¬(s.host.channel.token = s.client.token ∧ s.client.token ≠ "") ∨
    s.host.channel.buffer.nextAfter s.client.version = none) : (poll s).state = s := by
  have hrequest := request_pollRequest hopen hfits
  by_cases htoken : s.host.channel.token = s.client.token ∧ s.client.token ≠ ""
  · have hnone := h.resolve_left (not_not.2 htoken)
    rw [if_pos htoken, hnone] at hrequest
    rw [poll_state, (poll_of_idle hrequest rfl).2]
  · rw [if_neg htoken] at hrequest
    have haccept : s.client.accept (.response 401 "unauthorized") = .error .unauthorized := rfl
    rw [poll_state, (poll_of_refused hrequest haccept).2]

/-- A version with too many digits does not get through. -/
theorem poll_of_long {e : Envelope} (hnext : s.host.channel.buffer.nextAfter s.client.version = some e) (hlong : ¬Fits e.version) :
    (poll s).state = s := by
  have hrequest := request_pollRequest hopen hfits
  by_cases htoken : s.host.channel.token = s.client.token ∧ s.client.token ≠ ""
  · have haccept := accept_envelopeBody s.client e
    rw [if_pos htoken, hnext] at hrequest
    rw [if_neg hlong] at haccept
    rw [poll_state, (poll_of_refused hrequest haccept).2]
  · exact poll_of_nothing hopen hfits (Or.inl htoken)

/-- A poll that comes to a message hands it to the surface, and the client knows its version. -/
theorem poll_of_next {e : Envelope} {v : Json} (htoken : s.host.channel.token = s.client.token ∧ s.client.token ≠ "")
    (hnext : s.host.channel.buffer.nextAfter s.client.version = some e) (hversion : Fits e.version)
    (hread : Client.readMessage (.str e.message) = .ok v) (hlisteners : s.client.listeners = [()]) :
    (poll s).result = .ok true ∧
      (poll s).state = { (onSurface (Surface.receive (.value v)) s).state with client := { s.client with version := e.version } } := by
  have hrequest := request_pollRequest hopen hfits
  rw [if_pos htoken, hnext] at hrequest
  have haccept := accept_envelopeBody s.client e
  rw [if_pos hversion] at haccept
  obtain ⟨hresult, hstate⟩ := poll_of_message Effect.log (fun (_ : Unit) v => onSurface (Surface.receive (.value v)))
    hrequest haccept hread
  refine ⟨?_, ?_⟩
  · unfold poll
    rw [Step.within_run]
    dsimp only
    exact hresult
  · rw [poll_state]
    dsimp only
    rw [hstate, hlisteners, notify_state_cons]
    rfl

/-- A poll that finds a message of the host hands it to the surface, which sends nothing. -/
theorem poll_of_told {e : Envelope} {m : Message} {codes : List String}
    (htoken : s.host.channel.token = s.client.token ∧ s.client.token ≠ "")
    (hnext : s.host.channel.buffer.nextAfter s.client.version = some e) (hversion : Fits e.version) (hmessage : e.message = m.encode)
    (hlisteners : s.client.listeners = [()]) (hgate : s.surface.gate.ready = false) (hcodes : codes ≠ []) (hm : m.Told codes)
    (hloads : ∀ text, m.program? = some text →
      ∀ reframe, ∃ r, (s.surface.scene.rebuild text (some (codes.map .str)) reframe).result = .ok r) :
    ∃ surface : Surface, surface.gate.ready = false ∧ Surface.TakesOver codes m s.surface.scene surface.scene ∧
      (poll s).state = { s with surface, client := { s.client with version := e.version } } := by
  obtain ⟨htakes, hready, hquiet⟩ := Surface.receive_told hgate hcodes hm hloads
  have hread : Client.readMessage (.str e.message) = .ok (if m.toJson.fits then m.toJson else .str m.encode) := by
    rw [hmessage]
    exact Message.readMessage_encode hm
  refine ⟨_, hready, htakes, ?_⟩
  rw [(poll_of_next hopen hfits htoken hnext hversion hread hlisteners).2]
  simp only [onSurface_state hquiet]

end ToolpathViewer.Session
