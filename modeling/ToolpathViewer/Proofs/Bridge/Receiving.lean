import ToolpathViewer.Proofs.Bridge.Delivery

/-!
# What a poll leaves

A poll is made of a request, of checks of the reply, and of the calls of the listeners. A poll that gets a reply with a message takes over
its version and hands the message to every listener, whatever the listeners do; any other poll leaves the client as it was and calls nobody.
-/

namespace ToolpathViewer.Bridge

variable {ι ε σ : Type}

/-! ## What is heard -/

section Room

variable [Json.Room]

/-- A message as it is heard: the value of a text that is JSON, any other value as it is. -/
def heard : Json → Json
  | .str s => (Json.parse? s).getD (.str s)
  | v => v

/-- The message in some fields is a text that goes too deep. -/
def TooDeep (fields : Json.Fields) : Prop := ∃ m, Json.field? fields "message" = some (.str m) ∧ Json.parse m = .error .tooDeep

/-- A message that does not go too deep is heard. -/
theorem readMessage_of_not_tooDeep {fields : Json.Fields} (h : ¬ TooDeep fields) :
    Client.readMessage (messageIn fields) = .ok (heard (messageIn fields)) := by
  rw [messageIn]
  cases hmessage : Json.field? fields "message" with
  | none => rfl
  | some v =>
    rw [Option.getD_some]
    cases v with
    | str m =>
      cases hparse : Json.parse m with
      | ok read => simp only [Client.readMessage, heard, Json.parse?, hparse, Except.toOption, Option.getD_some]
      | error why =>
        rcases Json.explained_parse m why hparse with rfl | rfl
        · simp only [Client.readMessage, heard, Json.parse?, hparse, Except.toOption, Option.getD_none]
        · exact absurd ⟨m, hmessage, hparse⟩ h
    | null | bool | int | num | arr | obj => rfl

/-! ## A poll as a whole -/

/-- A request next to the notes of the listeners' calls. -/
def asking (fetch : Request → Step ε σ Reply) (r : Request) : Step ε (σ × List (ι × Json)) Reply :=
  (fetch r).within Prod.fst fun s p => (s, p.2)

/-- A poll delivers a message or does nothing. When it does not return that it delivered one, the client is as it was and no listener was
called. When it does, the reply had fields, the client knows their version, and every registered listener was called once for each of its
registrations, in their order, with the message as it is heard, whatever listeners fail. It delivers one whenever the reply has fields
whose version denotes an integer or is missing, and there is none exactly when the reply says so. -/
theorem poll_all_or_nothing (log : Log.Entry → ε) (fetch : Request → Step ε σ Reply) (call : ι → Json → Step ε σ Unit) (c : Client ι)
    (s : σ) (hdepth : ∀ reply fields, (fetch c.pollRequest s).result = .ok reply → reply.Has fields → ¬ TooDeep fields)
    {t : Turn ε (Client ι × σ × List (ι × Json)) Bool} (ht : Client.poll log (asking fetch) (noting call) (c, s, []) = t) :
    (t.result ≠ .ok true → t.state.1 = c ∧ t.state.2.2 = []) ∧
      (t.result = .ok true → ∃ reply fields version, (fetch c.pollRequest s).result = .ok reply ∧ reply.Has fields ∧
        Numbered c.version fields version ∧ t.state.1 = { c with version } ∧
        t.state.2.2 = c.listeners.map fun l => (l, heard (messageIn fields))) ∧
      (∀ reply fields version, (fetch c.pollRequest s).result = .ok reply → reply.Has fields → Numbered c.version fields version →
        t.result = .ok true) ∧
      (t.result = .ok false ↔ ∃ body, (fetch c.pollRequest s).result = .ok (.response 204 body)) := by
  subst ht
  have hfetch : asking fetch c.pollRequest (s, []) =
      ⟨(fetch c.pollRequest s).result, ((fetch c.pollRequest s).state, ([] : List (ι × Json))), (fetch c.pollRequest s).emitted⟩ := rfl
  generalize (fetch c.pollRequest s).result = answer at hdepth hfetch ⊢
  cases answer with
  | error why =>
    rw [(poll_of_unanswered hfetch).1, (poll_of_unanswered hfetch).2]
    exact ⟨fun _ => ⟨rfl, rfl⟩, nofun, nofun, by simp⟩
  | ok reply =>
    by_cases hmessage : ∃ found, c.accept reply = .ok (some found)
    · obtain ⟨⟨version, raw⟩, haccept⟩ := hmessage
      obtain ⟨fields, hfields, hversion, rfl⟩ := (c.accept_eq_some_iff _ _ _).1 haccept
      have hread := readMessage_of_not_tooDeep (hdepth reply fields rfl hfields)
      obtain ⟨hresult, hstate⟩ := poll_of_message log (noting call) hfetch haccept hread
      rw [hresult, hstate]
      refine ⟨fun hne => absurd rfl hne, fun _ => ?_, fun _ _ _ _ _ _ => rfl, ?_⟩
      · exact ⟨reply, fields, version, rfl, hfields, hversion, rfl, Exchange.notify_noting _ _ _ _⟩
      · constructor
        · nofun
        · rintro ⟨body, ⟨⟩⟩
          cases haccept.symm.trans ((c.accept_eq_none_iff _).2 ⟨body, rfl⟩)
    · have hnone : ∀ found, c.accept reply ≠ .ok (some found) := fun found haccept => hmessage ⟨found, haccept⟩
      rw [(poll_of_no_message hfetch hnone).1, (poll_of_no_message hfetch hnone).2]
      refine ⟨fun _ => ⟨rfl, rfl⟩, ?_, ?_, ?_⟩
      · intro hdelivered
        cases haccept : c.accept reply <;> rw [haccept] at hdelivered <;> cases hdelivered
      · rintro reply' fields version ⟨⟩ hfields hversion
        exact absurd ((c.accept_eq_some_iff _ _ _).2 ⟨fields, hfields, hversion, rfl⟩) (hnone _)
      · simp only [Except.ok.injEq, ← c.accept_eq_none_iff reply]
        rcases haccept : c.accept reply with why | _ | found
        · simp [Except.map]
        · simp [Except.map]
        · exact absurd haccept (hnone found)

end Room

section Usual

attribute [local instance] Json.Room.usual

/-- A bare word is not JSON. -/
theorem parse_plain : Json.parse "plain" = .error .malformedJson := by
  have hkind : (Json.parse "plain").map (fun _ => ()) = .error .malformedJson := by decide +kernel
  cases hparse : Json.parse "plain" with
  | ok v =>
    rw [hparse] at hkind
    cases hkind
  | error why =>
    rw [hparse] at hkind
    cases hkind
    rfl

/-- A client with a listener that fails and another that is registered twice. -/
def listened : Client String := (((Client.make "" "s").addListener "broken").addListener "view").addListener "view"

/-- A listener that fails does not keep the others from a message, which here is no JSON. -/
theorem poll_all_or_nothing_failing_listener :
    ∃ t : Turn Log.Entry (Client String × Unit × List (String × Json)) Bool,
      Client.poll id (asking fun _ => pure (.response 200 (Channel.envelopeBody ⟨7, "plain"⟩)))
        (noting fun l _ => if l = "broken" then Step.fail .dispatchFailed else pure ()) (listened, (), []) = t ∧
      t.result = .ok true ∧ t.state.1.version = 7 ∧
      t.state.2.2 = [("broken", .str "plain"), ("view", .str "plain"), ("view", .str "plain")] := by
  have hhas : Reply.Has (.response 200 (Channel.envelopeBody ⟨7, "plain"⟩)) [("message", .str "plain"), ("version", .int 7)] :=
    has_envelope (by decide)
  have hshallow : ¬ TooDeep [("message", .str "plain"), ("version", .int 7)] := by
    rintro ⟨m, hm, hdeep⟩
    cases hm
    cases hdeep.symm.trans parse_plain
  obtain ⟨-, hdelivered, hreturns, -⟩ := poll_all_or_nothing id (fun _ => pure (.response 200 (Channel.envelopeBody ⟨7, "plain"⟩)))
    (fun l _ => if l = "broken" then Step.fail .dispatchFailed else pure ()) listened ()
    (by
      rintro reply fields ⟨⟩ hfields
      exact hfields.fields_eq hhas ▸ hshallow) rfl
  have hresult := hreturns _ _ 7 rfl hhas (.inr ⟨.int 7, rfl, rfl⟩)
  obtain ⟨reply, fields, version, ⟨⟩, hfields, hversion, hclient, hcalls⟩ := hdelivered hresult
  obtain rfl := hfields.fields_eq hhas
  have hseven : version = 7 := by
    rcases hversion with ⟨hnone, -⟩ | ⟨v, hv, hversion⟩
    · cases hnone
    · cases hv
      cases hversion
      rfl
  have hheard : heard (messageIn [("message", .str "plain"), ("version", .int 7)]) = .str "plain" := by
    change (Json.parse? "plain").getD (.str "plain") = .str "plain"
    rw [Json.parse?, parse_plain]
    rfl
  refine ⟨_, rfl, hresult, ?_, ?_⟩
  · rw [hclient, hseven]
  · rw [hcalls, hheard]
    rfl

end Usual

end ToolpathViewer.Bridge
