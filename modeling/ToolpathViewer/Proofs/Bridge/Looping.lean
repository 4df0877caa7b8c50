import ToolpathViewer.Proofs.Bridge.Receiving

/-!
# The polling loop

The loop polls again after a poll that delivers a message, finds nothing new, or fails in one of the ways it knows. Which replies lead to
which of these is said of the replies alone, and so is at which replies the loop ends instead: an answer that is no object, a version that
is no number and no text, an infinite one, and values that nest too deeply.
-/

namespace ToolpathViewer.Bridge

open Client

variable {ι ε σ τ : Type}

/-! ## Outcomes -/

/-- What the loop takes a poll for. -/
inductive Outcome where
  | delivered
  | idle
  | failed
deriving DecidableEq

namespace Outcome

/-- The pause after a poll. -/
def pause : Outcome → Float
  | delivered => pauseAfterMessage
  | idle => pauseWhenIdle
  | failed => pauseAfterFailure

/-- The outcome of a poll by its result, unless the loop ends there. -/
def of? : Except Fault Bool → Option Outcome
  | .ok true => some delivered
  | .ok false => some idle
  | .error why => if isRecoverable why then some failed else none

end Outcome

/-! ## Turns of the loop -/

section Turns

variable (log : Log.Entry → ε) {once : Step ε σ Bool}

/-- A turn whose poll comes to an outcome pauses as the outcome asks for, and goes on from where the poll led. -/
theorem turn_of_some {s : σ} {outcome : Outcome} (h : Outcome.of? (once s).result = some outcome) :
    (turn log once s).result = .ok outcome.pause ∧ (turn log once s).state = (once s).state := by
  cases hresult : (once s).result with
  | ok delivered => cases delivered <;> rw [hresult] at h <;> cases h <;> simp [turn, hresult, Outcome.pause]
  | error why =>
    by_cases hwhy : isRecoverable why = true
    · rw [hresult, Outcome.of?, if_pos hwhy] at h
      cases h
      simp [turn, hresult, hwhy, Outcome.pause]
    · rw [hresult, Outcome.of?, if_neg hwhy] at h
      cases h

/-- A turn whose poll fails for another reason fails for that reason. -/
theorem turn_of_fault {s : σ} {why : Fault} (h : (once s).result = .error why) (hwhy : isRecoverable why = false) :
    (turn log once s).result = .error why ∧ (turn log once s).state = (once s).state := by
  simp [turn, h, hwhy]

/-- What polls in a row leave. -/
def pollsFrom (once : Step ε σ Bool) (s : σ) : Nat → σ
  | 0 => s
  | k + 1 => pollsFrom once (once s).state k

/-- While every poll comes to an outcome there is a turn for each, with the pause of its outcome. -/
theorem turns_of_some {outcomes : Nat → Outcome} {n : Nat} {s : σ}
    (h : ∀ k < n, Outcome.of? (once (pollsFrom once s k)).result = some (outcomes k)) :
    (turns log once n s).result = .ok ((List.range n).map fun k => (outcomes k).pause) ∧
      (turns log once n s).state = pollsFrom once s n := by
  induction n generalizing s outcomes with
  | zero => exact ⟨rfl, rfl⟩
  | succ n ih =>
    obtain ⟨hresult, hstate⟩ := turn_of_some log (h 0 n.succ_pos)
    obtain ⟨hrest, hlast⟩ := ih fun k hk => h (k + 1) (Nat.succ_lt_succ hk)
    simp only [pollsFrom] at hresult hstate
    rw [List.range_succ_eq_map, List.map_cons, List.map_map]
    simp only [turns, Step.bind_run, Step.pure_run, hresult, hstate, hrest, hlast]
    exact ⟨rfl, rfl⟩

/-- At the first poll that fails in a way it does not know the loop ends. -/
theorem turns_of_fault {k n : Nat} (hk : k < n) {s : σ} {why : Fault}
    (hbefore : ∀ j < k, ∃ outcome, Outcome.of? (once (pollsFrom once s j)).result = some outcome)
    (h : (once (pollsFrom once s k)).result = .error why) (hwhy : isRecoverable why = false) :
    (turns log once n s).result = .error why ∧ (turns log once n s).state = pollsFrom once s (k + 1) := by
  induction k generalizing n s with
  | zero =>
    obtain ⟨n, rfl⟩ := Nat.exists_eq_add_one.2 hk
    obtain ⟨hresult, hstate⟩ := turn_of_fault log h hwhy
    simp only [pollsFrom] at hresult hstate ⊢
    simp only [turns, Step.bind_run, hresult, hstate, and_self]
  | succ k ih =>
    obtain ⟨n, rfl⟩ := Nat.exists_eq_add_one.2 (Nat.zero_lt_of_lt hk)
    obtain ⟨outcome, hfirst⟩ := hbefore 0 k.succ_pos
    obtain ⟨hresult, hstate⟩ := turn_of_some log hfirst
    obtain ⟨hrest, hlast⟩ := ih (Nat.lt_of_succ_lt_succ hk) (fun j hj => hbefore (j + 1) (Nat.succ_lt_succ hj)) h
    simp only [pollsFrom] at hresult hstate hlast ⊢
    simp only [turns, Step.bind_run, hresult, hstate, hrest, hlast, and_self]

variable (once) in
/-- The loop is its turns behind the report of its start. -/
theorem run_eq_turns (endpoint : String) (n : Nat) (s : σ) :
    (run log endpoint once n s).result = (turns log once n s).result ∧ (run log endpoint once n s).state = (turns log once n s).state := by
  simp [run]

end Turns

/-! ## Given replies -/

/-- The next reply, by the number of polls so far. -/
def answering (replies : Nat → Reply) (_ : Request) : Step ε (Nat × σ) Reply := do
  let (k, _) ← Step.get
  Step.update fun s => (s.1 + 1, s.2)
  return replies k

/-- A listener's call next to the number of polls. -/
def besides (call : ι → Json → Step ε σ Unit) (l : ι) (message : Json) : Step ε (Nat × σ) Unit :=
  (call l message).within Prod.snd fun s p => (p.1, s)

section Replies

variable (log : Log.Entry → ε) {replies : Nat → Reply} (call : ι → Json → Step ε σ Unit)

/-- Each request is answered by the next reply. -/
theorem answering_run (r : Request) (k : Nat) (s : σ) :
    (answering replies r : Step ε (Nat × σ) Reply) (k, s) = ⟨.ok (replies k), (k + 1, s), []⟩ := by
  simp [answering]

/-- Telling a listener uses up no reply. -/
theorem keeps_tell (message : Json) (l : ι) : (tell log (besides call) message l).Keeps Prod.fst := by
  intro s
  rw [(tell_run message l).2]
  rfl

/-- Telling all listeners uses up no reply. -/
theorem keeps_notify (message : Json) (listeners : List ι) : (Client.notify log (besides call) message listeners).Keeps Prod.fst :=
  Step.Keeps.each (keeps_tell log call message) listeners

end Replies

/-! ## What a reply leads to -/

/-- Whether a version denotes an integer does not depend on what was known before. -/
theorem Numbered.known {known version : Int} {fields : Json.Fields} (h : Numbered known fields version) (known' : Int) :
    ∃ version', Numbered known' fields version' := by
  rcases h with ⟨hnone, -⟩ | hversion
  · exact ⟨known', .inl ⟨hnone, rfl⟩⟩
  · exact ⟨version, .inr hversion⟩

section Room

variable [Json.Room]

namespace Reply

/-- The outcome of a poll that gets a reply and after which the loop goes on. -/
inductive ComesTo : Reply → Outcome → Prop where
  | unreachable : ComesTo .unreachable .failed
  | nothing (body : String) : ComesTo (.response 204 body) .idle
  | refused {status : Nat} (body : String) (h204 : status ≠ 204) (h200 : status ≠ 200) : ComesTo (.response status body) .failed
  | unreadable {body : String} (h : Json.parse body = .error .malformedJson) : ComesTo (.response 200 body) .failed
  /-- A text that is no integer. -/
  | misspelled {reply : Reply} {fields : Json.Fields} {text : String} (h : reply.Has fields)
    (hversion : Json.field? fields "version" = some (.str text)) (hno : Decimal.readInt? text.toList = none) : ComesTo reply .failed
  | notANumber {reply : Reply} {fields : Json.Fields} {x : Float} (h : reply.Has fields)
    (hversion : Json.field? fields "version" = some (.num x)) (hnan : Decimal.parts x = .nan) : ComesTo reply .failed
  | delivered {reply : Reply} {fields : Json.Fields} {known version : Int} (h : reply.Has fields)
    (hversion : Numbered known fields version) (hdepth : ¬ TooDeep fields) : ComesTo reply .delivered

/-- The fault with which the loop ends when a poll gets a reply. -/
inductive Ends : Reply → Fault → Prop where
  | deepBody {body : String} (h : Json.parse body = .error .tooDeep) : Ends (.response 200 body) .tooDeep
  | noObject {body : String} {v : Json} (h : Json.parse body = .ok v) (hno : ∀ fields, v ≠ .obj fields) :
    Ends (.response 200 body) .noFields
  | wrongType {reply : Reply} {fields : Json.Fields} {v : Json} (h : reply.Has fields)
    (hversion : Json.field? fields "version" = some v) (hv : v = .null ∨ (∃ items, v = .arr items) ∨ ∃ inner, v = .obj inner) :
    Ends reply .wrongType
  | infinite {reply : Reply} {fields : Json.Fields} {x : Float} {negative : Bool} (h : reply.Has fields)
    (hversion : Json.field? fields "version" = some (.num x)) (hinfinite : Decimal.parts x = .infinite negative) : Ends reply .overflow
  | deepMessage {reply : Reply} {fields : Json.Fields} {known version : Int} (h : reply.Has fields)
    (hversion : Numbered known fields version) (hdeep : TooDeep fields) : Ends reply .tooDeep

end Reply

/-- What a version field can be. -/
theorem version_cases {reply : Reply} {fields : Json.Fields} (h : reply.Has fields) :
    (∃ version, Numbered 0 fields version) ∨ reply.ComesTo .failed ∨ ∃ why, reply.Ends why := by
  cases hversion : Json.field? fields "version" with
  | none => exact .inl ⟨0, .inl ⟨hversion, rfl⟩⟩
  | some v =>
    have hnumber : ∀ version, versionOf v = .ok version → ∃ version, Numbered 0 fields version :=
      fun version hok => ⟨version, .inr ⟨v, hversion, hok⟩⟩
    cases v with
    | null => exact .inr (.inr ⟨_, .wrongType h hversion (.inl rfl)⟩)
    | arr items => exact .inr (.inr ⟨_, .wrongType h hversion (.inr (.inl ⟨items, rfl⟩))⟩)
    | obj inner => exact .inr (.inr ⟨_, .wrongType h hversion (.inr (.inr ⟨inner, rfl⟩))⟩)
    | bool b => exact .inl (hnumber _ rfl)
    | int n => exact .inl (hnumber _ rfl)
    | str text =>
      cases hread : Decimal.readInt? text.toList with
      | none => exact .inr (.inl (.misspelled h hversion hread))
      | some n => exact .inl (hnumber n (by simp only [versionOf, hread]))
    | num x =>
      cases hparts : Decimal.parts x with
      | nan => exact .inr (.inl (.notANumber h hversion hparts))
      | infinite negative => exact .inr (.inr ⟨_, .infinite h hversion hparts⟩)
      | finite b => exact .inl (hnumber b.truncate (by simp only [versionOf, hparts]))

/-- After every reply the loop goes on or ends. -/
theorem Reply.comesTo_or_ends (reply : Reply) : (∃ outcome, reply.ComesTo outcome) ∨ ∃ why, reply.Ends why := by
  rcases reply.cases with rfl | ⟨status, body, hstatus, rfl⟩ | ⟨fields, hfields⟩ | ⟨body, rfl, hfields⟩
  · exact .inl ⟨_, .unreachable⟩
  · by_cases hnothing : status = 204
    · subst hnothing
      exact .inl ⟨_, .nothing body⟩
    · exact .inl ⟨_, .refused body hnothing hstatus⟩
  · rcases version_cases hfields with ⟨version, hversion⟩ | hfailed | hends
    · by_cases hdeep : TooDeep fields
      · exact .inr ⟨_, .deepMessage hfields hversion hdeep⟩
      · exact .inl ⟨_, .delivered hfields hversion hdeep⟩
    · exact .inl ⟨_, hfailed⟩
    · exact .inr hends
  · cases hread : Json.parse body with
    | ok v => exact .inr ⟨_, .noObject hread fun fields hv => hfields fields (by rw [hread, hv])⟩
    | error why =>
      rcases Json.explained_parse body why hread with rfl | rfl
      · exact .inl ⟨_, .unreadable hread⟩
      · exact .inr ⟨_, .deepBody hread⟩

/-! ## A poll in the loop -/

section Poll

variable {log : Log.Entry → ε} {fetch : Request → Step ε τ Reply} {call : ι → Json → Step ε τ Unit}
variable {c : Client ι} {s s' : τ} {reply : Reply} {out : List ε}

/-- The message of fields that hold one which nests too deeply cannot be read. -/
theorem readMessage_of_tooDeep {fields : Json.Fields} (h : TooDeep fields) : readMessage (messageIn fields) = .error .tooDeep := by
  obtain ⟨m, hmessage, hdeep⟩ := h
  rw [messageIn, hmessage, Option.getD_some]
  exact Exchange.readMessage_of_tooDeep hdeep

/-- A reply whose version is no integer fails with the reason for that. -/
theorem accept_of_version {fields : Json.Fields} {v : Json} (c : Client ι) (h : reply.Has fields)
    (hversion : Json.field? fields "version" = some v) {why : Fault} (hwhy : versionOf v = .error why) : c.accept reply = .error why := by
  rw [c.accept_of_has h, hversion, Option.getD_some, hwhy]
  rfl

/-- A reply that holds a message is taken over from, and the poll comes to what reading the message comes to. -/
theorem poll_result_of_numbered (hfetch : fetch c.pollRequest s = ⟨.ok reply, s', out⟩) {fields : Json.Fields} {known version : Int}
    (h : reply.Has fields) (hversion : Numbered known fields version) :
    (Client.poll log fetch call (c, s)).result = (readMessage (messageIn fields)).map fun _ => true := by
  obtain ⟨version', hversion'⟩ := hversion.known c.version
  have haccept := (c.accept_eq_some_iff reply version' _).2 ⟨fields, h, hversion', rfl⟩
  cases hread : readMessage (messageIn fields) with
  | ok message => exact (poll_of_message log call hfetch haccept hread).1
  | error why => exact (poll_of_unread hfetch haccept hread).1

/-- The outcome of a poll is that of the reply that it gets. -/
theorem outcome_of_comesTo (hfetch : fetch c.pollRequest s = ⟨.ok reply, s', out⟩) {outcome : Outcome} (h : reply.ComesTo outcome) :
    Outcome.of? (Client.poll log fetch call (c, s)).result = some outcome := by
  have hfailed : ∀ why, c.accept reply = .error why → isRecoverable why = true →
      Outcome.of? (Client.poll log fetch call (c, s)).result = some .failed := by
    intro why haccept hwhy
    rw [(poll_of_refused hfetch haccept).1, Outcome.of?, if_pos hwhy]
  cases h with
  | unreachable => exact hfailed .unreachable rfl rfl
  | nothing body => rw [(poll_of_idle hfetch ((c.accept_eq_none_iff _).2 ⟨body, rfl⟩)).1, Outcome.of?]
  | @refused status body h204 h200 =>
    have haccept := c.accept_of_status h200 body
    rw [if_neg h204] at haccept
    refine hfailed _ haccept ?_
    split <;> rfl
  | @unreadable body hread =>
    have haccept := c.accept_of_no_fields fun fields hobj => by cases hread.symm.trans hobj
    rw [hread] at haccept
    exact hfailed .malformedJson haccept rfl
  | misspelled hfields hversion hno =>
    exact hfailed .malformedInteger (accept_of_version c hfields hversion (by simp only [versionOf, hno])) rfl
  | notANumber hfields hversion hnan =>
    exact hfailed .notANumber (accept_of_version c hfields hversion (by simp only [versionOf, hnan])) rfl
  | delivered hfields hversion hdepth =>
    rw [poll_result_of_numbered hfetch hfields hversion, readMessage_of_not_tooDeep hdepth]
    rfl

variable (log call) in
/-- A poll that gets a reply at which the loop ends fails in a way that the loop does not know. -/
theorem result_of_ends (hfetch : fetch c.pollRequest s = ⟨.ok reply, s', out⟩) {why : Fault} (h : reply.Ends why) :
    (Client.poll log fetch call (c, s)).result = .error why ∧ isRecoverable why = false := by
  cases h with
  | @deepBody body hread =>
    have haccept := c.accept_of_no_fields fun fields hobj => by cases hread.symm.trans hobj
    rw [hread] at haccept
    exact ⟨(poll_of_refused hfetch haccept).1, rfl⟩
  | @noObject body v hread hno =>
    have haccept := c.accept_of_no_fields fun fields hobj => hno fields (Except.ok.inj (hread.symm.trans hobj))
    rw [hread] at haccept
    exact ⟨(poll_of_refused hfetch haccept).1, rfl⟩
  | wrongType hfields hversion hv =>
    have hwhy : ∀ v : Json, (v = .null ∨ (∃ items, v = .arr items) ∨ ∃ inner, v = .obj inner) → versionOf v = .error .wrongType := by
      rintro v (rfl | ⟨items, rfl⟩ | ⟨inner, rfl⟩) <;> rfl
    exact ⟨(poll_of_refused hfetch (accept_of_version c hfields hversion (hwhy _ hv))).1, rfl⟩
  | infinite hfields hversion hinfinite =>
    exact ⟨(poll_of_refused hfetch (accept_of_version c hfields hversion (by simp only [versionOf, hinfinite]))).1, rfl⟩
  | deepMessage hfields hversion hdeep =>
    rw [poll_result_of_numbered hfetch hfields hversion, readMessage_of_tooDeep hdeep]
    exact ⟨rfl, rfl⟩

end Poll

/-! ## A loop that gets given replies -/

/-- The polls of a client that gets the replies in order. -/
def answered (log : Log.Entry → ε) (replies : Nat → Reply) (call : ι → Json → Step ε σ Unit) : Step ε (Client ι × Nat × σ) Bool :=
  Client.poll log (answering replies) (besides call)

section Replies

variable (log : Log.Entry → ε) {replies : Nat → Reply} (call : ι → Json → Step ε σ Unit)

/-- Every poll makes one request. -/
theorem count_answered (c : Client ι) (k : Nat) (s : σ) : (answered log replies call (c, k, s)).state.2.1 = k + 1 := by
  rw [answered]
  cases haccept : c.accept (replies k) with
  | error why => rw [(poll_of_refused (answering_run _ k s) haccept).2]
  | ok found =>
    cases found with
    | none => rw [(poll_of_idle (answering_run _ k s) haccept).2]
    | some found =>
      cases hread : readMessage found.2 with
      | error why => rw [(poll_of_unread (answering_run _ k s) haccept hread).2]
      | ok message =>
        rw [(poll_of_message log (besides call) (answering_run _ k s) haccept hread).2]
        exact keeps_notify log call message c.listeners (k + 1, s)

variable (replies) in
/-- Every poll uses up one reply. -/
theorem count_pollsFrom (p : Client ι × Nat × σ) (k : Nat) : (pollsFrom (answered log replies call) p k).2.1 = p.2.1 + k := by
  induction k generalizing p with
  | zero => rfl
  | succ k ih =>
    obtain ⟨c, m, s⟩ := p
    rw [pollsFrom, ih, count_answered, Nat.add_assoc, Nat.add_comm 1]

variable (replies) in
/-- The poll that gets the reply of its turn. -/
theorem answered_pollsFrom (c : Client ι) (s : σ) (k : Nat) :
    ∃ c' s', pollsFrom (answered log replies call) (c, 0, s) k = (c', k, s') := by
  have hcount := count_pollsFrom log replies call (c, 0, s) k
  rw [Nat.zero_add] at hcount
  exact ⟨_, _, Prod.ext rfl (Prod.ext hcount rfl)⟩

/-- The poll that gets a reply comes to what the reply comes to. -/
theorem of?_pollsFrom (c : Client ι) (s : σ) {k : Nat} {outcome : Outcome} (h : (replies k).ComesTo outcome) :
    Outcome.of? (answered log replies call (pollsFrom (answered log replies call) (c, 0, s) k)).result = some outcome := by
  obtain ⟨c', s', hbefore⟩ := answered_pollsFrom log replies call c s k
  rw [hbefore]
  exact outcome_of_comesTo (answering_run _ k s') h

/-- A loop that gets no other replies than those after which it goes on makes all its turns. -/
theorem run_of_comesTo (endpoint : String) (c : Client ι) (s : σ) {n : Nat} {outcomes : Nat → Outcome}
    (h : ∀ k < n, (replies k).ComesTo (outcomes k)) :
    (Client.run log endpoint (answered log replies call) n (c, 0, s)).result = .ok ((List.range n).map fun k => (outcomes k).pause) ∧
      (Client.run log endpoint (answered log replies call) n (c, 0, s)).state.2.1 = n := by
  obtain ⟨hresult, hstate⟩ := run_eq_turns log (answered log replies call) endpoint n (c, 0, s)
  obtain ⟨hturns, hlast⟩ := turns_of_some log fun k hk => of?_pollsFrom log call c s (h k hk)
  rw [hresult, hstate, hturns, hlast, count_pollsFrom, Nat.zero_add]
  exact ⟨rfl, rfl⟩

/-- A loop ends at the first reply after which it does not go on. -/
theorem run_of_ends (endpoint : String) (c : Client ι) (s : σ) {k n : Nat} (hk : k < n)
    (hbefore : ∀ j < k, ∃ outcome, (replies j).ComesTo outcome) {why : Fault} (h : (replies k).Ends why) :
    (Client.run log endpoint (answered log replies call) n (c, 0, s)).result = .error why ∧
      (Client.run log endpoint (answered log replies call) n (c, 0, s)).state.2.1 = k + 1 := by
  obtain ⟨hresult, hstate⟩ := run_eq_turns log (answered log replies call) endpoint n (c, 0, s)
  obtain ⟨c', s', hat⟩ := answered_pollsFrom log replies call c s k
  obtain ⟨hfault, hwhy⟩ := result_of_ends log (besides call) (answering_run _ k s') h
  have hfirst : ∀ j < k, ∃ outcome,
      Outcome.of? (answered log replies call (pollsFrom (answered log replies call) (c, 0, s) j)).result = some outcome := by
    intro j hj
    obtain ⟨outcome, hcomes⟩ := hbefore j hj
    exact ⟨outcome, of?_pollsFrom log call c s hcomes⟩
  obtain ⟨hturns, hlast⟩ := turns_of_fault log hk hfirst (hat ▸ hfault) hwhy
  rw [hresult, hstate, hturns, hlast, count_pollsFrom, Nat.zero_add]
  exact ⟨rfl, rfl⟩

end Replies

/-- The loop of a client that gets given replies. After every reply it goes on or ends. As long as the replies are such that it goes on it
makes one poll for each until it is stopped, and no fault comes out of it; at the first other reply it ends with the fault of that reply. -/
theorem loop_goes_on_or_ends (log : Log.Entry → ε) (endpoint : String) (replies : Nat → Reply) (call : ι → Json → Step ε σ Unit)
    (c : Client ι) (s : σ) (n : Nat) {t : Turn ε (Client ι × Nat × σ) (List Float)}
    (ht : Client.run log endpoint (answered log replies call) n (c, 0, s) = t) :
    (∀ reply : Reply, (∃ outcome, reply.ComesTo outcome) ∨ ∃ why, reply.Ends why) ∧
      (∀ outcomes : Nat → Outcome, (∀ k < n, (replies k).ComesTo (outcomes k)) →
        t.result = .ok ((List.range n).map fun k => (outcomes k).pause) ∧ t.state.2.1 = n) ∧
      ∀ k < n, ∀ why, (∀ j < k, ∃ outcome, (replies j).ComesTo outcome) → (replies k).Ends why →
        t.result = .error why ∧ t.state.2.1 = k + 1 := by
  subst ht
  refine ⟨Reply.comesTo_or_ends, ?_, ?_⟩
  · intro outcomes hall
    exact run_of_comesTo log call endpoint c s hall
  · intro k hk why hbefore hends
    exact run_of_ends log call endpoint c s hk hbefore hends

/-! ## Replies at which the loop ends -/

/-- A reply with a written object has the fields of the object. -/
theorem has_of_compact {fields : Json.Fields} (h : Json.Readable Json.maxDepth (.obj fields)) (hfits : (Json.obj fields).fits = true) :
    Reply.Has (.response 200 (Json.obj fields).compact) fields := by
  refine ⟨_, rfl, ?_⟩
  rw [Json.parse_compact h, hfits]
  rfl

/-- A version that is null ends the loop. -/
theorem ends_nullVersion : Reply.Ends (.response 200 "\x7b\"version\":null\x7d") .wrongType := by
  have hhas : Reply.Has (.response 200 (Json.obj [("version", .null)]).compact) [("version", .null)] :=
    has_of_compact (.ample (.obj (by simp) (List.forall_mem_singleton.2 .null))) rfl
  exact .wrongType hhas rfl (.inl rfl)

/-- A body that is an empty array ends the loop. -/
theorem ends_array : Reply.Ends (.response 200 "[]") .noFields := by
  have hparse : Json.parse (Json.arr []).compact = .ok (.arr []) := Json.parse_compact (.ample (.arr nofun))
  exact .noObject hparse nofun

end Room

section Usual

attribute [local instance] Json.Room.usual

/-- Nothing new, an unreachable host, a refusal, and then an answer that is no object: the loop makes four polls. -/
theorem loop_goes_on_or_ends_fourth_reply :
    ∃ t : Turn Log.Entry (Client String × Nat × Unit) (List Float),
      Client.run id "" (answered id (fun k => [.response 204 "", .unreachable, .response 500 ""].getD k (.response 200 "[]"))
        fun _ _ => pure ()) 9 (listened, 0, ()) = t ∧ t.result = .error .noFields ∧ t.state.2.1 = 4 := by
  obtain ⟨-, -, hends⟩ := loop_goes_on_or_ends id ""
    (fun k => [.response 204 "", .unreachable, .response 500 ""].getD k (.response 200 "[]")) (fun _ _ => pure ()) listened () 9 rfl
  refine ⟨_, rfl, hends 3 (by decide) .noFields ?_ ends_array⟩
  intro j hj
  obtain rfl | rfl | rfl : j = 0 ∨ j = 1 ∨ j = 2 := by omega
  · exact ⟨_, .nothing ""⟩
  · exact ⟨_, .unreachable⟩
  · exact ⟨_, .refused "" (by decide) (by decide)⟩

/-- An answer that is no object, and one whose version is null, end the loop with a fault, though it was not stopped. -/
theorem loop_ended_by_answer :
    (∃ t : Turn Log.Entry (Client String × Nat × Unit) (List Float),
      Client.run id "" (answered id (fun _ => .response 200 "[]") fun _ _ => pure ()) 2 (listened, 0, ()) = t ∧
        t.result = .error .noFields ∧ t.state.2.1 = 1) ∧
      ∃ t : Turn Log.Entry (Client String × Nat × Unit) (List Float),
        Client.run id "" (answered id (fun _ => .response 200 "\x7b\"version\":null\x7d") fun _ _ => pure ()) 2 (listened, 0, ()) = t ∧
          t.result = .error .wrongType ∧ t.state.2.1 = 1 :=
  ⟨⟨_, rfl, run_of_ends id _ "" listened () (by decide) (fun j hj => absurd hj j.not_lt_zero) ends_array⟩,
    ⟨_, rfl, run_of_ends id _ "" listened () (by decide) (fun j hj => absurd hj j.not_lt_zero) ends_nullVersion⟩⟩

end Usual

end ToolpathViewer.Bridge
