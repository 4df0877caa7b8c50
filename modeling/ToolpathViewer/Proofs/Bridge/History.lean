import ToolpathViewer.Proofs.Bridge.Polling

/-!
# Polls in a row

What the polls of one client came to, one after the other. Each brings the message behind the version that the client knew, or the oldest
one that the buffer held when it was answered, or nothing. So the versions that are delivered ascend (`Polled.ascending`), and for every
version that the client is past there is a poll that accounts for it (`Polled.accounted`).
-/

namespace ToolpathViewer.Bridge

open ToolpathViewer.Decimal

variable {ι : Type}

/-! ## What a poll came to -/

/-- A poll that is over: the versions that the client knew before and after it, how many messages had been published when it was
answered, what it returned, and which listeners it called with what. -/
structure Poll (ι : Type) where
  before : Int
  after : Int
  published : Option Nat
  result : Except Fault Bool
  calls : List (ι × Json)

namespace Poll

/-- The poll delivered a message. -/
def delivered (p : Poll ι) : Bool :=
  match p.result with
  | .ok delivered => delivered
  | .error _ => false

/-- The poll brought the message at a place, which is the one behind the version that was asked for, or the oldest one that the buffer
held. -/
structure Brought (capacity : Nat) (messages : List String) (p : Poll ι) (k : Nat) (m : String) : Prop where
  message : messages[k]? = some m
  after : p.after = (k + 1 : Nat)
  fits : Fits p.after
  place : ∃ n, p.published = some n ∧ k = max (asked p.before).toNat (n - capacity)

variable {capacity : Nat} {messages : List String} {p : Poll ι} {k : Nat} {m : String}

/-- A poll that brought a message brought it also among more messages. -/
theorem Brought.append (h : p.Brought capacity messages k m) (more : List String) : p.Brought capacity (messages ++ more) k m := by
  refine ⟨?_, h.after, h.fits, h.place⟩
  rw [List.getElem?_append_left (List.getElem?_eq_some_iff.1 h.message).1, h.message]

/-- A version that was brought is understood when it is asked for. -/
theorem Brought.asked_after (h : p.Brought capacity messages k m) : asked p.after = (k + 1 : Nat) := by
  rw [asked_eq, if_pos h.fits, h.after]

/-- A message that a poll brings is newer than what the poll asked for. -/
theorem Brought.asked_lt (h : p.Brought capacity messages k m) : asked p.before < p.after := by
  obtain ⟨n, -, hplace⟩ := h.place
  rw [h.after]
  omega

/-- The versions in between had been dropped when the poll was answered. -/
theorem Brought.dropped (h : p.Brought capacity messages k m) {v : Nat} (hpos : 1 ≤ v) (hlow : asked p.before < v)
    (hhigh : (v : Int) < p.after) : ∃ n, p.published = some n ∧ v + capacity ≤ n := by
  obtain ⟨n, hpublished, hplace⟩ := h.place
  rw [h.after] at hhigh
  exact ⟨n, hpublished, by omega⟩

variable [Json.Room]

/-- All that a poll can come to. -/
inductive Came (listeners : List ι) (capacity : Nat) (messages : List String) (p : Poll ι) : Prop where
  /-- It brought nothing, or failed. -/
  | nothing (hresult : p.delivered = false) (hafter : p.after = p.before) (hcalls : p.calls = [])
  /-- It brought a message, and every listener got it. -/
  | delivered (k : Nat) (m : String) (message : Json) (h : p.Brought capacity messages k m) (hresult : p.result = .ok true)
    (hread : Client.readMessage (.str m) = .ok message) (hcalls : p.calls = listeners.map fun l => (l, message))
  /-- It brought a message that cannot be read. -/
  | tooDeep (k : Nat) (m : String) (h : p.Brought capacity messages k m) (hresult : p.result = .error .tooDeep)
    (hread : Client.readMessage (.str m) = .error .tooDeep) (hcalls : p.calls = [])

variable {listeners : List ι}

/-- Later messages are not what a poll came to. -/
theorem Came.append (h : p.Came listeners capacity messages) (more : List String) : p.Came listeners capacity (messages ++ more) := by
  cases h with
  | nothing hresult hafter hcalls => exact .nothing hresult hafter hcalls
  | delivered k m message h hresult hread hcalls => exact .delivered k m message (h.append more) hresult hread hcalls
  | tooDeep k m h hresult hread hcalls => exact .tooDeep k m (h.append more) hresult hread hcalls

/-- A poll that delivers brought one of the messages. -/
theorem Came.brought (h : p.Came listeners capacity messages) (hdelivered : p.delivered = true) :
    ∃ k m, p.Brought capacity messages k m := by
  cases h with
  | nothing hresult => exact absurd hdelivered (by simp [hresult])
  | delivered k m message h => exact ⟨k, m, h⟩
  | tooDeep k m h => exact ⟨k, m, h⟩

/-- No poll takes the client back. -/
theorem Came.asked_le (h : p.Came listeners capacity messages) : asked p.before ≤ asked p.after := by
  have hbrought : ∀ k m, p.Brought capacity messages k m → asked p.before ≤ asked p.after := by
    intro k m h
    have hlt := h.asked_lt
    rw [h.after] at hlt
    rw [h.asked_after]
    exact hlt.le
  cases h with
  | nothing hresult hafter => rw [hafter]
  | delivered k m message h => exact hbrought k m h
  | tooDeep k m h => exact hbrought k m h

end Poll

/-! ## Polls in a row -/

/-- Why a client that is past a version is past it: the version was delivered, or a poll passed over it because the buffer had dropped
it, or its message goes too deep. -/
def Accounted (capacity : Nat) (ps : List (Poll ι)) (v : Nat) : Prop :=
  (∃ p ∈ ps, p.delivered = true ∧ p.after = v) ∨
  (∃ p ∈ ps, p.before < v ∧ (v : Int) < p.after ∧ ∃ n, p.published = some n ∧ v + capacity ≤ n) ∨
  ∃ p ∈ ps, p.after = v ∧ p.result = .error .tooDeep

/-- Versions that polls account for stay so when more polls are made. -/
theorem Accounted.append {capacity : Nat} {ps : List (Poll ι)} {v : Nat} (h : Accounted capacity ps v) (more : List (Poll ι)) :
    Accounted capacity (ps ++ more) v := by
  rcases h with ⟨p, hp, h⟩ | ⟨p, hp, h⟩ | ⟨p, hp, h⟩
  · exact Or.inl ⟨p, List.mem_append_left _ hp, h⟩
  · exact Or.inr (Or.inl ⟨p, List.mem_append_left _ hp, h⟩)
  · exact Or.inr (Or.inr ⟨p, List.mem_append_left _ hp, h⟩)

variable [Json.Room]

/-- Polls in a row, from the version that a client starts with to the one that it knows after them. -/
inductive Polled (listeners : List ι) (capacity : Nat) (messages : List String) (start : Int) : List (Poll ι) → Int → Prop where
  | start : Polled listeners capacity messages start [] start
  | poll {ps : List (Poll ι)} {p : Poll ι} (h : Polled listeners capacity messages start ps p.before)
    (hp : p.Came listeners capacity messages) : Polled listeners capacity messages start (ps ++ [p]) p.after

namespace Polled

variable {listeners : List ι} {capacity : Nat} {messages : List String} {start version : Int} {ps : List (Poll ι)}

/-- A history among some messages is one among more messages. -/
theorem append (h : Polled listeners capacity messages start ps version) (more : List String) :
    Polled listeners capacity (messages ++ more) start ps version := by
  induction h with
  | start => exact .start
  | poll h hp ih => exact .poll ih (hp.append more)

/-- Every poll of a history came out in one of the ways in which polls can. -/
theorem came (h : Polled listeners capacity messages start ps version) : ∀ p ∈ ps, p.Came listeners capacity messages := by
  induction h with
  | start => nofun
  | poll h hp ih =>
    intro q hq
    rcases List.mem_append.1 hq with hq | hq
    · exact ih q hq
    · exact List.mem_singleton.1 hq ▸ hp

/-- A client knows the version that it started with, or one that was brought to it. -/
theorem version_cases (h : Polled listeners capacity messages start ps version) : version = start ∨ Fits version := by
  induction h with
  | start => exact Or.inl rfl
  | poll h hp ih =>
    cases hp with
    | nothing hresult hafter => exact hafter ▸ ih
    | delivered k m message hb => exact Or.inr hb.fits
    | tooDeep k m hb => exact Or.inr hb.fits

/-- No delivery of a history is newer than its version. -/
theorem delivered_le (h : Polled listeners capacity messages start ps version) :
    ∀ p ∈ ps, p.delivered = true → p.after ≤ asked version := by
  induction h with
  | start => nofun
  | poll h hp ih =>
    intro q hq hdelivered
    rcases List.mem_append.1 hq with hq | hq
    · exact (ih q hq hdelivered).trans hp.asked_le
    · obtain rfl := List.mem_singleton.1 hq
      obtain ⟨k, m, hb⟩ := hp.brought hdelivered
      rw [hb.asked_after, hb.after]

/-- The versions that are delivered ascend. -/
theorem ascending (h : Polled listeners capacity messages start ps version) :
    ((ps.filter (·.delivered)).map (·.after)).Pairwise (· < ·) := by
  induction h with
  | start => exact List.Pairwise.nil
  | @poll ps p h hp ih =>
    rw [List.filter_append, List.map_append, List.pairwise_append]
    refine ⟨ih, ?_, ?_⟩
    · cases hdelivered : p.delivered <;> simp [hdelivered]
    · intro v hv w hw
      obtain ⟨q, hq, rfl⟩ := List.mem_map.1 hv
      obtain ⟨r, hr, rfl⟩ := List.mem_map.1 hw
      obtain ⟨hq, hqd⟩ := List.mem_filter.1 hq
      obtain ⟨hr, hrd⟩ := List.mem_filter.1 hr
      obtain rfl := List.mem_singleton.1 hr
      obtain ⟨k, m, hb⟩ := hp.brought hrd
      exact (h.delivered_le q hq hqd).trans_lt hb.asked_lt

/-- Every version between the start and the one that the client knows is accounted for. -/
theorem accounted (h : Polled listeners capacity messages start ps version) {v : Nat} (hpos : 1 ≤ v) (hstart : start < v)
    (hv : v ≤ asked version) : Accounted capacity ps v := by
  induction h with
  | start =>
    rw [asked_eq] at hv
    split at hv <;> omega
  | @poll ps p h hp ih =>
    by_cases hold : v ≤ asked p.before
    · exact (ih hold).append [p]
    have hmem : p ∈ ps ++ [p] := List.mem_append_right _ List.mem_cons_self
    have hbefore : p.before < v := by
      rcases h.version_cases with heq | hfits
      · rwa [heq]
      · rw [asked_eq, if_pos hfits] at hold
        omega
    -- The poll brought this version, or a later one.
    have hbrought : ∀ k m, p.Brought capacity messages k m → p.after = v ∨ Accounted capacity (ps ++ [p]) v := by
      intro k m hb
      rw [hb.asked_after, ← hb.after] at hv
      rcases hv.lt_or_eq with hlt | heq
      · exact Or.inr (Or.inr (Or.inl ⟨p, hmem, hbefore, hlt, hb.dropped hpos (not_le.1 hold) hlt⟩))
      · exact Or.inl heq.symm
    cases hp with
    | nothing hresult hafter => exact absurd (hafter ▸ hv) hold
    | delivered k m message hb hresult =>
      refine (hbrought k m hb).elim (fun hafter => Or.inl ⟨p, hmem, ?_, hafter⟩) id
      rw [Poll.delivered, hresult]
    | tooDeep k m hb hresult => exact (hbrought k m hb).elim (fun hafter => Or.inr (Or.inr ⟨p, hmem, hafter, hresult⟩)) id

end Polled

end ToolpathViewer.Bridge
