import Mathlib.Tactic
import ToolpathViewer.Bridge.Buffer

/-!
# What a buffer holds

After any messages a buffer holds the last ones of them, as many as it has room for, numbered from 1 over all messages. A reader gets
the oldest one that is newer than the version it knows, and gets past the messages that were dropped in between.
-/

namespace ToolpathViewer.Bridge.Buffer

/-- The buffer after some messages. -/
def filled (capacity : Nat) (messages : List String) : Buffer :=
  messages.foldl (fun b m => (b.append m).2) { capacity }

/-- The messages with their versions, the first of which is 1. -/
def numbered (messages : List String) : List Envelope :=
  messages.zipIdx.map fun p => ⟨p.2 + 1, p.1⟩

/-- A new buffer has room for a message. -/
theorem make_eq_ok {capacity : Int} {b : Buffer} (h : make capacity = .ok b) : b = { capacity := capacity.toNat } ∧ 0 < capacity := by
  unfold make at h
  split at h
  · cases h
  · exact ⟨(Except.ok.inj h).symm, by omega⟩

/-- One message more is appended to those that a buffer was filled with. -/
theorem filled_append (capacity : Nat) (messages : List String) (m : String) :
    filled capacity (messages ++ [m]) = ((filled capacity messages).append m).2 := by
  rw [filled, filled, List.foldl_append, List.foldl_cons, List.foldl_nil]

/-- One message more gets the next number. -/
theorem numbered_append (messages : List String) (m : String) :
    numbered (messages ++ [m]) = numbered messages ++ [⟨messages.length + 1, m⟩] := by
  rw [numbered, List.zipIdx_append, List.map_append, numbered]
  simp

/-- Numbering keeps the number of messages. -/
@[simp] theorem length_numbered (messages : List String) : (numbered messages).length = messages.length := by
  rw [numbered, List.length_map, List.length_zipIdx]

/-- The message at an index has the number that is one higher. -/
theorem getElem?_numbered (messages : List String) (i : Nat) :
    (numbered messages)[i]? = messages[i]?.map fun m => ⟨i + 1, m⟩ := by
  rw [numbered, List.getElem?_map, List.getElem?_zipIdx]
  cases messages[i]? with
  | none => rfl
  | some m => simp

/-- A buffer with some room holds the last messages and the number of all. -/
theorem filled_eq {capacity : Nat} (hpos : 0 < capacity) (messages : List String) :
    filled capacity messages =
      { capacity, envelopes := (numbered messages).drop (messages.length - capacity), latest := messages.length } := by
  induction messages using List.reverseRecOn with
  | nil => simp [filled, numbered]
  | append_singleton messages m ih =>
    rw [filled_append, ih, append, numbered_append]
    simp only [List.length_append, List.length_drop, length_numbered, List.length_singleton, Buffer.mk.injEq, true_and, and_true]
    -- What is dropped now comes on top of what was dropped before, and never reaches the new message.
    rw [← List.drop_append_of_le_length (by rw [length_numbered]; omega), List.drop_drop]
    congr 1
    omega

/-- The first envelope behind a version, among those from a place on. -/
theorem find?_drop_numbered (messages : List String) (k : Nat) (v : Int) :
    ((numbered messages).drop k).find? (fun e => v < e.version) =
      messages[max v.toNat k]?.map fun m => ⟨max v.toNat k + 1, m⟩ := by
  induction hn : messages.length - k generalizing k with
  | zero =>
    have hnone : messages[max v.toNat k]? = none := List.getElem?_eq_none (by omega)
    rw [List.drop_eq_nil_of_le (by rw [length_numbered]; omega), hnone]
    rfl
  | succ n ih =>
    have hk : k < messages.length := by omega
    have hat := getElem?_numbered messages k
    rw [List.getElem?_eq_getElem hk, Option.map_some] at hat
    obtain ⟨hlt, hat⟩ := List.getElem?_eq_some_iff.1 hat
    rw [List.drop_eq_getElem_cons hlt, hat, List.find?_cons]
    by_cases hv : v ≤ k
    · have hmax : max v.toNat k = k := max_eq_right (by omega)
      rw [hmax, List.getElem?_eq_getElem hk]
      simp [show v < k + 1 by omega]
    · have hmax : max v.toNat (k + 1) = max v.toNat k := by omega
      rw [← hmax, ← ih (k + 1) (by omega)]
      simp [show ¬v < k + 1 by omega]

/-- Who asks behind a version gets the message after it, or the oldest one that was not dropped. -/
theorem nextAfter_filled_int {capacity : Nat} (hpos : 0 < capacity) (messages : List String) (v : Int) :
    (filled capacity messages).nextAfter v =
      messages[max v.toNat (messages.length - capacity)]?.map fun m => ⟨max v.toNat (messages.length - capacity) + 1, m⟩ := by
  rw [filled_eq hpos, nextAfter]
  exact find?_drop_numbered messages _ v

/-- Who knows a version gets the message after it, or the oldest one that was not dropped. -/
theorem nextAfter_filled {capacity : Nat} (hpos : 0 < capacity) (messages : List String) (v : Nat) :
    (filled capacity messages).nextAfter v =
      messages[max v (messages.length - capacity)]?.map fun m => ⟨max v (messages.length - capacity) + 1, m⟩ :=
  nextAfter_filled_int hpos messages v

/-- There is nothing newer exactly for those who know the newest version. -/
theorem nextAfter_filled_eq_none {capacity : Nat} (hpos : 0 < capacity) (messages : List String) (v : Nat) :
    (filled capacity messages).nextAfter v = none ↔ messages.length ≤ v := by
  rw [nextAfter_filled hpos, Option.map_eq_none_iff, List.getElem?_eq_none_iff]
  omega

end ToolpathViewer.Bridge.Buffer
