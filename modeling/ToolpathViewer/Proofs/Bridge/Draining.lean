import ToolpathViewer.Proofs.Bridge.Buffer

/-!
# Draining a buffer

What comes back from a buffer: the receipts of those who append, numbered from 1 on, and the messages of a reader who asks behind a version
again and again. Such a reader gets every envelope that is newer and still there, once and in order, and then no more.
-/

namespace ToolpathViewer.Bridge.Buffer

/-! ## The receipts -/

/-- Appends messages in order. With the buffer come the envelopes that were returned. -/
def appendAll (b : Buffer) : List String → List Envelope × Buffer
  | [] => ([], b)
  | m :: messages =>
    let (envelope, b) := b.append m
    let (envelopes, b) := b.appendAll messages
    (envelope :: envelopes, b)

/-- Appending one message more gives one receipt more. -/
theorem appendAll_append (b : Buffer) (messages : List String) (m : String) :
    b.appendAll (messages ++ [m]) =
      ((b.appendAll messages).1 ++ [((b.appendAll messages).2.append m).1], ((b.appendAll messages).2.append m).2) := by
  induction messages generalizing b with
  | nil => rfl
  | cons m' messages ih => simp only [List.cons_append, appendAll, ih]

/-- Messages appended to a new buffer come back numbered. -/
theorem appendAll_new {capacity : Nat} (hpos : 0 < capacity) (messages : List String) :
    appendAll { capacity } messages = (numbered messages, filled capacity messages) := by
  induction messages using List.reverseRecOn with
  | nil => rfl
  | append_singleton messages m ih =>
    have hlatest : (filled capacity messages).latest = messages.length := by rw [filled_eq hpos]
    rw [appendAll_append, ih, filled_append, numbered_append, append, hlatest]

/-- Numbering keeps the messages. -/
theorem map_message_numbered (messages : List String) : (numbered messages).map (·.message) = messages := by
  induction messages using List.reverseRecOn with
  | nil => rfl
  | append_singleton messages m ih => rw [numbered_append, List.map_append, ih, List.map_singleton]

/-- The numbers are those from one on. -/
theorem map_version_numbered (messages : List String) : (numbered messages).map (·.version) = List.range' 1 messages.length := by
  induction messages using List.reverseRecOn with
  | nil => rfl
  | append_singleton messages m ih =>
    rw [numbered_append, List.map_append, ih, List.map_singleton, List.length_append, List.length_singleton, List.range'_1_concat,
      Nat.add_comm 1]

/-- The envelopes of a buffer stand in the order of their versions. -/
def Ascending (b : Buffer) : Prop := b.envelopes.Pairwise fun e e' => e.version < e'.version

/-- The versions in a buffer that was filled ascend. -/
theorem ascending_filled {capacity : Nat} (hpos : 0 < capacity) (messages : List String) : (filled capacity messages).Ascending := by
  have hall : (numbered messages).Pairwise fun e e' => e.version < e'.version := by
    have hversions : ((numbered messages).map (·.version)).Pairwise (· < ·) := by
      rw [map_version_numbered]
      exact List.pairwise_lt_range'
    exact List.pairwise_map.1 hversions
  rw [Ascending, filled_eq hpos]
  exact hall.drop

/-! ## Readers -/

/-- What is newer than a version is the first such envelope, and what is newer than that. -/
theorem filter_of_find? {envelopes : List Envelope} (hasc : envelopes.Pairwise fun e e' => e.version < e'.version) {v : Int} {e : Envelope}
    (h : envelopes.find? (fun x => v < x.version) = some e) :
    envelopes.filter (fun x => v < x.version) = e :: envelopes.filter (fun x => (e.version : Int) < x.version) := by
  induction envelopes with
  | nil => simp at h
  | cons a rest ih =>
    obtain ⟨hfirst, hrest⟩ := List.pairwise_cons.1 hasc
    by_cases ha : v < a.version
    · rw [List.find?_cons_of_pos (by simpa using ha)] at h
      obtain rfl := Option.some.inj h
      have hnewer : ∀ w : Int, w ≤ a.version → rest.filter (fun x => w < x.version) = rest := by
        intro w hw
        refine List.filter_eq_self.2 fun x hx => ?_
        have hlt := hfirst x hx
        simp only [decide_eq_true_eq]
        omega
      rw [List.filter_cons_of_pos (by simpa using ha), List.filter_cons_of_neg (by simp), hnewer v ha.le, hnewer _ le_rfl]
    · rw [List.find?_cons_of_neg (by simpa using ha)] at h
      have hlt := hfirst e (List.mem_of_find?_eq_some h)
      rw [List.filter_cons_of_neg (by simpa using ha), List.filter_cons_of_neg (by simp; omega), ih hrest h]

/-- A reader who asks so many times gets the first ones of the newer envelopes. -/
theorem drain_eq_take {b : Buffer} (hasc : b.Ascending) (k : Nat) (v : Int) :
    b.drain k v = (b.envelopes.filter fun e => v < e.version).take k := by
  induction k generalizing v with
  | zero => rw [drain, List.take_zero]
  | succ k ih =>
    rw [drain]
    cases hnext : b.nextAfter v with
    | none =>
      have hnone : b.envelopes.filter (fun e => v < e.version) = [] :=
        List.filter_eq_nil_iff.2 fun e he => List.find?_eq_none.1 hnext e he
      rw [hnone, List.take_nil]
    | some e =>
      rw [filter_of_find? hasc hnext, List.take_succ_cons, ← ih]

/-- A reader who goes on asking gets all of them. -/
theorem drainAfter_eq {b : Buffer} (hasc : b.Ascending) (v : Int) :
    b.drainAfter v = b.envelopes.filter fun e => v < e.version := by
  rw [drainAfter, drain_eq_take hasc, List.take_of_length_le (List.length_filter_le _ _)]

/-- Who asks behind a version gets the envelope of the next one that the buffer still holds. -/
theorem exists_nextAfter_filled {capacity : Nat} (hpos : 0 < capacity) {messages : List String} {v : Int}
    (hv : ¬(messages.length ≤ v ∨ messages.length = 0)) :
    ∃ e ∈ numbered messages, (filled capacity messages).nextAfter v = some e ∧
      (e.version : Int) = max (v + 1) (max (messages.length - capacity + 1) 1) := by
  have hplace : max v.toNat (messages.length - capacity) < messages.length := by omega
  have hat := getElem?_numbered messages (max v.toNat (messages.length - capacity))
  rw [nextAfter_filled_int hpos, ← hat, List.getElem?_eq_getElem (by rw [length_numbered]; exact hplace)]
  rw [List.getElem?_eq_getElem hplace, List.getElem?_eq_getElem (by rw [length_numbered]; exact hplace), Option.map_some,
    Option.some.injEq] at hat
  refine ⟨_, List.getElem_mem _, rfl, ?_⟩
  rw [hat]
  push_cast
  omega

/-- Of all messages appended to a new buffer: they come back numbered from 1 on; the buffer holds the last ones, as many as it has room for;
who asks behind a version gets the next one that is still there, and nothing when there is none; and who asks again and again gets each
newer one that is there, once and in order, and then nothing. -/
theorem buffer_keeps_last {capacity : Int} (hcapacity : 1 ≤ capacity) (messages : List String) :
    ∃ new receipts b, make capacity = .ok new ∧ new.appendAll messages = (receipts, b) ∧
      receipts.map (·.message) = messages ∧ receipts.map (·.version) = List.range' 1 messages.length ∧
      b.envelopes <:+ receipts ∧ (b.envelopes.length : Int) = min (messages.length : Int) capacity ∧
      (∀ v : Int, b.nextAfter v = none ↔ messages.length ≤ v ∨ messages.length = 0) ∧
      (∀ v : Int, ¬(messages.length ≤ v ∨ messages.length = 0) → ∃ e ∈ receipts, b.nextAfter v = some e ∧
        (e.version : Int) = max (v + 1) (max (messages.length - capacity + 1) 1)) ∧
      ∀ v : Int, b.drainAfter v = b.envelopes.filter (v < ·.version) ∧ ∀ k, b.drain k v = (b.drainAfter v).take k := by
  obtain ⟨c, rfl⟩ := Int.eq_ofNat_of_zero_le (show 0 ≤ capacity by omega)
  have hpos : 0 < c := by omega
  have hnew : make (c : Int) = .ok { capacity := c } := by rw [make, if_neg (by omega), Int.toNat_natCast]
  have hasc := ascending_filled hpos messages
  refine ⟨_, _, _, hnew, appendAll_new hpos messages, map_message_numbered messages, map_version_numbered messages, ?_, ?_, ?_,
    fun v hv => exists_nextAfter_filled hpos hv, ?_⟩
  · rw [filled_eq hpos]
    exact List.drop_suffix _ _
  · rw [filled_eq hpos, List.length_drop, length_numbered]
    omega
  · intro v
    constructor
    · intro hnone
      by_contra hv
      obtain ⟨e, -, he, -⟩ := exists_nextAfter_filled hpos hv
      cases he.symm.trans hnone
    · intro hv
      rw [nextAfter_filled_int hpos, Option.map_eq_none_iff, List.getElem?_eq_none_iff]
      omega
  · intro v
    have hdrain := drainAfter_eq hasc v
    exact ⟨hdrain, fun k => by rw [hdrain, drain_eq_take hasc]⟩

/-- Three messages in a buffer with room for two: a reader from before the start gets the last two. -/
theorem buffer_keeps_last_two_of_three :
    ∃ new receipts b, (1 : Int) ≤ 2 ∧ make 2 = .ok new ∧ new.appendAll ["a", "b", "c"] = (receipts, b) ∧
      receipts.map (·.version) = [1, 2, 3] ∧ b.drainAfter (-5) = [⟨2, "b"⟩, ⟨3, "c"⟩] ∧ b.nextAfter 2 = some ⟨3, "c"⟩ := by
  obtain ⟨new, receipts, b, hnew, happend, -, hversions, -⟩ := buffer_keeps_last (show (1 : Int) ≤ 2 by decide) ["a", "b", "c"]
  have hb : new = { capacity := 2 } := (Except.ok.inj hnew).symm
  subst hb
  obtain rfl : b = (appendAll { capacity := 2 } ["a", "b", "c"]).2 := by rw [happend]
  exact ⟨_, _, _, by decide, hnew, happend, hversions, rfl, rfl⟩

end ToolpathViewer.Bridge.Buffer
