import ToolpathViewer.Proofs.Token.Significant

/-!
# Scanning that starts over

A token depends on nothing in front of it and on nothing behind the range that is scanned. So a scan may start over at any border
between two tokens (`Tiling.restart`), a range is scanned like a text of its own, and a cursor that is reset to the range stands at its
tokens one after the other (`Cursor.At`), where draining gives what is left of them (`scanning_restarts`).
-/

namespace ToolpathViewer.Token

/-! ## Borders between tokens -/

/-- A position where one of the tokens of a range starts or ends. The start of the range is one even if the range has no tokens. -/
def Border (start : Int) (ts : List Token) (b : Int) : Prop := b = start ∨ ∃ t ∈ ts, b = t.start ∨ b = t.stop

namespace Tiling

variable {start b : Int} {s : List Char} {ts : List Token}

/-- Every token ends behind the first position. -/
theorem lt_stop (h : Tiling start s ts) : ∀ t ∈ ts, start < t.stop := by
  induction h with
  | nil => simp
  | @cons start c more after ts hwhole _ ih =>
    have hpos : start < start + ((c :: more).length : Int) := by
      rw [List.length_cons]
      omega
    exact List.forall_mem_cons.2 ⟨hpos, fun t ht => hpos.trans (ih t ht)⟩

/-- At a border, the tokens that end there or in front of it are followed by a tiling of the characters behind it. -/
theorem restart (h : Tiling start s ts) (hb : Border start ts b) :
    (start ≤ b ∧ b ≤ start + s.length) ∧
      ∃ rest, ts = ts.filter (fun t => t.stop ≤ b) ++ rest ∧ Tiling b (s.drop (b - start).toNat) rest := by
  induction h with
  | nil start =>
    obtain rfl : b = start := by simpa [Border] using hb
    exact ⟨⟨le_refl _, by simp⟩, [], rfl, by simpa using Tiling.nil _⟩
  | @cons start c more after ts hwhole hrest ih =>
    by_cases hstart : b = start
    · -- All tokens end behind the start of the range.
      subst hstart
      have hnone := List.filter_eq_nil_iff.2 fun t ht =>
        (decide_eq_true_iff.not.2 (not_le.2 ((Tiling.cons hwhole hrest).lt_stop t ht)) : ¬decide (t.stop ≤ b) = true)
      refine ⟨⟨le_refl _, by omega⟩, _, by rw [hnone, List.nil_append], ?_⟩
      rw [Int.sub_self, Int.toNat_zero, List.drop_zero]
      exact .cons hwhole hrest
    · have hborder : Border (start + ((c :: more).length : Int)) ts b := by
        rcases hb with hb | ⟨t, ht, hb⟩
        · exact absurd hb hstart
        · rcases List.mem_cons.1 ht with rfl | ht
          · exact Or.inl (hb.resolve_left hstart)
          · exact Or.inr ⟨t, ht, hb⟩
      obtain ⟨⟨hle, hge⟩, rest, hts, htiling⟩ := ih hborder
      refine ⟨⟨by omega, ?_⟩, rest, ?_, ?_⟩
      · rw [List.length_append]
        omega
      · rw [List.filter_cons_of_pos (by simpa using hle), List.cons_append, ← hts]
      · have hdrop : (b - start).toNat = (c :: more).length + (b - (start + ((c :: more).length : Int))).toNat := by omega
        rw [hdrop, List.drop_append, List.drop_eq_nil_of_le (by omega), List.nil_append, Nat.add_sub_cancel_left]
        exact htiling

end Tiling

/-- The characters of a range. -/
def within (text : List Char) (start stop : Nat) : List Char := (text.drop start).take (stop - start)

/-- The tokens of a range are those of its characters. -/
theorem tokenize_within (text : List Char) (start stop : Nat) :
    tokenize text start (some (stop : Int)) = .ok (scan start (within text start (min stop text.length))) := by
  have hrange : (rangeEnd text start (some (stop : Int)) - start).toNat = min stop text.length - start := by
    rw [rangeEnd, Option.getD_some]
    omega
  rw [tokenize_natCast, hrange, within]

/-- A range without some of its first characters. -/
theorem drop_within (text : List Char) {start b : Nat} (stop : Nat) (h : start ≤ b) :
    (within text start stop).drop (b - start) = within text b stop := by
  have hlength : stop - start - (b - start) = stop - b := by omega
  rw [within, within, List.drop_take, List.drop_drop, hlength, Nat.add_sub_cancel' h]

/-- The characters between two positions are those within the range. -/
theorem slice_natCast (text : List Char) (start stop : Nat) :
    slice text start stop = within text start (min stop text.length) := by
  have hposition : ∀ n : Nat, position text.length n = min n text.length := by
    intro n
    rw [position, if_neg (by omega)]
    omega
  rw [slice, hposition, hposition, within]
  by_cases hstart : start ≤ text.length
  · rw [min_eq_left hstart]
  · rw [List.drop_eq_nil_of_le (by omega), List.drop_eq_nil_of_le (by omega), List.take_nil, List.take_nil]

/-! ## Cursors -/

namespace Cursor

/-- The tokens that the cursor has ahead. -/
def Ahead (c : Cursor) (ts : List Token) : Prop := ∃ s, c.ahead = .ok s ∧ (scan c.offset s).map (located c.text) = ts

/-- The cursor stands at the token of a list with an index, or behind all of them, and has those behind it ahead. -/
structure At (ts : List Token) (k : Nat) (c : Cursor) : Prop where
  current : c.current = ts[k]?
  ahead : c.Ahead (ts.drop (k + 1))

/-- The cursor after it has been advanced a number of times. -/
def advanced (c : Cursor) (k : Nat) : Cursor := (fun c => c.advance.2)^[k] c

variable {c : Cursor} {ts : List Token} {k : Nat}

/-- Advancing takes the first of the tokens ahead. -/
theorem Ahead.advance (h : c.Ahead ts) : c.advance.1 = .ok ts.head? ∧ c.advance.2.current = ts.head? ∧ c.advance.2.Ahead ts.tail := by
  obtain ⟨s, hahead, rfl⟩ := h
  cases s with
  | nil => simp [Cursor.advance, hahead, Ahead]
  | cons first rest => simp [Cursor.advance, hahead, Ahead, scan_cons]

/-- An advanced cursor stands at the next token, and has told which one that is. -/
theorem At.advance (h : At ts k c) : c.advance.1 = .ok ts[k + 1]? ∧ At ts (k + 1) c.advance.2 := by
  obtain ⟨hresult, hcurrent, hahead⟩ := h.ahead.advance
  rw [List.head?_drop] at hresult hcurrent
  rw [List.tail_drop] at hahead
  exact ⟨hresult, hcurrent, hahead⟩

/-- A cursor that is advanced some times stands at the token with this index. -/
theorem At.advanced (h : At ts 0 c) (k : Nat) : At ts k (c.advanced k) := by
  induction k with
  | zero => exact h
  | succ k ih =>
    rw [Cursor.advanced, Function.iterate_succ_apply']
    exact ih.advance.2

/-- Behind the last token nothing is drained. -/
theorem drain_of_none (h : c.current = none) : c.drain = ([], c) := by
  rw [drain]
  split
  · rfl
  · rename_i t ht
    cases h.symm.trans ht

/-- Draining takes the current token and goes on where the next advance leads. -/
theorem drain_of_some {t : Token} (h : c.current = some t) {next : Option Token} (hadvance : c.advance.1 = .ok next) :
    c.drain = (t :: c.advance.2.drain.1, c.advance.2.drain.2) := by
  rw [drain]
  split
  · rename_i hnone
    cases h.symm.trans hnone
  · rename_i t' ht
    obtain rfl := Option.some.inj (h.symm.trans ht)
    split
    · rename_i why c' hfail
      rw [hfail] at hadvance
      cases hadvance
    · rename_i next' c' hnext
      have hstate : c.advance.2 = c' := congrArg Prod.snd hnext
      rw [hstate]

/-- Draining gives the tokens from the current one on, and leaves none. -/
theorem At.drain (h : At ts k c) : c.drain.1 = ts.drop k ∧ c.drain.2.current = none := by
  induction hn : ts.length - k generalizing k c with
  | zero =>
    have hnone : c.current = none := h.current.trans (List.getElem?_eq_none (by omega))
    rw [drain_of_none hnone, List.drop_eq_nil_of_le (by omega)]
    exact ⟨rfl, hnone⟩
  | succ n ih =>
    have hk : k < ts.length := by omega
    have hsome : c.current = some ts[k] := h.current.trans (List.getElem?_eq_getElem hk)
    obtain ⟨hrest, hend⟩ := ih h.advance.2 (by omega)
    rw [drain_of_some hsome h.advance.1, hrest, List.drop_eq_getElem_cons hk]
    exact ⟨rfl, hend⟩

/-- A cursor that is reset to a range stands at its first token, and has told which one that is. -/
theorem at_reset {text : List Char} {start : Int} {stop : Option Int} (h : tokenize text start stop = .ok ts) :
    (reset text start stop).1 = .ok ts[0]? ∧ At ts 0 (reset text start stop).2 := by
  have hahead : Ahead { text, ahead := window text start stop, offset := start } ts := by
    rw [tokenize] at h
    cases hwindow : window text start stop with
    | error why =>
      rw [hwindow] at h
      cases h
    | ok s =>
      rw [hwindow] at h
      exact ⟨s, rfl, Except.ok.inj h⟩
  obtain ⟨hresult, hcurrent, hrest⟩ := hahead.advance
  rw [List.head?_eq_getElem?] at hresult hcurrent
  rw [← List.drop_one] at hrest
  exact ⟨hresult, hcurrent, hrest⟩

end Cursor

/-- Scanning may start over between any two tokens. The tokens of a range are those that end at a border or in front of it, followed by
the tokens of the range from the border on. They are the tokens of the characters of the range, moved to where the range starts. And a
cursor that is reset to the range and then advanced some times stands at the token with that index, or at none when there are no more;
it tells the next one when it is advanced, and draining it gives the tokens from the current one on. -/
theorem scanning_restarts (text : List Char) (start stop : Nat) :
    ∃ ts, tokenize text start (some (stop : Int)) = .ok ts ∧
      (∀ b, Border start ts b →
        ∃ rest, tokenize text b (some (stop : Int)) = .ok rest ∧ ts = ts.filter (fun t => t.stop ≤ b) ++ rest) ∧
      (∃ us, tokenize (slice text start stop) = .ok us ∧ ts = us.map (shift start)) ∧
      (Cursor.reset text start (some (stop : Int))).1 = .ok ts[0]? ∧
      ∀ k, let c := (Cursor.reset text start (some (stop : Int))).2.advanced k
        c.current = ts[k]? ∧ c.advance.1 = .ok ts[k + 1]? ∧ c.drain.1 = ts.drop k ∧ c.drain.2.current = none := by
  have htokens := tokenize_within text start stop
  refine ⟨_, htokens, fun b hb => ?_, ?_, (Cursor.at_reset htokens).1, fun k => ?_⟩
  · obtain ⟨⟨hle, -⟩, rest, hts, htiling⟩ := (tiling_scan start (within text start (min stop text.length))).restart hb
    obtain ⟨b, rfl⟩ := Int.eq_ofNat_of_zero_le (show 0 ≤ b by omega)
    have hdrop : ((b : Int) - start).toNat = b - start := by omega
    rw [hdrop, drop_within text _ (by omega)] at htiling
    exact ⟨rest, (tokenize_within text b stop).trans (congrArg Except.ok (tiling_iff.1 htiling).symm), hts⟩
  · refine ⟨_, tokenize_eq_ofText _, ?_⟩
    rw [slice_natCast, scan_eq_map_shift]
  · have hat := (Cursor.at_reset htokens).2.advanced k
    exact ⟨hat.current, hat.advance.1, hat.drain.1, hat.drain.2⟩

end ToolpathViewer.Token
