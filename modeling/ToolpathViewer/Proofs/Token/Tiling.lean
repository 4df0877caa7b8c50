import ToolpathViewer.Proofs.Token.Lines

/-!
# Tokens that tile a text

`Tiling` says how tokens cut up the characters from a position on: one stands behind the other, each has the kind that its first
character asks for, and each reaches as far as its kind allows in front of what follows (`Whole`). These rules leave no choice: the
tokens that a scan gives are the only ones (`tiling_iff`). What the tokens of a range look like follows by induction on the tiling
(`tokenize_tiles`).
-/

namespace ToolpathViewer.Token

open Text

/-! ## One token -/

/-- The rules that give a token its kind by its first character. The first rule that takes the character decides. -/
def Kind.rules : List (Kind × (Char → Bool)) := [
  (.comment, (· == '(')),
  (.space, isSpace),
  (.command, isOneOf commandLetters),
  (.coordinate, isOneOf coordinateLetters),
  (.number, fun c => isDigit c || c == '-' || c == '+'),
  (.word, fun _ => true)]

/-- The first rule that takes a character gives the kind of its token. -/
theorem find?_rules (c : Char) : (Kind.rules.find? (·.2 c)).map (·.1) = some (Kind.ofFirst c) := by
  unfold Kind.rules Kind.ofFirst
  simp only [List.find?_cons]
  cases c == '(' <;> cases isSpace c <;> cases isOneOf commandLetters c <;> cases isOneOf coordinateLetters c <;>
    cases isDigit c || c == '-' || c == '+' <;> rfl

/-- Some rule takes every character. -/
theorem ofFirst_ne_bad (c : Char) : Kind.ofFirst c ≠ .bad := by
  unfold Kind.ofFirst
  split_ifs <;> decide

/-- A character inside a remark: it ends neither the remark nor its line. -/
def Inside (c : Char) : Prop := c ≠ ')' ∧ c ≠ '\r' ∧ c ≠ '\n'

/-- The characters of a token of a kind reach as far as the kind allows in front of what follows. -/
inductive Whole : Kind → List Char → List Char → Prop where
  /-- A comment ends with its first closing parenthesis. -/
  | closed {remark : List Char} (hremark : ∀ c ∈ remark, Inside c) (after : List Char) :
    Whole .comment ('(' :: (remark ++ [')'])) after
  /-- A comment that is not closed ends in front of the end of its line, or with the text. -/
  | unclosed {remark after : List Char} (hremark : ∀ c ∈ remark, Inside c) (hafter : ∀ c ∈ after.head?, c = '\r' ∨ c = '\n') :
    Whole .comment ('(' :: remark) after
  /-- Any other token goes on with the characters of its class, and the next character is none of them. -/
  | run {k : Kind} {more after : List Char} (hk : k ≠ .comment) (c : Char) (hmore : ∀ d ∈ more, k.continues d = true)
    (hafter : ∀ d ∈ after.head?, k.continues d = false) : Whole k (c :: more) after

/-- Only an opening parenthesis opens a comment. -/
theorem ofFirst_eq_comment {c : Char} (h : Kind.ofFirst c = .comment) : c = '(' := by
  unfold Kind.ofFirst at h
  split_ifs at h with hc
  exact beq_iff_eq.1 hc

/-- A comment is closed by its first parenthesis, or stays open up to the end of its line. -/
theorem commentBody_cases (s : List Char) :
    (∃ remark, (commentBody s).1 = remark ++ [')'] ∧ ∀ c ∈ remark, Inside c) ∨
      ((∀ c ∈ (commentBody s).1, Inside c) ∧ ∀ c ∈ (commentBody s).2.head?, c = '\r' ∨ c = '\n') := by
  induction s with
  | nil => exact Or.inr ⟨by simp [commentBody], by simp [commentBody]⟩
  | cons c rest ih =>
    rw [commentBody]
    split
    · rename_i hclose
      exact Or.inl ⟨[], by rw [beq_iff_eq.1 hclose]; rfl, by simp⟩
    · rename_i hclose
      split
      · rename_i hend
        exact Or.inr ⟨by simp, by simpa using hend⟩
      · rename_i hend
        have hc : Inside c := by
          simp only [Bool.or_eq_true, beq_iff_eq, not_or] at hclose hend
          exact ⟨hclose, hend.1, hend.2⟩
        rcases ih with ⟨remark, hbody, hremark⟩ | ⟨hbody, hafter⟩
        · exact Or.inl ⟨c :: remark, by rw [hbody]; rfl, List.forall_mem_cons.2 ⟨hc, hremark⟩⟩
        · exact Or.inr ⟨List.forall_mem_cons.2 ⟨hc, hbody⟩, hafter⟩

/-- Apart from comments, a token goes on as long as its characters continue it. -/
theorem body_of_ne_comment {k : Kind} (hk : k ≠ .comment) (s : List Char) :
    body k s = (s.takeWhile k.continues, s.dropWhile k.continues) := by
  cases k <;> first | rfl | exact absurd rfl hk

/-- A scanned token reaches as far as its kind allows. -/
theorem whole_body (c : Char) (rest : List Char) :
    Whole (Kind.ofFirst c) (c :: (body (Kind.ofFirst c) rest).1) (body (Kind.ofFirst c) rest).2 := by
  by_cases hk : Kind.ofFirst c = .comment
  · rw [hk, ofFirst_eq_comment hk]
    rcases commentBody_cases rest with ⟨remark, hbody, hremark⟩ | ⟨hbody, hafter⟩
    · have hclosed := Whole.closed hremark (body .comment rest).2
      rwa [← hbody] at hclosed
    · exact .unclosed hbody hafter
  · rw [body_of_ne_comment hk]
    refine .run hk c (List.all_eq_true.1 List.all_takeWhile) fun d hd => ?_
    have hhead := List.head?_dropWhile_not (Kind.ofFirst c).continues rest
    rw [Option.mem_def.1 hd] at hhead
    simpa using hhead

/-- A remark with a parenthesis behind it is the rest of a comment. -/
theorem commentBody_closed {remark : List Char} (hremark : ∀ c ∈ remark, Inside c) (after : List Char) :
    commentBody (remark ++ ')' :: after) = (remark ++ [')'], after) := by
  induction remark with
  | nil => rfl
  | cons c remark ih =>
    obtain ⟨⟨hclose, hcr, hlf⟩, hrest⟩ := List.forall_mem_cons.1 hremark
    rw [List.cons_append, commentBody, ih hrest, if_neg (by simpa using hclose), if_neg (by simp [hcr, hlf])]
    rfl

/-- A remark in front of the end of its line is the rest of a comment. -/
theorem commentBody_unclosed {remark after : List Char} (hremark : ∀ c ∈ remark, Inside c)
    (hafter : ∀ c ∈ after.head?, c = '\r' ∨ c = '\n') : commentBody (remark ++ after) = (remark, after) := by
  induction remark with
  | nil =>
    cases after with
    | nil => rfl
    | cons d after =>
      have hd : d = '\r' ∨ d = '\n' := hafter d rfl
      rcases hd with rfl | rfl <;> rfl
  | cons c remark ih =>
    obtain ⟨⟨hclose, hcr, hlf⟩, hrest⟩ := List.forall_mem_cons.1 hremark
    rw [List.cons_append, commentBody, ih hrest, if_neg (by simpa using hclose), if_neg (by simp [hcr, hlf])]

/-- What reaches as far as its kind allows is what is scanned. -/
theorem Whole.body_eq {k : Kind} {c : Char} {more after : List Char} (h : Whole k (c :: more) after) :
    body k (more ++ after) = (more, after) := by
  cases h with
  | @closed remark hremark =>
    rw [List.append_assoc]
    exact commentBody_closed hremark after
  | unclosed hremark hafter => exact commentBody_unclosed hremark hafter
  | run hk c hmore hafter =>
    have hstop : after.takeWhile k.continues = [] ∧ after.dropWhile k.continues = after := by
      cases after with
      | nil => exact ⟨rfl, rfl⟩
      | cons d after => simp [hafter d rfl]
    rw [body_of_ne_comment hk, List.takeWhile_append_of_pos hmore, List.dropWhile_append_of_pos hmore, hstop.1, hstop.2,
      List.append_nil]

/-! ## All tokens -/

/-- Tokens that cut up the characters from a position on. -/
inductive Tiling : Int → List Char → List Token → Prop where
  | nil (start : Int) : Tiling start [] []
  | cons {start : Int} {c : Char} {more after : List Char} {ts : List Token}
    (hwhole : Whole (Kind.ofFirst c) (c :: more) after) (hrest : Tiling (start + (c :: more).length) after ts) :
    Tiling start (c :: more ++ after) (⟨Kind.ofFirst c, start, start + (c :: more).length, c :: more⟩ :: ts)

/-- The tokens of a scan tile the text. -/
theorem tiling_scan (start : Int) (s : List Char) : Tiling start s (scan start s) := by
  induction hn : s.length using Nat.strong_induction_on generalizing s start with
  | _ n ih =>
    cases s with
    | nil =>
      rw [scan_nil]
      exact .nil start
    | cons c rest =>
      have hlt : (body (Kind.ofFirst c) rest).2.length < n := by
        have hle := length_body_le (Kind.ofFirst c) rest
        rw [List.length_cons] at hn
        omega
      have hrest := ih _ hlt (start + (c :: (body (Kind.ofFirst c) rest).1).length) _ rfl
      have htiling := Tiling.cons (whole_body c rest) hrest
      rwa [List.cons_append, body_append, ← scan_cons] at htiling

/-- A token that reaches as far as its kind allows is scanned first. -/
theorem scan_whole {c : Char} {more after : List Char} (h : Whole (Kind.ofFirst c) (c :: more) after) (start : Int) :
    scan start (c :: more ++ after) =
      ⟨Kind.ofFirst c, start, start + (c :: more).length, c :: more⟩ :: scan (start + (c :: more).length) after := by
  rw [List.cons_append, scan_cons, h.body_eq]

/-- The rules for the tokens of a text leave no choice. -/
theorem tiling_iff {start : Int} {s : List Char} {ts : List Token} : Tiling start s ts ↔ ts = scan start s := by
  constructor
  · intro h
    induction h with
    | nil start => rw [scan_nil]
    | cons hwhole _ ih => rw [scan_whole hwhole, ih]
  · rintro rfl
    exact tiling_scan start s

namespace Tiling

variable {start : Int} {s : List Char} {ts : List Token}

/-- Nothing is lost between the tokens. -/
theorem flatMap_text (h : Tiling start s ts) : ts.flatMap text = s := by
  induction h with
  | nil => rfl
  | cons hwhole _ ih => rw [List.flatMap_cons, ih]

/-- No token stands in front of the first position. -/
theorem start_le (h : Tiling start s ts) : ∀ t ∈ ts, start ≤ t.start := by
  induction h with
  | nil => simp
  | cons hwhole _ ih =>
    refine List.forall_mem_cons.2 ⟨le_refl _, fun t ht => ?_⟩
    have hle := ih t ht
    omega

end Tiling

/-- Tokens that stand one behind the other, without a gap and none of them empty, from a position to another one. -/
def Covers (start stop : Int) : List Token → Prop
  | [] => start = stop
  | t :: ts => t.start = start ∧ t.start < t.stop ∧ Covers t.stop stop ts

/-- A token of the characters that stand from a position on: it holds those between its own two positions, its kind is what the first
of them asks for, and it reaches as far as that kind allows. -/
def CutFrom (start : Int) (s : List Char) (t : Token) : Prop :=
  ∃ before c more after, s = before ++ c :: more ++ after ∧ t.text = c :: more ∧
    t.start = start + before.length ∧ t.stop = t.start + t.text.length ∧
    (Kind.rules.find? (·.2 c)).map (·.1) = some t.kind ∧ Whole t.kind t.text after

namespace Tiling

variable {start : Int} {s : List Char} {ts : List Token}

/-- Tokens that tile a text cover it. -/
theorem covers (h : Tiling start s ts) : Covers start (start + s.length) ts := by
  induction h with
  | nil start => simp [Covers]
  | @cons start c more after ts hwhole _ ih =>
    have hstop : start + ((c :: more ++ after).length : Int) = start + ((c :: more).length : Int) + (after.length : Int) := by
      rw [List.length_append]
      omega
    have hpos : start < start + ((c :: more).length : Int) := by
      rw [List.length_cons]
      omega
    rw [hstop]
    exact ⟨rfl, hpos, ih⟩

/-- Tokens that tile a text are cut out of it. -/
theorem cutFrom (h : Tiling start s ts) : ∀ t ∈ ts, CutFrom start s t := by
  induction h with
  | nil => simp
  | @cons start c more after ts hwhole _ ih =>
    refine List.forall_mem_cons.2 ⟨⟨[], c, more, after, rfl, rfl, by simp, rfl, find?_rules c, hwhole⟩, fun t ht => ?_⟩
    obtain ⟨before, d, more', after', hs, htext, hstart, hstop, hkind, hwhole'⟩ := ih t ht
    refine ⟨c :: more ++ before, d, more', after', ?_, htext, ?_, hstop, hkind, hwhole'⟩
    · rw [hs]
      simp only [List.append_assoc, List.cons_append]
    · rw [hstart, List.length_append]
      omega

end Tiling

/-- No token that is cut out of a text is of the kind that no rule gives. -/
theorem CutFrom.kind_ne_bad {start : Int} {s : List Char} {t : Token} (h : CutFrom start s t) : t.kind ≠ .bad := by
  obtain ⟨before, c, more, after, -, -, -, -, hkind, -⟩ := h
  rw [find?_rules] at hkind
  have hne := ofFirst_ne_bad c
  rwa [Option.some.inj hkind] at hne

/-! ## The tokens of a range -/

/-- The characters of a range that starts inside the text or behind it. -/
theorem window_natCast (text : List Char) (start : Nat) (stop : Option Int) :
    window text start stop = .ok ((text.drop start).take (rangeEnd text start stop - start).toNat) := by
  unfold window
  by_cases hempty : rangeEnd text start stop ≤ start
  · have hzero : (rangeEnd text start stop - start).toNat = 0 := by omega
    rw [if_pos hempty, hzero, List.take_zero]
  · rw [if_neg hempty, if_pos (Int.natCast_nonneg start), Int.toNat_natCast]

/-- A range is as long as its ends lie apart. -/
theorem length_window (text : List Char) (start : Nat) (stop : Option Int) :
    (start : Int) + ((text.drop start).take (rangeEnd text start stop - start).toNat).length = rangeEnd text start stop := by
  rw [List.length_take, List.length_drop, rangeEnd]
  omega

/-- Where positions do not count from the end of the text, the tokens of a range are those that are scanned. -/
theorem tokenize_natCast (text : List Char) (start : Nat) (stop : Option Int) :
    tokenize text start stop = .ok (scan start ((text.drop start).take (rangeEnd text start stop - start).toNat)) := by
  have hlocated : ∀ t ∈ scan start ((text.drop start).take (rangeEnd text start stop - start).toNat), located text t = t := by
    intro t ht
    have hle := (tiling_scan _ _).start_le t ht
    rw [located, if_pos (by omega)]
  rw [tokenize, window_natCast]
  exact congrArg Except.ok ((List.map_congr_left hlocated).trans (List.map_id _))

/-- The tokens of a range that starts at zero or further on cover it from its start to its end, which is neither behind the text nor in
front of the start. None of them is empty, each has the kind that its first character asks for and is as long as that kind allows, and
no character is bad. -/
theorem tokenize_tiles (text : List Char) (start : Nat) (stop : Option Int) :
    ∃ ts, tokenize text start stop = .ok ts ∧
      Covers start (max (start : Int) (min (stop.getD text.length) text.length)) ts ∧
      ∀ t ∈ ts, t.kind ≠ .bad ∧
        CutFrom start ((text.drop start).take (max (start : Int) (min (stop.getD text.length) text.length) - start).toNat) t := by
  have htiling := tiling_scan start ((text.drop start).take (rangeEnd text start stop - start).toNat)
  have hcovers := htiling.covers
  rw [length_window] at hcovers
  refine ⟨_, tokenize_natCast text start stop, hcovers, fun t ht => ?_⟩
  have hcut := htiling.cutFrom t ht
  exact ⟨hcut.kind_ne_bad, hcut⟩

end ToolpathViewer.Token
