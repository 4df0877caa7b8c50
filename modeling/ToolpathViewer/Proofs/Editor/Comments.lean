import ToolpathViewer.Proofs.Toolpath.Edits

/-!
# What looks like a comment

The editor means to give the look of comments to remarks in parentheses, and to all of a line from a word with a semicolon in front on.
The extraction tells comments from the rest by rules of its own, and the two agree: with spaces in place of these remarks, a program has
the same path and the same problems.

What the editor shows need not be what it means. It counts characters, and the widget that draws the text counts positions, of which some
characters take two. `hidden_comments_do_not_count` says where the two counts come to the same looks: where no wide character stands in
front of a character of a comment in its line. Elsewhere the end of a comment is left plain (`wide_remark_counts`).
-/

namespace ToolpathViewer

/-- The number of positions that a character takes where positions count UTF-16 units. -/
def Text.utf16Width (c : Char) : Nat := if c.toNat < 0x10000 then 1 else 2

/-- Every character takes a position. -/
theorem Text.utf16Width_pos (c : Char) : 0 < Text.utf16Width c := by
  unfold utf16Width
  split <;> decide

/-- The piece gives its look to a position of the line. -/
def Piece.covers (p : Piece) (i : Int) : Bool := p.start ≤ i && i < p.start + p.length

/-- A piece covers the positions from its start on, as many as its length. -/
theorem Piece.covers_iff {p : Piece} {i : Int} : p.covers i = true ↔ p.start ≤ i ∧ i < p.start + p.length := by
  simp [covers]

namespace Highlight

open Token (Tiling Overwritten blank heard)

/-! ## Marked characters -/

/-- Characters with a space in place of each one that is marked. -/
def overwrite (marks : List Bool) (s : List Char) : List Char := List.zipWith (fun m c => if m then ' ' else c) marks s

/-- Two parts of a text are overwritten apart. -/
theorem overwrite_append {ms ns : List Bool} {s t : List Char} (h : ms.length = s.length) :
    overwrite (ms ++ ns) (s ++ t) = overwrite ms s ++ overwrite ns t := List.zipWith_append h

/-- Where all characters are marked, only spaces are left. -/
theorem overwrite_all (s : List Char) : overwrite (List.replicate s.length true) s = blank s.length := by
  induction s with
  | nil => rfl
  | cons c s ih => exact congrArg (' ' :: ·) ih

/-- Where none is marked, all are left. -/
theorem overwrite_none (s : List Char) : overwrite (List.replicate s.length false) s = s := by
  induction s with
  | nil => rfl
  | cons c s ih => exact congrArg (c :: ·) ih

/-- For each character under the tokens of a line, whether it stands in a comment: in a remark in parentheses, or behind a word that makes
the rest of the line a remark, the word included. -/
def remarked : List Token → List Bool
  | [] => []
  | t :: ts =>
    if t.silences then List.replicate ((t :: ts).flatMap Token.text).length true
    else List.replicate t.text.length (t.kind == .comment) ++ remarked ts

/-- From a word that makes the rest of the line a remark on, all is marked. -/
theorem remarked_of_silences {t : Token} (h : t.silences = true) (ts : List Token) :
    remarked (t :: ts) = List.replicate ((t :: ts).flatMap Token.text).length true := by
  rw [remarked, if_pos h]

/-- Any other token is marked if it is a comment. -/
theorem remarked_cons {t : Token} (h : t.silences = false) (ts : List Token) :
    remarked (t :: ts) = List.replicate t.text.length (t.kind == .comment) ++ remarked ts := by
  rw [remarked, h, if_neg Bool.false_ne_true]

/-- There is one mark for each character. -/
theorem length_remarked (ts : List Token) : (remarked ts).length = (ts.flatMap Token.text).length := by
  induction ts with
  | nil => rfl
  | cons t ts ih =>
    cases h : t.silences with
    | true => rw [remarked_of_silences h, List.length_replicate]
    | false => rw [remarked_cons h, List.length_append, List.length_replicate, ih, List.flatMap_cons, List.length_append]

/-- With spaces in place of its comments, a line is one in which tokens are overwritten, and the same tokens of it are heard. -/
theorem overwritten_remarked {start : Int} {s : List Char} {ts : List Token} (ht : Tiling start s ts) :
    ∃ left, Overwritten ts (overwrite (remarked ts) s) left ∧ heard left = heard ts := by
  induction ht with
  | nil => exact ⟨[], .nil, rfl⟩
  | @cons start c more after ts hwhole hrest ih =>
    have htext := (Tiling.cons hwhole hrest).flatMap_text
    cases hs : Token.silences ⟨Token.Kind.ofFirst c, start, start + (c :: more).length, c :: more⟩ with
    | true =>
      refine ⟨[], ?_, (Token.heard_of_silences hs ts).symm⟩
      have hkind : Token.Kind.ofFirst c ≠ .space := by
        intro hk
        simp [Token.silences, hk] at hs
      rw [remarked_of_silences hs, htext, overwrite_all]
      exact .eraseAll hkind (by rw [htext])
    | false =>
      obtain ⟨left, hleft, hheard⟩ := ih
      rw [remarked_cons hs, overwrite_append List.length_replicate]
      by_cases hk : Token.Kind.ofFirst c = .comment
      · have hspace : Token.Kind.ofFirst c ≠ .space := by
          rw [hk]
          decide
        have hmarks : (Token.Kind.ofFirst c == Token.Kind.comment) = true := by simp [hk]
        rw [hmarks, overwrite_all]
        refine ⟨left, .erase hspace hleft, ?_⟩
        rw [hheard, Token.heard_of_not_counts (by simp [Token.counts, hk])]
      · have hmarks : (Token.Kind.ofFirst c == Token.Kind.comment) = false := by simp [hk]
        rw [hmarks, overwrite_none]
        exact ⟨_, .keep _ hleft, Token.heard_cons_congr _ hheard⟩

/-! ## What is shown -/

/-- A position of a line has the look of a comment. The pieces of a line do not overlap, so their order does not matter. -/
def commented (ps : List Piece) (i : Int) : Bool := ps.any fun p => p.look == comment && p.covers i

/-- What some pieces and other ones show together. -/
theorem commented_append (ps qs : List Piece) (i : Int) : commented (ps ++ qs) i = (commented ps i || commented qs i) :=
  List.any_append

/-- For each character of a line from a position on, whether it is shown as a part of a comment. A character takes as many positions as
`width` gives it, and is shown as the first of them is. -/
def shown (width : Char → Nat) (ps : List Piece) (i : Int) : List Char → List Bool
  | [] => []
  | c :: s => commented ps i :: shown width ps (i + width c) s

/-- One of the positions from `start` on is marked. -/
def Marked (start : Int) (ms : List Bool) (i : Int) : Prop := ∃ k : Nat, i = start + k ∧ ms[k]? = some true

/-- Positions that are all marked, or all not. -/
theorem marked_replicate {start : Int} {n : Nat} {b : Bool} {i : Int} :
    Marked start (List.replicate n b) i ↔ b = true ∧ start ≤ i ∧ i < start + n := by
  constructor
  · rintro ⟨k, rfl, hk⟩
    rw [List.getElem?_replicate, Option.ite_none_right_eq_some] at hk
    exact ⟨Option.some.inj hk.2, by omega, by omega⟩
  · rintro ⟨rfl, hstart, hstop⟩
    refine ⟨(i - start).toNat, by omega, ?_⟩
    rw [List.getElem?_replicate, if_pos (by omega)]

/-- The marks of two parts, one behind the other. -/
theorem marked_append {start : Int} {ms ns : List Bool} {i : Int} :
    Marked start (ms ++ ns) i ↔ Marked start ms i ∨ Marked (start + ms.length) ns i := by
  constructor
  · rintro ⟨k, rfl, hk⟩
    rcases Nat.lt_or_ge k ms.length with hlt | hge
    · rw [List.getElem?_append_left hlt] at hk
      exact Or.inl ⟨k, rfl, hk⟩
    · rw [List.getElem?_append_right hge] at hk
      exact Or.inr ⟨k - ms.length, by omega, hk⟩
  · rintro (⟨k, rfl, hk⟩ | ⟨k, rfl, hk⟩)
    · have hlt : k < ms.length := (List.getElem?_eq_some_iff.1 hk).1
      exact ⟨k, rfl, by rw [List.getElem?_append_left hlt, hk]⟩
    · refine ⟨ms.length + k, by omega, ?_⟩
      rw [List.getElem?_append_right (by omega), Nat.add_sub_cancel_left, hk]

/-! ## The pieces of a line -/

variable {ps : List Piece}

/-- No motion command looks like a comment. -/
theorem motion_ne_comment (m : Motion) : motion m ≠ comment := by
  cases m with
  | rapid | linear => decide
  | arc turn => cases turn <;> decide

/-- No command looks like a comment. -/
theorem command_ne_comment (code : List Char) : command code ≠ comment := by
  unfold command
  split
  · exact motion_ne_comment _
  · split <;> decide

/-- No coordinate looks like a comment. -/
theorem coordinate_ne_comment (letter : List Char) : coordinate letter ≠ comment := by
  unfold coordinate
  split <;> decide

/-- Among the tokens with a look, comments and no others look like comments. -/
theorem look_eq_comment_iff {k : Token.Kind} {text : List Char} {l : Option Look} (h : look k text = .ok l) :
    l = some comment ↔ k = .comment := by
  cases k with
  | comment =>
    obtain rfl := Except.ok.inj h
    simp
  | command =>
    obtain ⟨code, -, h⟩ := bind_eq_ok.1 h
    obtain rfl := Except.ok.inj h
    simpa using command_ne_comment code
  | coordinate =>
    obtain rfl := Except.ok.inj h
    simpa using coordinate_ne_comment _
  | number | word | space | bad =>
    obtain rfl := Except.ok.inj h
    decide

/-- The piece of a token with a look. -/
def pieceOf (t : Token) (l : Option Look) : List Piece := (l.map fun l => ⟨t.start, t.stop - t.start, l⟩).toList

/-- What the tokens of a line look like: from a word that makes the rest of the line a remark on, like a comment. -/
theorem pieces_cons {n : Nat} {t : Token} {ts : List Token} (h : pieces n (t :: ts) = .ok ps) :
    t.silences = true ∧ ps = [⟨t.start, n - t.start, comment⟩] ∨
      t.silences = false ∧ ∃ l more, look t.kind t.text = .ok l ∧ pieces n ts = .ok more ∧ ps = pieceOf t l ++ more := by
  rw [pieces] at h
  cases hs : t.silences with
  | true =>
    rw [if_pos (by simpa [Token.silences] using hs)] at h
    exact Or.inl ⟨rfl, (Except.ok.inj h).symm⟩
  | false =>
    rw [if_neg (by simpa [Token.silences] using hs)] at h
    obtain ⟨l, hl, h⟩ := bind_eq_ok.1 h
    obtain ⟨more, hmore, h⟩ := bind_eq_ok.1 h
    exact Or.inr ⟨rfl, l, more, hl, hmore, (Except.ok.inj h).symm⟩

/-- The piece of a token covers the token. -/
theorem mem_pieceOf {t : Token} {l : Option Look} {p : Piece} (h : p ∈ pieceOf t l) :
    p.start = t.start ∧ p.start + p.length = t.stop ∧ l = some p.look := by
  rw [pieceOf, Option.mem_toList] at h
  obtain ⟨k, rfl, rfl⟩ := Option.map_eq_some_iff.1 h
  refine ⟨rfl, ?_, rfl⟩
  simp only
  omega

/-- The piece of a token makes it look like a comment, or no position at all. -/
theorem commented_pieceOf {t : Token} {l : Option Look} {i : Int} :
    commented (pieceOf t l) i = true ↔ l = some comment ∧ t.start ≤ i ∧ i < t.stop := by
  rw [commented, List.any_eq_true]
  constructor
  · rintro ⟨p, hp, hcovers⟩
    rw [Bool.and_eq_true, beq_iff_eq, Piece.covers_iff] at hcovers
    obtain ⟨hstart, hstop, hlook⟩ := mem_pieceOf hp
    rw [hcovers.1] at hlook
    exact ⟨hlook, by omega, by omega⟩
  · rintro ⟨rfl, hstart, hstop⟩
    refine ⟨⟨t.start, t.stop - t.start, comment⟩, by simp [pieceOf], ?_⟩
    have hcovers : (⟨t.start, t.stop - t.start, comment⟩ : Piece).covers i = true := Piece.covers_iff.2 ⟨hstart, by simp only; omega⟩
    rw [hcovers, beq_self_eq_true]
    rfl

/-- The positions with the look of a comment are those of the characters of comments, when each character takes one position. -/
theorem commented_iff {n : Nat} {start : Int} {s : List Char} {ts : List Token} (ht : Tiling start s ts)
    (hn : start + s.length = n) (h : pieces n ts = .ok ps) (i : Int) : commented ps i = true ↔ Marked start (remarked ts) i := by
  induction ht generalizing ps with
  | nil =>
    obtain rfl := Except.ok.inj h
    simp [commented, remarked, Marked]
  | @cons start c more after ts hwhole hrest ih =>
    have htext := (Tiling.cons hwhole hrest).flatMap_text
    rcases pieces_cons h with ⟨hs, rfl⟩ | ⟨hs, l, ps, hl, hps, rfl⟩
    · rw [remarked_of_silences hs, htext, marked_replicate, hn]
      simp [commented, Piece.covers]
    · have hend : start + ((c :: more).length : Int) + (after.length : Int) = n := by
        rw [← hn, List.length_append]
        omega
      rw [commented_append, Bool.or_eq_true, ih hend hps, remarked_cons hs, marked_append, marked_replicate, List.length_replicate,
        commented_pieceOf, beq_iff_eq, look_eq_comment_iff hl]

/-! ## Wide characters -/

variable {width : Char → Nat} {l : List Char}

/-- How a character is shown follows from the positions that the characters in front of it take. -/
theorem getElem?_shown (width : Char → Nat) (ps : List Piece) (i : Int) (s : List Char) (k : Nat) :
    (shown width ps i s)[k]? = s[k]?.map fun _ => commented ps (i + ((s.take k).map width).sum) := by
  induction s generalizing i k with
  | nil => rfl
  | cons c s ih =>
    cases k with
    | zero => simp [shown]
    | succ k =>
      have hplace : i + (width c : Int) + (((s.take k).map width).sum : Int) = i + ((((c :: s).take (k + 1)).map width).sum : Int) := by
        rw [List.take_succ_cons, List.map_cons, List.sum_cons]
        omega
      rw [shown, List.getElem?_cons_succ, List.getElem?_cons_succ, ih, hplace]

/-- Characters take at least as many positions as there are characters. -/
theorem length_le_sum_width (hwidth : ∀ c, 0 < width c) (s : List Char) : s.length ≤ (s.map width).sum := by
  have hle := List.length_le_sum_of_one_le (s.map width) fun n hn => by
    obtain ⟨c, -, rfl⟩ := List.mem_map.1 hn
    exact hwidth c
  rwa [List.length_map] at hle

/-- They take as many positions only if each of them takes one. -/
theorem sum_width_eq_iff (hwidth : ∀ c, 0 < width c) (s : List Char) : (s.map width).sum = s.length ↔ ∀ c ∈ s, width c = 1 := by
  induction s with
  | nil => simp
  | cons c s ih =>
    have hc := hwidth c
    have hs := length_le_sum_width hwidth s
    rw [List.map_cons, List.sum_cons, List.length_cons, List.forall_mem_cons, ← ih]
    omega

/-- A line in which each character takes one position that has a character of a comment behind it. -/
def Straight (width : Char → Nat) (l : List Char) : Prop :=
  ∀ (i j : Nat) (c : Char), i < j → l[i]? = some c → (remarked (Token.ofText l))[j]? = some true → width c = 1

/-- In front of a character of a comment, a line takes as many positions as it has characters. -/
theorem Straight.sum_width_take (hwidth : ∀ c, 0 < width c) (h : Straight width l) {j k : Nat} (hk : k ≤ j)
    (hj : (remarked (Token.ofText l))[j]? = some true) (hlength : k ≤ l.length) : ((l.take k).map width).sum = k := by
  have hone : ∀ c ∈ l.take k, width c = 1 := by
    intro c hc
    obtain ⟨i, hi⟩ := List.mem_iff_getElem?.1 hc
    rw [List.getElem?_take, Option.ite_none_right_eq_some] at hi
    exact h i j c (by omega) hi.2 hj
  have hsum := (sum_width_eq_iff hwidth _).2 hone
  rwa [List.length_take, Nat.min_eq_left hlength] at hsum

/-- A line has one mark for each of its characters. -/
theorem length_remarked_ofText (l : List Char) : (remarked (Token.ofText l)).length = l.length := by
  rw [length_remarked, Token.ofText, (Token.tiling_scan 0 l).flatMap_text]

/-- Position by position, counted from the start of a line, the look of a comment is that of the character with this number. -/
theorem commented_line_iff (h : line l = .ok ps) (k : Nat) :
    commented ps k = true ↔ (remarked (Token.ofText l))[k]? = some true := by
  rw [commented_iff (Token.tiling_scan 0 l) (Int.zero_add _) h]
  constructor
  · rintro ⟨k', hk, hmark⟩
    obtain rfl : k = k' := by omega
    exact hmark
  · intro hmark
    exact ⟨k, by omega, hmark⟩

/-- A line is shown as it is meant where it is straight. -/
theorem shown_of_straight (hwidth : ∀ c, 0 < width c) (h : line l = .ok ps) (hl : Straight width l) :
    shown width ps 0 l = remarked (Token.ofText l) := by
  apply List.ext_getElem?
  intro k
  rw [getElem?_shown, Int.zero_add]
  rcases Nat.lt_or_ge k l.length with hk | hk
  · have hk' : k < (remarked (Token.ofText l)).length := by rwa [length_remarked_ofText]
    rw [List.getElem?_eq_getElem hk, List.getElem?_eq_getElem hk', Option.map_some, Option.some_inj, Bool.eq_iff_iff,
      commented_line_iff h]
    have hge : k ≤ ((l.take k).map width).sum := by
      have hle := length_le_sum_width hwidth (l.take k)
      rwa [List.length_take, Nat.min_eq_left hk.le] at hle
    -- The two numbers are equal as soon as one of them belongs to a comment.
    constructor
    · intro hmark
      rw [hl.sum_width_take hwidth hge hmark hk.le, List.getElem?_eq_getElem hk'] at hmark
      exact Option.some.inj hmark
    · intro hmark
      have hmark' : (remarked (Token.ofText l))[k]? = some true := by rw [List.getElem?_eq_getElem hk', hmark]
      rw [hl.sum_width_take hwidth (le_refl k) hmark' hk.le, hmark']
  · rw [List.getElem?_eq_none hk, List.getElem?_eq_none (by rwa [length_remarked_ofText])]
    rfl

/-- A line that is shown as it is meant is straight: a character of a comment with wide ones in front of it gets its look through one
further behind, and the last one gets none. -/
theorem straight_of_shown (hwidth : ∀ c, 0 < width c) (h : line l = .ok ps) (hshown : shown width ps 0 l = remarked (Token.ofText l)) :
    Straight width l := by
  have hone : ∀ n j, n = l.length - j → (remarked (Token.ofText l))[j]? = some true → ∀ c ∈ l.take j, width c = 1 := by
    intro n
    induction n using Nat.strong_induction_on with
    | _ n ih =>
      intro j hn hj c hc
      have hmark := hj
      rw [← hshown, getElem?_shown, Int.zero_add] at hmark
      obtain ⟨-, -, hmark⟩ := Option.map_eq_some_iff.1 hmark
      rw [commented_line_iff h] at hmark
      have hlt := (List.getElem?_eq_some_iff.1 hj).1
      have hlt' := (List.getElem?_eq_some_iff.1 hmark).1
      rw [length_remarked_ofText] at hlt hlt'
      have hge := length_le_sum_width hwidth (l.take j)
      rw [List.length_take, Nat.min_eq_left hlt.le] at hge
      rcases Nat.eq_or_lt_of_le hge with heq | hbehind
      · refine (sum_width_eq_iff hwidth _).1 ?_ c hc
        rw [← heq, List.length_take, Nat.min_eq_left hlt.le]
      · exact ih _ (by omega) _ rfl hmark c (List.take_subset_take_left l hbehind.le hc)
  intro i j c hij hi hj
  exact hone _ j rfl hj c (List.mem_iff_getElem?.2 ⟨i, by rw [List.getElem?_take, if_pos hij, hi]⟩)

end Highlight

/-! ## The text without comments -/

namespace Editor

/-- For each line of an editor, which of its characters stand in a comment. -/
def remarked (ed : Editor) : List (List Bool) := (lines ed.text).map fun l => Highlight.remarked (Token.ofText l)

/-- For each line of an editor, which of its characters are shown as parts of comments. -/
def shown (ed : Editor) (width : Char → Nat) (looks : List (List Piece)) : List (List Bool) :=
  List.zipWith (fun l ps => Highlight.shown width ps 0 l) (lines ed.text) looks

/-- The text of an editor with a space in place of each character that is marked. -/
def overwritten (ed : Editor) (marks : List (List Bool)) : List Char :=
  ['\n'].intercalate (List.zipWith Highlight.overwrite marks (lines ed.text))

variable {ed : Editor} {looks : List (List Piece)} {width : Char → Nat}

/-- An editor shows as comments what stands in comments just where no wide character has a character of a comment behind it in its line. -/
theorem shown_eq_remarked_iff (hwidth : ∀ c, 0 < width c) (hlooks : ed.looks = .ok looks) :
    ed.shown width looks = ed.remarked ↔ ∀ l ∈ lines ed.text, Highlight.Straight width l := by
  have hlines := forall₂_of_mapM hlooks
  rw [shown, remarked]
  generalize lines ed.text = ls at hlines
  clear hlooks
  induction hlines with
  | nil => simp
  | @cons l ps ls looks hline _ ih =>
    rw [List.zipWith_cons_cons, List.map_cons, List.cons.injEq, List.forall_mem_cons]
    exact and_congr ⟨Highlight.straight_of_shown hwidth hline, Highlight.shown_of_straight hwidth hline⟩ ih

/-- Without wide characters, all lines are straight. -/
theorem straight_of_narrow (ed : Editor) (h : ∀ c ∈ ed.text, width c = 1) : ∀ l ∈ lines ed.text, Highlight.Straight width l := by
  intro l hl i j c _ hc _
  rw [lines_eq_linesOf] at hl
  exact h c (mem_of_mem_linesOf hl (List.mem_iff_getElem?.2 ⟨i, hc⟩))

end Editor

namespace Extraction

variable {s : Settings}

/-- A line without its comments does to a path what the line does. -/
theorem follows_overwrite {l : List Char} (hl : '\n' ∉ l) :
    Follows s s Eq l (Highlight.overwrite (Highlight.remarked (Token.ofText l)) l) ∧
      '\n' ∉ Highlight.overwrite (Highlight.remarked (Token.ofText l)) l := by
  have htiling : Token.Tiling 0 l (Token.ofText l) := Token.tiling_scan 0 l
  obtain ⟨left, hleft, hheard⟩ := Highlight.overwritten_remarked htiling
  obtain ⟨hlength, hnewline⟩ := Token.Overwritten.length_and_newline hleft hl
  refine ⟨⟨hlength, ?_⟩, hnewline⟩
  rintro number start e _ r rfl hr
  refine ⟨r, ?_, rfl⟩
  have hsame : Token.heard (Token.scan start (Highlight.overwrite (Highlight.remarked (Token.ofText l)) l)) =
      Token.heard (Token.scan start l) := by
    rw [Token.heard_scan_overwritten hleft, hheard, Token.scan_eq_map_shift start l, Token.heard_map_shift, Token.ofText]
  rw [addLine_eq_heard hl] at hr
  rw [addLine_eq_heard hnewline, ← hr, hsame]

/-- Without its comments a program has the same path. -/
theorem ofText_overwritten (ed : Editor) {e : Extraction} (h : ofText s ed.text = .ok e) :
    ofText s (ed.overwritten ed.remarked) = .ok e := by
  have hlines : List.zipWith Highlight.overwrite ed.remarked (Editor.lines ed.text) =
      (linesOf ed.text).map fun l => Highlight.overwrite (Highlight.remarked (Token.ofText l)) l := by
    rw [Editor.remarked, Editor.lines_eq_linesOf, List.zipWith_map_left, List.zipWith_self]
  have hfollows : List.Forall₂ (Follows s s Eq) (linesOf ed.text)
      ((linesOf ed.text).map fun l => Highlight.overwrite (Highlight.remarked (Token.ofText l)) l) := by
    rw [List.forall₂_map_right_iff, List.forall₂_same]
    exact fun l hl => (follows_overwrite (newline_not_mem_of_mem_linesOf hl)).1
  have hnewline : ∀ l ∈ (linesOf ed.text).map fun l => Highlight.overwrite (Highlight.remarked (Token.ofText l)) l, '\n' ∉ l := by
    refine List.forall_mem_map.2 fun l hl => ?_
    exact (follows_overwrite (s := s) (newline_not_mem_of_mem_linesOf hl)).2
  obtain ⟨e', he', rfl⟩ := ofText_follows hfollows hnewline rfl h
  rw [Editor.overwritten, hlines, he']

/-- Comments do not count: with spaces in place of them, a program has the same movements, as many of them are left out, and the same
problems are found at the same places. However many positions each character takes, what the editor shows as comments are these comments
just where each character takes one that has a character of a comment behind it in its line, and there what is shown does not count
either. -/
theorem hidden_comments_do_not_count {ed : Editor} {looks : List (List Piece)} (hlooks : ed.looks = .ok looks) (s : Settings)
    {e : Extraction} (h : ofText s ed.text = .ok e) :
    ofText s (ed.overwritten ed.remarked) = .ok e ∧
      ∀ width : Char → Nat, (∀ c, 0 < width c) →
        (ed.shown width looks = ed.remarked ↔ ∀ l ∈ Editor.lines ed.text, Highlight.Straight width l) ∧
          ((∀ l ∈ Editor.lines ed.text, Highlight.Straight width l) →
            ofText s (ed.overwritten (ed.shown width looks)) = .ok e) := by
  have hplain := ofText_overwritten ed h
  refine ⟨hplain, fun width hwidth => ?_⟩
  have hiff := Editor.shown_eq_remarked_iff hwidth hlooks
  refine ⟨hiff, fun hstraight => ?_⟩
  rw [hiff.2 hstraight, hplain]

/-- Of a remark with a semicolon in it, one that is left open, and a parenthesis behind a semicolon, only the commands are left. -/
theorem hidden_comments_do_not_count_open_remark :
    ∃ looks e, Editor.looks { text := "G1 X1(a;b)Y2 ;c (d\nX3 (open\rZ4 Q".toList } = .ok looks ∧
      ofText {} "G1 X1(a;b)Y2 ;c (d\nX3 (open\rZ4 Q".toList = .ok e ∧
      ofText {} "G1 X1     Y2      \nX3      \rZ4 Q".toList = .ok e ∧
      Editor.overwritten { text := "G1 X1(a;b)Y2 ;c (d\nX3 (open\rZ4 Q".toList }
        (Editor.shown { text := "G1 X1(a;b)Y2 ;c (d\nX3 (open\rZ4 Q".toList } Text.utf16Width looks) =
          "G1 X1     Y2      \nX3      \rZ4 Q".toList := by
  have hlooks : (Editor.looks { text := "G1 X1(a;b)Y2 ;c (d\nX3 (open\rZ4 Q".toList }).toOption.isSome = true := by decide +kernel
  have hhidden : Editor.overwritten { text := "G1 X1(a;b)Y2 ;c (d\nX3 (open\rZ4 Q".toList }
      (Editor.remarked { text := "G1 X1(a;b)Y2 ;c (d\nX3 (open\rZ4 Q".toList }) =
        "G1 X1     Y2      \nX3      \rZ4 Q".toList := by decide +kernel
  have hsome : (ofText {} "G1 X1(a;b)Y2 ;c (d\nX3 (open\rZ4 Q".toList).toOption.isSome = true := by decide +kernel
  have hnarrow : ("G1 X1(a;b)Y2 ;c (d\nX3 (open\rZ4 Q".toList.all fun c => Text.utf16Width c == 1) = true := by decide +kernel
  obtain ⟨looks, hlooks⟩ := Option.isSome_iff_exists.1 hlooks
  obtain ⟨e, he⟩ := Option.isSome_iff_exists.1 hsome
  obtain ⟨hplain, hshown⟩ := hidden_comments_do_not_count (eq_ok_of_toOption hlooks) {} (eq_ok_of_toOption he)
  have hstraight := Editor.straight_of_narrow { text := "G1 X1(a;b)Y2 ;c (d\nX3 (open\rZ4 Q".toList }
    fun c hc => beq_iff_eq.1 (List.all_eq_true.1 hnarrow c hc)
  have hall := (hshown Text.utf16Width Text.utf16Width_pos).1.2 hstraight
  rw [hhidden] at hplain
  exact ⟨looks, e, eq_ok_of_toOption hlooks, eq_ok_of_toOption he, hplain, by rw [hall, hhidden]⟩

/-- The end of a comment with wide characters in it is shown as a part of the program. With spaces in place of what is shown as a comment
only, the program moves once more. -/
theorem wide_remark_counts :
    ∃ looks e e', Editor.looks { text := "G1 X1\n;😀😀 X5".toList } = .ok looks ∧
      Editor.overwritten { text := "G1 X1\n;😀😀 X5".toList }
        (Editor.shown { text := "G1 X1\n;😀😀 X5".toList } Text.utf16Width looks) = "G1 X1\n    X5".toList ∧
      ofText {} "G1 X1\n;😀😀 X5".toList = .ok e ∧ ofText {} "G1 X1\n    X5".toList = .ok e' ∧
      e.segmentCount = 1 ∧ e'.segmentCount = 2 := by
  have hhidden : (Editor.looks { text := "G1 X1\n;😀😀 X5".toList }).toOption.map (fun looks =>
      Editor.overwritten { text := "G1 X1\n;😀😀 X5".toList }
        (Editor.shown { text := "G1 X1\n;😀😀 X5".toList } Text.utf16Width looks)) = some "G1 X1\n    X5".toList := by decide +kernel
  have hwhole : (ofText {} "G1 X1\n;😀😀 X5".toList).toOption.map segmentCount = some 1 := by decide +kernel
  have hrest : (ofText {} "G1 X1\n    X5".toList).toOption.map segmentCount = some 2 := by decide +kernel
  obtain ⟨looks, hlooks, htext⟩ := Option.map_eq_some_iff.1 hhidden
  obtain ⟨e, he, hone⟩ := Option.map_eq_some_iff.1 hwhole
  obtain ⟨e', he', htwo⟩ := Option.map_eq_some_iff.1 hrest
  exact ⟨looks, e, e', eq_ok_of_toOption hlooks, htext, eq_ok_of_toOption he, eq_ok_of_toOption he', hone, htwo⟩

end Extraction

end ToolpathViewer
