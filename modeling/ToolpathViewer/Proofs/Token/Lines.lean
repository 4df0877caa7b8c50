import Mathlib.Tactic
import ToolpathViewer.Token.Lexer

/-!
# Scanning line by line

No token but a space goes beyond the end of a line. So a pass over the tokens of a text that does not care how its spaces are cut
into tokens is a pass over the tokens of each line, one line after the other (`foldlM_scan_newline`).
-/

namespace ToolpathViewer.Token

/-- A token moved by a distance. -/
def shift (k : Int) (t : Token) : Token := { t with start := t.start + k, stop := t.stop + k }

/-- The token of some spaces that stand at a position. -/
def spaceAt (start : Int) (text : List Char) : Token := ⟨.space, start, start + text.length, text⟩

/-- A scan takes one token and goes on behind it. -/
theorem scan_cons (start : Int) (c : Char) (rest : List Char) :
    scan start (c :: rest) =
      ⟨Kind.ofFirst c, start, start + (c :: (body (Kind.ofFirst c) rest).1).length, c :: (body (Kind.ofFirst c) rest).1⟩ ::
        scan (start + (c :: (body (Kind.ofFirst c) rest).1).length) (body (Kind.ofFirst c) rest).2 := by
  rw [scan]

/-- A space opens a token of spaces. -/
theorem ofFirst_eq_space {c : Char} (h : isSpace c = true) : Kind.ofFirst c = .space := by
  have hc : (c == '(') = false := by
    simp only [isSpace, Bool.or_eq_true, beq_iff_eq] at h
    rcases h with ((rfl | rfl) | rfl) | rfl <;> rfl
  simp [Kind.ofFirst, hc, h]

/-- What is no space opens another token. -/
theorem ofFirst_ne_space {c : Char} (h : isSpace c = false) : Kind.ofFirst c ≠ .space := by
  unfold Kind.ofFirst
  simp only [h, Bool.false_eq_true, if_false]
  split_ifs <;> decide

/-- Only spaces go on over the end of a line. -/
theorem continues_newline {k : Kind} (hk : k ≠ .space) : k.continues '\n' = false := by
  cases k <;> first | rfl | exact absurd rfl hk

/-- A comment does not reach beyond its line. -/
theorem commentBody_newline (l rest : List Char) :
    commentBody (l ++ '\n' :: rest) = ((commentBody l).1, (commentBody l).2 ++ '\n' :: rest) := by
  induction l with
  | nil => rfl
  | cons c l ih =>
    simp only [List.cons_append, commentBody]
    split
    · rfl
    · split
      · rfl
      · rw [ih]

/-- What a line end does not continue ends with the line. -/
theorem takeWhile_newline {p : Char → Bool} (hp : p '\n' = false) (l rest : List Char) :
    (l ++ '\n' :: rest).takeWhile p = l.takeWhile p := by
  induction l with
  | nil => simp [hp]
  | cons c l ih => by_cases hc : p c = true <;> simp [hc, ih]

/-- What a line end does not continue leaves the line end. -/
theorem dropWhile_newline {p : Char → Bool} (hp : p '\n' = false) (l rest : List Char) :
    (l ++ '\n' :: rest).dropWhile p = l.dropWhile p ++ '\n' :: rest := by
  induction l with
  | nil => simp [hp]
  | cons c l ih => by_cases hc : p c = true <;> simp [hc, ih]

/-- A token that is no space ends where it would end if the text stopped with its line. -/
theorem body_newline {k : Kind} (hk : k ≠ .space) (l rest : List Char) :
    body k (l ++ '\n' :: rest) = ((body k l).1, (body k l).2 ++ '\n' :: rest) := by
  have hn := continues_newline hk
  cases k <;> first
    | exact commentBody_newline l rest
    | exact Prod.ext (takeWhile_newline hn l rest) (dropWhile_newline hn l rest)

/-- The characters of a token are characters of the text. -/
theorem text_subset_of_mem_scan {start : Int} {s : List Char} {t : Token} (h : t ∈ scan start s) : t.text ⊆ s := by
  induction hn : s.length using Nat.strong_induction_on generalizing s start with
  | _ n ih =>
    cases s with
    | nil => simp at h
    | cons c rest =>
      have happ := body_append (Kind.ofFirst c) rest
      rw [scan_cons, List.mem_cons] at h
      rcases h with rfl | h
      · refine List.cons_subset_cons c fun d hd => ?_
        rw [← happ]
        exact List.mem_append_left _ hd
      · have hlen : (body (Kind.ofFirst c) rest).2.length < n := by
          have := length_body_le (Kind.ofFirst c) rest
          simp only [List.length_cons] at hn
          omega
        intro d hd
        have := ih _ hlen h rfl hd
        rw [← happ]
        exact List.mem_cons_of_mem c (List.mem_append_right _ this)

/-- The tokens of a line hold no line end. -/
theorem newline_not_mem_of_mem_scan {start : Int} {s : List Char} (hs : '\n' ∉ s) : ∀ t ∈ scan start s, '\n' ∉ t.text :=
  fun _ ht hmem => hs (text_subset_of_mem_scan ht hmem)

/-- A token has at least one character. -/
theorem text_ne_nil_of_mem_scan {start : Int} {s : List Char} {t : Token} (h : t ∈ scan start s) : t.text ≠ [] := by
  induction hn : s.length using Nat.strong_induction_on generalizing s start with
  | _ n ih =>
    cases s with
    | nil => simp at h
    | cons c rest =>
      rw [scan_cons, List.mem_cons] at h
      rcases h with rfl | h
      · exact List.cons_ne_nil _ _
      · refine ih _ ?_ h rfl
        have := length_body_le (Kind.ofFirst c) rest
        simp only [List.length_cons] at hn
        omega

/-- Where a text stands changes only the positions of its tokens. -/
theorem scan_shift (k start : Int) (s : List Char) : scan (start + k) s = (scan start s).map (shift k) := by
  induction h : s.length using Nat.strong_induction_on generalizing s start with
  | _ n ih =>
    cases s with
    | nil => simp
    | cons c rest =>
      have hlen : (body (Kind.ofFirst c) rest).2.length < n := by
        have := length_body_le (Kind.ofFirst c) rest
        simp only [List.length_cons] at h
        omega
      rw [scan_cons, scan_cons, List.map_cons, ← ih _ hlen _ _ rfl, Int.add_right_comm]
      rfl

/-- The tokens of a text that stands somewhere are those of the text, moved there. -/
theorem scan_eq_map_shift (start : Int) (s : List Char) : scan start s = (ofText s).map (shift start) := by
  rw [ofText, ← scan_shift, Int.zero_add]

section Passes

variable {m : Type → Type} {σ : Type} [Monad m] [LawfulMonad m]

/-- A step of a pass takes spaces all at once as it takes them in two parts. -/
def SplitsSpaces (f : σ → Token → m σ) : Prop :=
  ∀ (p : σ) (start : Int) (a b : List Char), a ≠ [] → b ≠ [] →
    f p (spaceAt start (a ++ b)) = f p (spaceAt start a) >>= fun p => f p (spaceAt (start + a.length) b)

variable {f : σ → Token → m σ}

/-- The first of several spaces may be taken on its own. -/
theorem foldlM_scan_space (hf : SplitsSpaces f) {c : Char} (hc : isSpace c = true) (start : Int) (rest : List Char) (p : σ) :
    (scan start (c :: rest)).foldlM f p =
      f p (spaceAt start [c]) >>= fun p => (scan (start + 1) rest).foldlM f p := by
  have hk := ofFirst_eq_space hc
  rw [scan_cons, hk, List.foldlM_cons]
  cases rest with
  | nil => rfl
  | cons d rest =>
    by_cases hd : isSpace d = true
    · -- Both scans see one run of spaces, the second one without its first character.
      simp only [scan_cons (start + 1), ofFirst_eq_space hd, List.foldlM_cons]
      have hb : body .space (d :: rest) = (d :: (body .space rest).1, (body .space rest).2) := by
        simp [body, Kind.continues, hd]
      have h := hf p start [c] (d :: (body .space rest).1) (by simp) (by simp)
      simp only [spaceAt, List.singleton_append, List.length_singleton, Nat.cast_one] at h
      have hpos : start + ((c :: d :: (body .space rest).1).length : Int) =
          start + 1 + ((d :: (body .space rest).1).length : Int) := by
        simp only [List.length_cons]
        omega
      rw [hb, h, bind_assoc, hpos]
      rfl
    · have hb : body .space (d :: rest) = ([], d :: rest) := by simp [body, Kind.continues, hd]
      rw [hb]
      rfl

/-- A pass over a text is a pass over its first part, a step over the end of that line, and a pass over the rest. -/
theorem foldlM_scan_newline (hf : SplitsSpaces f) (start : Int) (l rest : List Char) (p : σ) :
    (scan start (l ++ '\n' :: rest)).foldlM f p =
      (scan start l).foldlM f p >>= fun p => f p (spaceAt (start + l.length) ['\n']) >>= fun p =>
        (scan (start + l.length + 1) rest).foldlM f p := by
  induction h : l.length using Nat.strong_induction_on generalizing l start p with
  | _ n ih =>
    subst h
    cases l with
    | nil => simpa using foldlM_scan_space hf (c := '\n') rfl start rest p
    | cons c l =>
      have hn : (start + 1 + (l.length : Int)) = start + ((c :: l).length : Int) := by
        simp only [List.length_cons]
        omega
      by_cases hc : isSpace c = true
      · rw [List.cons_append, foldlM_scan_space hf hc, foldlM_scan_space hf hc, bind_assoc]
        refine bind_congr fun q => ?_
        rw [ih l.length (by simp) (start + 1) l q rfl, hn]
      · have hk := ofFirst_ne_space (Bool.eq_false_iff.2 hc)
        rw [List.cons_append, scan_cons, scan_cons, body_newline hk, List.foldlM_cons, List.foldlM_cons, bind_assoc]
        refine bind_congr fun q => ?_
        have happ := congrArg List.length (body_append (Kind.ofFirst c) l)
        rw [List.length_append] at happ
        have hlen : (body (Kind.ofFirst c) l).2.length < (c :: l).length := by
          simp only [List.length_cons]
          omega
        have hstop : start + ((c :: (body (Kind.ofFirst c) l).1).length : Int) + ((body (Kind.ofFirst c) l).2.length : Int) =
            start + ((c :: l).length : Int) := by
          simp only [List.length_cons]
          omega
        rw [ih _ hlen _ _ q rfl, hstop]

end Passes

end ToolpathViewer.Token
