import ToolpathViewer.Proofs.Text.Stripped
import ToolpathViewer.Proofs.Text.UpperCase
import ToolpathViewer.Proofs.Token.Relabelling
import ToolpathViewer.Proofs.Token.Significant
import ToolpathViewer.Proofs.Toolpath.Course

/-!
# The problems of a text

`Token.problems` are the tokens of a text that cannot be read: commands that are no letter with a number, coordinates of a path without a
value, and words that nothing knows, as long as they do not stand in a remark. They are told from the tokens and the line ends of the whole
text. Every line has its own problems, those of its tokens in front of a remark, and the problems of the text are the problems of its lines
(`problems_eq`).
-/

namespace ToolpathViewer

open Text

namespace Code

/-- The code is one letter with a number behind it. -/
def isPlain : List Char → Bool
  | [] => false
  | letter :: number => isLetter letter && isNumber number

/-- The normal form of a code begins with the letter that the code begins with, in upper case. -/
theorem normalize_eq_cons {c u : Char} {more code : List Char} (hc : isBlank c = false) (hu : upperChar c = [u])
    (h : normalize (c :: more) = .ok code) : ∃ number, code = u :: number := by
  obtain ⟨more', hstrip⟩ : ∃ s', strip (c :: more) = c :: s' := trimmed_cons hc more
  rw [normalize, hstrip, upper_cons, hu, List.singleton_append, normalizeUpper] at h
  split at h
  · split at h
    · exact ⟨_, (Except.ok.inj h).symm⟩
    · cases h
  · exact ⟨_, (Except.ok.inj h).symm⟩

end Code

namespace Token

/-! ## Tokens that cannot be read -/

/-- The letters of the coordinates that matter to a path. -/
def valueLetters : List Char := ['X', 'Y', 'Z', 'I', 'J', 'K', 'R']

/-- The letters, in upper case, of words that are no problem: those of remarks, of sequence and program numbers, and the tape mark. -/
def ordinaryLetters : List Char := [';', 'N', 'O', '%']

/-- The token cannot be read: a command whose normal form is no letter with a number, a coordinate whose value is no number, or a word
that is not ordinary. -/
def isProblem (t : Token) : Bool :=
  match t.kind with
  | .command => !(Code.normalize t.text).toOption.any Code.isPlain
  | .coordinate =>
    match t.text with
    | [] => false
    | c :: value => isOneOf valueLetters c && (Decimal.readDecimal? value).isNone
  | .word => !(upper t.text).head?.any ordinaryLetters.contains
  | .comment | .number | .space | .bad => false

/-- The number of the line on which a position lies: one more than the line ends in front of it. -/
def lineAt (text : List Char) (position : Int) : Nat := 1 + (text.take position.toNat).count '\n'

/-- The token stands in a remark: in front of it, a word on its line makes the rest of the line one. -/
def isSilenced (text : List Char) (t : Token) : Bool :=
  (ofText text).any fun u => u.silences && decide (u.start < t.start) && lineAt text u.start == lineAt text t.start

/-- The tokens of a text that cannot be read and stand in no remark. -/
def problems (text : List Char) : List Token := (ofText text).filter fun t => t.isProblem && !t.isSilenced text

variable {t : Token}

/-- A word that makes the rest of a line a remark is no problem. -/
theorem isProblem_of_silences (h : t.silences = true) : t.isProblem = false := by
  simp only [silences, Bool.and_eq_true, beq_iff_eq] at h
  obtain ⟨hk, hhead⟩ := h
  obtain ⟨value, htext⟩ := List.head?_eq_some_iff.1 hhead
  rw [isProblem, hk, htext]
  rfl

/-- A space is no problem. -/
theorem kind_ne_space_of_isProblem (h : t.isProblem = true) : t.kind ≠ .space := by
  intro hk
  rw [isProblem, hk] at h
  cases h

/-- What opens a command is one of the command letters. -/
theorem exists_upperChar_of_command {c : Char} (h : Kind.ofFirst c = .command) : ∃ u ∈ commandLetters, upperChar c = [u] := by
  have hone : isOneOf commandLetters c = true := by
    unfold Kind.ofFirst at h
    split_ifs at h with _ _ hcommand
    exact hcommand
  unfold isOneOf at hone
  split at hone
  · rename_i u hu
    exact ⟨u, List.contains_iff_mem.1 hone, hu⟩
  · cases hone

/-- The normal form of a command begins with a letter, so that what follows it decides whether the command can be read. -/
theorem isPlain_of_command {c : Char} {more code : List Char} (hk : Kind.ofFirst c = .command)
    (h : Code.normalize (c :: more) = .ok code) : Code.isPlain code = Code.isNumber (code.drop 1) := by
  have huppers : ∀ u ∈ commandLetters, u.isUpper = true := List.all_eq_true.1 (by decide)
  have hletters : ∀ u ∈ commandLetters, isLetter u = true := List.all_eq_true.1 (by decide)
  obtain ⟨u, hu, hupper⟩ := exists_upperChar_of_command hk
  have hblank := not_isBlank_of_upperChar hupper (huppers u hu)
  obtain ⟨number, rfl⟩ := Code.normalize_eq_cons hblank hupper h
  rw [Code.isPlain, hletters u hu, Bool.true_and]
  rfl

/-- Only a word with a semicolon in front of it begins with one in upper case. -/
theorem any_head?_ordinaryLetters {c : Char} {value : List Char} (hc : c ≠ ';') :
    (upper (c :: value)).head?.any ordinaryLetters.contains = (upper (c :: value)).head?.any Line.quietLetters.contains := by
  obtain ⟨u, more, hupper, hsemicolon⟩ := exists_upperChar_eq_cons c
  have hu : u ≠ ';' := fun h => hc (hsemicolon h)
  rw [upper_cons, hupper]
  simp [ordinaryLetters, Line.quietLetters, hu]

/-! ## Tokens in front of a remark -/

/-- Tokens of a scan come in the order of their positions. -/
theorem Tiling.pairwise_start {start : Int} {s : List Char} {ts : List Token} (h : Tiling start s ts) :
    ts.Pairwise (·.start < ·.start) := by
  induction h with
  | nil => exact .nil
  | @cons start c more after ts _ hrest ih =>
    refine List.pairwise_cons.2 ⟨fun t ht => ?_, ih⟩
    have hle := hrest.start_le t ht
    change start < t.start
    rw [List.length_cons] at hle
    omega

/-- The problems that no word in front of them makes part of a remark are those in front of the first such word. -/
theorem filter_unsilenced {ts : List Token} (h : ts.Pairwise (·.start < ·.start)) :
    (ts.filter fun t => t.isProblem && !ts.any fun u => u.silences && decide (u.start < t.start)) = (spoken ts).filter isProblem := by
  induction ts with
  | nil => rfl
  | cons v ts ih =>
    obtain ⟨hv, hts⟩ := List.pairwise_cons.1 h
    cases hs : v.silences with
    | true =>
      rw [spoken, List.takeWhile_cons_of_neg (by simp [hs]), List.filter_nil, List.filter_eq_nil_iff]
      intro t ht
      rcases List.mem_cons.1 ht with rfl | ht
      · simp [isProblem_of_silences hs]
      · simp [hs, hv t ht]
    | false =>
      have hhead : (v.isProblem && !(v :: ts).any fun u => u.silences && decide (u.start < v.start)) = v.isProblem := by
        have hnone : ((v :: ts).any fun u => u.silences && decide (u.start < v.start)) = false := by
          rw [List.any_cons, hs, Bool.false_and, Bool.false_or, List.any_eq_false]
          intro u hu
          simp [(hv u hu).le]
        rw [hnone, Bool.not_false, Bool.and_true]
      rw [spoken, List.takeWhile_cons_of_pos (by simp [hs]), List.filter_cons, List.filter_cons, hhead]
      simp only [List.any_cons, hs, Bool.false_and, Bool.false_or, ih hts]
      rfl

end Token

/-! ## Lines and positions -/

namespace SourceLine

/-- The place of a line among the lines of a text: behind the line ends that its number counts, from the position at which it starts. -/
theorem exists_of_mem_numbered {text : List Char} {number : Nat} {start : Int} {src : SourceLine}
    (h : src ∈ numbered number start (linesOf text)) :
    ∃ before after, text = before ++ src.text ++ after ∧ src.start = start + before.length ∧
      src.number = number + before.count '\n' := by
  induction hn : text.length using Nat.strong_induction_on generalizing text number start with
  | _ n ih =>
    rcases line_cases text with hnone | ⟨l, rest, rfl, hl⟩
    · rw [linesOf_of_not_mem hnone, numbered, numbered, List.mem_singleton] at h
      exact ⟨[], [], by simp [h], by simp [h], by simp [h]⟩
    · rw [linesOf_newline hl, numbered, List.mem_cons] at h
      rcases h with rfl | h
      · exact ⟨[], '\n' :: rest, rfl, by simp, by simp⟩
      · have hlt : rest.length < n := by
          rw [← hn, List.length_append, List.length_cons]
          omega
        obtain ⟨before, after, htext, hstart, hnumber⟩ := ih _ hlt h rfl
        refine ⟨l ++ '\n' :: before, after, by simp [htext], ?_, ?_⟩
        · rw [hstart, List.length_append, List.length_cons]
          omega
        · rw [hnumber, List.count_append, List.count_cons_self, List.count_eq_zero.2 hl]
          omega

/-- Lines are found by their numbers. -/
theorem getElem?_of_mem_numbered {lines : List (List Char)} {number : Nat} {start : Int} {src : SourceLine}
    (h : src ∈ numbered number start lines) : lines[src.number - number]? = some src.text := by
  induction lines generalizing number start with
  | nil => cases h
  | cons text lines ih =>
    rcases List.mem_cons.1 h with rfl | h
    · simp
    · have hle := (pairwise_numbered _ _ lines).2 src h
      have hindex : src.number - number = src.number - (number + 1) + 1 := by omega
      rw [hindex, List.getElem?_cons_succ, ih h]

/-- Lines with the same number are the same line. -/
theorem eq_of_number_eq {lines : List (List Char)} {number : Nat} {start : Int} {src src' : SourceLine}
    (h : src ∈ numbered number start lines) (h' : src' ∈ numbered number start lines) (hnumber : src.number = src'.number) :
    src = src' := by
  have hinj := List.inj_on_of_nodup_map (f := SourceLine.number) (l := numbered number start lines)
    (List.pairwise_map.2 ((pairwise_numbered number start lines).1.imp fun hlt => hlt.ne))
  exact hinj h h' hnumber

end SourceLine

namespace Token

variable {text : List Char} {src : SourceLine} {t : Token}

/-- The number of a line is that of the line on which its tokens are found. -/
theorem lineAt_of_mem (hsrc : src ∈ SourceLine.numbered 1 0 (linesOf text)) (ht : t ∈ scan src.start src.text) :
    lineAt text t.start = src.number := by
  obtain ⟨before, after, htext, hstart, hnumber⟩ := SourceLine.exists_of_mem_numbered hsrc
  obtain ⟨pre, c, more, post, hline, -, hpos, -⟩ := (tiling_scan src.start src.text).cutFrom t ht
  have hpre : '\n' ∉ pre := fun hmem => SourceLine.newline_not_mem hsrc (by simp [hline, hmem])
  have hposition : t.start.toNat = (before ++ pre).length := by
    rw [hpos, hstart, List.length_append]
    omega
  have hsplit : text = before ++ pre ++ (c :: more ++ post ++ after) := by
    rw [htext, hline]
    simp only [List.append_assoc]
  have hfront : text.take t.start.toNat = before ++ pre := by
    rw [hposition, hsplit, List.take_left]
  rw [lineAt, hfront, List.count_append, List.count_eq_zero.2 hpre, hnumber]
  rfl

/-- The columns of a token cut it out of its line. -/
theorem slice_of_mem (ht : t ∈ scan src.start src.text) :
    0 ≤ t.start - src.start ∧ t.stop - src.start ≤ src.text.length ∧
      slice src.text (t.start - src.start) (t.stop - src.start) = t.text := by
  obtain ⟨pre, c, more, post, hline, htext, hpos, hstop, -⟩ := (tiling_scan src.start src.text).cutFrom t ht
  have hstart : t.start - src.start = (pre.length : Int) := by omega
  have hend : t.stop - src.start = ((pre ++ c :: more).length : Int) := by
    rw [hstop, hpos, htext, List.length_append]
    omega
  have hlength : src.text.length = (pre ++ c :: more).length + post.length := by rw [hline, List.length_append]
  have hposition : ∀ n : Nat, n ≤ src.text.length → position src.text.length (n : Int) = n := by
    intro n hn
    rw [position, if_neg (by omega)]
    omega
  have hsplit : (pre ++ c :: more).length = pre.length + (c :: more).length := List.length_append
  refine ⟨by omega, by omega, ?_⟩
  rw [slice, hstart, hend, hposition _ (by omega), hposition _ (by omega), htext, hsplit, Nat.add_sub_cancel_left, hline,
    List.append_assoc, List.drop_left, List.take_left]

/-- A token of a line stands in a remark when a word of the line in front of it makes the rest of the line one. -/
theorem isSilenced_of_mem (hsrc : src ∈ SourceLine.numbered 1 0 (linesOf text)) (ht : t ∈ scan src.start src.text) :
    t.isSilenced text = (scan src.start src.text).any fun u => u.silences && decide (u.start < t.start) := by
  have hmem : ∀ u : Token, u.silences = true → (u ∈ ofText text ↔
      ∃ src ∈ SourceLine.numbered 1 0 (linesOf text), u ∈ scan src.start src.text) := by
    intro u hu
    have hk : (u.kind != .space) = true := by
      simp only [silences, Bool.and_eq_true, beq_iff_eq] at hu
      rw [hu.1]
      rfl
    have hboth := congrArg (u ∈ ·) (significant_scan_eq 1 0 text)
    rw [ofText]
    simpa only [significant, List.mem_flatMap, List.mem_filter, hk, and_true, eq_iff_iff] using hboth
  rw [isSilenced, Bool.eq_iff_iff, List.any_eq_true, List.any_eq_true]
  constructor
  · rintro ⟨u, hu, hcond⟩
    simp only [Bool.and_eq_true, decide_eq_true_eq, beq_iff_eq] at hcond
    obtain ⟨⟨hs, hbefore⟩, hsame⟩ := hcond
    obtain ⟨src', hsrc', hu⟩ := (hmem u hs).1 hu
    rw [lineAt_of_mem hsrc' hu, lineAt_of_mem hsrc ht] at hsame
    obtain rfl := SourceLine.eq_of_number_eq hsrc' hsrc hsame
    exact ⟨u, hu, by simp [hs, hbefore]⟩
  · rintro ⟨u, hu, hcond⟩
    simp only [Bool.and_eq_true, decide_eq_true_eq] at hcond
    refine ⟨u, (hmem u hcond.1).2 ⟨src, hsrc, hu⟩, ?_⟩
    simp [hcond, lineAt_of_mem hsrc hu, lineAt_of_mem hsrc ht]

/-- The problems of a text are those of its lines, in front of the remark on each. -/
theorem problems_eq (text : List Char) :
    problems text =
      (SourceLine.numbered 1 0 (linesOf text)).flatMap fun src => (spoken (scan src.start src.text)).filter isProblem := by
  have hspace : ∀ (ts : List Token) (p : Token → Bool), (ts.filter fun t => t.isProblem && p t) =
      (significant ts).filter fun t => t.isProblem && p t := by
    intro ts p
    rw [significant, List.filter_filter]
    refine List.filter_congr fun t _ => ?_
    cases h : t.isProblem with
    | false => rfl
    | true => simp [kind_ne_space_of_isProblem h]
  have hline : ∀ src ∈ SourceLine.numbered 1 0 (linesOf text),
      ((significant (scan src.start src.text)).filter fun t => t.isProblem && !t.isSilenced text) =
        (spoken (scan src.start src.text)).filter isProblem := by
    intro src hsrc
    rw [← hspace, ← filter_unsilenced (tiling_scan src.start src.text).pairwise_start]
    exact List.filter_congr fun t ht => by rw [isSilenced_of_mem hsrc ht]
  rw [problems, hspace, ofText, significant_scan_eq 1, List.filter_flatMap]
  exact List.flatMap_congr hline

end Token

end ToolpathViewer
