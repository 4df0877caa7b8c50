import ToolpathViewer.Proofs.Token.Significant
import ToolpathViewer.Proofs.Toolpath.Attribution

/-!
# Tokens overwritten with spaces

Some tokens of a text are overwritten with spaces (`Overwritten`). A scan of what is left finds the other tokens where they were and
finds nothing new (`significant_scan_overwritten`): a token that reached as far as its kind allows still does so in front of a space.
Only an open comment would go on over a space, and what stands behind one is the end of its line.
-/

namespace ToolpathViewer.Token

/-! ## Spaces in a text -/

/-- A number of spaces. -/
def blank (n : Nat) : List Char := List.replicate n ' '

/-- There are as many spaces as asked for. -/
@[simp] theorem length_blank (n : Nat) : (blank n).length = n := List.length_replicate

/-- Spaces are spaces. -/
theorem isSpace_of_mem_blank {n : Nat} {c : Char} (h : c ∈ blank n) : isSpace c = true := by
  rw [List.eq_of_mem_replicate h]
  rfl

/-- Spaces hold no line end. -/
theorem newline_not_mem_blank (n : Nat) : '\n' ∉ blank n := by
  intro h
  cases List.eq_of_mem_replicate h

/-- Spaces in front of a text move its tokens and add none. -/
theorem significant_scan_spaces {spaces : List Char} (h : ∀ c ∈ spaces, isSpace c = true) (start : Int) (rest : List Char) :
    significant (scan start (spaces ++ rest)) = significant (scan (start + spaces.length) rest) := by
  induction spaces generalizing start with
  | nil => simp
  | cons c spaces ih =>
    obtain ⟨hc, hspaces⟩ := List.forall_mem_cons.1 h
    have hstart : start + 1 + (spaces.length : Int) = start + ((c :: spaces).length : Int) := by
      rw [List.length_cons]
      omega
    rw [List.cons_append, significant_scan_space hc, ih hspaces, hstart]

/-- Spaces in front of a text move its tokens. -/
theorem significant_scan_blank (n : Nat) (start : Int) (rest : List Char) :
    significant (scan start (blank n ++ rest)) = significant (scan (start + n) rest) := by
  have hspaces : ∀ c ∈ blank n, isSpace c = true := fun _ hc => isSpace_of_mem_blank hc
  rw [significant_scan_spaces hspaces, length_blank]

/-- No token but a space goes on with a space. -/
theorem continues_blank {k : Kind} (hk : k ≠ .space) : k.continues ' ' = false := by
  cases k <;> first | rfl | exact absurd rfl hk

/-- A token of spaces starts with a space. -/
theorem isSpace_of_ofFirst {c : Char} (h : Kind.ofFirst c = .space) : isSpace c = true := by
  by_contra hc
  exact ofFirst_ne_space (Bool.eq_false_iff.2 hc) h

/-- A token of spaces has nothing else. -/
theorem Whole.isSpace {c : Char} {more after : List Char} (hk : Kind.ofFirst c = .space) (h : Whole .space (c :: more) after) :
    ∀ d ∈ c :: more, isSpace d = true := by
  cases h with
  | run _ _ hmore _ => exact List.forall_mem_cons.2 ⟨isSpace_of_ofFirst hk, hmore⟩

/-- A token reaches as far as before when what follows it begins as before, or begins with a space in place of another token. -/
theorem Whole.of_head? {k : Kind} {text after after' : List Char} (hk : k ≠ .space) (h : Whole k text after)
    (hhead : after'.head? = after.head? ∨ after'.head? = some ' ' ∧ ∃ d ∈ after.head?, Token.isSpace d = false) :
    Whole k text after' := by
  cases h with
  | closed hremark after => exact .closed hremark after'
  | unclosed hremark hafter =>
    refine .unclosed hremark ?_
    rcases hhead with hsame | ⟨-, d, hd, hspace⟩
    · rwa [hsame]
    · rcases hafter d hd with rfl | rfl <;> cases hspace
  | run hcomment c hmore hafter =>
    refine .run hcomment c hmore ?_
    rcases hhead with hsame | ⟨hblank, -⟩
    · rwa [hsame]
    · intro d hd
      rw [hblank] at hd
      rw [← Option.some.inj hd]
      exact continues_blank hk

/-! ## Overwriting -/

/-- Characters in place of those of some tokens, and the tokens that keep their own. A token that is not a space may be overwritten, alone
or with all tokens behind it. -/
inductive Overwritten : List Token → List Char → List Token → Prop where
  | nil : Overwritten [] [] []
  | keep (t : Token) {ts : List Token} {cs : List Char} {left : List Token} (h : Overwritten ts cs left) :
    Overwritten (t :: ts) (t.text ++ cs) (t :: left)
  | erase {t : Token} (ht : t.kind ≠ .space) {ts : List Token} {cs : List Char} {left : List Token} (h : Overwritten ts cs left) :
    Overwritten (t :: ts) (blank t.text.length ++ cs) left
  | eraseAll {t : Token} (ht : t.kind ≠ .space) {ts : List Token} {n : Nat} (hn : n = ((t :: ts).flatMap text).length) :
    Overwritten (t :: ts) (blank n) []

variable {ts left : List Token} {cs : List Char}

/-- Overwriting keeps the number of characters. -/
theorem Overwritten.length_eq (h : Overwritten ts cs left) : cs.length = (ts.flatMap text).length := by
  induction h with
  | nil => rfl
  | keep t _ ih => rw [List.length_append, ih, List.flatMap_cons, List.length_append]
  | erase _ _ ih => rw [List.length_append, ih, List.flatMap_cons, List.length_append, length_blank]
  | eraseAll _ hn => rw [length_blank, hn]

/-- Overwriting adds no line end. -/
theorem Overwritten.newline_not_mem (h : Overwritten ts cs left) (hts : '\n' ∉ ts.flatMap text) : '\n' ∉ cs := by
  induction h with
  | nil => exact hts
  | keep t _ ih =>
    rw [List.flatMap_cons, List.mem_append, not_or] at hts
    rw [List.mem_append, not_or]
    exact ⟨hts.1, ih hts.2⟩
  | erase _ _ ih =>
    rw [List.flatMap_cons, List.mem_append, not_or] at hts
    rw [List.mem_append, not_or]
    exact ⟨newline_not_mem_blank _, ih hts.2⟩
  | eraseAll => exact newline_not_mem_blank _

/-- Spaces start with a space. -/
theorem head?_blank_append {n : Nat} (h : 0 < n) (rest : List Char) : (blank n ++ rest).head? = some ' ' := by
  cases n with
  | zero => omega
  | succ n => rfl

/-- What is overwritten begins as before, or with a space in place of a token that was not one. -/
theorem Overwritten.head? {start : Int} {s : List Char} (h : Overwritten ts cs left) (ht : Tiling start s ts) :
    cs.head? = s.head? ∨ cs.head? = some ' ' ∧ ∃ d ∈ s.head?, isSpace d = false := by
  cases ht with
  | nil =>
    cases h
    exact Or.inl rfl
  | @cons _ c more after ts hwhole hrest =>
    have hspace : Kind.ofFirst c ≠ .space → ∃ d ∈ (c :: more ++ after).head?, isSpace d = false := by
      intro hk
      refine ⟨c, rfl, Bool.eq_false_iff.2 fun hc => hk (ofFirst_eq_space hc)⟩
    cases h with
    | keep => exact Or.inl rfl
    | erase hk => exact Or.inr ⟨head?_blank_append (by simp) _, hspace hk⟩
    | @eraseAll _ hk _ n hn =>
      have hpos : 0 < n := by simp [hn]
      have hhead := head?_blank_append hpos []
      rw [List.append_nil] at hhead
      exact Or.inr ⟨hhead, hspace hk⟩

/-- Spaces are left out of the significant tokens. -/
theorem significant_cons_space {t : Token} (ht : t.kind = .space) (ts : List Token) : significant (t :: ts) = significant ts := by
  simp [significant, ht]

/-- All other tokens are significant. -/
theorem significant_cons {t : Token} (ht : t.kind ≠ .space) (ts : List Token) : significant (t :: ts) = t :: significant ts := by
  simp [significant, ht]

/-- The tokens of an overwritten text are those that are left, where they were. -/
theorem significant_scan_overwritten {start : Int} {s : List Char} (ht : Tiling start s ts) (h : Overwritten ts cs left) :
    significant (scan start cs) = significant left := by
  induction ht generalizing cs left with
  | nil start =>
    cases h
    rw [scan_nil]
  | @cons start c more after ts hwhole hrest ih =>
    cases h with
    | @keep _ _ cs left h =>
      by_cases hk : Kind.ofFirst c = .space
      · have hspaces := Whole.isSpace hk (hk ▸ hwhole)
        rw [significant_scan_spaces hspaces, significant_cons_space hk, ih h]
      · have hwhole' := hwhole.of_head? hk (h.head? hrest)
        rw [scan_whole hwhole', significant_cons hk, significant_cons hk, ih h]
    | erase hk h => rw [significant_scan_blank, ih h]
    | @eraseAll _ _ _ n =>
      have hblank := significant_scan_blank n start []
      rwa [List.append_nil, scan_nil] at hblank

end ToolpathViewer.Token
