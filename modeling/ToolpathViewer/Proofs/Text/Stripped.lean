import Mathlib.Data.List.DropRight
import ToolpathViewer.Text.Blank

/-!
# Texts without blanks at their ends

Trimming takes the characters of a class off both ends of a text. What is left does not begin with one, and nothing changes when it is
trimmed again. Blanks are stripped in this way.
-/

namespace ToolpathViewer.Text

variable {drop : Char → Bool} {s : List Char}

/-- What the text ends with is taken off behind what it begins with. -/
theorem trimmed_eq_rdropWhile (drop : Char → Bool) (s : List Char) : trimmed drop s = (s.dropWhile drop).rdropWhile drop := rfl

/-- What is left of a text is a front part of the text without its start. -/
theorem trimmed_prefix_dropWhile (drop : Char → Bool) (s : List Char) : trimmed drop s <+: s.dropWhile drop :=
  List.rdropWhile_prefix drop _

/-- What is left of a text was in the text. -/
theorem mem_of_mem_trimmed {c : Char} (h : c ∈ trimmed drop s) : c ∈ s :=
  (List.dropWhile_suffix drop).subset ((trimmed_prefix_dropWhile drop s).subset h)

/-- Nothing is trimmed off a text without characters of the class. -/
theorem trimmed_eq_self (h : ∀ c ∈ s, drop c = false) : trimmed drop s = s := by
  have hkeep : ∀ t : List Char, (∀ c ∈ t, drop c = false) → t.dropWhile drop = t := by
    intro t ht
    cases t with
    | nil => rfl
    | cons c t => rw [List.dropWhile_cons_of_neg (by simp [ht c List.mem_cons_self])]
  rw [trimmed, hkeep s h, hkeep _ fun c hc => h c (List.mem_reverse.1 hc), List.reverse_reverse]

/-- What opens a text stays in front of it when it is trimmed, unless it is of the class itself. -/
theorem trimmed_cons {c : Char} (hc : drop c = false) (s : List Char) : ∃ s', trimmed drop (c :: s) = c :: s' := by
  have hfront : (c :: s).dropWhile drop = c :: s := by simp [hc]
  unfold trimmed
  rw [hfront, List.reverse_cons, List.dropWhile_append]
  split
  · exact ⟨[], by simp [hc]⟩
  · exact ⟨(s.reverse.dropWhile drop).reverse, by simp⟩

/-- A trimmed text does not begin with a character of the class. -/
theorem drop_of_trimmed_eq_cons {c : Char} {rest : List Char} (h : trimmed drop s = c :: rest) : drop c = false := by
  have hfront := trimmed_prefix_dropWhile drop s
  rw [h] at hfront
  obtain ⟨more, hmore⟩ := hfront
  have hne : s.dropWhile drop ≠ [] := by
    rw [← hmore]
    exact List.cons_ne_nil _ _
  have hhead := List.head_dropWhile_not drop hne
  simpa only [← hmore, List.cons_append, List.head_cons] using hhead

/-- Nothing more is trimmed off a trimmed text. -/
theorem trimmed_trimmed (drop : Char → Bool) (s : List Char) : trimmed drop (trimmed drop s) = trimmed drop s := by
  have hfront : (trimmed drop s).dropWhile drop = trimmed drop s := by
    cases hs : trimmed drop s with
    | nil => rfl
    | cons c rest => rw [List.dropWhile_cons_of_neg (by simp [drop_of_trimmed_eq_cons hs])]
  rw [trimmed_eq_rdropWhile drop (trimmed drop s), hfront, trimmed_eq_rdropWhile, List.rdropWhile_idempotent]

end ToolpathViewer.Text
