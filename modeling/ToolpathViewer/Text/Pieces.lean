/-!
# Pieces

A text taken apart at separators. `Text.pieces` loses nothing but these: a text without any is its only piece, and there is always
at least one.
-/

namespace ToolpathViewer.Text

/-- The pieces of a text between separators. -/
def pieces (isSeparator : Char → Bool) : List Char → List (List Char)
  | [] => [[]]
  | c :: rest =>
    if isSeparator c then [] :: pieces isSeparator rest
    else
      match pieces isSeparator rest with
      | [] => [[c]]
      | p :: ps => (c :: p) :: ps

/-- The text in front of the first mark, and the text behind it if it has one. -/
def cut (mark : Char) (s : List Char) : List Char × Option (List Char) :=
  match s.dropWhile (· != mark) with
  | [] => (s.takeWhile (· != mark), none)
  | _ :: rest => (s.takeWhile (· != mark), some rest)

/-- There is always a piece. -/
theorem pieces_ne_nil (isSeparator : Char → Bool) (s : List Char) : pieces isSeparator s ≠ [] := by
  cases s with
  | nil => simp [pieces]
  | cons c rest =>
    rw [pieces]
    split
    · simp
    · split <;> simp

/-- A text without a separator is its only piece. -/
theorem pieces_of_none {isSeparator : Char → Bool} {s : List Char} (h : ∀ c ∈ s, isSeparator c = false) :
    pieces isSeparator s = [s] := by
  induction s with
  | nil => rfl
  | cons c rest ih =>
    have hc : isSeparator c = false := h c List.mem_cons_self
    simp [pieces, hc, ih fun d hd => h d (List.mem_cons_of_mem c hd)]

end ToolpathViewer.Text
