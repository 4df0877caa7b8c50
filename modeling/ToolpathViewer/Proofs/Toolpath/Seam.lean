import ToolpathViewer.Proofs.Toolpath.Simulation

/-!
# Programs one behind another

A program of two texts, one behind the other on lines of its own, draws what the first one draws and then more. What the second one adds
depends on the first only through the state that it leaves the machine in and the number of its lines; where it stands in the whole
does not matter.
-/

namespace ToolpathViewer

/-! ## Lines of both -/

/-- A line end between two texts parts their lines. -/
theorem linesOf_joined (t₁ t₂ : List Char) : linesOf (t₁ ++ '\n' :: t₂) = linesOf t₁ ++ linesOf t₂ := by
  induction h : t₁.length using Nat.strong_induction_on generalizing t₁ with
  | _ n ih =>
    rcases line_cases t₁ with hn | ⟨l, rest, rfl, hl⟩
    · rw [linesOf_newline hn, linesOf_of_not_mem hn]
      rfl
    · have hlt : rest.length < n := by
        rw [← h, List.length_append, List.length_cons]
        omega
      rw [List.append_assoc, List.cons_append, linesOf_newline hl, linesOf_newline hl, ih _ hlt rest rfl, List.cons_append]

/-- More lines are numbered on from where they come. -/
theorem SourceLine.numbered_append (number : Nat) (start : Int) (lines more : List (List Char)) :
    ∃ start', numbered number start (lines ++ more) = numbered number start lines ++ numbered (number + lines.length) start' more := by
  induction lines generalizing number start with
  | nil => exact ⟨start, rfl⟩
  | cons text lines ih =>
    obtain ⟨start', h⟩ := ih (number + 1) (start + text.length + 1)
    refine ⟨start', ?_⟩
    rw [List.cons_append, numbered, h, numbered, List.cons_append, List.length_cons, Nat.add_right_comm, Nat.add_assoc]

namespace Extraction

/-- Without a limit that is given there is none. -/
theorem Settings.limit_of_null {codes : List Json} {divisions : Json} {s : Settings}
    (h : Settings.ofValues codes .null divisions = .ok s) : s.limit = none := by
  obtain ⟨excluded, bound, least, -, hbound, -, rfl⟩ := ofValues_eq_ok.1 h
  obtain rfl := Except.ok.inj hbound
  rfl

variable {s : Settings}

/-! ## Paths behind paths -/

/-- A path that goes on from another one. -/
def onto (base e : Extraction) : Extraction where
  machine := e.machine
  movements := base.movements ++ e.movements
  dropped := base.dropped + e.dropped
  diagnostics := base.diagnostics ++ e.diagnostics

/-- Nothing drawn and nothing found yet, with the machine in some state. -/
def startingAt (m : Machine) : Extraction := { machine := m, movements := #[] }

/-- A path goes on from itself by nothing. -/
theorem onto_startingAt (e : Extraction) : e.onto (startingAt e.machine) = e := by
  simp [onto, startingAt]

/-- A move goes on from a base as it does without one. -/
theorem onto_moveTo (hs : s.limit = none) (base : Extraction) (motion : Motion) (line : Nat) (e : Extraction) (target : Vec3 Float) :
    base.onto (e.moveTo s motion line target) = (base.onto e).moveTo s motion line target := by
  simp [moveTo, hs, onto]

/-- Without a limit, extraction goes on from any path as it does from any other one. -/
theorem simulates_onto (hs : s.limit = none) (base : Extraction) : Simulates s s (onto base) where
  excluded := rfl
  divisions := rfl
  machine := fun _ => rfl
  setMachine := fun _ _ => rfl
  find := fun e ds => by simp [onto]
  moveTo := onto_moveTo hs base

/-- What lines add to a path: wherever they stand, it is what they add to nothing. -/
theorem addLines_onto (hs : s.limit = none) (e : Extraction) (number : Nat) (start : Int) (lines : List (List Char)) :
    (SourceLine.numbered number start lines).foldlM (addLine s) e =
      carry (onto e) (onto e) ((SourceLine.numbered number 0 lines).foldlM (addLine s) (startingAt e.machine)) := by
  have h := (simulates_onto hs e).addLines start (startingAt e.machine) number 0 lines
  rwa [onto_startingAt, Int.zero_add] at h

/-- The path of a text and another one behind it. -/
theorem ofText_joined (hs : s.limit = none) (t₁ t₂ : List Char) :
    ofText s (t₁ ++ '\n' :: t₂) = ofText s t₁ >>= fun e =>
      carry (onto e) (onto e)
        ((SourceLine.numbered (t₁.count '\n' + 2) 0 (linesOf t₂)).foldlM (addLine s) (startingAt e.machine)) := by
  obtain ⟨start, hlines⟩ := SourceLine.numbered_append 1 0 (linesOf t₁) (linesOf t₂)
  have hnumber : 1 + (linesOf t₁).length = t₁.count '\n' + 2 := by
    rw [length_linesOf]
    omega
  rw [ofText_eq_addLines, ofText_eq_addLines, linesOf_joined, hlines, List.foldlM_append, hnumber]
  exact bind_congr fun e => addLines_onto hs e _ start _

/-- The path of a text with another one behind it starts with the path of the first one. What is added does not depend on the first text
beyond the state that it leaves the machine in and the number of its lines: behind any other text that agrees on these, the second one
adds the same. -/
theorem joined_goes_on {codes : List Json} {divisions : Json} (hs : Settings.ofValues codes .null divisions = .ok s)
    {t₁ t₂ : List Char} {e : Extraction} (h : ofText s (t₁ ++ '\n' :: t₂) = .ok e) :
    ∃ e₁ movements diagnostics, ofText s t₁ = .ok e₁ ∧
      e.movements = e₁.movements ++ movements ∧ e.diagnostics = e₁.diagnostics ++ diagnostics ∧
      ∀ t₁' e₁', ofText s t₁' = .ok e₁' → e₁'.machine = e₁.machine → t₁'.count '\n' = t₁.count '\n' →
        ∃ e', ofText s (t₁' ++ '\n' :: t₂) = .ok e' ∧
          e'.movements = e₁'.movements ++ movements ∧ e'.diagnostics = e₁'.diagnostics ++ diagnostics ∧ e'.machine = e.machine := by
  have hnone := Settings.limit_of_null hs
  rw [ofText_joined hnone] at h
  obtain ⟨e₁, h₁, h⟩ := bind_eq_ok.1 h
  obtain ⟨added, hadded, rfl⟩ := carry_eq_ok h
  refine ⟨e₁, added.movements, added.diagnostics, h₁, rfl, rfl, ?_⟩
  intro t₁' e₁' h₁' hmachine hcount
  refine ⟨e₁'.onto added, ?_, rfl, rfl, rfl⟩
  rw [ofText_joined hnone, h₁', ok_bind, hmachine, hcount, hadded]
  rfl

/-- An open remark ends with its line, and the next line repeats the command, whatever came before on the line of the remark. -/
theorem joined_goes_on_behind_remark :
    ∃ s e e₁ e₁' e', Settings.ofValues [.str "G28"] .null (.int 64) = .ok s ∧
      ofText s ("G1 X1 (x".toList ++ '\n' :: "Y2\nQ".toList) = .ok e ∧ ofText s "G1 X1 (x".toList = .ok e₁ ∧
      ofText s "X5 G01 X1;".toList = .ok e₁' ∧ ofText s ("X5 G01 X1;".toList ++ '\n' :: "Y2\nQ".toList) = .ok e' ∧
      ∃ movements diagnostics, e.movements = e₁.movements ++ movements ∧ e.diagnostics = e₁.diagnostics ++ diagnostics ∧
        e'.movements = e₁'.movements ++ movements ∧ e'.diagnostics = e₁'.diagnostics ++ diagnostics := by
  have hs : Settings.ofValues [.str "G28"] .null (.int 64) = .ok ⟨["G28".toList], none, .whole 64⟩ := rfl
  have hwhole : (ofText ⟨["G28".toList], none, .whole 64⟩ ("G1 X1 (x".toList ++ '\n' :: "Y2\nQ".toList)).toOption.isSome = true := by
    decide +kernel
  have hmachine : (ofText ⟨["G28".toList], none, .whole 64⟩ "X5 G01 X1;".toList).toOption.map (·.machine) =
      (ofText ⟨["G28".toList], none, .whole 64⟩ "G1 X1 (x".toList).toOption.map (·.machine) := by decide +kernel
  have hother : (ofText ⟨["G28".toList], none, .whole 64⟩ "X5 G01 X1;".toList).toOption.isSome = true := by decide +kernel
  obtain ⟨e, he⟩ := Option.isSome_iff_exists.1 hwhole
  obtain ⟨e₁', he₁'⟩ := Option.isSome_iff_exists.1 hother
  obtain ⟨e₁, movements, diagnostics, h₁, hmov, hdiag, hsame⟩ := joined_goes_on hs (eq_ok_of_toOption he)
  rw [he₁', h₁] at hmachine
  obtain ⟨e', he', hmov', hdiag', -⟩ := hsame _ e₁' (eq_ok_of_toOption he₁') (Option.some.inj hmachine) (by decide)
  exact ⟨_, e, e₁, e₁', e', hs, eq_ok_of_toOption he, h₁, eq_ok_of_toOption he₁', he', movements, diagnostics, hmov, hdiag, hmov', hdiag'⟩

end Extraction

end ToolpathViewer
