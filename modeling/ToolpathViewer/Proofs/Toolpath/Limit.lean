import ToolpathViewer.Proofs.Toolpath.Simulation

/-!
# Extraction with a limit

A limit on the number of movements cuts the end off a path and nothing else. The machine moves on behind the limit as if every
movement were kept, so that later lines find it where they would, and the movements that are not kept are counted.
-/

namespace ToolpathViewer.Extraction

variable {s : Settings}

/-- The front of a path made without a limit, and the number of the movements behind it. -/
def cutTo (limit : Nat) (e : Extraction) : Extraction :=
  { e with movements := e.movements.take limit, dropped := e.movements.size - limit }

/-- A path within the limit is cut by nothing. -/
theorem cutTo_of_size_le {limit : Nat} {e : Extraction} (h : e.movements.size ≤ limit) :
    e.cutTo limit = { e with dropped := 0 } := by
  have htake : e.movements.take limit = e.movements := Array.extract_eq_self_of_le h
  rw [cutTo, htake, Nat.sub_eq_zero_of_le h]

/-- Moving under a limit goes along with moving without one. -/
theorem cutTo_moveTo (hs : s.limit = none) (limit : Nat) (motion : Motion) (line : Nat) (e : Extraction) (target : Vec3 Float) :
    (e.moveTo s motion line target).cutTo limit = (e.cutTo limit).moveTo { s with limit := some limit } motion line target := by
  have hfree : e.moveTo s motion line target =
      { e with
        machine := { e.machine with position := target }
        movements := e.movements.push ⟨target, some motion, line⟩ } := by
    rw [moveTo, hs]
    rfl
  have hsize : (e.cutTo limit).movements.size = min limit e.movements.size := by simp [cutTo]
  rw [hfree, moveTo]
  by_cases hfull : limit ≤ e.movements.size
  · -- The front is full: it stays as it is, and one movement more is behind it.
    have htake : (e.movements.push ⟨target, some motion, line⟩).take limit = e.movements.take limit :=
      Array.extract_push_of_le hfull
    have hdropped : (e.movements.push ⟨target, some motion, line⟩).size - limit = e.movements.size - limit + 1 := by
      rw [Array.size_push]
      omega
    rw [if_pos (by simp [hsize, hfull]), cutTo, htake, hdropped]
    rfl
  · -- The front is the whole path, and one movement more still fits.
    have hlt := Nat.lt_of_not_le hfull
    rw [if_neg (by simp [hsize, hfull]), cutTo_of_size_le hlt.le, cutTo_of_size_le (by simpa using hlt)]

/-- Extraction under a limit goes along with extraction without one. -/
theorem simulates_cutTo (hs : s.limit = none) (limit : Nat) : Simulates s { s with limit := some limit } (cutTo limit) where
  excluded := rfl
  divisions := rfl
  machine := fun _ => rfl
  setMachine := fun _ _ => rfl
  find := fun _ _ => rfl
  moveTo := cutTo_moveTo hs limit

/-- The path under a limit, which leaves room for the origin at least, is the front of the path without one. -/
theorem ofText_cutTo (hs : s.limit = none) {limit : Nat} (hpos : 0 < limit) (text : List Char) :
    ofText { s with limit := some limit } text = carry (cutTo limit) (cutTo limit) (ofText s text) := by
  have hstart : cutTo limit {} = {} := cutTo_of_size_le (e := {}) hpos
  have h := (simulates_cutTo hs limit).addLines 0 {} 1 0 (linesOf text)
  rw [hstart] at h
  rw [ofText_eq_addLines, ofText_eq_addLines]
  exact h

/-- The settings with a limit, when those without one can be used. -/
theorem ofValues_limit {codes : List Json} {divisions : Json} (h : Settings.ofValues codes .null divisions = .ok s) (n : Int) :
    s.limit = none ∧ Settings.ofValues codes (.int n) divisions = .ok { s with limit := some (max 1 n).toNat } := by
  obtain ⟨excluded, bound, least, hx, hbound, hleast, rfl⟩ := Settings.ofValues_eq_ok.1 h
  obtain rfl := Except.ok.inj hbound
  refine ⟨rfl, Settings.ofValues_eq_ok.2 ⟨excluded, _, least, hx, Amount.boundOf_int n, hleast, ?_⟩⟩
  rw [Settings.make, Option.bind_some, Amount.atLeastOne, max_eq_right (le_max_left 1 n)]
  rfl

/-- With a limit of `n` movements the extraction returns whenever it does without one. It keeps the first `n` movements, or the first
one if `n` leaves room for none; it counts the others; and it finds the same problems and leaves the machine in the same state. -/
theorem limit_keeps_front {codes : List Json} {divisions : Json} (hs : Settings.ofValues codes .null divisions = .ok s)
    {text : List Char} {e : Extraction} (h : ofText s text = .ok e) (n : Int) :
    ∃ s' e', Settings.ofValues codes (.int n) divisions = .ok s' ∧ ofText s' text = .ok e' ∧
      e'.movements.toList = e.movements.toList.take (max 1 n).toNat ∧
      (e'.dropped : Int) = max 0 (e.movements.size - max 1 n) ∧
      (e'.truncated = true ↔ 0 < max 0 (e.movements.size - max 1 n)) ∧
      e'.diagnostics = e.diagnostics ∧ e'.machine = e.machine := by
  obtain ⟨hnone, hs'⟩ := ofValues_limit hs n
  have hpos : 0 < (max 1 n).toNat := by omega
  have hcut := ofText_cutTo hnone hpos text
  rw [h] at hcut
  have hdropped : ((e.movements.size - (max 1 n).toNat : Nat) : Int) = max 0 (e.movements.size - max 1 n) := by omega
  refine ⟨_, _, hs', hcut, ?_, hdropped, ?_, rfl, rfl⟩
  · simp [cutTo]
  · rw [← hdropped]
    simp [truncated, cutTo]

/-- Of four movements, two are kept and two are counted. -/
theorem limit_keeps_front_two_of_four :
    ∃ s e s' e', Settings.ofValues [.str "G28"] .null (.int 64) = .ok s ∧ ofText s "G1 X1\nX2 (y)\nG0 Z5".toList = .ok e ∧
      Settings.ofValues [.str "G28"] (.int 2) (.int 64) = .ok s' ∧ ofText s' "G1 X1\nX2 (y)\nG0 Z5".toList = .ok e' ∧
      e'.movements.toList = e.movements.toList.take 2 ∧ e'.dropped = 2 ∧ e'.machine = e.machine := by
  have hs : Settings.ofValues [.str "G28"] .null (.int 64) = .ok ⟨["G28".toList], none, .whole 64⟩ := rfl
  have hsize : ((ofText ⟨["G28".toList], none, .whole 64⟩ "G1 X1\nX2 (y)\nG0 Z5".toList).toOption.map
      fun e => e.movements.size) = some 4 := by decide +kernel
  obtain ⟨e, he, hfour⟩ := Option.map_eq_some_iff.1 hsize
  have h := eq_ok_of_toOption he
  obtain ⟨s', e', hs', he', hfront, hdropped, -, -, hmachine⟩ := limit_keeps_front hs h 2
  rw [hfour] at hdropped
  exact ⟨_, e, s', e', hs, h, hs', he', hfront, by omega, hmachine⟩

end ToolpathViewer.Extraction
