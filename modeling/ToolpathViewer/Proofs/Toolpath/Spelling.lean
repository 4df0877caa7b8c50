import Mathlib.Data.List.TakeWhile
import ToolpathViewer.Proofs.Token.Spelling
import ToolpathViewer.Proofs.Toolpath.Simulation

/-!
# Programs in another spelling

How a program and the codes that it leaves out are spelled does not matter (`spelling_is_free`): in letters of either case, and with more or
fewer zeros in front of the numbers of commands and codes, the same movements are drawn and problems are found on the same lines. What the
problems say may differ, for they quote the program at its columns. Two runs echo each other from token to token (`Progress.Echoes`)
while their tokens stand at other positions; the ends of their lines do to both what they do to the path without problems.
-/

namespace ToolpathViewer

open Text

/-! ## Tokens of both -/

namespace Line

variable {x : List (List Char)} {l : Line} {plane : Plane} {t t' : Token}

/-- What reading a token leaves is the same, but for where the line starts and what a diagnostic says. -/
structure Read.Echoes (r r' : Read) : Prop where
  line : ∃ k, r'.line = r.line.shift k
  plane : r'.plane = r.plane
  found : r'.found.map (·.line) = r.found.map (·.line)

/-- A command that is spelled otherwise is read alike. -/
theorem readCommand_respelled (h : Code.Respelled t.text t'.text) (k : Int) :
    Corresponds Read.Echoes (l.readCommand x plane t) ((l.shift k).readCommand x plane t') := by
  unfold readCommand
  rw [h.normalize_eq]
  cases Code.normalize t.text with
  | error fault => exact .fail _ _
  | ok code =>
    simp only [ok_bind]
    split
    · refine .ok ⟨⟨k, rfl⟩, rfl, ?_⟩
      split <;> rfl
    · split
      all_goals
        refine .ok ⟨⟨k, rfl⟩, rfl, ?_⟩
        dsimp only
        split <;> rfl

/-- A coordinate in other case is read alike. -/
theorem readCoordinate_recased (h : Recased t.text t'.text) (k : Int) :
    Corresponds Read.Echoes (l.readCoordinate plane t) ((l.shift k).readCoordinate plane t') := by
  unfold readCoordinate
  generalize t.text = text at h ⊢
  generalize t'.text = text' at h ⊢
  cases h with
  | nil => exact .fail _ _
  | @cons c c' value value' hc hvalue =>
    dsimp only
    rw [hc.upperChar_eq]
    cases hstore : store? (upperChar c) with
    | none => exact .ok ⟨⟨k, rfl⟩, rfl, rfl⟩
    | some store =>
      dsimp only
      rw [Decimal.readDecimal?_recased hvalue]
      cases Decimal.readDecimal? value with
      | none => exact .ok ⟨⟨k, rfl⟩, rfl, rfl⟩
      | some v => exact .ok ⟨⟨k, store?_shift hstore k v l⟩, rfl, rfl⟩

/-- A word in other case is read alike. -/
theorem readWord_recased (h : Recased t.text t'.text) (k : Int) :
    Read.Echoes (l.readWord plane t) ((l.shift k).readWord plane t') := by
  unfold readWord
  rw [h.head?_beq_eq (by decide), h.upper_eq]
  split
  · exact ⟨⟨k, rfl⟩, rfl, rfl⟩
  · split <;> exact ⟨⟨k, rfl⟩, rfl, rfl⟩

/-- A token and a spelling of it are read alike. -/
theorem read_respelled (h : t.Respells t') (k : Int) :
    Corresponds Read.Echoes (l.read x plane t) ((l.shift k).read x plane t') := by
  unfold read
  rw [silenced_shift, h.kind]
  split
  · exact .ok ⟨⟨k, rfl⟩, rfl, rfl⟩
  · cases hk : t.kind with
    | command => exact readCommand_respelled h.text.respelled k
    | coordinate => exact readCoordinate_recased (h.text.recased (by rw [hk]; decide)) k
    | word => exact .ok (readWord_recased (h.text.recased (by rw [hk]; decide)) k)
    | comment | number | space | bad => exact .ok ⟨⟨k, rfl⟩, rfl, rfl⟩

end Line

namespace Extraction

variable {s : Settings} {e e' : Extraction} {l : Line} {p p' : Progress} {t t' : Token}

/-! ## Runs of both -/

/-- The paths agree, and problems were found on the same lines, in the same order. -/
structure Echoes (e e' : Extraction) : Prop where
  agree : Agree e e'
  lines : e'.diagnostics.toList.map (·.line) = e.diagnostics.toList.map (·.line)

/-- One more problem on the same line keeps this. -/
theorem Echoes.find {ds ds' : Array Diagnostic} (h : Echoes e e') (hds : ds'.toList.map (·.line) = ds.toList.map (·.line)) :
    (e'.diagnostics ++ ds').toList.map (·.line) = (e.diagnostics ++ ds).toList.map (·.line) := by
  rw [Array.toList_append, Array.toList_append, List.map_append, List.map_append, h.lines, hds]

/-- The end of a line, wherever it stands, keeps paths in echo. -/
theorem Echoes.finishLine (h : Echoes e e') (k : Int) :
    Corresponds Echoes (e.finishLine s l) (e'.finishLine s (l.shift k)) := by
  have hfirst := finishLine_silent s 0 e l
  rw [Line.shift_zero] at hfirst
  rw [hfirst, finishLine_silent, h.agree.silent_eq]
  cases e.silent.finishLine s l with
  | error i => exact .fail _ _
  | ok r =>
    refine .ok ⟨⟨rfl, rfl, rfl⟩, ?_⟩
    exact h.find rfl

/-- The paths echo each other, and so do the lines in the making, wherever they start. -/
structure Progress.Echoes (p p' : Progress) : Prop where
  path : p.path.Echoes p'.path
  line : ∃ k, p'.line = p.line.shift k

/-- Ending a line keeps the two runs alike. -/
theorem Progress.Echoes.nextLine (h : p.Echoes p') (start start' : Int) :
    Corresponds Progress.Echoes (p.nextLine s start) (p'.nextLine s start') := by
  obtain ⟨k, hline⟩ := h.line
  unfold Progress.nextLine
  rw [hline]
  refine (h.path.finishLine k).bind fun e e' he => .ok ⟨he, start' - start, ?_⟩
  have hstart : start + (start' - start) = start' := add_sub_cancel start start'
  simp only [Line.shift, hstart]

/-- A token and a spelling of it keep runs in echo. -/
theorem Progress.Echoes.readToken (h : p.Echoes p') (ht : t.Respells t') :
    Corresponds Progress.Echoes (Progress.readToken s p t) (Progress.readToken s p' t') := by
  unfold Progress.readToken
  rw [ht.kind]
  by_cases hspace : (t.kind == .space) = true
  · have htext : Recased t.text t'.text := ht.text.recased (by rw [beq_iff_eq.1 hspace]; decide)
    rw [if_pos hspace, if_pos hspace]
    have hends : List.Forall₂ (fun c c' => (c' == '\n') = (c == '\n')) t.text t'.text := htext.imp fun _ _ hc => hc.beq_eq (by decide)
    exact corresponds_readSpace (fun _ _ start start' hq => hq.nextLine start start') hends h _ _
  · obtain ⟨k, hline⟩ := h.line
    rw [if_neg hspace, if_neg hspace, hline, h.path.agree.machine]
    have hread : Corresponds Line.Read.Echoes (p.line.read s.excluded p.path.machine.plane t)
        ((p.line.shift k).read s.excluded p.path.machine.plane t') := Line.read_respelled ht k
    generalize p.line.read s.excluded p.path.machine.plane t = r at hread ⊢
    generalize (p.line.shift k).read s.excluded p.path.machine.plane t' = r' at hread ⊢
    cases hread with
    | fail i i' => exact .fail _ _
    | @ok r r' hr =>
      refine .ok ⟨⟨⟨?_, h.path.agree.movements, h.path.agree.dropped⟩, h.path.find ?_⟩, hr.line⟩
      · dsimp only
        rw [hr.plane]
      · rw [Option.toList_toArray, Option.toList_toArray, ← Option.toList_map, ← Option.toList_map, hr.found]

/-- A program that is spelled otherwise has a path alike. -/
theorem corresponds_respelled {text text' : List Char} (h : Token.Respelled text text') :
    Corresponds Echoes (ofText s text) (ofText s text') := by
  have hstart : Progress.Echoes {} {} := ⟨⟨Agree.refl _, rfl⟩, 0, rfl⟩
  unfold ofText ofTokens
  refine (Corresponds.foldlM h.forall₂_respells (fun q q' t t' hq ht => hq.readToken ht) hstart).bind fun q q' hq => ?_
  obtain ⟨k, hline⟩ := hq.line
  rw [hline]
  exact hq.path.finishLine k

/-! ## Settings and programs -/

/-- Codes in other spellings are left out alike. -/
theorem Settings.codesOf_respelled {codes codes' : List String}
    (h : List.Forall₂ (fun code code' => Code.Respelled code.toList code'.toList) codes codes') :
    codesOf (codes'.map .str) = codesOf (codes.map .str) := by
  have htexts : ∀ codes : List String, codesOf (codes.map .str) = Code.normalizeAll codes := by
    intro codes
    have hall : ((codes.map Json.str).map Json.str?).takeWhile Option.isSome = codes.map some := by
      rw [List.map_map]
      exact List.takeWhile_eq_self_iff.2 (List.forall_mem_map.2 fun _ _ => rfl)
    have hcodes : (codes.map some).reduceOption = codes := by
      change (codes.map some).filterMap id = codes
      rw [List.filterMap_map]
      exact List.filterMap_some
    rw [codesOf, hall, hcodes]
    cases Code.normalizeAll codes <;> simp [bind, Except.bind]
  rw [htexts, htexts, Code.normalizeAll_respelled h]

/-- How a program and the codes that it leaves out are spelled does not matter. -/
theorem spelling_is_free {codes codes' : List String}
    (hcodes : List.Forall₂ (fun code code' => Code.Respelled code.toList code'.toList) codes codes') {text text' : List Char}
    (htext : Token.Respelled text text') {limit divisions : Json} (hs : Settings.ofValues (codes.map .str) limit divisions = .ok s)
    (he : ofText s text = .ok e) :
    ∃ s' e', Settings.ofValues (codes'.map .str) limit divisions = .ok s' ∧ ofText s' text' = .ok e' ∧
      e'.movements = e.movements ∧ e'.dropped = e.dropped ∧
      e'.diagnostics.toList.map (·.line) = e.diagnostics.toList.map (·.line) ∧
      Diagnostics.lines e'.diagnostics.toList = Diagnostics.lines e.diagnostics.toList := by
  have hs' : Settings.ofValues (codes'.map .str) limit divisions = .ok s := by
    rw [← hs, Settings.ofValues, Settings.ofValues, Settings.codesOf_respelled hcodes]
  have hboth := corresponds_respelled (s := s) htext
  obtain ⟨e', he'⟩ := hboth.exists_ok_iff.1 ⟨e, he⟩
  rw [he, he'] at hboth
  have hechoes := hboth.of_ok
  refine ⟨s, e', hs', he', hechoes.agree.movements, hechoes.agree.dropped, hechoes.lines, ?_⟩
  rw [Diagnostics.lines, Diagnostics.lines, hechoes.lines]

/-- The codes and the program are spelled in another way: lines 1 and 5 draw, the second movement is beyond the limit, and the word on line 3
is a problem. -/
theorem spelling_is_free_one_and_five :
    List.Forall₂ (fun code code' => Code.Respelled code.toList code'.toList) ["g028", "M00"] ["G28", "m0"] ∧
      Token.Respelled "g01 x1 (Go)\nG28 X5\nq\nM0 x3;g1\nG000 Y2".toList "G1 X1 (gO)\ng00028 x5\nQ\nm000 X3;G1\ng0 y2".toList ∧
      ∃ s e s' e', Settings.ofValues (["g028", "M00"].map .str) (.int 2) (.int 64) = .ok s ∧
        ofText s "g01 x1 (Go)\nG28 X5\nq\nM0 x3;g1\nG000 Y2".toList = .ok e ∧
        Settings.ofValues (["G28", "m0"].map .str) (.int 2) (.int 64) = .ok s' ∧
        ofText s' "G1 X1 (gO)\ng00028 x5\nQ\nm000 X3;G1\ng0 y2".toList = .ok e' ∧
        e.movements.toList.map (·.line) = [0, 1] ∧ e.dropped = 1 ∧ e.diagnostics.toList.map (·.line) = [3] ∧
        e'.movements = e.movements ∧ e'.dropped = e.dropped ∧
        e'.diagnostics.toList.map (·.line) = e.diagnostics.toList.map (·.line) ∧
        Diagnostics.lines e'.diagnostics.toList = Diagnostics.lines e.diagnostics.toList := by
  have hcodes : List.Forall₂ (fun code code' => Code.Respelled code.toList code'.toList) ["g028", "M00"] ["G28", "m0"] := by decide
  have htext : Token.Respelled "g01 x1 (Go)\nG28 X5\nq\nM0 x3;g1\nG000 Y2".toList
      "G1 X1 (gO)\ng00028 x5\nQ\nm000 X3;G1\ng0 y2".toList :=
    ⟨["G1", " ", "X1", " ", "(gO)", "\n", "g00028", " ", "x5", "\n", "Q", "\n", "m000", " ", "X3", ";G1", "\n", "g0", " ",
      "y2"].map String.toList, by decide +kernel, by decide⟩
  have hs : Settings.ofValues (["g028", "M00"].map .str) (.int 2) (.int 64) = .ok ⟨["G28".toList, "M0".toList], some 2, .whole 64⟩ := rfl
  have hdrawn : ((ofText ⟨["G28".toList, "M0".toList], some 2, .whole 64⟩
      "g01 x1 (Go)\nG28 X5\nq\nM0 x3;g1\nG000 Y2".toList).toOption.map
        fun e => (e.movements.toList.map (·.line), e.dropped, e.diagnostics.toList.map (·.line))) = some ([0, 1], 1, [3]) := by
    decide +kernel
  obtain ⟨e, he, hfound⟩ := Option.map_eq_some_iff.1 hdrawn
  obtain ⟨hlines, hfound⟩ := Prod.mk.inj hfound
  obtain ⟨hdropped, hproblems⟩ := Prod.mk.inj hfound
  have h := eq_ok_of_toOption he
  obtain ⟨s', e', hs', he', hsame⟩ := spelling_is_free hcodes htext hs h
  exact ⟨hcodes, htext, _, e, s', e', hs, h, hs', he', hlines, hdropped, hproblems, hsame⟩

end Extraction

end ToolpathViewer
