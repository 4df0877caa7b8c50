import ToolpathViewer.Proofs.Token.Problems

/-!
# What an extraction reports

Each token that cannot be read is reported once, on the line on which it stands and with the columns that cut it out of that line, and a
line can be reported once more as a whole, when it ends. A line reports its own problems one by one (`found_of_readLine`), then at most one
of the second sort (`ends_of_finishLine`); so a program reports the problems of its text in the order in which they stand there, with line
numbers that never go back (`problems_are_reported`).
-/

namespace ToolpathViewer

open Text

/-! ## Tokens -/

/-- One more token is one more problem if it cannot be read and nothing has silenced it. -/
theorem Token.filter_spoken_append_singleton (ts : List Token) (t : Token) :
    (spoken (ts ++ [t])).filter isProblem =
      (spoken ts).filter isProblem ++ if !ts.any silences && t.isProblem then [t] else [] := by
  rw [spoken_append_singleton]
  cases hts : ts.any silences with
  | true => simp
  | false =>
    cases ht : t.silences with
    | true => simp [isProblem_of_silences ht]
    | false => cases hproblem : t.isProblem <;> simp [hproblem]

namespace Line

variable {x : List (List Char)} {l : Line} {plane : Plane} {t : Token} {r : Read} {c : Char} {value : List Char}

/-- A line keeps the values of the coordinates that matter to a path. -/
theorem isSome_store?_upperChar (c : Char) : (store? (upperChar c)).isSome = Token.isOneOf Token.valueLetters c := by
  unfold store?
  split
  case h_8 hX hY hZ hI hJ hK hR =>
    rw [Option.isSome_none, eq_comm, Bool.eq_false_iff]
    intro hone
    unfold Token.isOneOf at hone
    split at hone
    · rename_i u hu
      have hmem : u ∈ Token.valueLetters := List.contains_iff_mem.1 hone
      simp only [Token.valueLetters, List.mem_cons, List.not_mem_nil, or_false] at hmem
      rcases hmem with rfl | rfl | rfl | rfl | rfl | rfl | rfl
      · exact hX hu
      · exact hY hu
      · exact hZ hu
      · exact hI hu
      · exact hJ hu
      · exact hK hu
      · exact hR hu
    · cases hone
  all_goals
    rename_i hu
    rw [Token.isOneOf, hu]
    rfl

/-- What is found at a token: a diagnostic about it if it cannot be read, and nothing else. -/
def Finds (l : Line) (t : Token) (found : Option Diagnostic) : Prop :=
  t.isProblem = true ∧ (∃ message, found = some (l.diagnostic t message)) ∨ t.isProblem = false ∧ found = none

/-- What reading a command finds. -/
theorem finds_of_readCommand (hk : t.kind = .command) (ht : t.text = c :: value) (hfirst : Token.Kind.ofFirst c = t.kind)
    (h : l.readCommand x plane t = .ok r) : l.Finds t r.found := by
  obtain ⟨code, hcode, h⟩ := bind_eq_ok.1 h
  have hproblem : t.isProblem = !Code.isNumber (code.drop 1) := by
    have hplain := Token.isPlain_of_command (hfirst.trans hk) (ht ▸ hcode)
    rw [Token.isProblem, hk, hcode, ← hplain]
    rfl
  have hfound : r.found = if Code.isNumber (code.drop 1) then none
      else some (l.diagnostic t ("Unrecognized command: '" ++ String.ofList code ++ "'")) := by
    dsimp only at h
    split at h
    · obtain rfl := Except.ok.inj h
      rfl
    · split at h <;>
      · obtain rfl := Except.ok.inj h
        rfl
  cases hnumber : Code.isNumber (code.drop 1) with
  | true =>
    rw [hnumber] at hproblem hfound
    exact Or.inr ⟨hproblem, hfound⟩
  | false =>
    rw [hnumber] at hproblem hfound
    exact Or.inl ⟨hproblem, _, hfound⟩

/-- What reading a coordinate finds. -/
theorem finds_of_readCoordinate (hk : t.kind = .coordinate) (ht : t.text = c :: value) (h : l.readCoordinate plane t = .ok r) :
    l.Finds t r.found := by
  have hproblem : t.isProblem = ((store? (upperChar c)).isSome && (Decimal.readDecimal? value).isNone) := by
    rw [Token.isProblem, hk, ht, isSome_store?_upperChar]
  unfold readCoordinate at h
  rw [ht] at h
  cases hstore : store? (upperChar c) with
  | none =>
    simp only [hstore] at h
    obtain rfl := Except.ok.inj h
    exact Or.inr ⟨by rw [hproblem, hstore]; rfl, rfl⟩
  | some store =>
    cases hv : Decimal.readDecimal? value with
    | some v =>
      simp only [hstore, hv] at h
      obtain rfl := Except.ok.inj h
      exact Or.inr ⟨by rw [hproblem, hv, Option.isNone_some, Bool.and_false], rfl⟩
    | none =>
      simp only [hstore, hv] at h
      obtain rfl := Except.ok.inj h
      exact Or.inl ⟨by rw [hproblem, hstore, hv]; rfl, _, rfl⟩

/-- What reading a word finds. -/
theorem finds_readWord (hk : t.kind = .word) (ht : t.text = c :: value) : l.Finds t (l.readWord plane t).found := by
  unfold readWord
  split
  · rename_i hsemicolon
    have hsilences : t.silences = true := by rw [Token.silences, hk, hsemicolon]; rfl
    exact Or.inr ⟨Token.isProblem_of_silences hsilences, rfl⟩
  · rename_i hsemicolon
    have hc : c ≠ ';' := by
      rintro rfl
      exact hsemicolon (by rw [ht]; rfl)
    have hproblem : t.isProblem = !(upper t.text).head?.any quietLetters.contains := by
      rw [Token.isProblem, hk, ht, Token.any_head?_ordinaryLetters hc]
    split
    · rename_i hquiet
      exact Or.inr ⟨by rw [hproblem, hquiet]; rfl, rfl⟩
    · rename_i hquiet
      exact Or.inl ⟨by rw [hproblem, Bool.eq_false_iff.2 hquiet]; rfl, _, rfl⟩

/-- Reading a token outside a remark finds whether it is a problem. -/
theorem finds_of_read (hl : l.silenced = false) (ht : t.text = c :: value) (hfirst : Token.Kind.ofFirst c = t.kind)
    (h : l.read x plane t = .ok r) : l.Finds t r.found := by
  rw [read, if_neg (by simp [hl])] at h
  cases hk : t.kind with
  | command =>
    rw [hk] at h
    exact finds_of_readCommand hk ht hfirst h
  | coordinate =>
    rw [hk] at h
    exact finds_of_readCoordinate hk ht h
  | word =>
    rw [hk] at h
    obtain rfl := Except.ok.inj h
    exact finds_readWord hk ht
  | comment | number | space | bad =>
    rw [hk] at h
    obtain rfl := Except.ok.inj h
    exact Or.inr ⟨by rw [Token.isProblem, hk], rfl⟩

end Line

namespace SourceLine

/-- The diagnostic points to a token of the line. -/
structure PointsTo (src : SourceLine) (t : Token) (d : Diagnostic) : Prop where
  line : d.line = src.number
  start : d.start = t.start - src.start
  stop : d.stop = t.stop - src.start
  kind : d.kind = .grammar

/-- The tokens of a line that cannot be read, in front of a remark. -/
def problems (src : SourceLine) : List Token := (Token.spoken (Token.scan src.start src.text)).filter Token.isProblem

/-- What a line reports: its problems one by one, and then perhaps one of the line as a whole. -/
def Reports (src : SourceLine) (ds : List Diagnostic) : Prop :=
  ∃ found ends, ds = found ++ ends ∧ List.Forall₂ src.PointsTo src.problems found ∧ ends.length ≤ 1 ∧
    ∀ d ∈ ends, d.line = src.number ∧ d.kind = .semantic

end SourceLine

namespace Extraction

variable {s : Settings} {e e' : Extraction} {l : Line} {p q : Progress} {t : Token} {src : SourceLine} {text : List Char}

/-- What reading a token adds to the diagnostics: nothing in a remark, else what is found at it. -/
theorem found_of_readToken {c : Char} {value : List Char} (hn : '\n' ∉ t.text) (ht : t.text = c :: value)
    (hfirst : Token.Kind.ofFirst c = t.kind) (h : Progress.readToken s p t = .ok q) :
    ∃ found, q.path.diagnostics.toList = p.path.diagnostics.toList ++ found.toList ∧
      (p.line.silenced = true → found = none) ∧ (p.line.silenced = false → p.line.Finds t found) := by
  unfold Progress.readToken at h
  split at h
  · rename_i hk
    rw [readSpace_of_not_mem s hn] at h
    obtain rfl := Except.ok.inj h
    have hnone : t.isProblem = false := by rw [Token.isProblem, beq_iff_eq.1 hk]
    exact ⟨none, by simp, fun _ => rfl, fun _ => Or.inr ⟨hnone, rfl⟩⟩
  · split at h
    · cases h
    · rename_i r hr
      obtain rfl := Except.ok.inj h
      refine ⟨r.found, by simp, fun hs => ?_, fun hs => Line.finds_of_read hs ht hfirst hr⟩
      rw [Line.read, if_pos hs] at hr
      obtain rfl := Except.ok.inj hr
      rfl

/-- Where a line has come to behind some of its tokens: it knows its place, and has found the problems among them. -/
structure Found (src : SourceLine) (before : List Diagnostic) (seen : List Token) (p : Progress) : Prop where
  number : p.line.number = src.number
  start : p.line.start = src.start
  silenced : p.line.silenced = seen.any Token.silences
  found : ∃ ds, p.path.diagnostics.toList = before ++ ds ∧
    List.Forall₂ src.PointsTo ((Token.spoken seen).filter Token.isProblem) ds

/-- One token more is read, and what it finds is added. -/
theorem Found.readToken {before : List Diagnostic} {seen : List Token} (hp : Found src before seen p) (hn : '\n' ∉ t.text)
    (hopens : ∃ c value, t.text = c :: value ∧ Token.Kind.ofFirst c = t.kind) (h : Progress.readToken s p t = .ok q) :
    Found src before (seen ++ [t]) q := by
  obtain ⟨c, value, htext, hfirst⟩ := hopens
  have hreads := (readToken_of_not_mem hn h).2
  obtain ⟨ds, hds, hpoints⟩ := hp.found
  obtain ⟨found, hfound, hquiet, hspoken⟩ := found_of_readToken hn htext hfirst h
  refine ⟨hreads.number_eq.trans hp.number, hreads.start_eq.trans hp.start, by rw [hreads.silenced_eq, hp.silenced]; simp,
    ds ++ found.toList, by rw [hfound, hds, List.append_assoc], ?_⟩
  rw [Token.filter_spoken_append_singleton]
  refine List.rel_append hpoints ?_
  cases hseen : seen.any Token.silences with
  | true =>
    rw [hquiet (hp.silenced.trans hseen)]
    exact .nil
  | false =>
    rcases hspoken (hp.silenced.trans hseen) with ⟨hproblem, message, rfl⟩ | ⟨hnone, rfl⟩
    · have hthis : src.PointsTo t (p.line.diagnostic t message) :=
        ⟨congrArg Nat.cast hp.number, congrArg (t.start - ·) hp.start, congrArg (t.stop - ·) hp.start, rfl⟩
      rw [hproblem]
      exact .cons hthis .nil
    · rw [hnone]
      exact .nil

/-- Reading a line finds its problems. -/
theorem found_of_readLine (hsrc : '\n' ∉ src.text) (h : readLine s e src = .ok p) :
    ∃ ds, p.path.diagnostics.toList = e.diagnostics.toList ++ ds ∧ List.Forall₂ src.PointsTo src.problems ds := by
  have htiling := Token.tiling_scan src.start src.text
  refine (foldlM_invariant (Found src e.diagnostics.toList) ?_ ⟨rfl, rfl, rfl, [], by simp, .nil⟩ h).found
  intro t ht seen q q' hq hread
  exact hq.readToken (Token.newline_not_mem_of_mem_scan hsrc t ht) (htiling.opens t ht) hread

/-! ## Ends of lines -/

/-- A move finds no problem. -/
theorem diagnostics_moveTo (motion : Motion) (line : Nat) (e : Extraction) (target : Vec3 Float) :
    (e.moveTo s motion line target).diagnostics = e.diagnostics := by
  unfold moveTo
  dsimp only
  split <;> rfl

/-- Moves to several points find no problem. -/
theorem diagnostics_foldl_moveTo (motion : Motion) (line : Nat) (points : List (Vec3 Float)) (e : Extraction) :
    (points.foldl (moveTo s motion line) e).diagnostics = e.diagnostics := by
  induction points generalizing e with
  | nil => rfl
  | cons p points ih => rw [List.foldl_cons, ih, diagnostics_moveTo]

/-- The end of a line reports at most one problem, of the line as a whole. -/
theorem ends_of_finishLine (h : e.finishLine s l = .ok e') :
    ∃ ends, e'.diagnostics.toList = e.diagnostics.toList ++ ends ∧ ends.length ≤ 1 ∧
      ∀ d ∈ ends, d.line = l.number ∧ d.kind = .semantic := by
  obtain ⟨course, -, hfollow⟩ := follow_of_finishLine h
  have hsame : (e.commanded l).diagnostics = e.diagnostics := rfl
  have hreport : ∀ message, ((e.commanded l).report l.number message).diagnostics.toList = e.diagnostics.toList ++
      [⟨l.number, 0, 0, message, .semantic, .warning⟩] := fun message => by simp [report, hsame]
  cases course with
  | stay =>
    obtain rfl := Except.ok.inj hfollow
    exact ⟨[], by simp [hsame], by simp, by simp⟩
  | lost =>
    obtain rfl := Except.ok.inj hfollow
    exact ⟨_, hreport _, by simp, by simp⟩
  | straight motion =>
    obtain rfl := Except.ok.inj hfollow
    exact ⟨[], by simp [diagnostics_moveTo, hsame], by simp, by simp⟩
  | flat turn =>
    obtain rfl := Except.ok.inj hfollow
    exact ⟨_, by rw [diagnostics_moveTo, hreport], by simp, by simp⟩
  | around turn center =>
    obtain ⟨points, rfl⟩ := follow_around hfollow
    exact ⟨[], by simp only [diagnostics_foldl_moveTo, hsame, List.append_nil], by simp, by simp⟩

/-! ## Lines -/

/-- A line reports its problems, and perhaps one of its own. -/
theorem reports_of_addLine (hsrc : '\n' ∉ src.text) (h : addLine s e src = .ok e') :
    ∃ ds, e'.diagnostics.toList = e.diagnostics.toList ++ ds ∧ src.Reports ds := by
  obtain ⟨p, hp, hfinish⟩ := bind_eq_ok.1 h
  obtain ⟨found, hfound, hpoints⟩ := found_of_readLine hsrc hp
  obtain ⟨ends, hends, hfew, hown⟩ := ends_of_finishLine hfinish
  have hnumber := (samePath_readLine hsrc hp).2
  refine ⟨found ++ ends, by rw [hends, hfound, List.append_assoc], found, ends, rfl, hpoints, hfew, fun d hd => ?_⟩
  exact ⟨(hown d hd).1.trans (congrArg Nat.cast hnumber), (hown d hd).2⟩

/-- Lines report one after the other. -/
theorem reports_of_addLines {lines : List SourceLine} (hlines : ∀ src ∈ lines, '\n' ∉ src.text)
    (h : lines.foldlM (addLine s) e = .ok e') :
    ∃ reports, e'.diagnostics.toList = e.diagnostics.toList ++ reports.flatten ∧ List.Forall₂ SourceLine.Reports lines reports := by
  refine foldlM_invariant (fun seen e' => ∃ reports, e'.diagnostics.toList = e.diagnostics.toList ++ reports.flatten ∧
    List.Forall₂ SourceLine.Reports seen reports) ?_ ⟨[], by simp, .nil⟩ h
  rintro src hmem seen e₁ e₂ ⟨reports, hreports, hall⟩ hstep
  obtain ⟨ds, hds, hthis⟩ := reports_of_addLine (hlines src hmem) hstep
  exact ⟨reports ++ [ds], by simp [hds, hreports], List.rel_append hall (.cons hthis .nil)⟩

end Extraction

/-! ## Programs -/

/-- The diagnostic shows a token of a text: it has the number of the line on which the token stands, and columns that cut exactly the token
out of that line. -/
structure Shows (text : List Char) (t : Token) (d : Diagnostic) : Prop where
  line : d.line = Token.lineAt text t.start
  columns : ∃ line, (linesOf text)[Token.lineAt text t.start - 1]? = some line ∧
    0 ≤ d.start ∧ d.stop ≤ line.length ∧ Token.slice line d.start d.stop = t.text

namespace SourceLine

variable {text : List Char} {src : SourceLine} {t : Token} {d : Diagnostic} {ds : List Diagnostic}

/-- What points to a token of a line of a text shows it in the text. -/
theorem PointsTo.shows (h : src.PointsTo t d) (hsrc : src ∈ numbered 1 0 (linesOf text)) (ht : t ∈ Token.scan src.start src.text) :
    Shows text t d := by
  have hnumber := Token.lineAt_of_mem hsrc ht
  have hslice := Token.slice_of_mem ht
  rw [← h.start, ← h.stop] at hslice
  refine ⟨by rw [h.line, hnumber], src.text, ?_, hslice⟩
  rw [hnumber]
  exact getElem?_of_mem_numbered hsrc

/-- The problems of a line are among its tokens. -/
theorem mem_scan_of_mem_problems (h : t ∈ src.problems) : t ∈ Token.scan src.start src.text :=
  Token.mem_of_mem_spoken (List.mem_filter.1 h).1

/-- A diagnostic that points to a token is one of grammar, on the token's line. -/
theorem kind_of_pointsTo {ts : List Token} (h : List.Forall₂ src.PointsTo ts ds) :
    ∀ d ∈ ds, d.line = src.number ∧ d.kind = .grammar := by
  induction h with
  | nil => simp
  | cons hd _ ih => exact List.forall_mem_cons.2 ⟨⟨hd.line, hd.kind⟩, ih⟩

/-- What a line reports about words are its problems, one by one. -/
theorem Reports.grammar (h : src.Reports ds) : List.Forall₂ src.PointsTo src.problems (ds.filter (·.kind == .grammar)) := by
  obtain ⟨found, ends, rfl, hpoints, -, hends⟩ := h
  have hall : found.filter (·.kind == .grammar) = found := List.filter_eq_self.2 fun d hd => beq_iff_eq.2 (kind_of_pointsTo hpoints d hd).2
  have hnone : ends.filter (·.kind == .grammar) = [] := List.filter_eq_nil_iff.2 fun d hd => by simp [(hends d hd).2]
  rwa [List.filter_append, hall, hnone, List.append_nil]

/-- A line reports at most one problem of its own. -/
theorem Reports.semantic (h : src.Reports ds) : (ds.filter (·.kind == .semantic)).length ≤ 1 := by
  obtain ⟨found, ends, rfl, hpoints, hfew, -⟩ := h
  have hnone : found.filter (·.kind == .semantic) = [] :=
    List.filter_eq_nil_iff.2 fun d hd => by simp [(kind_of_pointsTo hpoints d hd).2]
  rw [List.filter_append, hnone, List.nil_append]
  exact (List.length_filter_le _ ends).trans hfew

/-- What a line reports has its number. -/
theorem Reports.line_eq (h : src.Reports ds) : ∀ d ∈ ds, d.line = src.number := by
  obtain ⟨found, ends, rfl, hpoints, -, hends⟩ := h
  intro d hd
  rcases List.mem_append.1 hd with hd | hd
  · exact (kind_of_pointsTo hpoints d hd).1
  · exact (hends d hd).1

end SourceLine

section Reports

variable {text : List Char} {lines : List SourceLine} {reports : List (List Diagnostic)}

/-- What lines of a text report about words shows their problems, one by one. -/
theorem forall₂_shows (h : List.Forall₂ SourceLine.Reports lines reports)
    (hlines : ∀ src ∈ lines, src ∈ SourceLine.numbered 1 0 (linesOf text)) :
    List.Forall₂ (Shows text) (lines.flatMap SourceLine.problems) (reports.flatten.filter (·.kind == .grammar)) := by
  induction h with
  | nil => exact .nil
  | @cons src ds lines reports hds _ ih =>
    obtain ⟨hsrc, hrest⟩ := List.forall_mem_cons.1 hlines
    rw [List.flatMap_cons, List.flatten_cons, List.filter_append]
    obtain ⟨hlength, hpoints⟩ := List.forall₂_iff_zip.1 hds.grammar
    refine List.rel_append (List.forall₂_iff_zip.2 ⟨hlength, fun hzip => ?_⟩) (ih hrest)
    exact (hpoints hzip).shows hsrc (SourceLine.mem_scan_of_mem_problems (List.of_mem_zip hzip).1)

/-- Every report is about one of the lines. -/
theorem line_of_mem_reports (h : List.Forall₂ SourceLine.Reports lines reports) :
    ∀ d ∈ reports.flatten, ∃ src ∈ lines, d.line = src.number := by
  induction h with
  | nil => simp
  | @cons src ds lines reports hds _ ih =>
    intro d hd
    rw [List.flatten_cons] at hd
    rcases List.mem_append.1 hd with hd | hd
    · exact ⟨src, List.mem_cons_self, hds.line_eq d hd⟩
    · obtain ⟨src', hsrc', hline⟩ := ih d hd
      exact ⟨src', List.mem_cons_of_mem _ hsrc', hline⟩

/-- What lines report comes in the order of their numbers. -/
theorem pairwise_reports (h : List.Forall₂ SourceLine.Reports lines reports) (hnumbers : lines.Pairwise (·.number < ·.number)) :
    (reports.flatten.map (·.line)).Pairwise (· ≤ ·) := by
  induction h with
  | nil => exact .nil
  | @cons src ds lines reports hds hrest ih =>
    obtain ⟨hlater, hnumbers⟩ := List.pairwise_cons.1 hnumbers
    rw [List.flatten_cons, List.map_append, List.pairwise_append]
    refine ⟨?_, ih hnumbers, ?_⟩
    · rw [List.pairwise_map]
      exact List.pairwise_of_forall_mem_list fun d hd d' hd' => by rw [hds.line_eq d hd, hds.line_eq d' hd']
    · intro n hn n' hn'
      obtain ⟨d, hd, rfl⟩ := List.mem_map.1 hn
      obtain ⟨d', hd', rfl⟩ := List.mem_map.1 hn'
      obtain ⟨src', hsrc', hline⟩ := line_of_mem_reports hrest d' hd'
      have hlt := hlater src' hsrc'
      rw [hds.line_eq d hd, hline]
      omega

/-- Each number of a line is that of one line at most, which reports at most one problem of its own. -/
theorem semantic_reports (h : List.Forall₂ SourceLine.Reports lines reports) (hnumbers : lines.Pairwise (·.number < ·.number)) (n : Int) :
    ((Diagnostics.onLine reports.flatten n).filter (·.kind == .semantic)).length ≤ 1 := by
  induction h with
  | nil => exact Nat.zero_le 1
  | @cons src ds lines reports hds hrest ih =>
    obtain ⟨hlater, hnumbers⟩ := List.pairwise_cons.1 hnumbers
    have hsplit : Diagnostics.onLine (ds ++ reports.flatten) n = Diagnostics.onLine ds n ++ Diagnostics.onLine reports.flatten n :=
      List.filter_append ds reports.flatten
    rw [List.flatten_cons, hsplit]
    by_cases hn : n = src.number
    · have hall : Diagnostics.onLine ds n = ds := List.filter_eq_self.2 fun d hd => by simp [hds.line_eq d hd, hn]
      have hnone : Diagnostics.onLine reports.flatten n = [] := by
        refine List.filter_eq_nil_iff.2 fun d hd => ?_
        obtain ⟨src', hsrc', hline⟩ := line_of_mem_reports hrest d hd
        have hlt := hlater src' hsrc'
        rw [beq_iff_eq, hline, hn]
        omega
      rw [hall, hnone, List.append_nil]
      exact hds.semantic
    · have hnone : Diagnostics.onLine ds n = [] := List.filter_eq_nil_iff.2 fun d hd => by simp [hds.line_eq d hd, Ne.symm hn]
      rw [hnone, List.nil_append]
      exact ih hnumbers

end Reports

namespace Extraction

variable {s : Settings} {e : Extraction} {text : List Char}

/-- A program that can be extracted reports each token that cannot be read and stands in no remark, once and in the order of the text, with
the number of its line and the columns that cut it out of that line. Every line is reported at most once as a whole, and the numbers of the
lines never go back. -/
theorem problems_are_reported (h : ofText s text = .ok e) :
    List.Forall₂ (Shows text) (Token.problems text) (e.diagnostics.toList.filter (·.kind == .grammar)) ∧
      (∀ n, ((Diagnostics.onLine e.diagnostics.toList n).filter (·.kind == .semantic)).length ≤ 1) ∧
      (e.diagnostics.toList.map (·.line)).Pairwise (· ≤ ·) := by
  rw [ofText_eq_addLines] at h
  obtain ⟨reports, hreports, hall⟩ := reports_of_addLines (fun src hsrc => SourceLine.newline_not_mem hsrc) h
  have hflat : e.diagnostics.toList = reports.flatten := by simpa using hreports
  have hnumbers := (SourceLine.pairwise_numbered 1 0 (linesOf text)).1
  rw [hflat, Token.problems_eq]
  exact ⟨forall₂_shows hall fun _ hsrc => hsrc, semantic_reports hall hnumbers, pairwise_reports hall hnumbers⟩

/-- Four problems on three of four lines, some behind two line ends in one token or in front of a remark, and a line with an axis but no
command. -/
theorem problems_are_reported_on_four_lines :
    ∃ e, ofText ⟨[], none, .whole 64⟩ "X1 Y-\r\n\n  (a;b) g1b Q2 ; G9X Q\n\tT X2".toList = .ok e ∧
      (Token.problems "X1 Y-\r\n\n  (a;b) g1b Q2 ; G9X Q\n\tT X2".toList).map Token.text =
        ["Y-".toList, "g1b".toList, "Q2".toList, "T".toList] ∧
      (e.diagnostics.toList.map fun d => (d.line, d.start, d.stop)) = [(1, 3, 5), (1, 0, 0), (3, 8, 11), (3, 12, 14), (4, 1, 2)] ∧
      List.Forall₂ (Shows "X1 Y-\r\n\n  (a;b) g1b Q2 ; G9X Q\n\tT X2".toList)
        (Token.problems "X1 Y-\r\n\n  (a;b) g1b Q2 ; G9X Q\n\tT X2".toList) (e.diagnostics.toList.filter (·.kind == .grammar)) ∧
      (∀ n, ((Diagnostics.onLine e.diagnostics.toList n).filter (·.kind == .semantic)).length ≤ 1) ∧
      (e.diagnostics.toList.map (·.line)).Pairwise (· ≤ ·) := by
  have hproblems : (Token.problems "X1 Y-\r\n\n  (a;b) g1b Q2 ; G9X Q\n\tT X2".toList).map Token.text =
      ["Y-".toList, "g1b".toList, "Q2".toList, "T".toList] := by decide +kernel
  have hplaces : ((ofText ⟨[], none, .whole 64⟩ "X1 Y-\r\n\n  (a;b) g1b Q2 ; G9X Q\n\tT X2".toList).toOption.map
      fun e => e.diagnostics.toList.map fun d => (d.line, d.start, d.stop)) =
        some [(1, 3, 5), (1, 0, 0), (3, 8, 11), (3, 12, 14), (4, 1, 2)] := by decide +kernel
  obtain ⟨e, he, hplaces⟩ := Option.map_eq_some_iff.1 hplaces
  have h := eq_ok_of_toOption he
  exact ⟨e, h, hproblems, hplaces, problems_are_reported h⟩

end Extraction

end ToolpathViewer
