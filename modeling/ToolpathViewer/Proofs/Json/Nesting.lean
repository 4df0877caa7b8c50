import ToolpathViewer.Proofs.Json.Strings

/-!
# How deep a text nests

`nesting` counts the arrays and objects that are open in a text, by its brackets outside of strings and without reading it. Every reader
leaves as many of them open as it found, or one less at the end of an array or object (`Tracked`). So a text that cannot be read is no
JSON (`explained_parse`), or it does nest deeper than there is room for (`maxDepth_lt_nesting`). A text that opens more arrays than may
stand in each other goes too deep, whatever follows (`parse_brackets`).
-/

namespace ToolpathViewer.Json

open ToolpathViewer.Decimal

/-! ## Open arrays and objects -/

/-- How a position of a text stands to its strings. -/
inductive Quoting where
  | outside
  | inside
  /-- Inside of a string, and behind a backslash. -/
  | escaped
deriving DecidableEq

/-- What is open in front of a position of a text: so many arrays and objects, and possibly a string. -/
structure Front where
  depth : Nat
  quoting : Quoting := .outside

namespace Front

/-- What is open behind one more character. -/
def step (f : Front) (c : Char) : Front :=
  match f.quoting with
  | .outside =>
    if c == '"' then { f with quoting := .inside }
    else if c == '[' || c == '\x7b' then { f with depth := f.depth + 1 }
    else if c == ']' || c == '\x7d' then { f with depth := f.depth - 1 }
    else f
  | .inside =>
    if c == '"' then { f with quoting := .outside }
    else if c == '\\' then { f with quoting := .escaped }
    else f
  | .escaped => { f with quoting := .inside }

/-- What is open behind some more characters. -/
def behind (f : Front) (s : List Char) : Front := s.foldl step f

/-- The greatest number of arrays and objects that are open at once. -/
def deepest (f : Front) : List Char → Nat
  | [] => f.depth
  | c :: rest => max f.depth ((f.step c).deepest rest)

/-- A front is followed over two parts of a text one after the other. -/
theorem behind_append (f : Front) (s s' : List Char) : f.behind (s ++ s') = (f.behind s).behind s' :=
  List.foldl_append

/-- The depth behind a part is at most the deepest one of the text. -/
theorem depth_behind_le (f : Front) (s rest : List Char) : (f.behind s).depth ≤ f.deepest (s ++ rest) := by
  induction s generalizing f with
  | nil =>
    cases rest with
    | nil => exact le_refl _
    | cons c rest => exact le_max_left _ _
  | cons c s ih => exact (ih (f.step c)).trans (le_max_right _ _)

end Front

/-- The greatest number of arrays and objects that are open at once in a text. Brackets in strings do not count. -/
def nesting (text : String) : Nat := ({ depth := 0 } : Front).deepest text.toList

/-! ## What readers take -/

/-- A reader that takes some characters off the front of a text closes so many of the arrays and objects that are open there. -/
def Takes (closes : Nat) (s rest : List Char) : Prop :=
  ∃ used, s = used ++ rest ∧ ∀ depth, Front.behind { depth := depth + closes } used = { depth }

/-- Somewhere in a text, more arrays and objects are open than at its front and than there is room for. -/
def Overruns (room : Nat) (s : List Char) : Prop :=
  ∃ used rest, s = used ++ rest ∧ ∀ depth, (Front.behind { depth } used).depth = depth + room + 1

variable {closes room fuel : Nat} {c : Char} {s s' rest : List Char}

/-- Nothing is taken, and nothing is closed. -/
theorem Takes.refl (s : List Char) : Takes 0 s s := ⟨[], rfl, fun _ => rfl⟩

/-- What is taken in two steps is taken at once. -/
theorem Takes.trans (h : Takes 0 s s') (h' : Takes closes s' rest) : Takes closes s rest := by
  obtain ⟨used, rfl, hused⟩ := h
  obtain ⟨used', rfl, hused'⟩ := h'
  refine ⟨used ++ used', (List.append_assoc _ _ _).symm, fun depth => ?_⟩
  have hfirst := hused (depth + closes)
  rw [Front.behind_append, ← Nat.add_zero (depth + closes), hfirst, hused']

/-- A text whose rest goes too deep goes too deep. -/
theorem Takes.overruns (h : Takes 0 s s') (h' : Overruns room s') : Overruns room s := by
  obtain ⟨used, rfl, hused⟩ := h
  obtain ⟨used', rest, rfl, hdepth⟩ := h'
  refine ⟨used ++ used', rest, (List.append_assoc _ _ _).symm, fun depth => ?_⟩
  have hfirst := hused depth
  rw [Nat.add_zero] at hfirst
  rw [Front.behind_append, hfirst, hdepth]

/-- The character neither opens nor closes anything outside of strings. -/
def Plain (c : Char) : Prop := c ≠ '"' ∧ c ≠ '[' ∧ c ≠ '\x7b' ∧ c ≠ ']' ∧ c ≠ '\x7d'

instance (c : Char) : Decidable (Plain c) := inferInstanceAs (Decidable (_ ∧ _))

/-- A plain character does not change the depth. -/
theorem Plain.step (h : Plain c) (depth : Nat) : Front.step { depth } c = { depth } := by
  obtain ⟨hquote, hbracket, hbrace, hbracket', hbrace'⟩ := h
  simp [Front.step, hquote, hbracket, hbrace, hbracket', hbrace']

/-- A plain character in front may be taken along. -/
theorem Takes.of_plain (hc : Plain c) (h : Takes closes s rest) : Takes closes (c :: s) rest := by
  obtain ⟨used, rfl, hused⟩ := h
  refine ⟨c :: used, rfl, fun depth => ?_⟩
  rw [Front.behind, List.foldl_cons, hc.step]
  exact hused depth

/-- Plain characters in front are taken. -/
theorem takes_append {word : List Char} (h : ∀ c ∈ word, Plain c) (rest : List Char) : Takes 0 (word ++ rest) rest := by
  induction word with
  | nil => exact .refl rest
  | cons c word ih => exact .of_plain (h c List.mem_cons_self) (ih fun d hd => h d (List.mem_cons_of_mem c hd))

/-- Plain characters that are dropped from the front are taken. -/
theorem takes_dropWhile {p : Char → Bool} (h : ∀ c, p c = true → Plain c) (s : List Char) : Takes 0 s (s.dropWhile p) := by
  have hword : ∀ c ∈ s.takeWhile p, Plain c := fun c hc => h c (List.all_eq_true.1 List.all_takeWhile c hc)
  have htakes := takes_append hword (s.dropWhile p)
  rwa [List.takeWhile_append_dropWhile] at htakes

/-- Spaces are taken. -/
theorem takes_skipSpace (s : List Char) : Takes 0 s (skipSpace s) := by
  refine takes_dropWhile (fun c hc => ?_) s
  simp only [isSpace, Bool.or_eq_true, beq_iff_eq] at hc
  rcases hc with ((rfl | rfl) | rfl) | rfl <;> decide

/-! ## Strings -/

/-- A hexadecimal digit ends no string and escapes nothing. -/
theorem hexValue?_ne {d : Nat} (h : hexValue? c = some d) : c ≠ '"' ∧ c ≠ '\\' := by
  refine ⟨?_, ?_⟩ <;>
  · rintro rfl
    cases h

/-- Inside a string, a character that ends and escapes nothing is passed over. -/
theorem step_inside (h : c ≠ '"' ∧ c ≠ '\\') (depth : Nat) : Front.step ⟨depth, .inside⟩ c = ⟨depth, .inside⟩ := by
  simp [Front.step, h.1, h.2]

/-- Four digits stay inside of a string. -/
theorem readUnit?_eq_some {unit : Nat} (h : readUnit? s = some (unit, rest)) :
    ∃ used, s = used ++ rest ∧ ∀ depth, Front.behind ⟨depth, .inside⟩ used = ⟨depth, .inside⟩ := by
  unfold readUnit? at h
  split at h
  · rename_i a b c d behind
    simp only [Option.bind_eq_bind, Option.bind_eq_some_iff, Option.pure_def, Option.some.injEq, Prod.mk.injEq] at h
    obtain ⟨_, ha, _, hb, _, hc, _, hd, -, rfl⟩ := h
    refine ⟨[a, b, c, d], rfl, fun depth => ?_⟩
    simp only [Front.behind, List.foldl_cons, List.foldl_nil, step_inside (hexValue?_ne ha), step_inside (hexValue?_ne hb),
      step_inside (hexValue?_ne hc), step_inside (hexValue?_ne hd)]
  · cases h

/-- Inside a string, an escaped character is passed over. -/
theorem behind_escape (depth : Nat) (c : Char) (s : List Char) :
    Front.behind ⟨depth, .inside⟩ ('\\' :: c :: s) = Front.behind ⟨depth, .inside⟩ s := rfl

/-- The second unit of a character is read inside the string. -/
theorem readLowUnit?_eq_some {low : Nat} (h : readLowUnit? s = some (low, rest)) :
    ∃ used, s = used ++ rest ∧ ∀ depth, Front.behind ⟨depth, .inside⟩ used = ⟨depth, .inside⟩ := by
  unfold readLowUnit? at h
  split at h
  · split at h
    · rename_i hunit
      split at h
      · obtain ⟨-, rfl⟩ := Prod.mk.inj (Option.some.inj h)
        obtain ⟨used, rfl, hused⟩ := readUnit?_eq_some hunit
        exact ⟨'\\' :: 'u' :: used, rfl, fun depth => (behind_escape depth 'u' used).trans (hused depth)⟩
      · cases h
    · cases h
  · cases h

/-- A character of a string stays inside of it. -/
theorem readChar?_eq_some (hc : c ≠ '"') {d : Char} (h : readChar? (c :: s) = some (d, rest)) :
    ∃ used, c :: s = used ++ rest ∧ ∀ depth, Front.behind ⟨depth, .inside⟩ used = ⟨depth, .inside⟩ := by
  generalize hs : c :: s = text at h ⊢
  unfold readChar? at h
  split at h
  · simp only [Option.bind_eq_bind, Option.bind_eq_some_iff] at h
    obtain ⟨⟨unit, behind⟩, hunit, h⟩ := h
    obtain ⟨used, rfl, hused⟩ := readUnit?_eq_some hunit
    have hunits : ∀ depth, Front.behind ⟨depth, .inside⟩ ('\\' :: 'u' :: used) = ⟨depth, .inside⟩ :=
      fun depth => (behind_escape depth 'u' used).trans (hused depth)
    dsimp only at h
    split at h
    · split at h
      · rename_i hlow
        obtain ⟨-, rfl⟩ := Prod.mk.inj (Option.some.inj h)
        obtain ⟨used', rfl, hused'⟩ := readLowUnit?_eq_some hlow
        refine ⟨'\\' :: 'u' :: used ++ used', by simp, fun depth => ?_⟩
        rw [Front.behind_append, hunits, hused']
      · obtain ⟨-, rfl⟩ := Prod.mk.inj (Option.some.inj h)
        exact ⟨_, rfl, hunits⟩
    · split at h <;>
      · obtain ⟨-, rfl⟩ := Prod.mk.inj (Option.some.inj h)
        exact ⟨_, rfl, hunits⟩
  · rename_i c behind _
    simp only [Option.map_eq_some_iff, Prod.mk.injEq] at h
    obtain ⟨_, -, -, rfl⟩ := h
    exact ⟨['\\', c], rfl, fun _ => rfl⟩
  · cases h
  · rename_i c behind _ hescape hend
    split at h
    · cases h
    · obtain ⟨-, rfl⟩ := Prod.mk.inj (Option.some.inj h)
      have hslash : c ≠ '\\' := by
        rintro rfl
        cases behind with
        | nil => exact hend rfl rfl
        | cons d behind => exact hescape d behind rfl rfl
      exact ⟨[c], rfl, step_inside ⟨(List.cons.inj hs).1 ▸ hc, hslash⟩⟩
  · cases h

/-- The rest of a string leads out of it. -/
theorem readString?_eq_some {cs : List Char} (h : readString? fuel s = some (cs, rest)) :
    ∃ used, s = used ++ rest ∧ ∀ depth, Front.behind ⟨depth, .inside⟩ used = ⟨depth, .outside⟩ := by
  induction fuel generalizing s cs with
  | zero =>
    rw [readString?] at h
    cases h
  | succ fuel ih =>
    cases s with
    | nil => cases h
    | cons c s =>
      by_cases hc : c = '"'
      · subst hc
        rw [readString?] at h
        obtain ⟨-, rfl⟩ := Prod.mk.inj (Option.some.inj h)
        exact ⟨['"'], rfl, fun _ => rfl⟩
      · rw [readString?_of_ne_quote hc] at h
        simp only [Option.bind_eq_bind, Option.bind_eq_some_iff] at h
        obtain ⟨⟨d, behind⟩, hchar, ⟨more, rest'⟩, hmore, h⟩ := h
        obtain ⟨-, rfl⟩ := Prod.mk.inj (Option.some.inj h)
        obtain ⟨used, hs, hused⟩ := readChar?_eq_some hc hchar
        obtain ⟨used', rfl, hused'⟩ := ih hmore
        refine ⟨used ++ used', hs.trans (List.append_assoc _ _ _).symm, fun depth => ?_⟩
        rw [Front.behind_append, hused, hused']

/-- A string is taken with its quotes, and closes nothing. -/
theorem takes_string {r : List Char × List Char} (h : readString? fuel s = some r) : Takes 0 ('"' :: s) r.2 := by
  obtain ⟨used, rfl, hused⟩ := readString?_eq_some h
  exact ⟨'"' :: used, rfl, hused⟩

/-! ## Words and numbers -/

/-- A plain word is taken. -/
theorem takes_afterWord? {word : String} (hword : ∀ c ∈ word.toList, Plain c) (h : afterWord? word s = some rest) : Takes 0 s rest := by
  unfold afterWord? at h
  split at h
  · rename_i hprefix
    obtain ⟨behind, rfl⟩ := List.isPrefixOf_iff_prefix.1 hprefix
    obtain rfl := Option.some.inj h
    rw [← String.length_toList, List.drop_left]
    exact takes_append hword behind
  · cases h

/-- A literal word is taken. -/
theorem takes_readWord? {r : Json × List Char} (h : readWord? s = some r) : Takes 0 s r.2 := by
  have hplain : words.all fun w => w.1.toList.all fun c => decide (Plain c) := by decide
  obtain ⟨w, hw, hfound⟩ := List.exists_of_findSome?_eq_some h
  obtain ⟨rest, hrest, rfl⟩ := Option.map_eq_some_iff.1 hfound
  exact takes_afterWord? (fun c hc => of_decide_eq_true (List.all_eq_true.1 (List.all_eq_true.1 hplain w hw) c hc)) hrest

/-- Digits are plain. -/
theorem plain_of_isDigit (h : c.isDigit = true) : Plain c := by
  refine ⟨?_, ?_, ?_, ?_, ?_⟩ <;>
  · rintro rfl
    exact absurd h (by decide)

/-- Digits are taken. -/
theorem takes_spanDigits (s : List Char) : Takes 0 s (spanDigits s).2 := takes_dropWhile (fun _ => plain_of_isDigit) s

/-- The whole part of a number is taken. -/
theorem takes_readWhole? {ds : List Char} (h : readWhole? s = some (ds, rest)) : Takes 0 s rest := by
  unfold readWhole? at h
  split at h
  · obtain ⟨-, rfl⟩ := Prod.mk.inj (Option.some.inj h)
    exact .of_plain (by decide) (.refl _)
  · have htakes := takes_spanDigits s
    split at h
    · cases h
    · rwa [Option.some.inj h] at htakes

/-- The places of a number are taken. -/
theorem takes_readPlaces (s : List Char) : Takes 0 s (readPlaces s).2 := by
  unfold readPlaces
  split
  · rename_i behind
    have htakes := takes_spanDigits behind
    split
    · exact .refl _
    · rename_i hspan
      rw [hspan] at htakes
      exact .of_plain (by decide) htakes
  · exact .refl _

/-- A sign is taken. -/
theorem takes_splitSign (s : List Char) : Takes 0 s (splitSign s).2 := by
  unfold splitSign
  split
  · exact .of_plain (by decide) (.refl _)
  · exact .of_plain (by decide) (.refl _)
  · exact .refl _

/-- An exponent is taken. -/
theorem takes_readExponent (s : List Char) : Takes 0 s (readExponent s).2 := by
  unfold readExponent
  split
  · rename_i c behind
    split
    · rename_i hmark
      have hc : Plain c := by
        simp only [Bool.or_eq_true, beq_iff_eq] at hmark
        rcases hmark with rfl | rfl <;> decide
      have htakes := (takes_splitSign behind).trans (takes_spanDigits (splitSign behind).2)
      dsimp only
      split
      · exact .refl _
      · rename_i hspan
        rw [hspan] at htakes
        exact .of_plain hc htakes
    · exact .refl _
  · exact .refl _

/-- A number without its sign is taken. -/
theorem takes_readUnsigned? {negative : Bool} {r : Json × List Char} (h : readUnsigned? negative s = some r) : Takes 0 s r.2 := by
  simp only [readUnsigned?, Option.bind_eq_bind, Option.bind_eq_some_iff] at h
  obtain ⟨⟨whole, behind⟩, hwhole, h⟩ := h
  have htakes := (takes_readWhole? hwhole).trans ((takes_readPlaces behind).trans (takes_readExponent (readPlaces behind).2))
  dsimp only at h
  split at h
  · split at h
    · obtain rfl := Option.some.inj h
      exact htakes
    · cases h
  · obtain rfl := Option.some.inj h
    exact htakes

/-- A number is taken. -/
theorem takes_readNumber? {r : Json × List Char} (h : readNumber? s = some r) : Takes 0 s r.2 := by
  unfold readNumber? at h
  split at h
  · split at h
    · rename_i hword
      obtain rfl := Option.some.inj h
      have hplain : "Infinity".toList.all fun c => decide (Plain c) := by decide
      exact .of_plain (by decide) (takes_afterWord? (fun c hc => of_decide_eq_true (List.all_eq_true.1 hplain c hc)) hword)
    · exact .of_plain (by decide) (takes_readUnsigned? h)
  · exact takes_readUnsigned? h

/-! ## Values -/

/-- Reading fails only for one of its two causes. -/
def Reading.Explained {α : Type} (r : Reading α) : Prop := ∀ why, r = .error why → why = .malformedJson ∨ why = .tooDeep

/-- A reader takes a front part of the text and closes so many of the arrays and objects that are open there; else it fails for one of
the two causes, and refuses the text for its depth only if that has no room for what it opens. -/
structure Tracked {α : Type} (closes room : Nat) (s : List Char) (r : Reading (α × List Char)) : Prop where
  takes : ∀ a rest, r = .ok (a, rest) → Takes closes s rest
  overruns : r = .error .tooDeep → Overruns room s
  explained : r.Explained

namespace Tracked

variable {α β : Type} {r : Reading (α × List Char)} {f : α × List Char → Reading (β × List Char)}

/-- A reading that fails as malformed is tracked. -/
theorem malformed : Tracked closes room s (.error .malformedJson : Reading (α × List Char)) :=
  ⟨nofun, nofun, fun _ heq => Or.inl (Except.error.inj heq).symm⟩

/-- A reading that takes its part of the text is tracked. -/
theorem of_takes (h : Takes closes s rest) (a : α) : Tracked closes room s (.ok (a, rest)) := by
  refine ⟨fun a' rest' heq => ?_, nofun, nofun⟩
  obtain ⟨-, rfl⟩ := Prod.mk.inj (Except.ok.inj heq)
  exact h

/-- A reader that takes its part or finds nothing is tracked. -/
theorem of_option {o : Option (α × List Char)} (h : ∀ p, o = some p → Takes closes s p.2) :
    Tracked closes room s (Reading.ofOption o) := by
  cases o with
  | none => exact malformed
  | some p => exact of_takes (h p rfl) p.1

/-- What has been taken before does not matter. -/
theorem behind (h : Takes 0 s s') (hr : Tracked closes room s' r) : Tracked closes room s r :=
  ⟨fun a rest heq => h.trans (hr.takes a rest heq), fun heq => h.overruns (hr.overruns heq), hr.explained⟩

/-- A failure does not depend on what was to be read. -/
theorem of_error {why : Fault} (h : Tracked closes room s (.error why : Reading (α × List Char))) {closes' : Nat} :
    Tracked closes' room s (.error why : Reading (β × List Char)) :=
  ⟨nofun, fun heq => h.overruns (congrArg Except.error (Except.error.inj heq)),
    fun _ heq => h.explained _ (congrArg Except.error (Except.error.inj heq))⟩

/-- One reader, and then another one that closes something. -/
theorem bind (hr : Tracked 0 room s r) (hf : ∀ a rest, Tracked closes room rest (f (a, rest))) : Tracked closes room s (r >>= f) := by
  cases r with
  | error why => exact hr.of_error
  | ok p => exact behind (hr.takes p.1 p.2 rfl) (hf p.1 p.2)

/-- A reader whose result is put together with others. -/
theorem finish (hr : Tracked closes room s r) (hf : ∀ a rest, ∃ b, f (a, rest) = .ok (b, rest)) :
    Tracked closes room s (r >>= f) := by
  cases r with
  | error why => exact hr.of_error
  | ok p =>
    obtain ⟨b, hb⟩ := hf p.1 p.2
    have hbind : (Except.ok p >>= f) = (.ok (b, p.2) : Reading (β × List Char)) := hb
    rw [hbind]
    exact of_takes (hr.takes p.1 p.2 rfl) b

/-- What is read behind an opening closes it. -/
theorem inside {read : Nat → Reading (α × List Char)} (hc : c = '[' ∨ c = '\x7b') (h : ∀ room, Tracked 1 room s (read room))
    (room : Nat) : Tracked 0 room (c :: s) (Reading.inside room read) := by
  have hstep : ∀ depth, Front.step { depth } c = { depth := depth + 1 } := by
    rcases hc with rfl | rfl <;> exact fun _ => rfl
  cases room with
  | zero =>
    refine ⟨nofun, fun _ => ⟨[c], s, rfl, fun depth => ?_⟩, fun _ heq => Or.inr (Except.error.inj heq).symm⟩
    rw [Front.behind, List.foldl_cons, hstep]
    rfl
  | succ room =>
    refine ⟨fun a rest heq => ?_, fun heq => ?_, (h room).explained⟩
    · obtain ⟨used, rfl, hused⟩ := (h room).takes a rest heq
      refine ⟨c :: used, rfl, fun depth => ?_⟩
      rw [Front.behind, List.foldl_cons, Nat.add_zero, hstep]
      exact hused depth
    · obtain ⟨used, rest, rfl, hdepth⟩ := (h room).overruns heq
      refine ⟨c :: used, rest, rfl, fun depth => ?_⟩
      have hinner := hdepth (depth + 1)
      rw [Front.behind, List.foldl_cons, hstep]
      rw [Front.behind] at hinner
      omega

/-- A closing bracket closes one container. -/
theorem closing (hc : c = ']' ∨ c = '\x7d') (a : α) (rest : List Char) :
    Tracked 1 room (c :: rest) (.ok (a, rest) : Reading (α × List Char)) := by
  refine of_takes ⟨[c], rfl, fun depth => ?_⟩ a
  rcases hc with rfl | rfl <;> rfl

end Tracked

/-- All readers together, by the bound on their steps. -/
theorem tracked_read (fuel : Nat) :
    (∀ room s, Tracked 0 room s (readValue fuel room s)) ∧ (∀ room s, Tracked 1 room s (readItems fuel room s)) ∧
      (∀ room s, Tracked 0 room s (readField fuel room s)) ∧ ∀ room s, Tracked 1 room s (readFields fuel room s) := by
  induction fuel with
  | zero =>
    refine ⟨fun room s => ?_, fun room s => ?_, fun room s => ?_, fun room s => ?_⟩
    · rw [readValue]
      exact .malformed
    · rw [readItems]
      exact .malformed
    · rw [readField]
      exact .malformed
    · rw [readFields]
      exact .malformed
  | succ fuel ih =>
    obtain ⟨hvalue, hitems, hfield, hfields⟩ := ih
    have hitems' : ∀ room s, Tracked 1 room s (readItems fuel room (skipSpace s)) :=
      fun room s => .behind (takes_skipSpace s) (hitems room _)
    have hfields' : ∀ room s, Tracked 1 room s (readFields fuel room (skipSpace s)) :=
      fun room s => .behind (takes_skipSpace s) (hfields room _)
    have hstring : ∀ room (s : List Char),
        Tracked 0 room ('"' :: s) (Reading.ofOption (readString? (s.length + 1) s)) :=
      fun room s => .of_option fun _ => takes_string
    refine ⟨fun room s => ?_, fun room s => ?_, fun room s => ?_, fun room s => ?_⟩
    · unfold readValue
      split
      · exact (hstring room _).finish fun _ _ => ⟨_, rfl⟩
      · refine .inside (Or.inl rfl) (fun room => .behind (takes_skipSpace _) ?_) room
        split
        · rename_i hskip
          rw [hskip]
          exact .closing (Or.inl rfl) _ _
        · exact (hvalue room _).bind fun _ rest => (hitems' room rest).finish fun _ _ => ⟨_, rfl⟩
      · refine .inside (Or.inr rfl) (fun room => .behind (takes_skipSpace _) ?_) room
        split
        · rename_i hskip
          rw [hskip]
          exact .closing (Or.inr rfl) _ _
        · exact (hfield room _).bind fun _ rest => (hfields' room rest).finish fun _ _ => ⟨_, rfl⟩
      · refine .of_option fun p hp => ?_
        rcases Option.or_eq_some_iff.1 hp with hword | ⟨-, hnumber⟩
        · exact takes_readWord? hword
        · exact takes_readNumber? hnumber
    · unfold readItems
      split
      · exact .closing (Or.inl rfl) _ _
      · refine .behind (.of_plain (by decide) (takes_skipSpace _)) ?_
        exact (hvalue room _).bind fun _ rest => (hitems' room rest).finish fun _ _ => ⟨_, rfl⟩
      · exact .malformed
    · unfold readField
      split
      · refine (hstring room _).bind fun _ rest => .behind (takes_skipSpace rest) ?_
        dsimp only
        split
        · rename_i hskip
          rw [hskip]
          refine .behind (.of_plain (by decide) (takes_skipSpace _)) ?_
          exact (hvalue room _).finish fun _ _ => ⟨_, rfl⟩
        · exact .malformed
      · exact .malformed
    · unfold readFields
      split
      · exact .closing (Or.inr rfl) _ _
      · refine .behind (.of_plain (by decide) (takes_skipSpace _)) ?_
        exact (hfield room _).bind fun _ rest => (hfields' room rest).finish fun _ _ => ⟨_, rfl⟩
      · exact .malformed

/-! ## Whole texts -/

section Whole

variable [Room]

/-- What reading a text from its first character that is no space says of the whole text. -/
theorem tracked_text (text : List Char) : Tracked 0 maxDepth text (readValue (2 * text.length + 2) maxDepth (skipSpace text)) :=
  .behind (takes_skipSpace text) ((tracked_read _).1 _ _)

/-- A text that cannot be read is no JSON, or reading its value failed. -/
theorem parse_eq_error {text : String} {why : Fault} (h : parse text = .error why) :
    why = .malformedJson ∨ readValue (2 * text.toList.length + 2) maxDepth (skipSpace text.toList) = .error why := by
  unfold parse at h
  dsimp only at h
  split at h
  · split at h
    · cases h
    · exact Or.inl (Except.error.inj h).symm
  · rename_i why' hwhy
    exact Or.inr (hwhy.trans (congrArg Except.error (Except.error.inj h)))

/-- A text that cannot be read is no JSON or goes too deep. -/
theorem explained_parse (text : String) : (parse text).Explained := fun why h =>
  (parse_eq_error h).elim Or.inl ((tracked_text text.toList).explained why)

/-- A text that is refused for its depth nests deeper than values may. -/
theorem maxDepth_lt_nesting {text : String} (h : parse text = .error .tooDeep) : maxDepth < nesting text := by
  have hread := (parse_eq_error h).resolve_left nofun
  obtain ⟨used, rest, htext, hdepth⟩ := (tracked_text text.toList).overruns hread
  have hle := ({ depth := 0 } : Front).depth_behind_le used rest
  rw [hdepth 0, ← htext] at hle
  unfold nesting
  omega

/-- A text that does not nest too deep and cannot be read is no JSON. -/
theorem eq_malformedJson_of_nesting_le {text : String} (hdepth : nesting text ≤ maxDepth) {why : Fault} (h : parse text = .error why) :
    why = .malformedJson := by
  rcases explained_parse text why h with hwhy | rfl
  · exact hwhy
  · exact absurd (maxDepth_lt_nesting h) (by omega)

end Whole

/-! ## Texts that go too deep -/

/-- A bracket is no space. -/
theorem skipSpace_bracket (rest : List Char) : skipSpace ('[' :: rest) = '[' :: rest := by
  rw [skipSpace, List.dropWhile_cons_of_neg (by decide)]

/-- Opening one array more than there is room for goes too deep. -/
theorem readValue_brackets {fuel room : Nat} (h : room < fuel) (rest : List Char) :
    readValue fuel room (List.replicate (room + 1) '[' ++ rest) = .error .tooDeep := by
  induction room generalizing fuel with
  | zero =>
    obtain ⟨fuel, rfl⟩ : ∃ n, fuel = n + 1 := ⟨fuel - 1, by omega⟩
    rw [List.replicate_one, List.singleton_append, readValue]
    rfl
  | succ room ih =>
    obtain ⟨fuel, rfl⟩ : ∃ n, fuel = n + 1 := ⟨fuel - 1, by omega⟩
    have hnext := ih (show room < fuel by omega)
    rw [List.replicate_succ, List.cons_append] at hnext ⊢
    rw [List.replicate_succ, List.cons_append, readValue, Reading.inside, skipSpace_bracket]
    dsimp only
    split
    · rename_i heq
      exact absurd (List.cons.inj heq).1 (by decide)
    · change (readValue fuel room _ >>= _) = _
      rw [hnext]
      rfl

/-- One bracket more than there is room for is too deep, whatever follows. -/
theorem parse_brackets [Room] (rest : List Char) :
    parse (String.ofList (List.replicate (maxDepth + 1) '[' ++ rest)) = .error .tooDeep := by
  have hskip : skipSpace (List.replicate (maxDepth + 1) '[' ++ rest) = List.replicate (maxDepth + 1) '[' ++ rest := by
    rw [List.replicate_succ, List.cons_append, skipSpace_bracket]
  have hroom : maxDepth < 2 * (List.replicate (maxDepth + 1) '[' ++ rest).length + 2 := by
    rw [List.length_append, List.length_replicate]
    omega
  rw [parse]
  simp only [String.toList_ofList, hskip, readValue_brackets hroom]

end ToolpathViewer.Json
