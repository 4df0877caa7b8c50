import ToolpathViewer.Proofs.Decimal.Numerals
import ToolpathViewer.Proofs.Json.Strings
import ToolpathViewer.Proofs.Outcome

/-!
# Reading back values

A written value without fractions, whose objects name no field twice and whose parts do not nest too deep, is read back as it was,
in every layout. The only thing that can be lost is an integer with too many digits, and then the whole text is no JSON.
-/

namespace ToolpathViewer.Json

open ToolpathViewer.Decimal

/-! ## Layouts and white space -/

/-- The separators of a layout are one sign and white space. -/
structure Layout.Plain (l : Layout) : Prop where
  comma : ∃ space, l.comma = ',' :: space ∧ ∀ c ∈ space, isSpace c = true
  colon : ∃ space, l.colon = ':' :: space ∧ ∀ c ∈ space, isSpace c = true

/-- The compact layout puts only spaces between its marks. -/
theorem Layout.plain_compact : Layout.compact.Plain := ⟨⟨[], rfl, nofun⟩, ⟨[], rfl, nofun⟩⟩

/-- The layout with spaces puts only spaces between its marks. -/
theorem Layout.plain_spaced : Layout.spaced.Plain :=
  ⟨⟨[' '], rfl, List.forall_mem_singleton.2 rfl⟩, ⟨[' '], rfl, List.forall_mem_singleton.2 rfl⟩⟩

/-- The indented layout puts only spaces between its marks. -/
theorem Layout.plain_indented : Layout.indented.Plain :=
  ⟨⟨[], rfl, nofun⟩, ⟨[' '], rfl, List.forall_mem_singleton.2 rfl⟩⟩

/-- What a layout starts a new line with is skipped by the reader. -/
theorem Layout.newline_blank (l : Layout) (depth : Nat) : ∀ c ∈ l.newline depth, isSpace c = true := by
  intro c h
  unfold Layout.newline at h
  split at h
  · cases h
  · rcases List.mem_cons.1 h with rfl | h
    · decide
    · obtain rfl := List.eq_of_mem_replicate h
      decide

/-- Spaces in front are skipped. -/
theorem skipSpace_append {space : List Char} (h : ∀ c ∈ space, isSpace c = true) (s : List Char) :
    skipSpace (space ++ s) = skipSpace s :=
  List.dropWhile_append_of_pos h

/-- What is no space is not skipped. -/
theorem skipSpace_cons {c : Char} (h : isSpace c = false) (s : List Char) : skipSpace (c :: s) = c :: s :=
  List.dropWhile_cons_of_neg (by simp [h])

/-- No number goes on in the text. -/
def NumberEnd (s : List Char) : Prop := ∀ c ∈ s.head?, c.isDigit = false ∧ c ≠ '.' ∧ c ≠ 'e' ∧ c ≠ 'E'

/-- A number may end with the text. -/
theorem numberEnd_nil : NumberEnd [] := fun c h => by cases h

/-- A number may end in front of a character that none goes on with. -/
theorem numberEnd_cons {c : Char} (h : c.isDigit = false ∧ c ≠ '.' ∧ c ≠ 'e' ∧ c ≠ 'E') (s : List Char) : NumberEnd (c :: s) := by
  intro d hd
  obtain rfl := Option.some.inj hd
  exact h

/-- A number may end in front of spaces. -/
theorem numberEnd_space {space s : List Char} (hspace : ∀ c ∈ space, isSpace c = true) (h : NumberEnd s) :
    NumberEnd (space ++ s) := by
  cases space with
  | nil => exact h
  | cons c space =>
    refine numberEnd_cons ?_ _
    have hc := hspace c List.mem_cons_self
    simp only [isSpace, Bool.or_eq_true, beq_iff_eq] at hc
    rcases hc with ((rfl | rfl) | rfl) | rfl <;> decide

/-! ## Numbers and words -/

/-- The outcome of reading a value: the value itself, unless some integer in it is too long. -/
def outcome {α : Type} (fits : Bool) (a : α) : Reading α := if fits then .ok a else .error .malformedJson

/-- Reading goes on behind a value that fits, and fails behind one that does not. -/
theorem outcome_bind {α β : Type} (fits : Bool) (a : α) (f : α → Reading β) :
    (outcome fits a >>= f) = if fits then f a else .error .malformedJson := by
  cases fits <;> rfl

/-- Digits are read up to where a number ends. -/
theorem spanDigits_append {ds rest : List Char} (hds : ∀ c ∈ ds, c.isDigit = true) (hrest : NumberEnd rest) :
    spanDigits (ds ++ rest) = (ds, rest) := by
  have hstop : rest.takeWhile Char.isDigit = [] ∧ rest.dropWhile Char.isDigit = rest := by
    cases rest with
    | nil => exact ⟨rfl, rfl⟩
    | cons c rest =>
      have hc := (hrest c rfl).1
      exact ⟨List.takeWhile_cons_of_neg (by simp [hc]), List.dropWhile_cons_of_neg (by simp [hc])⟩
  rw [spanDigits, List.takeWhile_append_of_pos hds, List.dropWhile_append_of_pos hds, hstop.1, hstop.2, List.append_nil]

/-- Only zero is written with a zero in front. -/
theorem toDigits_eq_zero_cons {n : Nat} {ds : List Char} (h : Nat.toDigits 10 n = '0' :: ds) : ds = [] := by
  induction n using Nat.strong_induction_on generalizing ds with
  | _ n ih =>
    by_cases hn : n < 10
    · rw [Nat.toDigits_of_lt_base hn] at h
      exact (List.cons.inj h).2.symm
    · rw [Nat.toDigits_of_base_le (by decide) (not_lt.1 hn)] at h
      cases hhead : Nat.toDigits 10 (n / 10) with
      | nil => exact absurd hhead Nat.toDigits_ne_nil
      | cons c cs =>
        rw [hhead, List.cons_append] at h
        obtain ⟨rfl, -⟩ := List.cons.inj h
        have hcs := ih (n / 10) (by omega) hhead
        subst hcs
        have hzero : n / 10 = 0 := by
          have hvalue := Nat.ofDigitChars_ten_toDigits (n := n / 10)
          rw [hhead] at hvalue
          exact hvalue.symm
        omega

/-- The digits of a written number are read as its whole part. -/
theorem readWhole?_toDigits (n : Nat) {rest : List Char} (hrest : NumberEnd rest) :
    readWhole? (Nat.toDigits 10 n ++ rest) = some (Nat.toDigits 10 n, rest) := by
  have hspan := spanDigits_append (fun c hc => isDigit_of_mem_toDigits (n := n) hc) hrest
  unfold readWhole?
  split
  · rename_i rest' heq
    cases hds : Nat.toDigits 10 n with
    | nil => exact absurd hds Nat.toDigits_ne_nil
    | cons c ds =>
      rw [hds, List.cons_append] at heq
      obtain ⟨rfl, rfl⟩ := List.cons.inj heq
      rw [toDigits_eq_zero_cons hds, List.nil_append]
  · rw [hspan]
    split
    · rename_i heq
      exact absurd (congrArg Prod.fst heq) Nat.toDigits_ne_nil
    · rfl

/-- A number that ends has no places. -/
theorem readPlaces_of_numberEnd {rest : List Char} (h : NumberEnd rest) : readPlaces rest = (none, rest) := by
  unfold readPlaces
  split
  · exact absurd rfl (h '.' rfl).2.1
  · rfl

/-- A number that ends has no exponent. -/
theorem readExponent_of_numberEnd {rest : List Char} (h : NumberEnd rest) : readExponent rest = (none, rest) := by
  unfold readExponent
  split
  · rename_i c rest
    obtain ⟨-, -, he, hE⟩ := h c rfl
    rw [if_neg (by simp [he, hE])]
  · rfl

/-- A written natural number is read back, unless it has too many digits. -/
theorem readUnsigned?_toDigits (negative : Bool) (n : Nat) {rest : List Char} (hrest : NumberEnd rest) :
    readUnsigned? negative (Nat.toDigits 10 n ++ rest) =
      if (Nat.toDigits 10 n).length ≤ maxDigits then some (.int (if negative then -(n : Int) else n), rest) else none := by
  have hvalue : natOfDigits (Nat.toDigits 10 n) = n := ofDigitValues_toDigits n
  rw [readUnsigned?, readWhole?_toDigits n hrest]
  simp only [Option.bind_eq_bind, Option.bind_some, readPlaces_of_numberEnd hrest, readExponent_of_numberEnd hrest,
    Option.isNone_none, Bool.and_self, if_true, hvalue, Option.pure_def]

/-- A text that starts with none of their first letters is no word. -/
theorem readWord?_cons {c : Char} (h : c ≠ 'n' ∧ c ≠ 't' ∧ c ≠ 'f' ∧ c ≠ 'N' ∧ c ≠ 'I') (s : List Char) :
    readWord? (c :: s) = none := by
  obtain ⟨hn, ht, hf, hN, hI⟩ := h
  simp [readWord?, words, afterWord?, hn.symm, ht.symm, hf.symm, hN.symm, hI.symm]

/-- A written integer is read back, unless it has too many digits. -/
theorem readNumber?_toString (n : Int) {rest : List Char} (hrest : NumberEnd rest) :
    readNumber? ((toString n).toList ++ rest) = if Fits n then some (.int n, rest) else none := by
  rw [toList_toString_int]
  cases hds : Nat.toDigits 10 n.natAbs with
  | nil => exact absurd hds Nat.toDigits_ne_nil
  | cons c ds =>
    have hc : c.isDigit = true := isDigit_of_mem_toDigits (n := n.natAbs) (by rw [hds]; exact List.mem_cons_self)
    by_cases hn : n < 0
    · have hword : afterWord? "Infinity" (c :: (ds ++ rest)) = none := by
        have hI : 'I' ≠ c := by
          rintro rfl
          exact absurd hc (by decide)
        simp [afterWord?, hI]
      rw [if_pos hn, List.singleton_append, List.cons_append, List.cons_append, readNumber?, hword]
      dsimp only
      rw [← List.cons_append, ← hds, readUnsigned?_toDigits true _ hrest, if_pos rfl]
      have habs : -(n.natAbs : Int) = n := by omega
      rw [habs]
      rfl
    · rw [if_neg hn, List.nil_append, List.cons_append, readNumber?]
      · rw [← List.cons_append, ← hds, readUnsigned?_toDigits false _ hrest]
        simp only [Bool.false_eq_true, if_false]
        have habs : (n.natAbs : Int) = n := by omega
        rw [habs]
        rfl
      · intro rest' heq
        obtain ⟨rfl, -⟩ := List.cons.inj heq
        exact absurd hc (by decide)

/-! ## Objects with distinct names -/

/-- A field with a new name goes to the end. -/
theorem setField_of_not_mem {k : String} {fields : Fields} (h : k ∉ fields.map Prod.fst) (v : Json) :
    setField k v fields = fields ++ [(k, v)] := by
  induction fields with
  | nil => rfl
  | cons p fields ih =>
    obtain ⟨hne, hmem⟩ := not_or.1 (List.mem_cons.not.1 h)
    rw [setField, if_neg (by simpa using Ne.symm hne), ih hmem, List.cons_append]

/-- Fields with different names are kept in order. -/
theorem foldl_setField {pairs fields : Fields} (h : ((fields ++ pairs).map Prod.fst).Nodup) :
    pairs.foldl (fun fields p => setField p.1 p.2 fields) fields = fields ++ pairs := by
  induction pairs generalizing fields with
  | nil => rw [List.append_nil, List.foldl_nil]
  | cons p pairs ih =>
    have hp : p.1 ∉ fields.map Prod.fst := by
      intro hmem
      rw [List.map_append, List.map_cons] at h
      exact List.disjoint_of_nodup_append h hmem List.mem_cons_self
    rw [List.foldl_cons, setField_of_not_mem hp, ih (by rwa [List.append_assoc]), List.append_assoc, List.singleton_append]

/-- Fields with distinct names stay as they are. -/
theorem ofPairs_of_nodup {pairs : Fields} (h : (pairs.map Prod.fst).Nodup) : Fields.ofPairs pairs = pairs := by
  have hall : (([] ++ pairs : Fields).map Prod.fst).Nodup := h
  rw [Fields.ofPairs, foldl_setField hall, List.nil_append]

/-! ## Values -/

/-- A value that is read back: it has no fractions, its objects name no field twice, and its arrays and objects nest in the room. -/
inductive Readable : Nat → Json → Prop
  | null {room : Nat} : Readable room .null
  | bool {room : Nat} (b : Bool) : Readable room (.bool b)
  | int {room : Nat} (n : Int) : Readable room (.int n)
  | str {room : Nat} (s : String) : Readable room (.str s)
  | arr {room : Nat} {items : List Json} (h : ∀ v ∈ items, Readable room v) : Readable (room + 1) (.arr items)
  | obj {room : Nat} {fields : Fields} (hnames : (fields.map Prod.fst).Nodup) (h : ∀ p ∈ fields, Readable room p.2) :
    Readable (room + 1) (.obj fields)

/-- More room is enough as well. -/
theorem Readable.mono {room room' : Nat} {v : Json} (h : Readable room v) (hle : room ≤ room') : Readable room' v := by
  induction h generalizing room' with
  | null => exact .null
  | bool b => exact .bool b
  | int n => exact .int n
  | str s => exact .str s
  | @arr room items h ih =>
    obtain ⟨room', rfl⟩ : ∃ n, room' = n + 1 := ⟨room' - 1, by omega⟩
    exact .arr fun v hv => ih v hv (by omega)
  | @obj room fields hnames h ih =>
    obtain ⟨room', rfl⟩ : ∃ n, room' = n + 1 := ⟨room' - 1, by omega⟩
    exact .obj hnames fun p hp => ih p hp (by omega)

/-- A value that nests no deeper than what the program writes has room. -/
theorem Readable.ample [Room] {v : Json} (h : Readable 8 v) : Readable maxDepth v := h.mono Room.ample

/-- A reader gets the value back from its written form, wherever that stands. -/
def ReadsBack (l : Layout) (room : Nat) (v : Json) : Prop :=
  ∀ (depth fuel : Nat) (rest : List Char), (v.write l depth).length ≤ fuel → NumberEnd rest →
    readValue fuel room (v.write l depth ++ rest) = outcome v.fits (v, rest)

/-- What is written for a value starts with neither white space nor a closing bracket. -/
theorem write_eq_cons (l : Layout) (depth : Nat) {room : Nat} {v : Json} (h : Readable room v) :
    ∃ c s, v.write l depth = c :: s ∧ isSpace c = false ∧ c ≠ ']' := by
  cases h with
  | null => exact ⟨'n', _, rfl, by decide, by decide⟩
  | bool b =>
    cases b with
    | true => exact ⟨'t', _, rfl, by decide, by decide⟩
    | false => exact ⟨'f', _, rfl, by decide, by decide⟩
  | int n =>
    rw [write, toList_toString_int]
    by_cases hn : n < 0
    · rw [if_pos hn]
      exact ⟨'-', _, rfl, by decide, by decide⟩
    · rw [if_neg hn, List.nil_append]
      cases hds : Nat.toDigits 10 n.natAbs with
      | nil => exact absurd hds Nat.toDigits_ne_nil
      | cons c ds =>
        have hc : c.isDigit = true := isDigit_of_mem_toDigits (n := n.natAbs) (by rw [hds]; exact List.mem_cons_self)
        refine ⟨c, ds, rfl, ?_, ?_⟩
        · have hlow := (toNat_of_isDigit hc).1
          cases hspace : isSpace c with
          | false => rfl
          | true =>
            simp only [isSpace, Bool.or_eq_true, beq_iff_eq] at hspace
            rcases hspace with ((rfl | rfl) | rfl) | rfl <;> exact absurd hlow (by decide)
        · rintro rfl
          exact absurd hc (by decide)
  | str s => exact ⟨'"', _, rfl, by decide, by decide⟩
  | @arr room items h =>
    cases items with
    | nil => exact ⟨'[', _, rfl, by decide, by decide⟩
    | cons v rest =>
      refine ⟨'[', (write l depth (.arr (v :: rest))).tail, ?_, by decide, by decide⟩
      rw [write]
      rfl
  | @obj room fields hnames h =>
    cases fields with
    | nil => exact ⟨'\x7b', _, rfl, by decide, by decide⟩
    | cons p rest =>
      refine ⟨'\x7b', (write l depth (.obj (p :: rest))).tail, ?_, by decide, by decide⟩
      rw [write]
      rfl

/-- A written value does not start with a space. -/
theorem skipSpace_write (l : Layout) (depth : Nat) {room : Nat} {v : Json} (h : Readable room v) (s : List Char) :
    skipSpace (v.write l depth ++ s) = v.write l depth ++ s := by
  obtain ⟨c, t, hwrite, hspace, -⟩ := write_eq_cons l depth h
  rw [hwrite, List.cons_append, skipSpace_cons hspace]

/-- A written value is not empty. -/
theorem length_write_pos (l : Layout) (depth : Nat) {room : Nat} {v : Json} (h : Readable room v) :
    0 < (v.write l depth).length := by
  obtain ⟨c, t, hwrite, -⟩ := write_eq_cons l depth h
  rw [hwrite]
  exact Nat.succ_pos _

/-- Fuel for a written value is never used up. -/
theorem exists_fuel (l : Layout) {depth fuel room : Nat} {v : Json} (h : Readable room v) (hfuel : (v.write l depth).length ≤ fuel) :
    ∃ k, fuel = k + 1 :=
  Nat.exists_eq_add_one.2 ((length_write_pos l depth h).trans_le hfuel)

section Parts

variable {l : Layout} {room : Nat}

/-- A number may end in front of further items. -/
theorem numberEnd_writeItems (hl : l.Plain) (depth : Nat) (items : List Json) {s : List Char} (h : NumberEnd s) :
    NumberEnd (writeItems l depth items ++ s) := by
  obtain ⟨space, hcomma, -⟩ := hl.comma
  cases items with
  | nil => exact h
  | cons v rest =>
    rw [writeItems, hcomma]
    exact numberEnd_cons (by decide) _

/-- A number may end in front of further fields. -/
theorem numberEnd_writeFields (hl : l.Plain) (depth : Nat) (fields : Fields) {s : List Char} (h : NumberEnd s) :
    NumberEnd (writeFields l depth fields ++ s) := by
  obtain ⟨space, hcomma, -⟩ := hl.comma
  cases fields with
  | nil => exact h
  | cons p rest =>
    rw [writeFields, hcomma]
    exact numberEnd_cons (by decide) _

/-- The items behind the first one of an array are read back, up to the closing bracket. -/
theorem readItems_write (hl : l.Plain) {items : List Json} (hitems : ∀ v ∈ items, Readable room v ∧ ReadsBack l room v)
    (depth fuel : Nat) (hfuel : (writeItems l depth items).length < fuel) {space : List Char}
    (hspace : ∀ c ∈ space, isSpace c = true) (rest : List Char) :
    readItems fuel room (skipSpace (writeItems l depth items ++ (space ++ ']' :: rest))) =
      outcome (fitsItems items) (items, rest) := by
  have hend : NumberEnd (space ++ ']' :: rest) := numberEnd_space hspace (numberEnd_cons (by decide) rest)
  induction items generalizing fuel with
  | nil =>
    obtain ⟨fuel, rfl⟩ := Nat.exists_eq_add_one.2 (Nat.zero_lt_of_lt hfuel)
    rw [writeItems, List.nil_append, skipSpace_append hspace, skipSpace_cons (by decide), readItems]
    rfl
  | cons v items ih =>
    obtain ⟨fuel, rfl⟩ := Nat.exists_eq_add_one.2 (Nat.zero_lt_of_lt hfuel)
    obtain ⟨gap, hcomma, hgap⟩ := hl.comma
    obtain ⟨hv, hback⟩ := hitems v List.mem_cons_self
    rw [writeItems, hcomma] at hfuel ⊢
    simp only [List.cons_append, List.length_cons, List.length_append, List.append_assoc] at hfuel ⊢
    rw [skipSpace_cons (by decide), readItems, skipSpace_append hgap, skipSpace_append (l.newline_blank _),
      skipSpace_write l depth hv, hback depth fuel _ (by omega) (numberEnd_writeItems hl depth items hend), outcome_bind]
    dsimp only
    rw [ih (fun w hw => hitems w (List.mem_cons_of_mem v hw)) fuel (by omega), outcome_bind, fitsItems]
    cases v.fits <;> cases fitsItems items <;> rfl

/-- A field is read back, with the fuel for its value and one step for itself. -/
theorem readField_write (hl : l.Plain) (k : String) {v : Json} (hv : Readable room v) (hback : ReadsBack l room v) (depth fuel : Nat)
    (hfuel : (v.write l depth).length < fuel) {rest : List Char} (hrest : NumberEnd rest) :
    readField fuel room (writeString k ++ (l.colon ++ (v.write l depth ++ rest))) = outcome v.fits ((k, v), rest) := by
  obtain ⟨fuel, rfl⟩ := Nat.exists_eq_add_one.2 (Nat.zero_lt_of_lt hfuel)
  obtain ⟨gap, hcolon, hgap⟩ := hl.colon
  obtain ⟨body, hbody, hread⟩ := readString?_writeString k (l.colon ++ (v.write l depth ++ rest))
  rw [hbody, readField, hread, hcolon]
  simp only [Reading.ofOption, List.cons_append, ok_bind]
  rw [skipSpace_cons (by decide)]
  simp only
  rw [skipSpace_append hgap, skipSpace_write l depth hv, hback depth fuel rest (by omega) hrest, outcome_bind,
    String.ofList_toList]
  cases v.fits <;> rfl

/-- A written string does not start with a space. -/
theorem skipSpace_writeString (k : String) (s : List Char) : skipSpace (writeString k ++ s) = writeString k ++ s := by
  unfold writeString
  rw [List.cons_append, List.cons_append, skipSpace_cons (by decide)]

/-- The fields behind the first one of an object are read back, up to the closing brace. -/
theorem readFields_write (hl : l.Plain) {fields : Fields} (hfields : ∀ p ∈ fields, Readable room p.2 ∧ ReadsBack l room p.2)
    (depth fuel : Nat) (hfuel : (writeFields l depth fields).length < fuel) {space : List Char}
    (hspace : ∀ c ∈ space, isSpace c = true) (rest : List Char) :
    readFields fuel room (skipSpace (writeFields l depth fields ++ (space ++ '\x7d' :: rest))) =
      outcome (fitsFields fields) (fields, rest) := by
  have hend : NumberEnd (space ++ '\x7d' :: rest) := numberEnd_space hspace (numberEnd_cons (by decide) rest)
  induction fields generalizing fuel with
  | nil =>
    obtain ⟨fuel, rfl⟩ := Nat.exists_eq_add_one.2 (Nat.zero_lt_of_lt hfuel)
    rw [writeFields, List.nil_append, skipSpace_append hspace, skipSpace_cons (by decide), readFields]
    rfl
  | cons p fields ih =>
    obtain ⟨k, v⟩ := p
    obtain ⟨fuel, rfl⟩ := Nat.exists_eq_add_one.2 (Nat.zero_lt_of_lt hfuel)
    obtain ⟨gap, hcomma, hgap⟩ := hl.comma
    obtain ⟨hv, hback⟩ : Readable room v ∧ ReadsBack l room v := hfields (k, v) List.mem_cons_self
    rw [writeFields, hcomma] at hfuel ⊢
    simp only [List.cons_append, List.length_cons, List.length_append, List.append_assoc] at hfuel ⊢
    have hkey : 2 ≤ (writeString k).length := by
      unfold writeString
      simp
    rw [skipSpace_cons (by decide), readFields, skipSpace_append hgap, skipSpace_append (l.newline_blank _),
      skipSpace_writeString, readField_write hl k hv hback depth fuel (by omega) (numberEnd_writeFields hl depth fields hend), outcome_bind]
    dsimp only
    rw [ih (fun q hq => hfields q (List.mem_cons_of_mem (k, v) hq)) fuel (by omega), outcome_bind, fitsFields]
    cases v.fits <;> cases fitsFields fields <;> rfl

end Parts

/-- Strings are read back. -/
theorem readsBack_str (l : Layout) (room : Nat) (s : String) : ReadsBack l room (.str s) := by
  intro depth fuel rest hfuel _
  obtain ⟨fuel, rfl⟩ := exists_fuel l (.str s : Readable room (.str s)) hfuel
  obtain ⟨body, hbody, hread⟩ := readString?_writeString s rest
  rw [write, hbody, readValue, hread]
  simp only [Reading.ofOption, ok_bind, String.ofList_toList]
  rfl

/-- Integers are read back. -/
theorem readsBack_int (l : Layout) (room : Nat) (n : Int) : ReadsBack l room (.int n) := by
  intro depth fuel rest hfuel hrest
  obtain ⟨fuel, rfl⟩ := exists_fuel l (.int n : Readable room (.int n)) hfuel
  have hnumber := readNumber?_toString n hrest
  obtain ⟨c, s, hwrite, hc⟩ : ∃ c s, (toString n).toList = c :: s ∧ (c = '-' ∨ c.isDigit = true) := by
    rw [toList_toString_int]
    by_cases hn : n < 0
    · rw [if_pos hn]
      exact ⟨'-', _, rfl, Or.inl rfl⟩
    · rw [if_neg hn, List.nil_append]
      cases hds : Nat.toDigits 10 n.natAbs with
      | nil => exact absurd hds Nat.toDigits_ne_nil
      | cons c ds =>
        exact ⟨c, ds, rfl, Or.inr (isDigit_of_mem_toDigits (n := n.natAbs) (by rw [hds]; exact List.mem_cons_self))⟩
  have hne : ∀ d : Char, d ≠ '-' → d.isDigit = false → c ≠ d := by
    rintro d hd hdigit rfl
    rcases hc with hc | hc
    · exact hd hc
    · rw [hdigit] at hc
      cases hc
  have hword : readWord? (c :: (s ++ rest)) = none := by
    refine readWord?_cons ⟨?_, ?_, ?_, ?_, ?_⟩ _ <;> exact hne _ (by decide) (by decide)
  rw [hwrite, List.cons_append] at hnumber
  rw [write, hwrite, List.cons_append, readValue, hword, Option.none_or, hnumber, fits]
  · by_cases hfits : Fits n
    · rw [if_pos hfits, decide_eq_true hfits]
      rfl
    · rw [if_neg hfits, decide_eq_false hfits]
      rfl
  all_goals
    intro rest' heq
    exact hne _ (by decide) (by decide) (List.cons.inj heq).1

/-- An array is read back if its items are. -/
theorem readsBack_arr {l : Layout} (hl : l.Plain) {room : Nat} {items : List Json}
    (hitems : ∀ v ∈ items, Readable room v ∧ ReadsBack l room v) : ReadsBack l (room + 1) (.arr items) := by
  intro depth fuel rest hfuel hrest
  obtain ⟨fuel, rfl⟩ := exists_fuel l (.arr fun v hv => (hitems v hv).1) hfuel
  cases items with
  | nil =>
    rw [write, List.cons_append, List.singleton_append, readValue, Reading.inside, skipSpace_cons (by decide)]
    rfl
  | cons v items =>
    obtain ⟨hv, hback⟩ := hitems v List.mem_cons_self
    rw [write] at hfuel ⊢
    simp only [List.cons_append, List.length_cons, List.length_append, List.append_assoc, List.length_nil, List.nil_append] at hfuel ⊢
    have hend : NumberEnd (l.newline depth ++ ']' :: rest) :=
      numberEnd_space (l.newline_blank _) (numberEnd_cons (by decide) rest)
    have hfirst := hback (depth + 1) fuel _ (by omega) (numberEnd_writeItems hl (depth + 1) items hend)
    have hothers := readItems_write hl (fun w hw => hitems w (List.mem_cons_of_mem v hw)) (depth + 1) fuel
      (by omega) (l.newline_blank depth) rest
    obtain ⟨c, s, hwrite, hspace, hbracket⟩ := write_eq_cons l (depth + 1) hv
    rw [readValue, Reading.inside, skipSpace_append (l.newline_blank _), skipSpace_write l (depth + 1) hv]
    rw [hwrite, List.cons_append] at hfirst ⊢
    dsimp only
    split
    · rename_i heq
      exact absurd (List.cons.inj heq).1 hbracket
    · rw [hfirst, outcome_bind]
      dsimp only
      rw [hothers, outcome_bind, fits, fitsItems]
      cases v.fits <;> cases fitsItems items <;> rfl

/-- An object is read back if its values are. -/
theorem readsBack_obj {l : Layout} (hl : l.Plain) {room : Nat} {fields : Fields} (hnames : (fields.map Prod.fst).Nodup)
    (hfields : ∀ p ∈ fields, Readable room p.2 ∧ ReadsBack l room p.2) : ReadsBack l (room + 1) (.obj fields) := by
  intro depth fuel rest hfuel hrest
  obtain ⟨fuel, rfl⟩ := exists_fuel l (.obj hnames fun p hp => (hfields p hp).1) hfuel
  cases fields with
  | nil =>
    rw [write, List.cons_append, List.singleton_append, readValue, Reading.inside, skipSpace_cons (by decide)]
    rfl
  | cons p fields =>
    obtain ⟨k, v⟩ := p
    obtain ⟨hv, hback⟩ : Readable room v ∧ ReadsBack l room v := hfields (k, v) List.mem_cons_self
    rw [write] at hfuel ⊢
    simp only [List.cons_append, List.length_cons, List.length_append, List.append_assoc, List.length_nil, List.nil_append] at hfuel ⊢
    have hkey : 2 ≤ (writeString k).length := by
      unfold writeString
      simp
    have hend : NumberEnd (l.newline depth ++ '\x7d' :: rest) :=
      numberEnd_space (l.newline_blank _) (numberEnd_cons (by decide) rest)
    have hfirst := readField_write hl k hv hback (depth + 1) fuel (by omega)
      (numberEnd_writeFields hl (depth + 1) fields hend)
    have hothers := readFields_write hl (fun q hq => hfields q (List.mem_cons_of_mem (k, v) hq)) (depth + 1)
      fuel (by omega) (l.newline_blank depth) rest
    rw [readValue, Reading.inside, skipSpace_append (l.newline_blank _), skipSpace_writeString]
    obtain ⟨body, hbody, -⟩ := readString?_writeString k
      (l.colon ++ (v.write l (depth + 1) ++ (writeFields l (depth + 1) fields ++ (l.newline depth ++ '\x7d' :: rest))))
    rw [hbody] at hfirst ⊢
    dsimp only
    split
    · rename_i heq
      exact absurd (List.cons.inj heq).1 (by decide)
    · rw [hfirst, outcome_bind]
      dsimp only
      rw [hothers, outcome_bind, fits, fitsFields]
      simp only [ofPairs_of_nodup hnames]
      cases v.fits <;> cases fitsFields fields <;> rfl

/-- A literal word or a number is read as a value. -/
theorem readValue_word {c : Char} (hc : c ≠ '"' ∧ c ≠ '[' ∧ c ≠ '\x7b') {s : List Char} {r : Json × List Char}
    (h : readWord? (c :: s) = some r) (fuel room : Nat) : readValue (fuel + 1) room (c :: s) = .ok r := by
  rw [readValue, h]
  · rfl
  · intro rest heq
    exact hc.1 (List.cons.inj heq).1
  · intro rest heq
    exact hc.2.1 (List.cons.inj heq).1
  · intro rest heq
    exact hc.2.2 (List.cons.inj heq).1

/-- The null value is read back. -/
theorem readsBack_null (l : Layout) (room : Nat) : ReadsBack l room .null := by
  intro depth fuel rest hfuel _
  obtain ⟨fuel, rfl⟩ := exists_fuel l (.null : Readable room .null) hfuel
  have hword : readWord? ('n' :: 'u' :: 'l' :: 'l' :: rest) = some (.null, rest) := rfl
  rw [write]
  exact readValue_word (by decide) hword fuel room

/-- The truth values are read back. -/
theorem readsBack_bool (l : Layout) (room : Nat) (b : Bool) : ReadsBack l room (.bool b) := by
  intro depth fuel rest hfuel _
  obtain ⟨fuel, rfl⟩ := exists_fuel l (.bool b : Readable room (.bool b)) hfuel
  cases b with
  | false =>
    have hword : readWord? ('f' :: 'a' :: 'l' :: 's' :: 'e' :: rest) = some (.bool false, rest) := rfl
    rw [write]
    exact readValue_word (by decide) hword fuel room
  | true =>
    have hword : readWord? ('t' :: 'r' :: 'u' :: 'e' :: rest) = some (.bool true, rest) := rfl
    rw [write]
    exact readValue_word (by decide) hword fuel room

/-- Every readable value is read back from its written form. -/
theorem readsBack_of_readable {l : Layout} (hl : l.Plain) {room : Nat} {v : Json} (h : Readable room v) : ReadsBack l room v := by
  induction h with
  | null => exact readsBack_null l _
  | bool b => exact readsBack_bool l _ b
  | int n => exact readsBack_int l _ n
  | str s => exact readsBack_str l _ s
  | arr h ih => exact readsBack_arr hl fun v hv => ⟨h v hv, ih v hv⟩
  | obj hnames h ih => exact readsBack_obj hl hnames fun p hp => ⟨h p hp, ih p hp⟩

section Whole

variable [Room]

/-- A text of a written value, with white space behind it, holds that value, or is no JSON when an integer in it is too long. -/
theorem parse_written {l : Layout} (hl : l.Plain) {v : Json} (h : Readable maxDepth v) {space : List Char}
    (hspace : ∀ c ∈ space, isSpace c = true) : parse (String.ofList (v.write l 0 ++ space)) = outcome v.fits v := by
  have hend : NumberEnd space := by
    have := numberEnd_space hspace numberEnd_nil
    rwa [List.append_nil] at this
  have hread := readsBack_of_readable hl h 0 (2 * (v.write l 0 ++ space).length + 2) space
    (by rw [List.length_append]; omega) hend
  have hblank : skipSpace space = [] := by
    have := skipSpace_append hspace []
    rwa [List.append_nil] at this
  unfold parse
  simp only [String.toList_ofList]
  rw [skipSpace_write l 0 h, hread]
  cases v.fits with
  | false => rfl
  | true =>
    simp only [outcome, if_true, hblank]
    rfl

/-- A value is read back from what is written for it alone. -/
theorem parse_layout {l : Layout} (hl : l.Plain) {v : Json} (h : Readable maxDepth v) :
    parse (String.ofList (v.write l 0)) = outcome v.fits v := by
  have hnil : ∀ c ∈ ([] : List Char), isSpace c = true := fun c hc => by cases hc
  have hparse := parse_written hl h hnil
  rwa [List.append_nil] at hparse

/-- A value that can be read is read back from its compact form. -/
theorem parse_compact {v : Json} (h : Readable maxDepth v) : parse v.compact = outcome v.fits v :=
  parse_layout Layout.plain_compact h

/-- A value that can be read is read back from its form with spaces. -/
theorem parse_spaced {v : Json} (h : Readable maxDepth v) : parse v.spaced = outcome v.fits v :=
  parse_layout Layout.plain_spaced h

/-- A value that can be read is read back from its indented form. -/
theorem parse_indented {v : Json} (h : Readable maxDepth v) : parse v.indented = outcome v.fits v :=
  parse_layout Layout.plain_indented h

end Whole

/-! ## Line ends -/

section LineEnds

variable {l : Layout}

/-- A layout starts a new line without a carriage return. -/
theorem return_not_mem_newline (l : Layout) (depth : Nat) : '\r' ∉ l.newline depth := by
  unfold Layout.newline
  split
  · exact List.not_mem_nil
  · simp

/-- A written integer holds no carriage return. -/
theorem return_not_mem_toString (n : Int) : '\r' ∉ (toString n).toList := by
  have hdigits : '\r' ∉ Nat.toDigits 10 n.natAbs := fun h => absurd (isDigit_of_mem_toDigits h) (by decide)
  rw [toList_toString_int]
  split
  · simpa using hdigits
  · simpa using hdigits

/-- A written string holds no carriage return. -/
theorem return_not_mem_writeString (s : String) : '\r' ∉ writeString s := by
  have hescaped : '\r' ∉ s.toList.flatMap escapeChar := by
    intro h
    obtain ⟨c, -, hc⟩ := List.mem_flatMap.1 h
    exact return_not_mem_escapeChar c hc
  simpa [writeString] using hescaped

/-- Written items hold no carriage return. -/
theorem return_not_mem_writeItems (hcomma : '\r' ∉ l.comma) {depth : Nat} {items : List Json}
    (h : ∀ v ∈ items, '\r' ∉ v.write l depth) : '\r' ∉ writeItems l depth items := by
  induction items with
  | nil => exact List.not_mem_nil
  | cons v items ih =>
    obtain ⟨hv, hitems⟩ := List.forall_mem_cons.1 h
    simp only [writeItems, List.mem_append, not_or]
    exact ⟨⟨⟨hcomma, return_not_mem_newline l depth⟩, hv⟩, ih hitems⟩

/-- Written fields hold no carriage return. -/
theorem return_not_mem_writeFields (hcomma : '\r' ∉ l.comma) (hcolon : '\r' ∉ l.colon) {depth : Nat} {fields : Fields}
    (h : ∀ p ∈ fields, '\r' ∉ p.2.write l depth) : '\r' ∉ writeFields l depth fields := by
  induction fields with
  | nil => exact List.not_mem_nil
  | cons p fields ih =>
    obtain ⟨hp, hfields⟩ := List.forall_mem_cons.1 h
    simp only [writeFields, List.mem_append, not_or]
    exact ⟨⟨⟨⟨⟨hcomma, return_not_mem_newline l depth⟩, return_not_mem_writeString p.1⟩, hcolon⟩, hp⟩, ih hfields⟩

/-- The lines of a written value end with line feeds only. -/
theorem return_not_mem_write (hcomma : '\r' ∉ l.comma) (hcolon : '\r' ∉ l.colon) {room : Nat} {v : Json} (h : Readable room v)
    (depth : Nat) : '\r' ∉ v.write l depth := by
  induction h generalizing depth with
  | null =>
    rw [write]
    decide
  | bool b => cases b <;> rw [write] <;> decide
  | int n => exact return_not_mem_toString n
  | str s => exact return_not_mem_writeString s
  | @arr room items h ih =>
    cases items with
    | nil =>
      rw [write]
      decide
    | cons v items =>
      have hitems := return_not_mem_writeItems hcomma fun w hw => ih w (List.mem_cons_of_mem v hw) (depth + 1)
      simp [write, return_not_mem_newline, ih v List.mem_cons_self, hitems]
  | @obj room fields hnames h ih =>
    cases fields with
    | nil =>
      rw [write]
      decide
    | cons p fields =>
      obtain ⟨k, v⟩ := p
      have hv := ih (k, v) List.mem_cons_self (depth + 1)
      have hfields := return_not_mem_writeFields hcomma hcolon fun q hq => ih q (List.mem_cons_of_mem (k, v) hq) (depth + 1)
      simp [write, return_not_mem_newline, return_not_mem_writeString, hcolon, hv, hfields]

end LineEnds

end ToolpathViewer.Json
