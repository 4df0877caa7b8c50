import Mathlib.Tactic
import ToolpathViewer.Json.Parser
import ToolpathViewer.Json.Printer

/-!
# Reading back strings

Every character of a written string is read back, whichever of its forms it was written in: as it is, behind a backslash, or by
one or two UTF-16 units.
-/

namespace ToolpathViewer.Json

open ToolpathViewer.Text

/-- A hexadecimal digit is read back. -/
theorem hexValue?_hexDigit {d : Nat} (h : d < 16) : hexValue? (hexDigit d) = some d := by
  interval_cases d <;> rfl

/-- Four hexadecimal digits, the highest first. -/
theorem hex_four (n : Nat) :
    hex 4 n = [hexDigit (n / 16 / 16 / 16 % 16), hexDigit (n / 16 / 16 % 16), hexDigit (n / 16 % 16), hexDigit (n % 16)] := rfl

/-- A unit is read back from its four digits. -/
theorem readUnit?_hex {n : Nat} (h : n < 0x10000) (rest : List Char) : readUnit? (hex 4 n ++ rest) = some (n, rest) := by
  have hdigit : ∀ m : Nat, hexValue? (hexDigit (m % 16)) = some (m % 16) := fun m => hexValue?_hexDigit (Nat.mod_lt m (by decide))
  rw [hex_four]
  simp only [List.cons_append, List.nil_append, readUnit?, hdigit, Option.bind_eq_bind, Option.bind_some, Option.pure_def,
    Option.some.injEq, Prod.mk.injEq, and_true]
  omega

/-- The code point of a character is no half of a pair. -/
theorem toNat_not_surrogate (c : Char) : c.toNat < 0xD800 ∨ 0xE000 ≤ c.toNat := by
  have h := c.valid
  have hval : c.toNat = c.val.toNat := rfl
  rcases h with h | ⟨h, -⟩ <;> omega

/-- Code points end below the eighteenth plane. -/
theorem toNat_lt (c : Char) : c.toNat < 0x110000 := by
  have h := c.valid
  have hval : c.toNat = c.val.toNat := rfl
  rcases h with h | ⟨-, h⟩ <;> omega

/-- A character that is written as one escaped unit is read back. -/
theorem readChar?_unit {c : Char} (h : c.toNat < 0x10000) (rest : List Char) :
    readChar? (unitEscape c.toNat ++ rest) = some (c, rest) := by
  have hpair := toNat_not_surrogate c
  rw [unitEscape, List.cons_append, List.cons_append, readChar?, readUnit?_hex h]
  simp only [Option.bind_eq_bind, Option.bind_some]
  rw [if_neg (by simp; omega), if_neg (by simp; omega), Char.ofNat_toNat]
  rfl

/-- The second unit of a pair is read back. -/
theorem readLowUnit?_unit {low : Nat} (hlow : 0xDC00 ≤ low) (hlt : low < 0xE000) (rest : List Char) :
    readLowUnit? (unitEscape low ++ rest) = some (low, rest) := by
  rw [unitEscape, List.cons_append, List.cons_append, readLowUnit?, readUnit?_hex (by omega)]
  dsimp only
  rw [if_pos (by simp [hlow, hlt])]

/-- A character that is written as a pair of units is read back. -/
theorem readChar?_units {high low : Nat} (hhigh : 0xD800 ≤ high ∧ high < 0xDC00) (hlow : 0xDC00 ≤ low ∧ low < 0xE000)
    (rest : List Char) :
    readChar? (unitEscape high ++ (unitEscape low ++ rest)) =
      some (Char.ofNat (0x10000 + (high - 0xD800) * 0x400 + (low - 0xDC00)), rest) := by
  have hlowUnit := readLowUnit?_unit hlow.1 hlow.2 rest
  generalize unitEscape low ++ rest = behind at hlowUnit ⊢
  rw [unitEscape, List.cons_append, List.cons_append, readChar?, readUnit?_hex (by omega)]
  simp only [Option.bind_eq_bind, Option.bind_some]
  rw [if_pos (by simp [hhigh]), hlowUnit]
  rfl

/-- A character beyond the first plane is written as a pair. -/
theorem readChar?_pair {c : Char} (h : 0x10000 ≤ c.toNat) (rest : List Char) :
    readChar? (unitEscape (0xD800 + (c.toNat - 0x10000) / 0x400) ++ unitEscape (0xDC00 + (c.toNat - 0x10000) % 0x400) ++ rest) =
      some (c, rest) := by
  have hlt := toNat_lt c
  have hcode : 0x10000 + (0xD800 + (c.toNat - 0x10000) / 0x400 - 0xD800) * 0x400 +
      (0xDC00 + (c.toNat - 0x10000) % 0x400 - 0xDC00) = c.toNat := by omega
  rw [List.append_assoc, readChar?_units (by omega) (by omega), hcode, Char.ofNat_toNat]

/-- A character that stands for itself is read back. -/
theorem readChar?_plain {c : Char} (hslash : c ≠ '\\') (h : 0x20 ≤ c.toNat) (rest : List Char) :
    readChar? (c :: rest) = some (c, rest) := by
  rw [readChar?, if_neg (by omega)]
  all_goals
    intros
    exact hslash ‹_›

/-- A character with an escape of its own is read back. -/
theorem readChar?_short {c d : Char} (h : unescape? d = some c) (hunit : d ≠ 'u') (rest : List Char) :
    readChar? ('\\' :: d :: rest) = some (c, rest) := by
  rw [readChar?, h]
  · rfl
  · exact hunit

/-- The ways in which a character is written. -/
inductive Written (c : Char) : List Char → Prop
  | short {d : Char} (h : unescape? d = some c) (hunit : d ≠ 'u') : Written c ['\\', d]
  | plain (hquote : c ≠ '"') (hslash : c ≠ '\\') (h : 0x20 ≤ c.toNat) : Written c [c]
  | unit (h : c.toNat < 0x10000) : Written c (unitEscape c.toNat)
  | pair (h : 0x10000 ≤ c.toNat) :
    Written c (unitEscape (0xD800 + (c.toNat - 0x10000) / 0x400) ++ unitEscape (0xDC00 + (c.toNat - 0x10000) % 0x400))

/-- Every character is written in one of the ways in which characters can be read. -/
theorem written_escapeChar (c : Char) : Written c (escapeChar c) := by
  by_cases hshort : c = '"' ∨ c = '\\' ∨ c = '\n' ∨ c = '\r' ∨ c = '\t' ∨ c = '\x08' ∨ c = '\x0c'
  · rcases hshort with rfl | rfl | rfl | rfl | rfl | rfl | rfl
    · exact .short (d := '"') rfl (by decide)
    · exact .short (d := '\\') rfl (by decide)
    · exact .short (d := 'n') rfl (by decide)
    · exact .short (d := 'r') rfl (by decide)
    · exact .short (d := 't') rfl (by decide)
    · exact .short (d := 'b') rfl (by decide)
    · exact .short (d := 'f') rfl (by decide)
  · obtain ⟨hquote, hslash, hn, hr, ht, hb, hf⟩ : c ≠ '"' ∧ c ≠ '\\' ∧ c ≠ '\n' ∧ c ≠ '\r' ∧ c ≠ '\t' ∧ c ≠ '\x08' ∧ c ≠ '\x0c' := by
      simpa only [not_or] using hshort
    simp only [escapeChar, beq_iff_eq, hquote, hslash, hn, hr, ht, hb, hf, if_false]
    by_cases hplain : (decide (0x20 ≤ c.toNat) && decide (c.toNat < 0x7F)) = true
    · rw [if_pos hplain]
      exact .plain hquote hslash (of_decide_eq_true (Bool.and_eq_true_iff.1 hplain).1)
    rw [if_neg hplain]
    by_cases hunit : c.toNat < 0x10000
    · rw [if_pos hunit]
      exact .unit hunit
    · rw [if_neg hunit]
      exact .pair (not_lt.1 hunit)

/-- A character is read back from its written form. -/
theorem readChar?_escapeChar (c : Char) (rest : List Char) : readChar? (escapeChar c ++ rest) = some (c, rest) := by
  have hwritten := written_escapeChar c
  generalize escapeChar c = cs at hwritten ⊢
  cases hwritten with
  | short h hunit => exact readChar?_short h hunit rest
  | plain hquote hslash h => exact readChar?_plain hslash h rest
  | unit h => exact readChar?_unit h rest
  | pair h => exact readChar?_pair h rest

/-- No character is written with a quote in front. -/
theorem escapeChar_eq_cons (c : Char) : ∃ d ds, escapeChar c = d :: ds ∧ d ≠ '"' := by
  have hwritten := written_escapeChar c
  generalize escapeChar c = cs at hwritten ⊢
  cases hwritten with
  | short h hunit => exact ⟨_, _, rfl, by decide⟩
  | plain hquote hslash h => exact ⟨_, _, rfl, hquote⟩
  | unit h => exact ⟨_, _, rfl, by decide⟩
  | pair h => exact ⟨_, _, rfl, by decide⟩

/-- No character is written with a carriage return. -/
theorem return_not_mem_escapeChar (c : Char) : '\r' ∉ escapeChar c := by
  have hunit : ∀ n, '\r' ∉ unitEscape n := by
    have hdigit : ∀ m, '\r' ≠ hexDigit (m % 16) := by
      intro m heq
      have hvalue := hexValue?_hexDigit (Nat.mod_lt m (by decide : 16 > 0))
      rw [← heq] at hvalue
      cases hvalue
    intro n
    rw [unitEscape, hex_four]
    simp [hdigit]
  have hwritten := written_escapeChar c
  generalize escapeChar c = cs at hwritten ⊢
  cases hwritten with
  | @short d h hu =>
    have hd : '\r' ≠ d := by
      rintro rfl
      cases h
    simp [hd]
  | plain hquote hslash h =>
    have hc : '\r' ≠ c := by
      rintro rfl
      exact absurd h (by decide)
    simp [hc]
  | unit h => exact hunit _
  | pair h => exact fun hmem => (List.mem_append.1 hmem).elim (hunit _) (hunit _)

/-- Inside a string, a character is read and then the rest. -/
theorem readString?_of_ne_quote {fuel : Nat} {c : Char} (h : c ≠ '"') (s : List Char) :
    readString? (fuel + 1) (c :: s) = do
      let (c, rest) ← readChar? (c :: s)
      let (cs, rest) ← readString? fuel rest
      return (c :: cs, rest) := by
  rw [readString?]
  intro rest heq
  exact h (List.cons.inj heq).1

/-- A string is read back up to its closing quote. -/
theorem readString?_escaped {s : List Char} {fuel : Nat} (hfuel : s.length < fuel) (rest : List Char) :
    readString? fuel (s.flatMap escapeChar ++ '"' :: rest) = some (s, rest) := by
  induction s generalizing fuel with
  | nil =>
    obtain ⟨fuel, rfl⟩ : ∃ k, fuel = k + 1 := ⟨fuel - 1, by simp at hfuel; omega⟩
    rfl
  | cons c s ih =>
    obtain ⟨fuel, rfl⟩ : ∃ k, fuel = k + 1 := ⟨fuel - 1, by simp at hfuel; omega⟩
    obtain ⟨d, ds, hescape, hd⟩ := escapeChar_eq_cons c
    have hchar := readChar?_escapeChar c (s.flatMap escapeChar ++ '"' :: rest)
    rw [List.flatMap_cons, List.append_assoc, hescape, List.cons_append, readString?_of_ne_quote hd, ← List.cons_append, ← hescape,
      hchar]
    simp only [Option.bind_eq_bind, Option.bind_some]
    rw [ih (by simpa using hfuel)]
    rfl

/-- The written form is at least as long as the string. -/
theorem length_le_escaped (s : List Char) : s.length ≤ (s.flatMap escapeChar).length := by
  induction s with
  | nil => exact le_rfl
  | cons c s ih =>
    obtain ⟨d, ds, hescape, -⟩ := escapeChar_eq_cons c
    rw [List.flatMap_cons, List.length_append, hescape, List.length_cons, List.length_cons]
    omega

/-- A string is read back from its written form, with the fuel that the reader takes for it. -/
theorem readString?_writeString (s : String) (rest : List Char) :
    ∃ body, writeString s ++ rest = '"' :: body ∧ readString? (body.length + 1) body = some (s.toList, rest) := by
  refine ⟨s.toList.flatMap escapeChar ++ '"' :: rest, ?_, ?_⟩
  · unfold writeString
    rw [List.cons_append, List.cons_append, List.append_assoc]
    rfl
  · refine readString?_escaped ?_ rest
    have := length_le_escaped s.toList
    rw [List.length_append, List.length_cons]
    omega

/-- A written string tells where it ends. -/
theorem writeString_append_inj {s t : String} {rest rest' : List Char} (h : writeString s ++ rest = writeString t ++ rest') :
    s = t ∧ rest = rest' := by
  obtain ⟨body, hbody, hread⟩ := readString?_writeString s rest
  obtain ⟨body', hbody', hread'⟩ := readString?_writeString t rest'
  have hsame : body = body' := by
    rw [hbody, hbody'] at h
    exact (List.cons.inj h).2
  rw [hsame, hread'] at hread
  obtain ⟨htext, hrest⟩ := Prod.mk.inj (Option.some.inj hread)
  exact ⟨String.toList_injective htext.symm, hrest.symm⟩

end ToolpathViewer.Json
