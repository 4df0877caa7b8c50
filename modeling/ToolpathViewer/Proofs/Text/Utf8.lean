import Mathlib.Tactic
import ToolpathViewer.Text.Utf8

/-!
# Written text read back

A text is read back from its bytes, whatever characters are in it: every character is written as one whole character, and no byte of
it is taken for a defect.
-/

namespace ToolpathViewer.Text.Utf8

/-! ## The bytes of a text -/

/-- The loop of core lists the bytes from an index on. -/
theorem loop_toList (bytes : ByteArray) (i : Nat) (seen : List UInt8) :
    ByteArray.toList.loop bytes i seen = seen.reverse ++ bytes.data.toList.drop i := by
  fun_induction ByteArray.toList.loop bytes i seen with
  | case1 i seen h ih =>
    have hi : i < bytes.data.toList.length := by simpa using h
    rw [ih, List.drop_eq_getElem_cons hi]
    simp [ByteArray.get!, h]
  | case2 i seen h =>
    rw [List.drop_eq_nil_of_le (by simpa using Nat.le_of_not_lt h), List.append_nil]

/-- The bytes of a text are those of its characters. -/
theorem toList_toUTF8 (s : String) : s.toUTF8.toList = s.toList.flatMap String.utf8EncodeChar := by
  rw [String.toUTF8_eq_toByteArray, ← String.utf8Encode_toList, ByteArray.toList, loop_toList, List.utf8Encode,
    List.toList_data_toByteArray]
  rfl

/-! ## Reading a character -/

variable {n missing low high bits : Nat} {rest : List UInt8} {o : Open}

/-- A number below 256 is that of its byte. -/
theorem toNat_ofNat (h : n < 256) : (UInt8.ofNat n).toNat = n := by
  rw [UInt8.toNat_ofNat']
  omega

/-- A byte that is a whole character. -/
theorem decodeFrom_whole (h : n < 0x80) : decodeFrom none (UInt8.ofNat n :: rest) = some (Char.ofNat n) :: decodeFrom none rest := by
  rw [decodeFrom, toNat_ofNat (by omega), lead, if_pos h]

/-- A byte that opens a character is followed by the rest of it. -/
theorem decodeFrom_opens (h : lead n = .opens o) (hn : n < 256) :
    decodeFrom none (UInt8.ofNat n :: rest) = decodeFrom (some o) rest := by
  rw [decodeFrom, toNat_ofNat hn, h]

/-- The last byte of a character. -/
theorem decodeFrom_last (hmissing : missing ≤ 1) (hn : n < 0x40) (h : low ≤ n + 0x80 ∧ n + 0x80 ≤ high) :
    decodeFrom (some ⟨missing, low, high, bits⟩) (UInt8.ofNat (n + 0x80) :: rest) =
      some (Char.ofNat (bits * 64 + n)) :: decodeFrom none rest := by
  rw [decodeFrom, toNat_ofNat (by omega), if_pos (by simpa using h), if_pos hmissing, Nat.add_sub_cancel]

/-- A byte in the middle of a character. -/
theorem decodeFrom_next (hmissing : 1 < missing) (hn : n < 0x40) (h : low ≤ n + 0x80 ∧ n + 0x80 ≤ high) :
    decodeFrom (some ⟨missing, low, high, bits⟩) (UInt8.ofNat (n + 0x80) :: rest) =
      decodeFrom (some ⟨missing - 1, 0x80, 0xBF, bits * 64 + n⟩) rest := by
  rw [decodeFrom, toNat_ofNat (by omega), if_pos (by simpa using h), if_neg (by dsimp only; omega), Nat.add_sub_cancel]

/-- The first byte of a character of two bytes. -/
theorem lead_two (h : 2 ≤ n) (h' : n < 0x20) : lead (n + 0xC0) = .opens ⟨1, 0x80, 0xBF, n⟩ := by
  rw [lead, if_neg (by omega), if_neg (by omega), if_pos (by omega), Nat.add_sub_cancel]

/-- The first byte of a character of three bytes. -/
theorem lead_three (h : n < 0x10) :
    lead (n + 0xE0) = .opens ⟨2, if n = 0 then 0xA0 else 0x80, if n = 0xD then 0x9F else 0xBF, n⟩ := by
  rw [lead, if_neg (by omega), if_neg (by omega), if_neg (by omega), if_pos (by omega), Nat.add_sub_cancel]
  simp only [beq_iff_eq, Nat.add_eq_right, show n + 0xE0 = 0xED ↔ n = 0xD by omega]

/-- The first byte of a character of four bytes. -/
theorem lead_four (h : n < 5) :
    lead (n + 0xF0) = .opens ⟨3, if n = 0 then 0x90 else 0x80, if n = 4 then 0x8F else 0xBF, n⟩ := by
  rw [lead, if_neg (by omega), if_neg (by omega), if_neg (by omega), if_neg (by omega), if_pos (by omega), Nat.add_sub_cancel]
  simp only [beq_iff_eq, Nat.add_eq_right, show n + 0xF0 = 0xF4 ↔ n = 4 by omega]

/-- A character is read back from its bytes. -/
theorem decodeFrom_utf8EncodeChar (c : Char) (rest : List UInt8) :
    decodeFrom none (String.utf8EncodeChar c ++ rest) = some c :: decodeFrom none rest := by
  have hc : Char.ofNat c.val.toNat = c := Char.ofNat_toNat c
  have hvalid : c.val.toNat < 0xD800 ∨ 0xDFFF < c.val.toNat ∧ c.val.toNat < 0x110000 := c.valid
  unfold String.utf8EncodeChar
  generalize c.val.toNat = v at hc hvalid
  dsimp only
  split_ifs with h₁ h₂ h₃
  · rw [List.cons_append, List.nil_append, decodeFrom_whole (by omega), hc]
  · have hlead := lead_two (n := v / 64 % 0x20) (by omega) (by omega)
    have hbits : v / 64 % 0x20 * 64 + v % 0x40 = v := by omega
    simp only [List.cons_append, List.nil_append]
    rw [decodeFrom_opens hlead (by omega), decodeFrom_last, hbits, hc]
    all_goals omega
  · have hlead := lead_three (n := v / 4096 % 0x10) (by omega)
    have hbits : (v / 4096 % 0x10 * 64 + v / 64 % 0x40) * 64 + v % 0x40 = v := by omega
    have hrange : (if v / 4096 % 0x10 = 0 then 0xA0 else 0x80) ≤ v / 64 % 0x40 + 0x80 ∧
        v / 64 % 0x40 + 0x80 ≤ if v / 4096 % 0x10 = 0xD then 0x9F else 0xBF := by split_ifs <;> omega
    simp only [List.cons_append, List.nil_append]
    rw [decodeFrom_opens hlead (by omega), decodeFrom_next ?_ ?_ hrange, decodeFrom_last, hbits, hc]
    all_goals omega
  · have hlead := lead_four (n := v / 262144 % 0x08) (by omega)
    have hbits : ((v / 262144 % 0x08 * 64 + v / 4096 % 0x40) * 64 + v / 64 % 0x40) * 64 + v % 0x40 = v := by omega
    have hrange : (if v / 262144 % 0x08 = 0 then 0x90 else 0x80) ≤ v / 4096 % 0x40 + 0x80 ∧
        v / 4096 % 0x40 + 0x80 ≤ if v / 262144 % 0x08 = 4 then 0x8F else 0xBF := by split_ifs <;> omega
    simp only [List.cons_append, List.nil_append]
    rw [decodeFrom_opens hlead (by omega), decodeFrom_next ?_ ?_ hrange, decodeFrom_next, decodeFrom_last, hbits, hc]
    all_goals omega

/-- No byte of a text is a defect. -/
theorem decodeFrom_toUTF8 (s : String) : decodeFrom none s.toUTF8.toList = s.toList.map some := by
  rw [toList_toUTF8]
  induction s.toList with
  | nil => rfl
  | cons c cs ih => rw [List.flatMap_cons, decodeFrom_utf8EncodeChar, ih, List.map_cons]

/-- A text is read back from its bytes. -/
theorem decodeLossy_toUTF8 (s : String) : decodeLossy s.toUTF8.toList = s := by
  rw [decodeLossy, decodeFrom_toUTF8, List.map_map]
  exact (congrArg String.ofList (List.map_id s.toList)).trans String.ofList_toList

/-- So it is where bytes that are no text are refused. -/
theorem decode?_toUTF8 (s : String) : decode? s.toUTF8.toList = some s := by
  have hall : ∀ cs : List Char, (cs.map some).mapM id = some cs := by
    intro cs
    induction cs with
    | nil => rfl
    | cons c cs ih => rw [List.map_cons, List.mapM_cons, ih]; rfl
  rw [decode?, decodeFrom_toUTF8, hall, Option.map_some, String.ofList_toList]

end ToolpathViewer.Text.Utf8
