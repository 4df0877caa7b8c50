/-!
# UTF-8

Reading bytes as text. Every maximal run of bytes that begins a character and cannot be continued counts as one defect, so
that a reader can put one replacement character in its place, or refuse the whole.
-/

namespace ToolpathViewer.Text.Utf8

/-- A character whose first bytes have been read: how many bytes are missing, the range of the next one, and the bits so far. -/
structure Open where
  missing : Nat
  low : Nat
  high : Nat
  bits : Nat

/-- What a byte means at the start of a character. -/
inductive Lead where
  /-- The byte is a whole character. -/
  | whole (c : Char)
  /-- The byte opens a longer character. -/
  | opens (o : Open)
  /-- No character starts with the byte. -/
  | defect

/-- The meaning of a first byte. The ranges of the second byte leave out overlong forms, surrogates and values above the
last code point. -/
def lead (b : Nat) : Lead :=
  if b < 0x80 then .whole (Char.ofNat b)
  else if b < 0xC2 then .defect
  else if b < 0xE0 then .opens ⟨1, 0x80, 0xBF, b - 0xC0⟩
  else if b < 0xF0 then
    .opens ⟨2, if b == 0xE0 then 0xA0 else 0x80, if b == 0xED then 0x9F else 0xBF, b - 0xE0⟩
  else if b < 0xF5 then
    .opens ⟨3, if b == 0xF0 then 0x90 else 0x80, if b == 0xF4 then 0x8F else 0xBF, b - 0xF0⟩
  else .defect

/-- The characters of a byte sequence; `none` stands for a defect. The first argument is the character that is open. -/
def decodeFrom : Option Open → List UInt8 → List (Option Char)
  | none, [] => []
  | some _, [] => [none]
  | none, b :: rest =>
    match lead b.toNat with
    | .whole c => some c :: decodeFrom none rest
    | .opens o => decodeFrom (some o) rest
    | .defect => none :: decodeFrom none rest
  | some o, b :: rest =>
    if o.low ≤ b.toNat && b.toNat ≤ o.high then
      let bits := o.bits * 64 + (b.toNat - 0x80)
      if o.missing ≤ 1 then some (Char.ofNat bits) :: decodeFrom none rest
      else decodeFrom (some ⟨o.missing - 1, 0x80, 0xBF, bits⟩) rest
    else
      match lead b.toNat with
      | .whole c => none :: some c :: decodeFrom none rest
      | .opens o' => none :: decodeFrom (some o') rest
      | .defect => none :: none :: decodeFrom none rest

/-- The text of a byte sequence, with U+FFFD for every defect. -/
def decodeLossy (bytes : List UInt8) : String :=
  String.ofList ((decodeFrom none bytes).map (·.getD '\uFFFD'))

/-- The text of a byte sequence that has no defect. -/
def decode? (bytes : List UInt8) : Option String :=
  ((decodeFrom none bytes).mapM id).map String.ofList

end ToolpathViewer.Text.Utf8
