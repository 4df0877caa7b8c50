import ToolpathViewer.Fault
import ToolpathViewer.Text.Quoted
import ToolpathViewer.Token.Basic

/-!
# Scanning

`scan` cuts a text into tokens, from left to right, and never fails. A `Cursor` does the same one token at a time over a range
of a text, and can be started anywhere. A range is given by two positions; a start below zero counts from the end of the text,
and runs on into its beginning.
-/

namespace ToolpathViewer.Token

/-- The tokens of the characters that stand from position `start` on. -/
def scan (start : Int) : List Char → List Token
  | [] => []
  | c :: rest =>
    let k := Kind.ofFirst c
    let text := c :: (body k rest).1
    ⟨k, start, start + text.length, text⟩ :: scan (start + text.length) (body k rest).2
termination_by s => s.length
decreasing_by
  have := length_body_le (Kind.ofFirst c) rest
  simp only [List.length_cons]
  omega

@[simp] theorem scan_nil (start : Int) : scan start [] = [] := by
  rw [scan]

/-- The tokens of a whole text. -/
def ofText (text : List Char) : List Token :=
  scan 0 text

/-- The position that a number denotes in a text of length `n`: below zero it counts from the end, and it stays inside. -/
def position (n : Nat) (i : Int) : Nat :=
  (if i < 0 then max 0 (n + i) else min i n).toNat

/-- The characters between two positions. -/
def slice (text : List Char) (start stop : Int) : List Char :=
  (text.drop (position text.length start)).take (position text.length stop - position text.length start)

/-- Where a range ends: not behind the text, and not before its start. -/
def rangeEnd (text : List Char) (start : Int) (stop : Option Int) : Int :=
  max start (min (stop.getD text.length) text.length)

/-- The characters of a range in the order in which they are scanned. -/
def window (text : List Char) (start : Int) (stop : Option Int) : Except Fault (List Char) :=
  let stop := rangeEnd text start stop
  if stop ≤ start then .ok []
  else if 0 ≤ start then .ok ((text.drop start.toNat).take (stop - start).toNat)
  else if start < -text.length then .error .outOfRange
  else
    let fromEnd := (text.drop (text.length + start).toNat).take (min stop 0 - start).toNat
    .ok (fromEnd ++ text.take stop.toNat)

/-- A token as its positions show it: its text is what they cut out of the whole text. -/
def located (text : List Char) (t : Token) : Token :=
  if 0 ≤ t.start then t else { t with text := slice text t.start t.stop }

/-- The tokens of a range. -/
def tokenize (text : List Char) (start : Int := 0) (stop : Option Int := none) : Except Fault (List Token) :=
  (window text start stop).map fun s => (scan start s).map (located text)

/-- A scan that can be stopped between two tokens. -/
structure Cursor where
  /-- The whole text. -/
  text : List Char := []
  /-- The characters of the range that are not scanned yet, if the range can be scanned. -/
  ahead : Except Fault (List Char) := .ok []
  /-- The position of the first of them. -/
  offset : Int := 0
  /-- The token scanned last. -/
  current : Option Token := none

namespace Cursor

/-- Scans the next token. At the end of the range there is none. -/
def advance (c : Cursor) : Except Fault (Option Token) × Cursor :=
  match c.ahead with
  | .error e => (.error e, c)
  | .ok [] => (.ok none, { c with current := none })
  | .ok (first :: rest) =>
    let k := Kind.ofFirst first
    let text := first :: (body k rest).1
    let t := located c.text ⟨k, c.offset, c.offset + text.length, text⟩
    (.ok (some t), { c with ahead := .ok (body k rest).2, offset := c.offset + text.length, current := some t })

/-- Starts over on a range of a text and scans its first token. -/
def reset (text : List Char) (start : Int := 0) (stop : Option Int := none) : Except Fault (Option Token) × Cursor :=
  advance { text, ahead := window text start stop, offset := start }

/-- How often the cursor can be advanced at most before no token is current. -/
def remaining (c : Cursor) : Nat :=
  (match c.ahead with | .error _ => 0 | .ok s => s.length) + if c.current.isSome then 1 else 0

/-- Every advance from a current token gets nearer to the end of the range. -/
theorem remaining_advance_lt {c : Cursor} (hcurrent : c.current.isSome = true) {next : Option Token} (h : c.advance.1 = .ok next) :
    c.advance.2.remaining < c.remaining := by
  unfold advance at h ⊢
  cases hahead : c.ahead with
  | error why => simp [hahead] at h
  | ok s =>
    cases s with
    | nil => simp [remaining, hahead, hcurrent]
    | cons first rest =>
      have hle := length_body_le (Kind.ofFirst first) rest
      simp only [remaining, hahead, hcurrent, Option.isSome_some, List.length_cons]
      omega

/-- The tokens from the current one to the end of the range: as long as there is a current one, it is taken and the cursor advanced. -/
def drain (c : Cursor) : List Token × Cursor :=
  match hcurrent : c.current with
  | none => ([], c)
  | some t =>
    match hadvance : c.advance with
    | (.error _, _) => ([t], c)
    | (.ok _, next) =>
      have : next.remaining < c.remaining := by
        have hlt := remaining_advance_lt (c := c) (by rw [hcurrent]; rfl) (by rw [hadvance])
        rwa [hadvance] at hlt
      let rest := next.drain
      (t :: rest.1, rest.2)
termination_by c.remaining

end Cursor

/-- What a range looks like in a trace. -/
def rangeTrace (text : List Char) (start : Int) (stop : Option Int) : String :=
  let stop := stop.getD text.length
  "lexer reset range=[" ++ toString start ++ "," ++ toString stop ++ ") text=" ++
    String.ofList (Text.quoted (slice text start stop))

/-- What a token looks like in a trace. -/
def trace (t : Token) : String :=
  "token type=" ++ t.kind.name ++ " range=[" ++ toString t.start ++ "," ++ toString t.stop ++ ") text=" ++
    String.ofList (Text.quoted t.text)

/-- The short form of a token. -/
def render (t : Token) : String :=
  t.kind.name ++ "[" ++ toString t.start ++ "," ++ toString t.stop ++ ")"

end ToolpathViewer.Token
