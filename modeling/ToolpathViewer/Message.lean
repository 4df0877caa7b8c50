import ToolpathViewer.Decimal.Binary
import ToolpathViewer.Fault
import ToolpathViewer.Json.Display
import ToolpathViewer.Json.Parser
import ToolpathViewer.Text.Utf8

/-!
# Messages

What the editor's side and the view's side tell each other: objects whose field `type` is a text. `Payload.message` accepts exactly
those, from whatever form they arrive in, and every message that is built here has its type by construction.
-/

namespace ToolpathViewer

/-- An object that says what kind of message it is. -/
structure Message where
  fields : Json.Fields
  kind : String
  kind_eq : Json.field? fields "type" = some (.str kind)

/-- The kinds of messages that are understood. -/
inductive Message.Kind where
  /-- The view shall load a program. -/
  | load
  /-- The program has changed. -/
  | change
  /-- The caret has moved to another line. -/
  | caret
  /-- The view is ready to be told. -/
  | ready
  /-- The editor shall go to a line. -/
  | highlight
  /-- The view reports what it does. -/
  | debug
deriving DecidableEq, Repr

namespace Message

/-- The type of the messages of a kind. -/
def Kind.name : Kind → String
  | .load => "loadGCode"
  | .change => "contentChanged"
  | .caret => "cursorPositionChanged"
  | .ready => "webviewReady"
  | .highlight => "highlightLine"
  | .debug => "bridgeDebug"

/-- All kinds. -/
def Kind.all : List Kind := [.load, .change, .caret, .ready, .highlight, .debug]

/-- The kind with a name. -/
def Kind.ofName? (name : String) : Option Kind := all.find? (·.name == name)

/-- Every kind is found by its name. -/
@[simp] theorem Kind.ofName?_name (k : Kind) : ofName? k.name = some k := by
  cases k <;> decide

/-- The kind of a message, if it is understood. -/
def kind? (m : Message) : Option Kind := Kind.ofName? m.kind

/-- A message of a kind with further fields. -/
def make (k : Kind) (rest : Json.Fields := []) : Message :=
  ⟨("type", .str k.name) :: rest, k.name, by simp [Json.field?]⟩

/-- Asks the view to load a program. -/
def load (text settings : Json) : Message := make .load [("ncText", text), ("settings", settings)]

/-- Tells the view that the program has changed. -/
def change (text settings : Json) : Message := make .change [("ncText", text), ("settings", settings)]

/-- Tells the view the line of the caret. -/
def caret (line : Json) : Message := make .caret [("lineNumber", line)]

/-- Tells the editor that the view is ready. -/
def ready : Message := make .ready

/-- Asks the editor to go to a line. -/
def highlight (line : Json) : Message := make .highlight [("lineNumber", line)]

/-- Reports what the view does. -/
def debug (text : Json) : Message := make .debug [("debugMessage", text)]

/-- The message as a value. -/
def toJson (m : Message) : Json := .obj m.fields

/-- The written form in which a message is published. An integer of more than `Decimal.maxDigits` digits could not be written. The only
integers that are published are lines of a document, of which there are never so many, so this case is left out. -/
def encode (m : Message) : String := m.toJson.compact

/-- The line that a message names: an integer, or a number without a fraction. -/
def lineOf? (fields : Json.Fields) : Option Int :=
  match Json.field? fields "lineNumber" with
  | some (.int n) => some n
  | some (.num x) =>
    match Decimal.parts x with
    | .finite b => if b.isIntegral then some b.truncate else none
    | _ => none
  | _ => none

/-- The line that a message names. -/
def line? (m : Message) : Option Int := lineOf? m.fields

/-- The commands to leave out that a message names. A list without any does not count. -/
def codesOf? (fields : Json.Fields) : Option (List String) :=
  match Json.field? fields "settings" with
  | some (.obj settings) =>
    match Json.field? settings "excludeCodes" with
    | some (.arr (c :: cs)) => some ((c :: cs).map Json.display)
    | _ => none
  | _ => none

/-- The commands to leave out that a message names. -/
def codes? (m : Message) : Option (List String) := codesOf? m.fields

end Message

/-- What arrives over the bridge: a text, bytes, or a value that has been read already. -/
inductive Payload where
  | text (s : String)
  | bytes (b : List UInt8)
  | value (v : Json)

namespace Payload

/-- The form in which a payload is reported. -/
def display : Payload → String
  | .text s => s
  | .bytes b => String.ofList (Text.quotedBytes b)
  | .value v => v.display

/-- The message that the fields of an object make. -/
def ofFields (fields : Json.Fields) : Except PayloadFault Message :=
  match h : Json.field? fields "type" with
  | some (.str kind) => .ok ⟨fields, kind, h⟩
  | _ => .error .noType

/-- The message that a value is. -/
def messageOf : Json → Except PayloadFault Message
  | .obj fields => ofFields fields
  | _ => .error .notObject

/-- The fields of a message make this message. -/
theorem ofFields_fields (m : Message) : ofFields m.fields = .ok m := by
  obtain ⟨fields, kind, h⟩ := m
  unfold ofFields
  split
  · next k hk =>
    have : k = kind := by simpa using hk.symm.trans h
    subst this
    rfl
  · next hne => exact absurd h (hne kind)

/-- A message can be read back from its value. -/
@[simp] theorem messageOf_toJson (m : Message) : messageOf m.toJson = .ok m :=
  ofFields_fields m

variable [Json.Room]

/-- The value that a text holds. -/
def parse (s : String) : Except Fault Json :=
  (Json.parse s).mapError fun why => if why = .malformedJson then .badPayload .notJson else why

/-- The value that a payload holds. Bytes are taken for UTF-8; a value that is a text is read once more. -/
def read : Payload → Except Fault Json
  | .text s => parse s
  | .bytes b => parse (Text.Utf8.decodeLossy b)
  | .value (.str s) => parse s
  | .value v => .ok v

/-- The message that a payload holds. -/
def message (p : Payload) : Except Fault Message := do (messageOf (← p.read)).mapError .badPayload

end Payload

end ToolpathViewer
