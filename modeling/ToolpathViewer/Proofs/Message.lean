import ToolpathViewer.Bridge.Client
import ToolpathViewer.Message
import ToolpathViewer.Proofs.Json.RoundTrip

/-!
# What the editor's side says

The three messages of a host about its document. Each can be written, and is read back from its published form, but for a caret line with
more digits than an integer may have (`Message.fits_message_iff`).
-/

namespace ToolpathViewer

open ToolpathViewer.Decimal

namespace Message

/-- The settings that name commands to leave out. -/
def settingsOf (codes : List String) : Json := .obj [("excludeCodes", .arr (codes.map .str))]

/-- What a host has to say. -/
inductive Notice where
  /-- A program, to be loaded or as it has changed. -/
  | program (load : Bool) (text : String)
  | caret (line : Int)

/-- The message in which a host says it. -/
def Notice.message (codes : List String) : Notice → Message
  | .program true text => .load (.str text) (settingsOf codes)
  | .program false text => .change (.str text) (settingsOf codes)
  | .caret line => .caret (.int line)

/-- The message comes from a host that leaves out these commands. -/
def Told (codes : List String) (m : Message) : Prop := ∃ n : Notice, m = n.message codes

/-- The program that a message is about: the text of one that loads or changes a program. -/
def program? (m : Message) : Option String :=
  match m.kind? with
  | some .load | some .change => (Json.field? m.fields "ncText").bind Json.str?
  | _ => none

/-- A message that is made of a kind has this kind. -/
@[simp] theorem kind?_make (k : Kind) (rest : Json.Fields) : (make k rest).kind? = some k := Kind.ofName?_name k

/-- A program comes as a load or as a change. -/
theorem kind?_program (codes : List String) (load : Bool) (text : String) :
    ((Notice.program load text).message codes).kind? = some (if load then .load else .change) := by
  cases load <;> exact kind?_make _ _

/-- The text of a program is in its own field. -/
theorem field?_ncText (codes : List String) (load : Bool) (text : String) :
    Json.field? ((Notice.program load text).message codes).fields "ncText" = some (.str text) := by
  cases load <;> simp [Notice.message, Message.load, change, make, Json.field?, List.lookup_cons]

/-- The settings of a program are in their own field. -/
theorem field?_settings (codes : List String) (load : Bool) (text : String) :
    Json.field? ((Notice.program load text).message codes).fields "settings" = some (settingsOf codes) := by
  cases load <;> simp [Notice.message, Message.load, change, make, Json.field?, List.lookup_cons]

/-- The program of a message with a program is its text. -/
@[simp] theorem program?_program (codes : List String) (load : Bool) (text : String) :
    ((Notice.program load text).message codes).program? = some text := by
  rw [program?, kind?_program, field?_ncText]
  cases load <;> rfl

/-- The line of the caret is no program. -/
@[simp] theorem program?_caret (codes : List String) (line : Int) : ((Notice.caret line).message codes).program? = none := by
  have hkind : ((Notice.caret line).message codes).kind? = some .caret := kind?_make _ _
  rw [program?, hkind]

/-- A message about a program is one of two, by its text. -/
theorem Told.program {codes : List String} {m : Message} (h : Told codes m) {text : String} (htext : m.program? = some text) :
    ∃ load, m = (Notice.program load text).message codes := by
  obtain ⟨n, rfl⟩ := h
  cases n with
  | program load text' =>
    rw [program?_program] at htext
    obtain rfl := Option.some.inj htext
    exact ⟨load, rfl⟩
  | caret line =>
    rw [program?_caret] at htext
    cases htext

/-- The line of the caret can be read from its message. -/
theorem line?_caret (codes : List String) (line : Int) : ((Notice.caret line).message codes).line? = some line := by
  have hfield : Json.field? ((Notice.caret line).message codes).fields "lineNumber" = some (.int line) := by
    simp [Notice.message, caret, make, Json.field?, List.lookup_cons]
  rw [line?, lineOf?, hfield]

/-- The line to go to can be read from its message. -/
theorem line?_highlight (line : Int) : (highlight (.int line)).line? = some line := by
  have hfield : Json.field? (highlight (.int line)).fields "lineNumber" = some (.int line) := by
    simp [highlight, make, Json.field?, List.lookup_cons]
  rw [line?, lineOf?, hfield]

/-- Codes that are texts are shown as they are. -/
theorem display_str (codes : List String) : (codes.map Json.str).map Json.display = codes := by
  rw [List.map_map]
  exact List.map_id codes

/-- The commands to leave out arrive as they were named. -/
theorem codes?_program {codes : List String} (hcodes : codes ≠ []) (load : Bool) (text : String) :
    ((Notice.program load text).message codes).codes? = some codes := by
  have hfield : Json.field? [("excludeCodes", Json.arr (codes.map .str))] "excludeCodes" = some (.arr (codes.map .str)) := by
    simp [Json.field?]
  rw [codes?, codesOf?, field?_settings, settingsOf]
  dsimp only
  rw [hfield]
  cases codes with
  | nil => exact absurd rfl hcodes
  | cons c cs =>
    rw [List.map_cons]
    dsimp only
    rw [← List.map_cons, display_str]

/-! ## The published form -/

/-- The settings of a host can be read. -/
theorem readable_settingsOf (codes : List String) (room : Nat) : Json.Readable (room + 2) (settingsOf codes) := by
  refine .obj (by simp) ?_
  intro p hp
  obtain rfl := List.mem_singleton.1 hp
  refine .arr ?_
  intro v hv
  obtain ⟨code, -, rfl⟩ := List.mem_map.1 hv
  exact .str code

/-- Texts hold no number that is too long. -/
theorem fits_strings (codes : List String) : Json.fitsItems (codes.map .str) = true := by
  induction codes with
  | nil => rfl
  | cons c cs ih => rw [List.map_cons, Json.fitsItems, ih, Json.fits, Bool.and_self]

/-- The value of a message about a program. -/
theorem toJson_program (codes : List String) (load : Bool) (text : String) :
    ∃ kind, ((Notice.program load text).message codes).toJson =
      .obj [("type", .str kind), ("ncText", .str text), ("settings", settingsOf codes)] := by
  cases load <;> exact ⟨_, rfl⟩

/-- Whatever a host says can be written, except for a caret line with too many digits. -/
theorem fits_message_iff (codes : List String) (n : Notice) :
    (n.message codes).toJson.fits = true ↔ ∀ line, n = .caret line → Fits line := by
  cases n with
  | program load text =>
    have hsettings : (settingsOf codes).fits = true := by
      simp [settingsOf, Json.fits, Json.fitsFields, fits_strings]
    obtain ⟨kind, hjson⟩ := toJson_program codes load text
    rw [hjson]
    simp [Json.fits, Json.fitsFields, hsettings]
  | caret line =>
    change Json.fits (.obj [("type", .str _), ("lineNumber", .int line)]) = true ↔ _
    simp [Json.fits, Json.fitsFields]

/-- What a host says about a program can be written. -/
theorem fits_of_program? {codes : List String} {m : Message} (h : Told codes m) {text : String} (htext : m.program? = some text) :
    m.toJson.fits = true := by
  obtain ⟨load, rfl⟩ := h.program htext
  exact (fits_message_iff codes _).2 nofun

variable [Json.Room]

/-- A message with a line can be read. -/
theorem readable_line (kind : String) (line : Int) :
    Json.Readable Json.maxDepth (.obj [("type", .str kind), ("lineNumber", .int line)]) := by
  refine .ample (.obj (by simp) ?_)
  intro p hp
  simp only [List.mem_cons, List.not_mem_nil, or_false] at hp
  rcases hp with rfl | rfl
  · exact .str _
  · exact .int _

/-- What a host tells can be read. -/
theorem readable_of_told {codes : List String} {m : Message} (h : Told codes m) : Json.Readable Json.maxDepth m.toJson := by
  obtain ⟨n, rfl⟩ := h
  cases n with
  | program load text =>
    obtain ⟨kind, hjson⟩ := toJson_program codes load text
    rw [hjson]
    refine .ample (.obj (by simp) ?_)
    intro p hp
    simp only [List.mem_cons, List.not_mem_nil, or_false] at hp
    rcases hp with rfl | rfl | rfl
    · exact .str _
    · exact .str _
    · exact readable_settingsOf codes _
  | caret line => exact readable_line _ line

/-- What a host tells is read back from its written form, unless it holds a number that is too long. -/
theorem parse_encode {codes : List String} {m : Message} (h : Told codes m) :
    Json.parse m.encode = Json.outcome m.toJson.fits m.toJson :=
  Json.parse_compact (readable_of_told h)

/-- The client hands on the message, or the published form when it cannot be read. -/
theorem readMessage_encode {codes : List String} {m : Message} (h : Told codes m) :
    Bridge.Client.readMessage (.str m.encode) = .ok (if m.toJson.fits then m.toJson else .str m.encode) := by
  rw [Bridge.Client.readMessage, parse_encode h]
  cases m.toJson.fits <;> rfl

end Message

variable [Json.Room]

/-- A message is read from its value. -/
theorem Payload.message_toJson (m : Message) : Payload.message (.value m.toJson) = .ok m := by
  change (messageOf m.toJson).mapError Fault.badPayload = _
  rw [messageOf_toJson]
  rfl

/-- What the client hands on is the message again, unless its published form cannot be read. -/
theorem Payload.message_of_readMessage {codes : List String} {m : Message} (h : m.Told codes) :
    Payload.message (.value (if m.toJson.fits then m.toJson else .str m.encode)) =
      if m.toJson.fits then .ok m else .error (.badPayload .notJson) := by
  by_cases hfits : m.toJson.fits = true
  · rw [if_pos hfits, if_pos hfits, message_toJson]
  · rw [if_neg hfits, if_neg hfits]
    have hparse := Message.parse_encode h
    rw [Bool.not_eq_true _ |>.mp hfits] at hparse
    change (Payload.parse m.encode >>= fun v => (messageOf v).mapError Fault.badPayload) = _
    rw [Payload.parse, hparse]
    rfl

/-- A posted message is read back, if no integer in it has too many digits. -/
theorem Payload.message_spaced {m : Message} (h : Json.Readable Json.maxDepth m.toJson) (hfits : m.toJson.fits = true) :
    Payload.message (.text m.toJson.spaced) = .ok m := by
  have hparse := Json.parse_spaced h
  rw [hfits] at hparse
  change (Payload.parse m.toJson.spaced >>= fun v => (messageOf v).mapError Fault.badPayload) = _
  rw [Payload.parse, hparse]
  exact message_toJson m

/-- So is the request for a line. -/
theorem Payload.message_highlight {line : Int} (h : Decimal.Fits line) :
    Payload.message (.text (Bridge.Client.bodyOf (Message.highlight (.int line)).toJson)) = .ok (Message.highlight (.int line)) := by
  refine message_spaced (Message.readable_line _ line) ?_
  change Json.fits (.obj [("type", .str _), ("lineNumber", .int line)]) = true
  simp [Json.fits, Json.fitsFields, h]

end ToolpathViewer
