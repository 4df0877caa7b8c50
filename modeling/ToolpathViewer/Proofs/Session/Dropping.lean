import ToolpathViewer.Proofs.Json.Nesting
import ToolpathViewer.Proofs.Session.Surface
import ToolpathViewer.Session.Host

/-!
# Payloads that are no messages

A payload is a message if it is, or holds the text of, an object whose type is a text. Whatever else arrives is refused for one of three
reasons, as long as it does not nest too deep, and then both ends of a session go on as before: the host as it was, the surface with the
same scene (`payloads_are_taken_or_dropped`).
-/

namespace ToolpathViewer

namespace Payload

/-- The text that is read to get a value, unless the payload is a value that is no text. -/
def text? : Payload → Option String
  | .text s => some s
  | .bytes b => some (Text.Utf8.decodeLossy b)
  | .value v => v.str?

/-- The text of the payload, if one has to be read, does not nest too deep. -/
def NestsWithin (p : Payload) (depth : Nat) : Prop := ∀ s ∈ p.text?, Json.nesting s ≤ depth

/-- A payload either is a value or has a text. -/
theorem value_or_text (p : Payload) : (∃ v, p = value v ∧ v.str? = none) ∨ ∃ s, p.text? = some s := by
  cases p with
  | text s => exact Or.inr ⟨s, rfl⟩
  | bytes b => exact Or.inr ⟨_, rfl⟩
  | value v =>
    cases hv : v.str? with
    | none => exact Or.inl ⟨v, rfl, hv⟩
    | some s => exact Or.inr ⟨s, hv⟩

/-- An object is a message exactly if its type is a text. -/
theorem ofFields_cases (fields : Json.Fields) :
    (∃ m : Message, ofFields fields = .ok m ∧ m.fields = fields) ∨
      ((∀ kind, Json.field? fields "type" ≠ some (.str kind)) ∧ ofFields fields = .error .noType) := by
  unfold ofFields
  split
  · exact Or.inl ⟨_, rfl, rfl⟩
  · rename_i hnone
    exact Or.inr ⟨hnone, rfl⟩

/-- A value is a message exactly if it is an object whose type is a text. -/
theorem messageOf_cases (v : Json) :
    (∃ m : Message, messageOf v = .ok m ∧ v = m.toJson) ∨
      ((∀ fields kind, v = .obj fields → Json.field? fields "type" ≠ some (.str kind)) ∧ ∃ why, messageOf v = .error why) := by
  cases v with
  | obj fields =>
    rcases ofFields_cases fields with ⟨m, hm, rfl⟩ | ⟨hnone, herror⟩
    · exact Or.inl ⟨m, hm, rfl⟩
    · exact Or.inr ⟨fun fields' kind heq => Json.obj.inj heq ▸ hnone kind, _, herror⟩
  | null | bool | int | num | str | arr => exact Or.inr ⟨nofun, _, rfl⟩

variable [Json.Room]

/-- The payload is a value, or its text holds one. -/
inductive Holds : Payload → Json → Prop
  | value {v : Json} (h : v.str? = none) : Holds (.value v) v
  | text {p : Payload} {s : String} {v : Json} (htext : p.text? = some s) (h : Json.parse s = .ok v) : Holds p v

/-- The payload is an object whose type is a text, or its text holds one. -/
def IsMessage (p : Payload) : Prop :=
  ∃ fields kind, p.Holds (.obj fields) ∧ Json.field? fields "type" = some (.str kind)

variable {p : Payload} {v : Json}

/-- A payload that holds a text is read as this text. -/
theorem read_of_text {s : String} (h : p.text? = some s) : p.read = parse s := by
  cases p with
  | text s' => rw [read, Option.some.inj h]
  | bytes b => rw [read, Option.some.inj h]
  | value v =>
    cases v with
    | str s' => rw [read, Option.some.inj h]
    | null | bool | int | num | arr | obj => cases h

/-- A payload that holds another value is read as this value. -/
theorem read_of_value (h : v.str? = none) : (value v).read = .ok v := by
  cases v with
  | str s => cases h
  | null | bool | int | num | arr | obj => rfl

/-- A payload's text is read just when it is JSON. -/
theorem parse_eq_ok_iff {s : String} : parse s = .ok v ↔ Json.parse s = .ok v := mapError_eq_ok

/-- Reading a payload gives the value that it holds. -/
theorem read_eq_ok_iff : p.read = .ok v ↔ p.Holds v := by
  constructor
  · intro h
    rcases p.value_or_text with ⟨w, rfl, hw⟩ | ⟨s, hs⟩
    · rw [read_of_value hw] at h
      exact Except.ok.inj h ▸ .value hw
    · rw [read_of_text hs] at h
      exact .text hs (parse_eq_ok_iff.1 h)
  · intro h
    cases h with
    | value h => exact read_of_value h
    | text htext h => exact (read_of_text htext).trans (parse_eq_ok_iff.2 h)

/-- A text that cannot be read is no JSON, unless it nests too deep. -/
theorem read_eq_error (hdepth : p.NestsWithin Json.maxDepth) {why : Fault} (h : p.read = .error why) : why = .badPayload .notJson := by
  rcases p.value_or_text with ⟨v, rfl, hv⟩ | ⟨s, hs⟩
  · rw [read_of_value hv] at h
    cases h
  · rw [read_of_text hs, parse] at h
    cases hparse : Json.parse s with
    | ok v =>
      rw [hparse] at h
      cases h
    | error why' =>
      have hwhy := Json.eq_malformedJson_of_nesting_le (hdepth s hs) hparse
      rw [hparse, hwhy] at h
      exact (Except.error.inj h).symm

/-- A payload that does not nest too deep is a message and is taken for that one, or it is none and is refused. -/
theorem message_cases (hdepth : p.NestsWithin Json.maxDepth) :
    (p.IsMessage ∧ ∃ m, p.message = .ok m ∧ p.Holds m.toJson) ∨ (¬p.IsMessage ∧ ∃ why, p.message = .error (.badPayload why)) := by
  unfold message
  cases hread : p.read with
  | error why =>
    obtain rfl := read_eq_error hdepth hread
    refine Or.inr ⟨?_, _, rfl⟩
    rintro ⟨fields, kind, hholds, -⟩
    rw [read_eq_ok_iff.2 hholds] at hread
    cases hread
  | ok v =>
    have hholds := read_eq_ok_iff.1 hread
    rcases messageOf_cases v with ⟨m, hm, rfl⟩ | ⟨hnone, why, hwhy⟩
    · refine Or.inl ⟨⟨m.fields, m.kind, hholds, m.kind_eq⟩, m, ?_, hholds⟩
      rw [ok_bind, hm]
      rfl
    · refine Or.inr ⟨?_, why, ?_⟩
      · rintro ⟨fields, kind, hholds', hkind⟩
        rw [read_eq_ok_iff.2 hholds'] at hread
        exact hnone fields kind (Except.ok.inj hread).symm hkind
      · rw [ok_bind, hwhy]
        rfl

end Payload

section Room

variable [Json.Room] {ι : Type} {p : Payload} {why : PayloadFault}

/-- A host that gets no message reports that and stays as it is. -/
theorem Host.receive_of_refused (h : p.message = .error (.badPayload why)) (host : Host ι) :
    Host.receive p host = ⟨.ok (), host, [.log (dropped p why)]⟩ := by
  rw [receive, h]
  rfl

/-- A surface that gets no message reports that, also to its host if the bridge is up; else the report waits. -/
theorem Surface.receive_of_refused (h : p.message = .error (.badPayload why)) (s : Surface) :
    ∃ entry gate posts, Surface.receive p s = ⟨.ok (), { s with gate }, .log entry :: posts⟩ ∧
      (posts = [] ∨ ∃ text, posts = [.post (.debug (.str text))]) := by
  refine ⟨Log.error .surface "Failed to parse incoming payload: " (some (.badPayload why)), ?_⟩
  by_cases hready : s.gate.ready = true
  · have hdebug := debug_of_ready hready "failed to parse incoming payload"
    refine ⟨s.gate, (debug "failed to parse incoming payload" s).emitted, ?_, Or.inr ⟨_, congrArg Turn.emitted hdebug⟩⟩
    simp only [receive, h, Step.bind_run, Step.emit_run, hdebug, List.singleton_append]
  · have hdebug := debug_run (Bool.not_eq_true _ |>.mp hready) "failed to parse incoming payload"
    refine ⟨(s.waiting "failed to parse incoming payload").gate, [], ?_, Or.inl rfl⟩
    simp only [receive, h, Step.bind_run, Step.emit_run, hdebug, List.append_nil]
    rfl

/-- A payload that does not nest too deep is taken for a message exactly if it is one: an object whose type is a text, or a text or bytes
that hold such an object. Any other payload is refused as one that is no message, and a host or surface that gets it does not fail. The
host stays as it is, with its gate, its text and its channel, and only reports the payload. The surface keeps its scene, announces no
change and posts nothing but its report. -/
theorem payloads_are_taken_or_dropped {ι : Type} (p : Payload) (hdepth : p.NestsWithin Json.maxDepth) :
    (p.IsMessage ∧ ∃ m, p.message = .ok m ∧ p.Holds (.obj m.fields) ∧ Json.field? m.fields "type" = some (.str m.kind)) ∨
      (¬p.IsMessage ∧ ∃ why, p.message = .error (.badPayload why) ∧
        (∀ host : Host ι, ∃ entry, Host.receive p host = ⟨.ok (), host, [.log entry]⟩) ∧
        ∀ s : Surface, ∃ entry gate posts, Surface.receive p s = ⟨.ok (), { s with gate }, .log entry :: posts⟩ ∧
          (posts = [] ∨ ∃ text, posts = [.post (.debug (.str text))])) := by
  rcases Payload.message_cases hdepth with ⟨his, m, hm, hholds⟩ | ⟨hnot, why, hwhy⟩
  · exact Or.inl ⟨his, m, hm, hholds, m.kind_eq⟩
  · exact Or.inr ⟨hnot, why, hwhy, fun host => ⟨_, Host.receive_of_refused hwhy host⟩, Surface.receive_of_refused hwhy⟩

end Room

section Usual

attribute [local instance] Json.Room.usual

/-- Bytes that are no UTF-8, with a mark in front of an object that has a type, are dropped. -/
theorem payloads_are_taken_or_dropped_mangled_bytes :
    Payload.NestsWithin (.bytes [0xEF, 0xBB, 0xBF, 0x7B, 0xFF, 0x7D]) Json.maxDepth ∧
      ¬Payload.IsMessage (.bytes [0xEF, 0xBB, 0xBF, 0x7B, 0xFF, 0x7D]) ∧
      ∀ host : Host Unit, ∃ entry, Host.receive (.bytes [0xEF, 0xBB, 0xBF, 0x7B, 0xFF, 0x7D]) host = ⟨.ok (), host, [.log entry]⟩ := by
  have hdepth : Payload.NestsWithin (.bytes [0xEF, 0xBB, 0xBF, 0x7B, 0xFF, 0x7D]) Json.maxDepth := by
    intro s hs
    obtain rfl := Option.some.inj hs
    decide +kernel
  have hparse : (Json.parse (Text.Utf8.decodeLossy [0xEF, 0xBB, 0xBF, 0x7B, 0xFF, 0x7D])).map (fun _ => ()) =
      .error .malformedJson := by decide +kernel
  have hnot : ¬Payload.IsMessage (.bytes [0xEF, 0xBB, 0xBF, 0x7B, 0xFF, 0x7D]) := by
    rintro ⟨fields, kind, hholds, -⟩
    cases hholds with
    | text htext h =>
      obtain rfl := Option.some.inj htext
      rw [h] at hparse
      cases hparse
  rcases payloads_are_taken_or_dropped (ι := Unit) _ hdepth with ⟨his, -⟩ | ⟨-, why, -, hhost, -⟩
  · exact absurd his hnot
  · exact ⟨hdepth, hnot, hhost⟩

end Usual

end ToolpathViewer
