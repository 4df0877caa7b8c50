/-!
# Faults

Why an operation cannot return a result. A fault is named for its cause; its text is `Fault.message`.
-/

namespace ToolpathViewer

/-- Why a payload is no message. -/
inductive PayloadFault where
  | notJson
  | notObject
  | noType
deriving DecidableEq, Repr

/-- The causes of failure. -/
inductive Fault where
  /-- A text is not JSON. -/
  | malformedJson
  /-- The values of a text stand in each other too deeply. -/
  | tooDeep
  /-- A text is not an integer, or has too many digits. -/
  | malformedInteger
  /-- A number that is no number has no integer value. -/
  | notANumber
  /-- A result is beyond the range of its type. -/
  | overflow
  /-- A position lies outside a text. -/
  | outOfRange
  /-- A value has a type that the operation does not take. -/
  | wrongType
  /-- A value that is not an object has no fields. -/
  | noFields
  /-- No such color theme. -/
  | unknownTheme (name : String)
  /-- A buffer holds at least one message. -/
  | capacityTooSmall
  /-- A payload is no message. -/
  | badPayload (why : PayloadFault)
  /-- The channel's secret is missing or wrong. -/
  | unauthorized
  /-- The channel has been stopped. -/
  | stopped
  /-- A poll was answered with a status that carries no message. -/
  | pollStatus (status : Int)
  /-- The target of a request cannot be taken apart, or asks in two ways at once. -/
  | malformedTarget
  /-- The name of a host has a part that no name has. -/
  | malformedHost
  /-- The value of a header is more than one line. -/
  | malformedHeader
  /-- The other side cannot be reached. -/
  | unreachable
  /-- A dispatch function or a listener failed for a reason of its own. -/
  | dispatchFailed
  /-- The file does not exist. -/
  | fileMissing
  /-- The path names a directory. -/
  | isDirectory
  /-- A path goes through something that is no directory. -/
  | notDirectory
  /-- A path, or a name in it, is too long. -/
  | nameTooLong
  /-- A path has a character that no path has. -/
  | malformedPath
  /-- The bytes are not UTF-8. -/
  | notUtf8
deriving DecidableEq, Repr

/-- The wording of a payload fault. -/
def PayloadFault.message : PayloadFault → String
  | .notJson => "payload is not JSON"
  | .notObject => "payload is not a JSON object"
  | .noType => "payload has no type"

/-- The text of a fault. -/
def Fault.message : Fault → String
  | .malformedJson => "malformed JSON"
  | .tooDeep => "values nest too deeply"
  | .malformedInteger => "malformed integer"
  | .notANumber => "not a number"
  | .overflow => "number out of range"
  | .outOfRange => "position out of range"
  | .wrongType => "value of a wrong type"
  | .noFields => "value has no fields"
  | .unknownTheme name => "Unknown theme: " ++ name
  | .capacityTooSmall => "capacity must be at least 1"
  | .badPayload why => why.message
  | .unauthorized => "unauthorized"
  | .stopped => "bridge channel is stopped"
  | .pollStatus status => "poll failed with status " ++ toString status
  | .malformedTarget => "malformed target"
  | .malformedHost => "malformed host"
  | .malformedHeader => "malformed header"
  | .unreachable => "down"
  | .dispatchFailed => "dispatch failed"
  | .fileMissing => "no such file"
  | .isDirectory => "is a directory"
  | .notDirectory => "not a directory"
  | .nameTooLong => "name too long"
  | .malformedPath => "malformed path"
  | .notUtf8 => "not UTF-8"

end ToolpathViewer
