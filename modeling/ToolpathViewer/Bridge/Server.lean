import ToolpathViewer.Bridge.Http
import ToolpathViewer.Text.Blank
import ToolpathViewer.Text.Utf8

/-!
# The usual server

A web server as the program is run with: how it takes targets apart, looks up headers and finds resources by their paths.
-/

namespace ToolpathViewer.Bridge

namespace Request

/-- What tells headers apart: the name in upper case, with hyphens taken for underscores. -/
def headerKey (name : String) : List Char :=
  (Text.upper name.toList).map fun c => if c == '-' then '_' else c

/-- The value of a header. One that is given more than once has all its values, in order. -/
def header? (r : Request) (name : String) : Option String :=
  match r.headers.filter fun h => headerKey h.1 == headerKey name with
  | [] => none
  | found => some (", ".intercalate (found.map (·.2)))

/-- The host that a request is for: its header names it, or else its target. -/
def askedHost (r : Request) : String := (r.header? "Host").getD r.host

/-- The host can be looked up. -/
def hasHost (r : Request) : Bool := HostName.isName ((Text.cut ':' r.askedHost.toList).1.map Char.toLower)

/-- The value of a header in lower case, empty if there is none. -/
def loweredHeader (r : Request) (name : String) : List Char := ((r.header? name).getD "").toList.map Char.toLower

/-- The request asks for a socket, by its scheme or by an upgrade. -/
def asksForSocket (r : Request) : Bool :=
  ["ws", "wss"].contains r.scheme ||
    ((Text.pieces (· == ',') (r.loweredHeader "Connection")).any fun p => Text.strip p == "upgrade".toList) &&
      r.loweredHeader "Upgrade" == "websocket".toList

/-- The body as far as it is read. One whose end its transfer coding tells is not. -/
def readBody (r : Request) : List UInt8 := if ((r.header? "Transfer-Encoding").getD "").isEmpty then r.body else []

/-- The bytes of a percent-encoded text. A plus stands for a space if asked; a percent sign without two digits for itself. -/
def percentDecode (plusIsSpace : Bool) : List Char → List UInt8
  | '%' :: a :: b :: rest =>
    match Json.hexValue? a, Json.hexValue? b with
    | some h, some l => UInt8.ofNat (h * 16 + l) :: percentDecode plusIsSpace rest
    | _, _ => '%'.toUInt8 :: percentDecode plusIsSpace (a :: b :: rest)
  | c :: rest =>
    (if plusIsSpace && c == '+' then " ".toUTF8.toList else (String.singleton c).toUTF8.toList) ++
      percentDecode plusIsSpace rest
  | [] => []

/-- The text of a percent-encoded text. -/
def decoded (plusIsSpace : Bool) (s : List Char) : String :=
  Text.Utf8.decodeLossy (percentDecode plusIsSpace s)

/-- The names and values of a query. -/
def parseQuery (s : List Char) : List (String × String) :=
  ((Text.pieces (· == '&') s).filter (!·.isEmpty)).map fun p =>
    let (name, value) := Text.cut '=' p
    (decoded true name, decoded true (value.getD []))

/-- The path that is served: with one slash in front, however many there were. -/
def servedPath (path : List Char) : String :=
  String.ofList ('/' :: (decoded false path).toList.dropWhile (· == '/'))

/-- The value of a header is one line. -/
def isHeaderValue (s : String) : Bool := !s.toList.any fun c => c == '\r' || c == '\n'

/-- A request for a target, with names and values of a query, which the target then has none of its own of. A path that looks like a
whole target is taken apart once more, and so is the path of that one. -/
def ofTarget (method target : String) (query headers : List (String × String)) (body : List UInt8) : Except Fault Request := do
  let outer ← Target.split target.toList
  if !query.isEmpty && !outer.query.isEmpty then throw .malformedTarget
  let inner ← Target.split outer.behind
  let path ← (← Target.split inner.path).written
  let host ← outer.host
  if !headers.all fun h => isHeaderValue h.2 then throw .malformedHeader
  let scheme := if outer.scheme.isEmpty then "http" else String.ofList outer.scheme
  let r : Request := { method, path := servedPath path, query := parseQuery inner.query ++ query, headers, body, scheme, host }
  let _ ← (Authority.ofText (← Target.split ("http://" ++ r.askedHost).toList).authority).portNumber
  return r

/-- The method by which a resource is looked for. A request for headers alone is like one for the whole. -/
def routedVerb (r : Request) : String := if r.verb == "HEAD" then "GET" else r.verb

end Request

/-- What a path names. -/
inductive Place where
  | resource (what : Resource)
  /-- One of the files that pages could load. There are none. -/
  | file
deriving DecidableEq

namespace Place

/-- The method that a place takes. -/
def method : Place → String
  | .resource what => what.method
  | .file => "GET"

/-- The name of a file: it does not start with a slash, and no line ends behind its first character. -/
def isFileName : List Char → Bool
  | [] => false
  | c :: rest => c != '/' && !rest.contains '\n'

/-- The place that a path names. -/
def ofPath? (path : List Char) : Option Place :=
  if path = "/poll".toList then some (.resource .poll)
  else if path = "/event".toList then some (.resource .event)
  else if path = "/health".toList then some (.resource .health)
  else if "/static/".toList.isPrefixOf path && isFileName (path.drop "/static/".length) then some .file
  else none

/-- A path with one slash for each run of them. -/
def mergeSlashes : List Char → List Char
  | '/' :: '/' :: rest => mergeSlashes ('/' :: rest)
  | c :: rest => c :: mergeSlashes rest
  | [] => []

/-- The place that a path names, if it takes the method. None is a socket. -/
def find (r : Request) (path : List Char) (missing : Except Response Place) : Except Response Place :=
  match ofPath? path with
  | none => missing
  | some place =>
    if r.routedVerb ≠ place.method then .error { status := 405 }
    else if r.asksForSocket then .error { status := 400 }
    else .ok place

end Place

namespace Request

/-- The resource that the path of a request names. A path that does so only with its slashes merged is sent to the merged one. -/
def resource (r : Request) : Except Response Resource :=
  let path := r.path.toList
  let merged := do
    let _ ← Place.find r (Place.mergeSlashes path) (.error { status := 404 })
    .error { status := 308 }
  if !r.hasHost then .error { status := 400 }
  else
    match Place.find r path merged with
    | .ok (.resource what) => .ok what
    | .ok .file => .error { status := 404 }
    | .error response => .error response

namespace IsSigned

variable {r : Request} {token : String}

/-- A client gives its secret. -/
theorem header?_token (h : r.IsSigned token) : r.header? tokenHeader = some token := by
  have hkind : (headerKey "Content-Type" == headerKey tokenHeader) = false := by decide
  unfold header?
  rcases h.headers with hheaders | ⟨kind, hheaders⟩
  · simp [hheaders]
  · simp [hheaders, hkind]

/-- A header that a client does not give is missing. -/
theorem header?_none (h : r.IsSigned token) {name : String} (htoken : headerKey tokenHeader ≠ headerKey name)
    (hkind : headerKey "Content-Type" ≠ headerKey name) : r.header? name = none := by
  unfold header?
  rcases h.headers with hheaders | ⟨kind, hheaders⟩
  · simp [hheaders, htoken]
  · simp [hheaders, htoken, hkind]

/-- A client's request is for a host that can be looked up. -/
theorem hasHost_eq (h : r.IsSigned token) : r.hasHost = true := by
  have hasked : r.askedHost = Target.usualHost := by
    rw [askedHost, h.header?_none (by decide) (by decide), h.host]
    rfl
  rw [hasHost, hasked]
  decide +kernel

/-- A client's request asks for no socket. -/
theorem asksForSocket_eq (h : r.IsSigned token) : r.asksForSocket = false := by
  have hlowered : r.loweredHeader "Connection" = [] := by
    rw [loweredHeader, h.header?_none (by decide) (by decide)]
    rfl
  rw [asksForSocket, hlowered, h.scheme]
  rfl

/-- The body of a client's request is read whole. -/
theorem readBody_eq (h : r.IsSigned token) : r.readBody = r.body := by
  rw [readBody, h.header?_none (by decide) (by decide)]
  rfl

/-- A client's request reaches the resource whose path and method it has. -/
theorem resource_eq (h : r.IsSigned token) {what : Resource} (hmethod : r.method = what.method) (hpath : r.path = what.path) :
    r.resource = .ok what := by
  have hplace : Place.ofPath? r.path.toList = some (.resource what) := by
    rw [hpath]
    cases what <;> decide
  have hverb : r.routedVerb = what.method := by
    rw [routedVerb, verb, hmethod]
    cases what <;> decide
  have hfound (missing : Except Response Place) : Place.find r r.path.toList missing = .ok (.resource what) := by
    rw [Place.find, hplace, h.asksForSocket_eq, hverb]
    simp [Place.method]
  rw [resource, h.hasHost_eq, hfound]
  rfl

end IsSigned

end Request

/-- The server that the program is run with. -/
@[reducible] def Server.usual : Server where
  header? := Request.header?
  body := Request.readBody
  find := Request.resource
  header?_token h := h.header?_token
  header?_otherToken h := h.header?_none (by decide) (by decide)
  body_eq h := h.readBody_eq
  find_eq h := h.resource_eq

end ToolpathViewer.Bridge
