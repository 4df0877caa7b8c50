import ToolpathViewer.Bridge.Target
import ToolpathViewer.Text.UpperCase

/-!
# Requests and responses

The part of the protocol that the bridge uses: methods, paths with queries, headers, and the responses with their fixed
cross-origin headers. What a web server makes of a request by itself, beside the channel, is a parameter of all that follows
(`Server`).
-/

namespace ToolpathViewer.Bridge

/-- A request to the bridge. -/
structure Request where
  method : String := "GET"
  path : String
  query : List (String × String) := []
  headers : List (String × String) := []
  body : List UInt8 := []
  /-- The scheme of the target. -/
  scheme : String := "http"
  /-- The host that the target names. -/
  host : String := Target.usualHost

/-- The answer of the bridge. -/
structure Response where
  status : Nat
  body : String := ""
  contentType : String := "text/html; charset=utf-8"
  /-- How long the other side may remember the answer to a question for permissions. -/
  maxAge : Option String := none
deriving DecidableEq, Repr

/-- The header with the channel's secret. -/
def tokenHeader : String := "X-Ncviewer-Token"

/-- The header that is looked at when the first is missing or empty. -/
def otherTokenHeader : String := "Token"

/-- The headers that let pages of any origin use the bridge. -/
def crossOriginHeaders : List (String × String) := [
  ("Access-Control-Allow-Origin", "*"),
  ("Access-Control-Allow-Headers", tokenHeader ++ ", " ++ otherTokenHeader ++ ", Content-Type"),
  ("Access-Control-Allow-Methods", "GET, POST, OPTIONS")]

/-- What the bridge offers to requests. -/
inductive Resource where
  | poll
  | event
  | health
deriving DecidableEq, Repr

namespace Resource

/-- The path of a resource. -/
def path : Resource → String
  | .poll => "/poll"
  | .event => "/event"
  | .health => "/health"

/-- The method that a resource takes. -/
def method : Resource → String
  | .event => "POST"
  | .poll | .health => "GET"

end Resource

namespace Request

/-- The method by which a request is served, whatever the case it is given in. -/
def verb (r : Request) : String := String.ofList (Text.upper r.method.toList)

/-- A request as a client makes it: meant for the bridge itself, with the secret in its header and beside it at most the kind of the
body. -/
structure IsSigned (r : Request) (token : String) : Prop where
  headers : r.headers = [(tokenHeader, token)] ∨ ∃ kind, r.headers = [(tokenHeader, token), ("Content-Type", kind)]
  scheme : r.scheme = "http"
  host : r.host = Target.usualHost

end Request

/-- What the web server does with a request by itself: it looks up headers, reads the body, and finds the resource that the request is
for. The channel counts on what it does with the requests of a client, and on nothing else. -/
class Server where
  /-- The value of a header. -/
  header? : Request → String → Option String
  /-- The body, as far as it is read. -/
  body : Request → List UInt8
  /-- The resource that a request is for, or the answer to one that is for none. -/
  find : Request → Except Response Resource
  header?_token {r : Request} {token : String} (h : r.IsSigned token) : header? r tokenHeader = some token
  header?_otherToken {r : Request} {token : String} (h : r.IsSigned token) : header? r otherTokenHeader = none
  body_eq {r : Request} {token : String} (h : r.IsSigned token) : body r = r.body
  find_eq {r : Request} {token : String} (h : r.IsSigned token) {what : Resource} (hmethod : r.method = what.method)
    (hpath : r.path = what.path) : find r = .ok what

/-- The secret that a request carries. -/
def Request.token? [Server] (r : Request) : Option String :=
  match Server.header? r tokenHeader with
  | some "" | none => Server.header? r otherTokenHeader
  | some token => some token

end ToolpathViewer.Bridge
