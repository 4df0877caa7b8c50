import ToolpathViewer.Bridge.HostName
import ToolpathViewer.Fault

/-!
# Targets of requests

A target is a scheme, an authority, a path and a query, of which each may be missing. The authority is a user, a host and a port.
`Target.split` takes a target apart, and `Authority.written` puts an authority together again in the form in which it is looked up.
-/

namespace ToolpathViewer.Bridge

open Text

/-- Who is asked, and for whom. -/
structure Authority where
  user : List Char := []
  host : List Char
  port : List Char := []

namespace Authority

/-- The user, up to the last at sign, and what follows. -/
def splitUser (s : List Char) : List Char × List Char :=
  match cut '@' s.reverse with
  | (place, some user) => (user.reverse, place.reverse)
  | (_, none) => ([], s)

/-- The parts of an authority. A host in brackets may have colons. -/
def ofText (s : List Char) : Authority :=
  let (user, place) := splitUser s
  match cut '[' place with
  | (_, some rest) =>
    let (host, behind) := cut ']' rest
    { user, host, port := (cut ':' (behind.getD [])).2.getD [] }
  | (_, none) =>
    let (host, port) := cut ':' place
    { user, host, port := port.getD [] }

/-- The brackets of an authority stand around an address, and nothing but a port follows them. -/
def hasSoundBrackets (s : List Char) : Bool :=
  if !s.contains '[' && !s.contains ']' then true
  else if !(s.contains '[' && s.contains ']') then false
  else
    match cut '[' (splitUser s).2 with
    | (front, some rest) =>
      let (host, behind) := cut ']' rest
      front.isEmpty && (behind.all fun b => b.isEmpty || b.head? = some ':') && HostName.isAddress host
    | (place, none) => HostName.isAddress (cut ':' place).1

/-- Characters that stand for more than one, among them a mark that takes a target apart. -/
def compounds : List Char := [
  '\u2047', '\u2048', '\u2049', '\u2100', '\u2101', '\u2105', '\u2106', '\u2A74', '\uFE13', '\uFE16', '\uFE55', '\uFE56',
  '\uFE5F', '\uFE6B', '\uFF03', '\uFF0F', '\uFF1A', '\uFF1F', '\uFF20']

/-- An authority that can be taken apart in one way only. -/
def isSound (s : List Char) : Bool := hasSoundBrackets s && !s.any compounds.contains

/-- The number of the port, if there is one. -/
def portNumber (a : Authority) : Except Fault (Option Nat) :=
  if a.port.isEmpty then .ok none
  else
    let n := Json.natOfDigits a.port
    if a.port.all Char.isDigit && n ≤ 65535 then .ok (some n) else .error .malformedTarget

/-- The name of the host, which the case of letters does not matter for. What follows a percent sign is kept. -/
def hostName (a : Authority) : List Char :=
  (a.host.takeWhile (· != '%')).map Char.toLower ++ a.host.dropWhile (· != '%')

/-- A character that stands for itself in the name of a user. -/
def isUserChar (c : Char) : Bool := c.isAlphanum || "_.-~%!$&'()*+,;=".toList.contains c

/-- The name of a user, with the bytes of any other character by their digits behind a percent sign. -/
def quoted (name : List Char) : List Char :=
  name.flatMap fun c =>
    if isUserChar c then [c]
    else (String.singleton c).toUTF8.toList.flatMap fun b => '%' :: ((Nat.toDigits 16 (256 + b.toNat)).drop 1).map Char.toUpper

/-- The user as it is looked up, with a password if there is one. -/
def userText (a : Authority) : List Char :=
  match cut ':' a.user with
  | ([], _) => []
  | (name, some (c :: cs)) => quoted name ++ ':' :: quoted (c :: cs) ++ ['@']
  | (name, _) => quoted name ++ ['@']

/-- An authority as it is looked up. The port zero is left out. -/
def written (a : Authority) : Except Fault (List Char) := do
  if !HostName.isName a.hostName then throw .malformedHost
  let host := HostName.plain a.hostName
  let place := if host.contains ':' then '[' :: host ++ [']'] else host
  let port ← a.portNumber
  let behind := match port with
    | none | some 0 => []
    | some n => ':' :: (toString n).toList
  return a.userText ++ place ++ behind

end Authority

/-- The parts of a target, as they are written. -/
structure Target where
  scheme : List Char := []
  authority : List Char := []
  path : List Char := []
  query : List Char := []

namespace Target

/-- A letter, a digit or a sign of which the name of a scheme consists. -/
def isSchemeChar (c : Char) : Bool := c.isAlphanum || c == '+' || c == '-' || c == '.'

/-- The scheme in front of a target, and what follows. -/
def splitScheme (s : List Char) : List Char × List Char :=
  match s.span isSchemeChar with
  | (c :: cs, ':' :: rest) => if c.isAlpha then ((c :: cs).map Char.toLower, rest) else ([], s)
  | _ => ([], s)

/-- The authority in front of a target without its scheme, and what follows. -/
def splitAuthority : List Char → List Char × List Char
  | '/' :: '/' :: rest => rest.span fun c => c ≠ '/' && c ≠ '?' && c ≠ '#'
  | s => ([], s)

/-- The parts of a target. Controls and spaces in front of it do not count, nor do tabs and line ends in it, nor what follows a number
sign. -/
def split (text : List Char) : Except Fault Target :=
  let s := (text.dropWhile fun c => c.toNat ≤ 0x20).filter fun c => c ≠ '\t' && c ≠ '\n' && c ≠ '\r'
  let (scheme, s) := splitScheme s
  let (authority, s) := splitAuthority s
  let (path, query) := cut '?' (cut '#' s).1
  if Authority.isSound authority then .ok { scheme, authority, path, query := query.getD [] } else .error .malformedTarget

/-- The path of a target with the query behind it. -/
def behind (t : Target) : List Char := if t.query.isEmpty then t.path else t.path ++ '?' :: t.query

/-- The host that is asked when a target names none. -/
def usualHost : String := "localhost"

/-- The host of a target as it is looked up. -/
def host (t : Target) : Except Fault String :=
  if t.authority.isEmpty then .ok usualHost
  else do return String.ofList (← (Authority.ofText t.authority).written)

/-- A target without its query, as it is looked up. -/
def written (t : Target) : Except Fault (List Char) := do
  let authority ← (Authority.ofText t.authority).written
  return (if t.scheme.isEmpty then [] else t.scheme ++ [':']) ++ (if authority.isEmpty then [] else '/' :: '/' :: authority) ++ t.path

end Target

end ToolpathViewer.Bridge
