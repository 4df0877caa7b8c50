import ToolpathViewer.Text.Digit
import ToolpathViewer.Text.Letter
import ToolpathViewer.Text.UpperCase

/-!
# Tokens

The words of a program for a numerically controlled machine. The first character of a token determines its kind, and its
kind determines how far it reaches.
-/

namespace ToolpathViewer

open Text

/-- The kinds of tokens. -/
inductive Token.Kind where
  /-- A remark in parentheses. -/
  | comment
  /-- A letter G, M or T with its number. -/
  | command
  /-- A coordinate letter with its value. -/
  | coordinate
  /-- A number on its own. -/
  | number
  /-- Anything else. -/
  | word
  /-- Spaces, tabs and line ends. -/
  | space
  /-- A character that no rule takes. Every character is taken by some rule, so no token has this kind. -/
  | bad
deriving DecidableEq, Repr

/-- The names of the kinds. -/
def Token.Kind.name : Token.Kind → String
  | .comment => "NC_COMMENT"
  | .command => "NC_COMMAND"
  | .coordinate => "NC_COORDINATE"
  | .number => "NC_NUMBER"
  | .word => "NC_WORD"
  | .space => "WHITE_SPACE"
  | .bad => "NC_BAD_CHARACTER"

/-- The kind with a name. -/
def Token.Kind.ofName? (name : String) : Option Token.Kind :=
  [Kind.comment, .command, .coordinate, .number, .word, .space, .bad].find? (·.name == name)

/-- A token: its kind, the half-open range of positions that it covers, and the characters that the range cuts out of the
text. -/
structure Token where
  kind : Token.Kind
  start : Int
  stop : Int
  text : List Char
deriving DecidableEq, Repr

namespace Token

/-- A character between tokens. -/
def isSpace (c : Char) : Bool :=
  c == ' ' || c == '\t' || c == '\r' || c == '\n'

/-- The letters that open a command. -/
def commandLetters : List Char := ['G', 'M', 'T']

/-- The letters that open a coordinate. -/
def coordinateLetters : List Char :=
  ['X', 'Y', 'Z', 'I', 'J', 'K', 'A', 'B', 'C', 'F', 'S', 'P', 'R', 'E']

/-- The character is one of the letters, in either case. -/
def isOneOf (letters : List Char) (c : Char) : Bool :=
  match upperChar c with
  | [u] => letters.contains u
  | _ => false

/-- The kind of a token by its first character. -/
def Kind.ofFirst (c : Char) : Kind :=
  if c == '(' then .comment
  else if isSpace c then .space
  else if isOneOf commandLetters c then .command
  else if isOneOf coordinateLetters c then .coordinate
  else if isDigit c || c == '-' || c == '+' then .number
  else .word

/-- The characters that continue a token of a kind behind its first one. A comment goes by `commentBody` instead. -/
def Kind.continues : Kind → Char → Bool
  | .comment, _ => false
  | .space, c => isSpace c
  | .command, c => isLetter c || isDigit c
  | .coordinate, c => isDigit c || c == '.' || c == '-' || c == '+'
  | .number, c => isDigit c || c == '.'
  | .word, c => !isSpace c
  | .bad, _ => false

/-- The rest of a comment and what follows it: the comment ends with its first closing parenthesis, or before the end of the
line. -/
def commentBody : List Char → List Char × List Char
  | [] => ([], [])
  | c :: rest =>
    if c == ')' then ([c], rest)
    else if c == '\r' || c == '\n' then ([], c :: rest)
    else (c :: (commentBody rest).1, (commentBody rest).2)

/-- The rest of a token of a kind and what follows it. -/
def body (k : Kind) (s : List Char) : List Char × List Char :=
  match k with
  | .comment => commentBody s
  | k => (s.takeWhile k.continues, s.dropWhile k.continues)

/-- A comment and what follows it make up the text. -/
theorem commentBody_append (s : List Char) : (commentBody s).1 ++ (commentBody s).2 = s := by
  induction s with
  | nil => rfl
  | cons c rest ih =>
    unfold commentBody
    split
    · rfl
    · split
      · rfl
      · simp [ih]

/-- Nothing is lost between a token and what follows it. -/
theorem body_append (k : Kind) (s : List Char) : (body k s).1 ++ (body k s).2 = s := by
  cases k <;> simp [body, commentBody_append]

/-- What follows a token is no longer than the text. -/
theorem length_body_le (k : Kind) (s : List Char) : (body k s).2.length ≤ s.length := by
  have h := congrArg List.length (body_append k s)
  simp only [List.length_append] at h
  omega

end Token

end ToolpathViewer
