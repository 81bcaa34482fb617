import ScopeMachine.Codegen.Token

/-!
# Code

Source text as a sequence of lexical elements. Punctuation is kept character by character, and each
character knows whether the next one follows at once: `>>` at the end of a type is two closing brackets,
and in an expression it is one operator.
-/

namespace ScopeMachine.Codegen

inductive Bracket where
  | parenthesis
  | square
  | brace
deriving DecidableEq, Repr

namespace Bracket

def opening : Bracket → String
  | .parenthesis => "("
  | .square => "["
  | .brace => "\x7b"

def closing : Bracket → String
  | .parenthesis => ")"
  | .square => "]"
  | .brace => "\x7d"

end Bracket

/-- An element of source text. -/
inductive Lexeme where
  /-- An identifier or a keyword. -/
  | name (text : String)
  | lifetime (text : String)
  | literal (text : String)
  /-- A punctuation character. It is joined if the next element is written together with it. -/
  | mark (char : Char) (joined : Bool)
  | opening (bracket : Bracket)
  | closing (bracket : Bracket)
deriving DecidableEq, Repr

namespace Lexeme

def text : Lexeme → String
  | .name text | .lifetime text | .literal text => text
  | .mark char _ => String.singleton char
  | .opening bracket => bracket.opening
  | .closing bracket => bracket.closing

def joined : Lexeme → Bool
  | .mark _ joined => joined
  | _ => false

end Lexeme

abbrev Code := List Lexeme

namespace Code

/-- The code as tokens: joined elements make up one token. -/
def tokens : Code → Tokens
  | [] => []
  | lexeme :: rest =>
    match lexeme.joined, tokens rest with
    | true, token :: others => (lexeme.text ++ token) :: others
    | _, others => lexeme.text :: others

/-- An operator of one or more characters. -/
def operator : List Char → Code
  | [] => []
  | [c] => [.mark c false]
  | c :: cs => .mark c true :: operator cs

/-- The code inside a group up to the bracket that closes it, with that bracket, and what follows.
`depth` further groups are open. -/
def splitGroup : (depth : Nat) → Code → Code × Code
  | _, [] => ([], [])
  | 0, .closing bracket :: rest => ([.closing bracket], rest)
  | depth + 1, .closing bracket :: rest =>
    let (inner, behind) := splitGroup depth rest
    (.closing bracket :: inner, behind)
  | depth, .opening bracket :: rest =>
    let (inner, behind) := splitGroup (depth + 1) rest
    (.opening bracket :: inner, behind)
  | depth, lexeme :: rest =>
    let (inner, behind) := splitGroup depth rest
    (lexeme :: inner, behind)

/-- The code behind its first element, or behind the group that it begins with. -/
def next : Code → Code
  | [] => []
  | .opening _ :: rest => (splitGroup 0 rest).2
  | _ :: rest => rest

/-- The part of `start` that comes before `rest`, its end. -/
def before (start rest : Code) : Code := start.take (start.length - rest.length)

end Code

end ScopeMachine.Codegen
