import ScopeMachine.Text.Hidden

/-!
# Tokens

Generated code is a sequence of tokens, written with one space between them.
-/

namespace ScopeMachine.Codegen

abbrev Tokens := List String

namespace Tokens

def text (tokens : Tokens) : String := " ".intercalate tokens

def braced (tokens : Tokens) : Tokens := ["\x7b"] ++ tokens ++ ["\x7d"]

def parenthesized (tokens : Tokens) : Tokens := ["("] ++ tokens ++ [")"]

def commaSeparated (parts : List Tokens) : Tokens := [","].intercalate parts

/-- A path from the root of the names, with its parts separated. -/
def absolute (parts : List String) : Tokens := parts.flatMap fun part => ["::", part]

/-- A path from the root of the crate. -/
def cratePath (parts : List String) : Tokens := "crate" :: absolute parts

/-- A variant of the item itself. -/
def ownVariant (name : String) : Tokens := ["Self", "::", name]

/-- A character of a string literal. -/
def escape : Char → List Char
  | '"' => ['\\', '"']
  | '\\' => ['\\', '\\']
  | '\n' => ['\\', 'n']
  | '\t' => ['\\', 't']
  | '\r' => ['\\', 'r']
  | c => [c]

def quoted (text : List Char) : String := String.ofList (['"'] ++ text ++ ['"'])

/-- A string literal of the item, repeated as it stands there. -/
def literal (text : List Char) : String := quoted (text.flatMap escape)

/-- A character of a string literal with hidden characters spelled out, where `rest` follows it. An
octal digit behind a null character would be read as part of a short escape. -/
def spellChar (c : Char) (rest : List Char) : List Char :=
  if c == '\x00' then
    if rest.head?.any fun d => '0' ≤ d && d ≤ '7' then ['\\', 'x', '0', '0'] else ['\\', '0']
  else if escape c == [c] && Text.isHidden c then
    ['\\', 'u', '\x7b'] ++ Nat.toDigits 16 c.toNat ++ ['\x7d']
  else escape c

/-- The characters of a string literal with hidden characters spelled out. -/
def spell : List Char → List Char
  | [] => []
  | c :: rest => spellChar c rest ++ spell rest

def newLiteral (text : List Char) : String := quoted (spell text)

end Tokens

end ScopeMachine.Codegen
