import ScopeMachine.Codegen.Code

/-!
# Readers of code

A reader takes code off the front of its input and gives it back the way it is printed: operators are
spaced by what they mean where they stand, and what has no effect is left out. `Form` lists the kinds of
code that contain each other; a reader of one form gets the readers of all of them as an argument.
-/

namespace ScopeMachine.Codegen.Grammar

/-- A computation on the code that is left. -/
abbrev Reader := StateT Code Option

/-- The kinds of code that can stand inside each other. -/
inductive Form where
  /-- A type. With `plus`, bounds may be added to it. -/
  | type (plus : Bool)
  /-- A bound of a type or lifetime. -/
  | bound
  /-- An argument in angle brackets. -/
  | argument
  /-- An expression up to the first binary operator. Without `braces`, a brace behind a path is not part
  of it. -/
  | operand (braces : Bool)
  | expression (braces : Bool)
  /-- An operand that ends with a block. -/
  | blockLike
  /-- An expression that stands as a statement or as the body of an arm. -/
  | body
  | pattern
  /-- The statements of a block. -/
  | statements
  /-- The declarations of a module. -/
  | declarations
deriving DecidableEq, Repr

/-! ## What comes next -/

/-- The words that are not identifiers. -/
def reservedWords : List String :=
  ["_", "abstract", "as", "async", "await", "become", "box", "break", "const", "continue", "crate", "do",
    "dyn", "else", "enum", "extern", "false", "final", "fn", "for", "if", "impl", "in", "let", "loop",
    "macro", "match", "mod", "move", "mut", "override", "priv", "pub", "ref", "return", "Self", "self",
    "static", "struct", "super", "trait", "true", "try", "type", "typeof", "unsafe", "unsized", "use",
    "virtual", "where", "while", "yield"]

/-- Whether code begins with punctuation characters that are written together. -/
def seesMarks : List Char → Code → Bool
  | [], _ => true
  | [c], .mark d _ :: _ => c == d
  | c :: cs, .mark d joined :: rest => c == d && joined && seesMarks cs rest
  | _, _ => false

/-- Whether code begins with an operator, or with a longer one that begins so. -/
def sees (operator : String) (code : Code) : Bool := seesMarks operator.toList code

def seesName (text : String) : Code → Bool
  | .name other :: _ => other == text
  | _ => false

def seesAnyName : Code → Bool
  | .name _ :: _ => true
  | _ => false

def seesOneOf (words : List String) : Code → Bool
  | .name other :: _ => words.contains other
  | _ => false

def seesIdentifier : Code → Bool
  | .name text :: _ => !reservedWords.contains text
  | _ => false

def seesLifetime : Code → Bool
  | .lifetime _ :: _ => true
  | _ => false

def seesOpening (bracket : Bracket) : Code → Bool
  | .opening other :: _ => other == bracket
  | _ => false

/-- Whether a group or the whole code is at its end. -/
def seesEnd : Code → Bool
  | [] => true
  | .closing _ :: _ => true
  | _ => false

/-- Whether code begins with a literal, which a number with a minus sign is too. -/
def seesLiteral : Code → Bool
  | .literal _ :: _ => true
  | .name text :: _ => text == "true" || text == "false"
  | .mark '-' _ :: .literal text :: _ => text.toList.head?.any Char.isDigit
  | _ => false

/-- Whether a colon is next that is not the first half of a double one. -/
def seesColon (code : Code) : Bool := sees ":" code && !sees "::" code

/-- Whether code begins with the exclamation mark of a call by name. -/
def seesBang (code : Code) : Bool := sees "!" code && !sees "!=" code

/-! ## Single elements -/

/-- Takes an operator. -/
def mark (operator : String) : Reader Code := do
  let code ← get
  if sees operator code then
    set (code.drop operator.length)
    return Code.operator operator.toList
  else failure

/-- Takes a single element that passes a test. -/
def element (test : Code → Bool) : Reader Code := do
  match ← get with
  | lexeme :: rest =>
    if test [lexeme] then
      set rest
      return [lexeme]
    else failure
  | [] => failure

def keyword (text : String) : Reader Code := element (seesName text)

def identifier : Reader Code := element seesIdentifier

def anyName : Reader Code := element seesAnyName

def lifetime : Reader Code := element seesLifetime

/-- Takes a literal, with the minus sign of a number. -/
def literal : Reader Code := do
  if sees "-" (← get) then
    let sign ← mark "-"
    return sign ++ (← element seesLiteral)
  else element seesLiteral

/-- Takes an element or a whole group as it is written. -/
def tree : Reader Code := do
  let code ← get
  set code.next
  return code.before code.next

/-! ## Combinations -/

/-- Reads one part behind the other. -/
def sequence : List (Reader Code) → Reader Code
  | [] => return []
  | part :: parts => do
    let front ← part
    let back ← sequence parts
    return front ++ back

/-- Reads something that may be missing. -/
def maybe (part : Reader Code) : Reader Code := part <|> pure []

/-- Reads a part if the code that is left passes a test. -/
def onlyIf (test : Code → Bool) (part : Reader Code) : Reader Code := do
  if test (← get) then part else return []

/-- Reads by the first test that the code passes. -/
def firstOf : List ((Code → Bool) × Reader Code) → Reader Code
  | [] => failure
  | (test, part) :: others => do
    if test (← get) then part else firstOf others

/-- Reads parts while the code passes a test, at most `limit` of them. -/
def repeatWithin (test : Code → Bool) (part : Reader Code) : (limit : Nat) → Reader Code
  | 0 => return []
  | limit + 1 => do
    if test (← get) then
      let front ← part
      let back ← repeatWithin test part limit
      return front ++ back
    else return []

/-- Reads parts while the code passes a test. Each takes an element, so the length of the code bounds
their number. -/
def repeatWhile (test : Code → Bool) (part : Reader Code) : Reader Code := do
  repeatWithin test part (← get).length

/-- Reads parts with a separator between them, and maybe behind them, up to an end. -/
def separated (part separator : Reader Code) (ends : Code → Bool) : Reader Code :=
  repeatWhile (fun code => !ends code) (sequence [part, onlyIf (fun code => !ends code) separator])

/-- Reads parts with commas between them up to the end of the group. -/
def commaSeparated (part : Reader Code) : Reader Code := separated part (mark ",") seesEnd

def grouped (bracket : Bracket) (inside : Reader Code) : Reader Code := do
  let opening ← element (seesOpening bracket)
  let code ← inside
  let closing ← element fun code => code == [.closing bracket]
  return opening ++ code ++ closing

/-- Reads a part and gives it as it is written. -/
def asWritten (part : Reader Code) : Reader Code := do
  let start ← get
  let _ ← part
  return start.before (← get)

end ScopeMachine.Codegen.Grammar
