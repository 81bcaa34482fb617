import ScopeMachine.Codegen.Grammar.Path
import ScopeMachine.Codegen.Source

/-!
# Members and patterns

The fields of a value, by name or by position, and the patterns that values are taken apart with.
Positions are printed as plain decimal numbers, also where several of them run together into what looks
like a decimal fraction.
-/

namespace ScopeMachine.Codegen.Grammar

/-! ## Members -/

/-- A position as it is printed. -/
def position (digits : List Char) : Option Lexeme :=
  (Source.Integer.value? digits).map fun n => .literal (toString n)

/-- A field, by name or by position. -/
def member : Reader Code := do
  match ← get with
  | .literal text :: rest =>
    match position text.toList with
    | some lexeme =>
      set rest
      return [lexeme]
    | none => failure
  | _ => identifier

/-- The parts of a text between dots. -/
def splitDots (text : List Char) : List (List Char) :=
  text.foldr (fun c parts =>
    match c, parts with
    | '.', parts => [] :: parts
    | c, part :: parts => (c :: part) :: parts
    | c, [] => [[c]]) [[]]

/-- Positions with dots between them. -/
def positions : List (List Char) → Option Code
  | [] => some []
  | [digits] => (position digits).map ([·])
  | digits :: others => do
    let first ← position digits
    let rest ← positions others
    return first :: Code.operator ['.'] ++ rest

/-- What follows the dot of a field access. A number with a dot in it is two positions, and one with a
dot behind it is a position with another field access. -/
def memberPath : Reader Code := do
  match ← get with
  | .literal text :: rest =>
    match splitDots text.toList with
    | [_] => member
    | parts =>
      set rest
      if parts.getLast? == some [] then
        match positions parts.dropLast with
        | some code => return code ++ Code.operator ['.'] ++ (← member <|> keyword "await")
        | none => failure
      else
        match positions parts with
        | some code => return code
        | none => failure
  | _ => member <|> keyword "await"

/-! ## Patterns -/

variable (nested : Form → Reader Code)

/-- Whether a bar between two patterns is next. -/
def seesBar (code : Code) : Bool := sees "|" code && !sees "||" code && !sees "|=" code

/-- Patterns with bars between them, and maybe before them. -/
def patterns : Reader Code :=
  sequence [maybe (mark "|"), nested .pattern,
    repeatWhile seesBar (sequence [mark "|", nested .pattern])]

/-- The dots of a range in a pattern. Three of them mean that the end is included. -/
def patternLimits : Reader Code := do
  let code ← get
  if sees "..=" code then mark "..="
  else if sees "..." code then
    let _ ← mark "..."
    return Code.operator ['.', '.', '=']
  else mark ".."

def lacksBound (code : Code) : Bool :=
  seesEnd code || sees "|" code || sees "=" code || seesColon code || sees "," code || sees ";" code ||
    seesOneOf ["if", "in"] code

def patternBound : Reader Code :=
  firstOf [
    (seesLiteral, literal),
    (seesName "const", sequence [keyword "const", block nested]),
    (seesPath, Path.code <$> qualifiedPath nested false)]

def patternRange : Reader Code :=
  sequence [patternLimits, onlyIf (fun code => !lacksBound code) (patternBound nested)]

def fieldPattern : Reader Code := do
  let front ← attributes nested
  if sees ".." (← get) then return front ++ (← mark "..")
  let mode ← sequence [onlyIf (seesName "box") (keyword "box"), onlyIf (seesName "ref") (keyword "ref"),
    onlyIf (seesName "mut") (keyword "mut")]
  let name ← member
  return front ++ mode ++ name ++ (← onlyIf (sees ":") (sequence [mark ":", patterns nested]))

def pathPattern : Reader Code := do
  let path ← qualifiedPath nested false
  let rest ← firstOf [
    (fun code => path.plain && seesBang code, sequence [mark "!", tree]),
    (seesOpening .brace, grouped .brace (commaSeparated (fieldPattern nested))),
    (seesOpening .parenthesis, grouped .parenthesis (commaSeparated (patterns nested))),
    (sees "..", patternRange nested),
    (fun _ => true, return [])]
  return path.code ++ rest

/-- Whether a name begins a pattern of more than that name. -/
def seesLongPattern (code : Code) : Bool :=
  seesIdentifier code && (sees "::" code.next || sees "!" code.next || sees ".." code.next ||
      seesOpening .brace code.next || seesOpening .parenthesis code.next) ||
    seesName "self" code && sees "::" code.next || sees "::" code || sees "<" code ||
    seesOneOf ["Self", "super", "crate"] code

def namePattern : Reader Code :=
  sequence [onlyIf (seesName "ref") (keyword "ref"), onlyIf (seesName "mut") (keyword "mut"),
    identifier <|> keyword "self", onlyIf (sees "@") (sequence [mark "@", nested .pattern])]

/-- A pattern without bars outside brackets. -/
def pattern : Reader Code :=
  firstOf [
    (seesLongPattern, pathPattern nested),
    (seesName "_", anyName),
    (seesName "box", asWritten (sequence [keyword "box", nested .pattern])),
    (fun code => seesLiteral code || seesName "const" code,
      sequence [patternBound nested, onlyIf (sees "..") (patternRange nested)]),
    (fun code => seesIdentifier code || seesOneOf ["ref", "mut", "self"] code, namePattern nested),
    (sees "&", sequence [mark "&", onlyIf (seesName "mut") (keyword "mut"), nested .pattern]),
    (seesOpening .parenthesis, grouped .parenthesis (commaSeparated (patterns nested))),
    (seesOpening .square, grouped .square (commaSeparated (patterns nested))),
    (sees "..", patternRange nested)]

end ScopeMachine.Codegen.Grammar
