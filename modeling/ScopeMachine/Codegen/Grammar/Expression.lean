import ScopeMachine.Codegen.Grammar.Pattern
import ScopeMachine.Codegen.Grammar.Type

/-!
# Expressions

An expression is a row of operands with operators between them; how these bind does not show in what is
printed. The characters of operators mean different things before an operand and behind one: two
ampersands are two references there and one conjunction here.
-/

namespace ScopeMachine.Codegen.Grammar

variable (nested : Form → Reader Code)

/-! ## Fields and calls behind an operand -/

def seesDot (code : Code) : Bool := sees "." code && !sees ".." code

/-- What may follow an operand: a call, a field, an index or a question mark. -/
def trailer : Reader Code :=
  firstOf [
    (seesOpening .parenthesis, grouped .parenthesis (commaSeparated (nested (.expression true)))),
    (seesOpening .square, grouped .square (nested (.expression true))),
    (sees "?", mark "?"),
    (seesDot, sequence [mark ".", memberPath,
      onlyIf (fun code => sees "::" code) (Prod.fst <$> arguments nested)])]

def trailers : Reader Code :=
  repeatWhile (fun code => seesOpening .parenthesis code || seesOpening .square code || sees "?" code ||
    seesDot code) (trailer nested)

/-! ## Operands -/

def seesExpression (code : Code) : Bool :=
  seesAnyName code && !seesName "as" code || seesLiteral code || seesLifetime code ||
    seesOpening .parenthesis code || seesOpening .square code || seesOpening .brace code ||
    sees "!" code && !sees "!=" code || sees "-" code && !sees "-=" code && !sees "->" code ||
    sees "*" code && !sees "*=" code || sees "|" code && !sees "|=" code ||
    sees "&" code && !sees "&=" code || sees ".." code ||
    sees "<" code && !sees "<=" code && !sees "<<=" code || sees "::" code || sees "#" code

def lacksEnd (braces : Bool) (code : Code) : Bool :=
  seesEnd code || seesDot code || !braces && seesOpening .brace code || seesName "as" code ||
    [",", ";", "?", "=>", "=", "+", "/", "%", "^", ">", "<=", "!=", "-=", "*=", "&=", "|=", "<<="].any
      (sees · code)

def limits : Reader Code := mark "..=" <|> mark ".."

/-- A range without a beginning. -/
def rangeTo (braces : Bool) : Reader Code :=
  sequence [limits, onlyIf (fun code => !lacksEnd braces code) (nested (.expression braces))]

def fieldValue : Reader Code := do
  if sees ".." (← get) then
    sequence [mark "..", onlyIf (fun code => !seesEnd code) (nested (.expression true))]
  else
    sequence [attributes nested, member, onlyIf (sees ":") (sequence [mark ":", nested (.expression true)])]

def pathOperand (braces : Bool) : Reader Code := do
  let path ← qualifiedPath nested false
  let code ← get
  if path.plain && seesBang code then return path.code ++ (← sequence [mark "!", tree])
  else if braces && seesOpening .brace code then
    return path.code ++ (← grouped .brace (commaSeparated (fieldValue nested)))
  else return path.code

/-- The elements of an array, or one of them and how often it is repeated. -/
def arrayElements : Reader Code := do
  if seesEnd (← get) then return []
  let first ← nested (.expression true)
  if sees ";" (← get) then return first ++ (← sequence [mark ";", nested (.expression true)])
  else return first ++ (← onlyIf (sees ",") (sequence [mark ",", commaSeparated (nested (.expression true))]))

def closureParameter : Reader Code :=
  sequence [attributes nested, nested .pattern,
    onlyIf seesColon (sequence [mark ":", nested (.type true)])]

/-- Whether lifetimes of a closure are bound. -/
def seesBinder (code : Code) : Bool :=
  seesName "for" code && sees "<" code.next &&
    (seesLifetime code.next.next || sees ">" code.next.next)

def seesClosure (code : Code) : Bool :=
  sees "|" code || seesName "move" code || seesBinder code ||
    seesName "const" code && !seesOpening .brace code.next || seesName "static" code ||
    seesName "async" code && (sees "|" code.next || seesName "move" code.next)

def closure (braces : Bool) : Reader Code :=
  sequence [onlyIf (seesName "for") (boundLifetimes nested), onlyIf (seesName "const") (keyword "const"),
    onlyIf (seesName "static") (keyword "static"), onlyIf (seesName "async") (keyword "async"),
    onlyIf (seesName "move") (keyword "move"), mark "|",
    separated (closureParameter nested) (mark ",") (sees "|"), mark "|",
    firstOf [
      (sees "->", sequence [mark "->", nested (.type true), block nested]),
      (fun _ => true, nested (.expression braces))]]

/-- A loop, or a block that can be left by name. -/
def loop : Reader Code :=
  firstOf [
    (seesName "while", sequence [keyword "while", nested (.expression false), block nested]),
    (seesName "for", sequence [keyword "for", patterns nested, keyword "in", nested (.expression false),
      block nested]),
    (seesName "loop", sequence [keyword "loop", block nested]),
    (seesOpening .brace, block nested)]

/-- Whether an operand is next that ends with a block and needs no semicolon behind it. -/
def seesBlockLike (code : Code) : Bool :=
  seesOneOf ["if", "while", "loop", "match", "unsafe"] code || seesName "for" code && !seesBinder code ||
    (seesOneOf ["try", "const"] code) && seesOpening .brace code.next || seesOpening .brace code ||
    seesLifetime code

/-- Operators, operands between them, and what else follows the first operand. -/
def operators (braces : Bool) : (limit : Nat) → Reader Code
  | 0 => return []
  | limit + 1 => do
    let code ← get
    let binary := ["+=", "-=", "*=", "/=", "%=", "^=", "&=", "|=", "<<=", ">>=", "&&", "||", "<<", ">>",
      "==", "<=", "!=", ">=", "+", "-", "*", "/", "%", "^", "&", "|", "<", ">"]
    match binary.find? (sees · code) with
    | some operator =>
      let front ← sequence [mark operator, nested (.operand braces)]
      return front ++ (← operators braces limit)
    | none =>
      if sees "=" code && !sees "=>" code then
        let front ← sequence [mark "=", nested (.operand braces)]
        return front ++ (← operators braces limit)
      else if seesName "as" code then
        let front ← sequence [keyword "as", nested (.type false)]
        return front ++ (← operators braces limit)
      else if sees ".." code then
        let dots ← limits
        if lacksEnd braces (← get) then return dots
        let front ← nested (.operand braces)
        return dots ++ front ++ (← operators braces limit)
      else return []

/-- What follows the first operand of an expression. -/
def operatorsBehind (braces : Bool) : Reader Code := do
  operators nested braces (← get).length

def expression (braces : Bool) : Reader Code :=
  sequence [nested (.operand braces), operatorsBehind nested braces]

/-- An expression that stands as a statement or as the body of an arm. One that ends with a block is
over there, unless a field access or a question mark follows. -/
def body : Reader Code := do
  let front ← attributes nested
  if seesBlockLike (← get) then
    let first ← nested .blockLike
    let code ← get
    if seesDot code || sees "?" code then
      return front ++ first ++ (← sequence [trailers nested, operatorsBehind nested true])
    else return front ++ first
  else return front ++ (← nested (.expression true))

def arm : Reader Code :=
  sequence [attributes nested, patterns nested,
    onlyIf (seesName "if") (sequence [keyword "if", nested (.expression true)]), mark "=>", nested .body,
    onlyIf (sees ",") (mark ",")]

def conditional : Reader Code :=
  sequence [keyword "if", nested (.expression false), block nested,
    onlyIf (seesName "else") (sequence [keyword "else", firstOf [
      (seesName "if", nested .blockLike),
      (fun _ => true, block nested)]])]

/-- An operand that ends with a block. -/
def blockLike : Reader Code :=
  firstOf [
    (seesName "if", conditional nested),
    (seesName "match", sequence [keyword "match", nested (.expression false), grouped .brace (sequence
      [innerAttributes nested, repeatWhile (fun code => !seesEnd code) (arm nested)])]),
    (seesLifetime, sequence [lifetime, mark ":", loop nested]),
    (seesOneOf ["while", "for", "loop"], loop nested),
    (seesOneOf ["unsafe", "try", "const"], sequence [anyName, block nested]),
    (seesOpening .brace, block nested)]

/-- A jump with the value that it may carry. -/
def jump (braces : Bool) : Reader Code :=
  sequence [anyName, onlyIf seesLifetime lifetime,
    onlyIf (fun code => seesExpression code && (braces || !seesOpening .brace code))
      (nested (.expression braces))]

/-- An operand without what precedes and follows it. -/
def atom (braces : Bool) : Reader Code :=
  firstOf [
    (seesLiteral, literal),
    (fun code => seesName "async" code && (seesOpening .brace code.next ||
        seesName "move" code.next && seesOpening .brace code.next.next),
      sequence [keyword "async", onlyIf (seesName "move") (keyword "move"), block nested]),
    (seesClosure, closure nested braces),
    (fun code => seesName "builtin" code && sees "#" code.next,
      asWritten (sequence [anyName, mark "#", anyName, tree])),
    (fun code => seesPath code || seesName "try" code && (sees "!" code.next || sees "::" code.next),
      pathOperand nested braces),
    (seesOpening .parenthesis, grouped .parenthesis (commaSeparated (nested (.expression true)))),
    (seesOneOf ["break", "return", "yield"], jump nested braces),
    (seesName "continue", sequence [anyName, onlyIf seesLifetime lifetime]),
    (seesName "become", asWritten (sequence [anyName, nested (.expression true)])),
    (seesOpening .square, grouped .square (arrayElements nested)),
    (seesName "let", sequence [anyName, patterns nested, mark "=", nested (.operand braces)]),
    (seesBlockLike, nested .blockLike),
    (seesName "_", anyName)]

/-- An operand: signs, an atom, and fields and calls behind it. -/
def operand (braces : Bool) : Reader Code := do
  let front ← attributes nested
  let rest ← firstOf [
    (sees "&", sequence [mark "&",
      onlyIf (fun code => seesName "raw" code && seesOneOf ["mut", "const"] code.next)
        (sequence [anyName, anyName]),
      onlyIf (seesName "mut") (keyword "mut"), nested (.operand braces)]),
    (sees "*", sequence [mark "*", nested (.operand braces)]),
    (sees "!", sequence [mark "!", nested (.operand braces)]),
    (sees "-", sequence [mark "-", nested (.operand braces)]),
    (sees "..", rangeTo nested braces),
    (fun _ => true, sequence [atom nested braces, trailers nested])]
  return front ++ rest

end ScopeMachine.Codegen.Grammar
