import ScopeMachine.Codegen.Grammar.Declaration
import ScopeMachine.Codegen.Grammar.Expression

/-!
# The grammar of source code

The readers of all forms, tied together. Every form that begins inside another one at the same place is
a smaller one, so a fixed number of forms for each element of the code bounds how deep they can nest.
-/

namespace ScopeMachine.Codegen.Grammar

/-! ## Statements -/

section

variable (nested : Form → Reader Code)

/-- The code behind a path without arguments, if there is one. -/
def behindPath (code : Code) : Option Code := (plainPath code).map Prod.snd

/-- Whether a name is called that declares another one. -/
def seesNameDeclaration (code : Code) : Bool :=
  match behindPath code with
  | some rest => sees "!" rest && (seesIdentifier rest.next || seesName "try" rest.next)
  | none => false

/-- Whether a name is called on a block, which ends the statement. -/
def seesBlockCall (code : Code) : Bool :=
  match behindPath code with
  | some rest =>
    let last := rest.next.next
    sees "!" rest && seesOpening .brace rest.next && !seesDot last && !sees "?" last
  | none => false

def seesDeclaration (code : Code) : Bool :=
  let second := code.next
  let third := second.next
  seesOneOf ["pub", "extern", "use", "fn", "mod", "type", "struct", "enum", "trait", "impl", "macro"] code ||
    seesName "static" code && (seesName "mut" second || seesIdentifier second) ||
    seesName "const" code && !(seesOpening .brace second || seesName "static" second ||
      seesName "move" second || sees "|" second ||
      seesName "async" second && !seesOneOf ["unsafe", "extern", "fn"] third) ||
    seesName "unsafe" code && !seesOpening .brace second ||
    seesName "async" code && seesOneOf ["unsafe", "extern", "fn"] second ||
    seesName "union" code && seesIdentifier second ||
    seesName "auto" code && seesName "trait" second ||
    seesName "default" code && seesOneOf ["unsafe", "impl"] second ||
    seesNameDeclaration code

def localVariable : Reader Code :=
  sequence [keyword "let", nested .pattern, onlyIf seesColon (sequence [mark ":", nested (.type true)]),
    onlyIf (sees "=") (sequence [mark "=", nested (.expression true),
      onlyIf (seesName "else") (sequence [keyword "else", block nested])]),
    mark ";"]

def statement : Reader Code := do
  if sees ";" (← get) then mark ";"
  else
    let start ← get
    let front ← attributes nested
    let code ← get
    if seesBlockCall code then
      return front ++ (← sequence [plainPath, mark "!", tree, onlyIf (sees ";") (mark ";")])
    else if seesName "let" code then return front ++ (← localVariable nested)
    else if seesDeclaration code then declaration nested start front
    else return front ++ (← sequence [nested .body, onlyIf (sees ";") (mark ";")])

def statements : Reader Code := repeatWhile (fun code => !seesEnd code) (statement nested)

end

/-! ## All forms -/

namespace Form

/-- The reader of a form, given the readers of the forms inside. -/
def reader (nested : Form → Reader Code) : Form → Reader Code
  | .type plus => Grammar.type nested plus
  | .bound => Grammar.bound nested
  | .argument => Grammar.argument nested
  | .operand braces => Grammar.operand nested braces
  | .expression braces => Grammar.expression nested braces
  | .blockLike => Grammar.blockLike nested
  | .body => Grammar.body nested
  | .pattern => Grammar.pattern nested
  | .statements => Grammar.statements nested
  | .declarations => Grammar.declarations nested

/-- The reader of a form in which at most `depth` forms are nested. -/
def readWithin : (depth : Nat) → Form → Reader Code
  | 0, _ => failure
  | depth + 1, form => form.reader (readWithin depth)

end Form

/-- The most forms that begin at one place. -/
def formsAtOnce : Nat := 8

/-- The result of reading a whole text with a reader that gets the readers of all forms. -/
def parse {α : Type} (code : Code) (reader : (Form → Reader Code) → Reader α) : Option α :=
  match reader (Form.readWithin (formsAtOnce * (code.length + 1))) code with
  | some (result, []) => some result
  | _ => none

/-- The predicates of a where clause as they are printed. Code that is none is repeated. -/
def printedPredicates (code : Code) : Code := (parse code predicates).getD code

/-- A generic parameter. Code that is none is repeated, with its name before the colon. -/
def declaredParameter (code : Code) : Declared :=
  let name := code.takeWhile fun lexeme => !sees ":" [lexeme]
  let name := if seesName "const" name then name.tail else name
  (parse code parameter).getD ⟨code, [], name, seesLifetime name⟩

/-- The code behind the attributes before an expression. -/
def withoutAttributes (code : Code) : Code :=
  ((attributes (Form.readWithin (formsAtOnce * (code.length + 1))) code).map Prod.snd).getD code

end ScopeMachine.Codegen.Grammar
