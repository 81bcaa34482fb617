import ScopeMachine.Codegen.Grammar.Path

/-!
# Types, bounds and parameters

The readers of types and of all that declares them: bounds, generic parameters and where clauses.
-/

namespace ScopeMachine.Codegen.Grammar

variable (nested : Form → Reader Code)

/-! ## A parameter -/

/-- A generic parameter. -/
structure Declared where
  /-- The parameter with its bounds. -/
  code : Code
  /-- Its default, with the equals sign. -/
  fallback : Code
  /-- The name alone. -/
  name : Code
  lifetime : Bool
deriving DecidableEq, Repr

/-- A colon and bounds, or nothing if there are no bounds. -/
def withColon (bounds : Code) : Code := if bounds.isEmpty then [] else Code.operator [':'] ++ bounds

/-- Bounds behind a colon up to an end, with the colon. -/
def optionalBounds (ends : Code → Bool) : Reader Code := do
  if sees ":" (← get) then
    let _ ← mark ":"
    return withColon (← boundsUntil nested fun code => seesEnd code || ends code)
  else return []

/-- Whether the bounds of a parameter end. -/
def endsParameter (code : Code) : Bool := sees "," code || sees ">" code || sees "=" code

def parameter : Reader Declared := do
  let front ← attributes nested
  let code ← get
  if seesLifetime code then
    let name ← lifetime
    return ⟨front ++ name ++ (← optionalBounds nested endsParameter), [], name, true⟩
  else if seesName "const" code then
    let word ← keyword "const"
    let name ← identifier
    let kind ← sequence [mark ":", nested (.type true)]
    let fallback ← onlyIf (sees "=") (sequence [mark "=", constant nested])
    return ⟨front ++ word ++ name ++ kind, fallback, name, false⟩
  else
    let name ← identifier <|> keyword "_"
    let bounds ← optionalBounds nested endsParameter
    let fallback ← onlyIf (sees "=") (sequence [mark "=", nested (.type true)])
    return ⟨front ++ name ++ bounds, fallback, name, false⟩

/-! ## Types -/

def returnType (plus : Bool) : Reader Code := onlyIf (sees "->") (sequence [mark "->", nested (.type plus)])

/-- Whether code is a single type in parentheses, and no tuple. -/
def isParenthesized : Code → Bool
  | .opening .parenthesis :: rest =>
    let (inside, behind) := Code.splitGroup 0 rest
    behind.isEmpty && 1 < inside.length && !hasComma 0 inside
  | _ => false
where
  /-- Whether there is a comma outside further groups, `depth` of which are open. -/
  hasComma : (depth : Nat) → Code → Bool
    | _, [] => false
    | depth, .opening _ :: rest => hasComma (depth + 1) rest
    | depth, .closing _ :: rest => hasComma (depth - 1) rest
    | 0, .mark ',' _ :: _ => true
    | depth, _ :: rest => hasComma depth rest

/-- Whether arguments in parentheses follow, maybe behind a double colon. -/
def seesCall (code : Code) : Bool :=
  seesOpening .parenthesis code || sees "::" code && seesOpening .parenthesis (code.drop 2)

/-- The arguments of a function trait in parentheses and the type that it returns. A double colon before
them is left out. -/
def callArguments : Reader (Code × Code) := do
  let _ ← maybe (mark "::")
  let inputs ← grouped .parenthesis (commaSeparated (nested (.type true)))
  return (inputs, ← returnType nested false)

/-- The rest of a path in a type, where `path` was read: arguments in parentheses, and names behind them,
at most `limit` times. -/
def typePathRest : (limit : Nat) → Path → Reader Path
  | 0, path => return path
  | limit + 1, path => do
    if path.bare && seesCall (← get) then
      let (inputs, output) ← callArguments nested
      let path : Path := ⟨path.stem, inputs ++ output, false, false⟩
      if output.isEmpty || isParenthesized (output.drop 2) then
        let path ← pathRest nested true (← get).length path
        typePathRest limit path
      else return path
    else return path

def typePath : Reader Path := do
  let path ← qualifiedPath nested true
  typePathRest nested (← get).length path

/-- Lifetimes bound by `for`. -/
def boundLifetimes : Reader Code :=
  sequence [keyword "for", mark "<", separated (Declared.code <$> parameter nested) (mark ",") (sees ">"),
    mark ">"]

/-- Whether another bound can begin behind a plus sign. -/
def seesBound (code : Code) : Bool :=
  seesAnyName code || sees "::" code || sees "?" code || sees "~" code || seesLifetime code ||
    seesOpening .parenthesis code || seesOpening .square code

/-- Further bounds behind plus signs. -/
def furtherBounds : Reader Code :=
  repeatWhile (sees "+") (sequence [mark "+", onlyIf seesBound (nested .bound)])

/-- Bounds with plus signs between them. Without `plus` there is only one. -/
def bounds (plus : Bool) : Reader Code := do
  let first ← nested .bound
  if plus then return first ++ (← furtherBounds nested) else return first

def parenthesizedType (plus : Bool) : Reader Code := do
  let code ← get
  let inside := code.tail
  let first ←
    if seesLifetime inside then grouped .parenthesis (bounds nested true)
    else if sees "?" inside then grouped .parenthesis (nested .bound)
    else grouped .parenthesis (commaSeparated (nested (.type true)))
  if plus || sees "?" inside then return first ++ (← furtherBounds nested) else return first

/-- The name of a calling convention. -/
def convention : Reader Code :=
  onlyIf (seesName "extern") (sequence [keyword "extern", maybe (element fun code =>
    match code with
    | [.literal _] => true
    | _ => false)])

def functionTypeParameter : Reader Code := do
  let front ← attributes nested
  let code ← get
  if sees "..." code then return front ++ (← mark "...")
  else if seesName "mut" code && seesName "self" code.next then
    return front ++ (← asWritten (sequence [keyword "mut", keyword "self",
      onlyIf seesColon (sequence [mark ":", nested (.type true)])]))
  else
    let name ← onlyIf (fun code => (seesIdentifier code || seesOneOf ["_", "self"] code) &&
      seesColon code.next) (sequence [anyName, mark ":"])
    let code ← get
    if sees "..." code then return front ++ name ++ (← mark "...")
    else return front ++ name ++ (← nested (.type true))

def functionType : Reader Code :=
  sequence [onlyIf (seesName "unsafe") (keyword "unsafe"), convention, keyword "fn",
    grouped .parenthesis (commaSeparated (functionTypeParameter nested)), returnType nested false]

def pathType (plus : Bool) : Reader Code := do
  let path ← typePath nested
  let code ← get
  if path.plain && seesBang code then return path.code ++ (← sequence [mark "!", tree])
  else if plus then return path.code ++ (← furtherBounds nested)
  else return path.code

def type (plus : Bool) : Reader Code := do
  let lifetimes ← onlyIf (seesName "for") (boundLifetimes nested)
  let rest ← firstOf [
    (seesOpening .parenthesis, parenthesizedType nested plus),
    (seesOneOf ["fn", "unsafe", "extern"], functionType nested),
    (seesPath, pathType nested plus),
    (fun code => seesName "dyn" code && sees "*" code.next,
      asWritten (sequence [keyword "dyn", mark "*", bounds nested plus])),
    (seesName "dyn", sequence [keyword "dyn", bounds nested plus]),
    (seesOpening .square, grouped .square (sequence [nested (.type true),
      onlyIf (sees ";") (sequence [mark ";", nested (.expression true)])])),
    (sees "*", sequence [mark "*", keyword "const" <|> keyword "mut", nested (.type false)]),
    (sees "&", sequence [mark "&", onlyIf seesLifetime lifetime,
      onlyIf (seesName "mut") (keyword "mut"), nested (.type false)]),
    (seesBang, mark "!"),
    (seesName "impl", sequence [keyword "impl", bounds nested plus]),
    (seesName "_", anyName),
    (seesLifetime, bounds nested plus)]
  return lifetimes ++ rest

/-! ## Bounds -/

/-- Whether a bound is restricted to constant implementations. -/
def seesConstantBound (code : Code) : Bool :=
  seesName "const" code || sees "~" code && seesName "const" code.next ||
    seesOpening .square code && seesName "const" code.tail

def traitBound : Reader Code := do
  let lifetimes ← onlyIf (seesName "for") (boundLifetimes nested)
  let modifier ← onlyIf (sees "?") (mark "?")
  let inner ← onlyIf (seesName "for") (boundLifetimes nested)
  let path ← path nested true
  if path.bare && seesCall (← get) then
    let (inputs, output) ← callArguments nested
    return lifetimes ++ modifier ++ inner ++ path.stem ++ inputs ++ output
  else return lifetimes ++ modifier ++ inner ++ path.code

/-- A trait as a bound that is restricted to constant implementations. -/
def constantBound : Reader Code :=
  sequence [onlyIf (seesName "for") (boundLifetimes nested), onlyIf (sees "~") (mark "~"), tree,
    traitBound nested]

/-- The parameters that a type captures, after `use`. -/
def capture : Reader Code := do
  let front ← sequence [keyword "use", mark "<"]
  let parts ← Part.readAll do
    let code ← element fun code => seesLifetime code || seesIdentifier code || seesName "Self" code
    return (code, seesLifetime code)
  return front ++ Part.arrange parts ++ (← mark ">")

/-- The code behind lifetimes that `for` binds. -/
def behindLifetimes (code : Code) : Code :=
  if seesName "for" code then (code.dropWhile fun lexeme => !sees ">" [lexeme]).tail else code

/-- A bound of a type or lifetime. -/
def bound : Reader Code :=
  firstOf [
    (seesLifetime, lifetime),
    (seesName "use", capture),
    (fun code => seesOpening .parenthesis code && seesConstantBound (behindLifetimes code.tail),
      asWritten (grouped .parenthesis (constantBound nested))),
    (seesOpening .parenthesis, grouped .parenthesis (traitBound nested)),
    (fun code => seesConstantBound (behindLifetimes code), asWritten (constantBound nested)),
    (fun _ => true, traitBound nested)]

/-! ## Parameters and where clauses -/

/-- The generic parameters of a declaration. Empty angle brackets are left out. -/
def parameters : Reader Code := do
  if sees "<" (← get) then
    let opening ← mark "<"
    let parts ← Part.readAll do
      let p ← parameter nested
      return (p.code ++ p.fallback, p.lifetime)
    let closing ← mark ">"
    if parts.isEmpty then return [] else return opening ++ Part.arrange parts ++ closing
  else return []

/-- Whether the predicates of a where clause, or the bounds of one, end. -/
def endsPredicates (code : Code) : Bool :=
  seesEnd code || seesOpening .brace code || sees "," code || sees ";" code || seesColon code ||
    sees "=" code

def predicate : Reader Code := do
  let front ← onlyIf (seesName "for") (boundLifetimes nested)
  let code ← get
  let subject ← if seesLifetime code && seesColon code.next then lifetime else nested (.type true)
  return front ++ subject ++ (← mark ":") ++ (← boundsUntil nested endsPredicates)

def predicates : Reader Code :=
  repeatWhile (fun code => !endsPredicates code)
    (sequence [predicate nested, onlyIf (sees ",") (mark ",")])

/-- A where clause. One without predicates is left out. -/
def whereClause : Reader Code := do
  if seesName "where" (← get) then
    let word ← keyword "where"
    let predicates ← predicates nested
    if predicates.isEmpty then return [] else return word ++ predicates
  else return []

end ScopeMachine.Codegen.Grammar
