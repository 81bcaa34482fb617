import ScopeMachine.Codegen.Grammar.Type

/-!
# Declarations

Functions, types, traits and modules, as they stand in a block or in another declaration.
-/

namespace ScopeMachine.Codegen.Grammar

variable (nested : Form → Reader Code)

/-! ## Visibility and functions -/

/-- Whether the parentheses behind `pub` restrict it. -/
def seesRestriction : Code → Bool
  | .opening .parenthesis :: rest =>
    seesName "in" rest || seesOneOf ["crate", "self", "super"] rest && seesEnd (Code.next rest)
  | _ => false

/-- Who can use a declaration. -/
def visibility : Reader Code :=
  onlyIf (seesName "pub") (sequence [keyword "pub", onlyIf seesRestriction tree])

/-- The code behind a word, if it is there. -/
def behind (word : String) (code : Code) : Code := if seesName word code then code.next else code

def seesFunction (code : Code) : Bool :=
  let code := behind "unsafe" (behind "safe" (behind "async" (behind "const" code)))
  let code :=
    if seesName "extern" code then
      match code.next with
      | .literal _ :: rest => rest
      | rest => rest
    else code
  seesName "fn" code

def receiver : Reader Code := do
  let reference ← onlyIf (sees "&") (sequence [mark "&", onlyIf seesLifetime lifetime])
  let self ← sequence [onlyIf (seesName "mut") (keyword "mut"), keyword "self"]
  if reference.isEmpty then
    return self ++ (← onlyIf seesColon (sequence [mark ":", nested (.type true)]))
  else return reference ++ self

/-- A parameter of a function. A type alone is that of a parameter without a name. -/
def functionParameter : Reader Code := do
  let front ← attributes nested
  let code ← get
  if sees "..." code then return front ++ (← mark "...")
  let rest ← receiver nested <|>
    if seesIdentifier code && sees "<" code.next then do
      return [.name "_"] ++ Code.operator [':'] ++ (← nested (.type true))
    else
      sequence [nested .pattern, mark ":", mark "..." <|> nested (.type true)]
  return front ++ rest

def signature : Reader Code :=
  sequence [onlyIf (seesName "const") (keyword "const"), onlyIf (seesName "async") (keyword "async"),
    onlyIf (seesOneOf ["unsafe", "safe"]) anyName, convention, keyword "fn", identifier,
    parameters nested, grouped .parenthesis (commaSeparated (functionParameter nested)),
    returnType nested true, whereClause nested]

/-! ## Fields -/

/-- A field with a name. Without one, it can have fields of its own, which are repeated as they are
written. -/
def namedField : Reader Code :=
  sequence [attributes nested, visibility, firstOf [
    (fun code => seesName "_" code && seesOneOf ["struct", "union"] (code.drop 2) &&
        seesOpening .brace (code.drop 3),
      sequence [anyName, mark ":", anyName, tree]),
    (fun _ => true, sequence [identifier <|> keyword "_", mark ":", nested (.type true)])]]

def tupleField : Reader Code := sequence [attributes nested, visibility, nested (.type true)]

def namedFields : Reader Code := grouped .brace (commaSeparated (namedField nested))

def tupleFields : Reader Code := grouped .parenthesis (commaSeparated (tupleField nested))

/-- A variant of an enum. What restricts its use is left out. -/
def variant : Reader Code := do
  let front ← attributes nested
  let _ ← visibility
  let name ← identifier
  let fields ← firstOf [
    (seesOpening .brace, namedFields nested),
    (seesOpening .parenthesis, tupleFields nested),
    (fun _ => true, return [])]
  let value ← onlyIf (sees "=") (sequence [mark "=", nested (.expression true)])
  return front ++ name ++ fields ++ value

/-- The rest of a struct. -/
def structBody : Reader Code := do
  let condition ← whereClause nested
  firstOf [
    (seesOpening .parenthesis, sequence [return condition, tupleFields nested, whereClause nested,
      mark ";"]),
    (seesOpening .brace, sequence [return condition, namedFields nested]),
    (sees ";", sequence [return condition, mark ";"])]

/-! ## Members of traits and implementations -/

def value : Reader Code := onlyIf (sees "=") (sequence [mark "=", nested (.expression true)])

/-- The bounds of a type in a trait. -/
def typeBounds : Reader Code :=
  optionalBounds nested fun code => seesName "where" code || sees "=" code || sees ";" code

/-- A name that is called, with what it is called on as it is written. -/
def nameCall : Reader Code :=
  sequence [plainPath, mark "!", onlyIf seesIdentifier identifier, tree, onlyIf (sees ";") (mark ";")]

/-- A declaration, and whether it is repeated as it is written because it is not complete or out of
place. -/
abbrev Entry := Code × Bool

/-- What members belong to. -/
inductive Owner where
  | traits
  | implementations
  | foreignModules
deriving DecidableEq, Repr

def memberFunction (owner : Owner) : Reader Entry := do
  let special := seesName "safe" (← get)
  let head ← signature nested
  if sees ";" (← get) then
    return (head ++ (← mark ";"), owner == .implementations || owner == .foreignModules && special)
  else return (head ++ (← block nested), owner == .foreignModules)

def constantDeclaration (needsValue : Bool) : Reader Entry := do
  let front ← sequence [anyName, anyName]
  let generic := sees "<" (← get)
  let kind ← sequence [parameters nested, mark ":", nested (.type true)]
  let value ← value nested
  let conditional := seesName "where" (← get)
  let rest ← sequence [whereClause nested, mark ";"]
  return (front ++ kind ++ value ++ rest,
    generic || conditional || needsValue && value.isEmpty)

/-- A name for a type. In an implementation it must have a meaning, and in a foreign module it must not. -/
def typeDeclaration (owner : Owner) : Reader Entry := do
  let front ← sequence [anyName, identifier, parameters nested]
  let bounded := seesColon (← get)
  let bounds ← typeBounds nested
  let condition ← whereClause nested
  let kind ← onlyIf (sees "=") (sequence [mark "=", nested (.type true)])
  let rest ← sequence [whereClause nested, mark ";"]
  return (front ++ bounds ++ condition ++ kind ++ rest,
    owner == .implementations && (bounded || kind.isEmpty) ||
      owner == .foreignModules && (bounded || !kind.isEmpty))

def memberStatic : Reader Entry := do
  let special := seesName "safe" (← get)
  let front ← sequence [onlyIf (seesOneOf ["safe", "unsafe"]) anyName, keyword "static",
    onlyIf (seesName "mut") (keyword "mut"), identifier, mark ":", nested (.type true)]
  let value ← value nested
  return (front ++ value ++ (← mark ";"), special || !value.isEmpty)

/-- A member of a trait, of an implementation or of a foreign module. -/
def memberDeclaration (owner : Owner) : Reader Code := do
  let start ← get
  let front ← attributes nested
  let scope ← sequence [visibility,
    onlyIf (fun code => seesName "default" code && !sees "!" code.next) anyName]
  let code ← get
  let (whole, asIs) ←
    if seesFunction code then memberFunction nested owner
    else if seesName "const" code then constantDeclaration nested (owner == .implementations)
    else if seesName "type" code then typeDeclaration nested owner
    else if seesName "static" (behind "safe" (behind "unsafe" code)) then memberStatic nested
    else (·, false) <$> nameCall
  if asIs || owner == .traits && !scope.isEmpty then return start.before (← get)
  else return front ++ scope ++ whole

def members (owner : Owner) : Reader Code :=
  grouped .brace (sequence [innerAttributes nested,
    repeatWhile (fun code => !seesEnd code) (memberDeclaration nested owner)])

/-! ## Declarations -/

/-- A use declaration. Its tree has only names, double colons, commas, stars and groups. -/
def useTree : (limit : Nat) → Reader Code
  | 0 => return []
  | limit + 1 => do
    let code ← get
    if seesEnd code || sees ";" code then return []
    else
      let front ← firstOf [
        (sees "::", mark "::"),
        (sees "*", mark "*"),
        (sees ",", mark ","),
        (seesOpening .brace, grouped .brace (useTree limit)),
        (fun _ => true, anyName)]
      return front ++ (← useTree limit)

/-- Whether parameters follow `impl`, and not a type in angle brackets. -/
def seesParameters (code : Code) : Bool :=
  let second := code.next
  let third := second.next
  sees "<" code && (sees ">" second || sees "#" second || seesName "const" second ||
    (seesLifetime second || seesIdentifier second) &&
      (sees ">" third || sees "," third || seesColon third || sees "=" third))

/-- The rest of a trait, or of another name for one. -/
def traitBody : Reader Code := do
  let front ← sequence [keyword "trait", identifier, parameters nested]
  if sees "=" (← get) then
    return front ++ (← sequence [mark "=",
      boundsUntil nested fun code => seesName "where" code || sees ";" code, whereClause nested, mark ";"])
  else
    return front ++ (← sequence [
      optionalBounds nested fun code => seesName "where" code || seesOpening .brace code,
      whereClause nested, members nested .traits])

/-- Whether an implementation is restricted to constant evaluation. -/
def seesConstantTrait (code : Code) : Bool :=
  seesName "const" code || sees "?" code && seesName "const" code.next

def implementation : Reader Entry := do
  let front ← sequence [onlyIf (seesName "default") anyName, onlyIf (seesName "unsafe") (keyword "unsafe"),
    keyword "impl", onlyIf seesParameters (parameters nested)]
  let restricted := seesConstantTrait (← get)
  let modifier ← onlyIf seesConstantTrait (sequence [onlyIf (sees "?") (mark "?"), anyName])
  let polarity ← onlyIf (fun code => sees "!" code && !seesOpening .brace code.next) (mark "!")
  let code ← get
  let named := seesPlainPath code || sees "::" code
  let first ← nested (.type true)
  let ofTrait := seesName "for" (← get)
  let rest ← sequence [onlyIf (seesName "for") (sequence [keyword "for", nested (.type true)]),
    whereClause nested, members nested .implementations]
  return (front ++ modifier ++ polarity ++ first ++ rest, restricted || ofTrait && !named)

def staticDeclaration : Reader Entry := do
  let front ← sequence [anyName, onlyIf (seesName "mut") (keyword "mut"), identifier]
  let kind ← onlyIf seesColon (sequence [mark ":", nested (.type true)])
  let value ← value nested
  return (front ++ kind ++ value ++ (← mark ";"), kind.isEmpty || value.isEmpty)

/-- Whether a group of a use declaration has an absolute path in it. -/
def hasAbsolutePath : Code → Bool
  | .opening _ :: .mark ':' _ :: _ => true
  | .mark ',' _ :: .mark ':' _ :: _ => true
  | _ :: rest => hasAbsolutePath rest
  | [] => false

def useDeclaration : Reader Entry := do
  let front ← anyName
  let tree ← useTree (← get).length
  return (front ++ tree ++ (← mark ";"), hasAbsolutePath tree)

/-- A declaration that is always complete. -/
def completeDeclaration : Reader Code :=
  firstOf [
    (fun code => seesName "extern" code && seesName "crate" code.next,
      sequence [anyName, anyName, anyName, onlyIf (seesName "as") (sequence [anyName, anyName]),
        mark ";"]),
    (fun code => seesName "extern" (behind "unsafe" code),
      sequence [onlyIf (seesName "unsafe") (keyword "unsafe"), convention,
        members nested .foreignModules]),
    (fun code => seesName "mod" (behind "unsafe" code),
      sequence [onlyIf (seesName "unsafe") (keyword "unsafe"), anyName, anyName, firstOf [
        (sees ";", mark ";"),
        (fun _ => true, grouped .brace (sequence [innerAttributes nested, nested .declarations]))]]),
    (seesName "struct", sequence [anyName, identifier, parameters nested, structBody nested]),
    (seesName "enum", sequence [anyName, identifier, parameters nested, whereClause nested,
      grouped .brace (commaSeparated (variant nested))]),
    (fun code => seesName "union" code && seesIdentifier code.next,
      sequence [anyName, identifier, parameters nested, whereClause nested, namedFields nested]),
    (fun code => seesName "trait" (behind "auto" (behind "unsafe" code)),
      sequence [onlyIf (seesName "unsafe") (keyword "unsafe"), onlyIf (seesName "auto") anyName,
        traitBody nested]),
    (fun _ => true, nameCall)]

/-- A declaration behind its attributes and visibility. An implementation cannot be `restricted`. -/
def declarationBody (restricted : Bool) : Reader Entry := do
  let code ← get
  if seesFunction code then
    let head ← signature nested
    if sees ";" (← get) then return (head ++ (← mark ";"), true)
    else return (head ++ (← block nested), false)
  else if seesName "const" code then constantDeclaration nested true
  else if seesName "static" code then staticDeclaration nested
  else if seesName "type" code then typeDeclaration nested .implementations
  else if seesName "use" code then useDeclaration
  else if seesName "impl" (behind "unsafe" (behind "default" code)) then
    let (whole, asIs) ← implementation nested
    return (whole, asIs || restricted)
  else if seesName "macro" code then
    return (← sequence [anyName, identifier, onlyIf (seesOpening .parenthesis) tree, tree], true)
  else return (← completeDeclaration nested, false)

/-- A declaration, where `start` is the code that it begins with and `front` are its attributes. -/
def declaration (start front : Code) : Reader Code := do
  let scope ← visibility
  let (whole, asIs) ← declarationBody nested !scope.isEmpty
  if asIs then return start.before (← get) else return front ++ scope ++ whole

def declarations : Reader Code :=
  repeatWhile (fun code => !seesEnd code) do
    let start ← get
    let front ← attributes nested
    declaration nested start front

end ScopeMachine.Codegen.Grammar
