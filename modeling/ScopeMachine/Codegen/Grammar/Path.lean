import ScopeMachine.Codegen.Grammar.Reader

/-!
# Paths and attributes

A path is a sequence of names, each of which may have arguments in angle brackets. In an expression
these follow a double colon, since an angle bracket alone would be a comparison. In angle brackets
lifetimes are printed before everything else. Each part keeps the comma that followed it, and a comma is
put between the two groups if there was none.
-/

namespace ScopeMachine.Codegen.Grammar

/-! ## Parts in angle brackets -/

/-- An argument or parameter in angle brackets. -/
structure Part where
  code : Code
  lifetime : Bool
  /-- Whether a comma followed it. -/
  comma : Bool
deriving DecidableEq, Repr

namespace Part

/-- The part with its comma. -/
def print (p : Part) : Code := p.code ++ if p.comma then Code.operator [','] else []

/-- The parts with lifetimes first. -/
def arrange (parts : List Part) : Code :=
  let front := parts.filter (·.lifetime)
  let back := parts.filter (!·.lifetime)
  let gap := if front.any (!·.comma) && !back.isEmpty then Code.operator [','] else []
  front.flatMap print ++ gap ++ back.flatMap print

/-- Reads at most `limit` parts up to a closing angle bracket, where `part` reads one and says whether
it is a lifetime. -/
def readWithin (part : Reader (Code × Bool)) : (limit : Nat) → Reader (List Part)
  | 0 => return []
  | limit + 1 => do
    if sees ">" (← get) then return []
    let (code, lifetime) ← part
    if sees ">" (← get) then return [⟨code, lifetime, false⟩]
    let _ ← mark ","
    return ⟨code, lifetime, true⟩ :: (← readWithin part limit)

/-- Reads parts up to a closing angle bracket. -/
def readAll (part : Reader (Code × Bool)) : Reader (List Part) := do
  readWithin part (← get).length

end Part

/-! ## Paths -/

structure Path where
  /-- The path without the arguments of its last name. -/
  stem : Code
  /-- The arguments of the last name. -/
  arguments : Code
  /-- Whether the last name has no arguments. -/
  bare : Bool
  /-- Whether there are no angle brackets at all. -/
  plain : Bool
deriving DecidableEq, Repr

namespace Path

def code (p : Path) : Code := p.stem ++ p.arguments

/-- The path with another one behind it. -/
def append (p : Path) (separator : Code) (q : Path) : Path :=
  ⟨p.code ++ separator ++ q.stem, q.arguments, q.bare, p.plain && q.plain⟩

end Path

/-- The keywords that can stand in a path and have no arguments. -/
def pathKeywords : List String := ["super", "self", "crate", "try"]

/-- Whether a path without angle brackets at its front can begin. -/
def seesPlainPath (code : Code) : Bool :=
  seesIdentifier code || seesOneOf ["super", "self", "Self", "crate"] code

def seesPath (code : Code) : Bool := seesPlainPath code || sees "::" code || sees "<" code

def plainPath : Reader Code := do
  let front ← maybe (mark "::")
  let first ← element seesPlainPath
  let others ← repeatWhile (sees "::") (sequence [mark "::", element seesPlainPath])
  return front ++ first ++ others

variable (nested : Form → Reader Code)

/-- What stands in the brackets of an attribute. -/
def attributeContent : Reader Code := do
  let path ← keyword "unsafe" <|> plainPath
  match ← get with
  | .opening _ :: _ => return path ++ (← tree)
  | code =>
    if sees "=" code then return path ++ (← mark "=") ++ (← nested (.expression true))
    else return path

/-- The attributes before a piece of code. -/
def attributes : Reader Code :=
  repeatWhile (fun code => sees "#" code && seesOpening .square code.next)
    (sequence [mark "#", grouped .square (attributeContent nested)])

/-- The attributes at the beginning of a group that belong to what the group is part of. -/
def innerAttributes : Reader Code :=
  repeatWhile (fun code => sees "#" code && sees "!" code.next)
    (sequence [mark "#", mark "!", grouped .square (attributeContent nested)])

def block : Reader Code :=
  grouped .brace (sequence [innerAttributes nested, nested .statements])

/-- A constant as an argument: a literal, a name or a block. -/
def constant : Reader Code := do
  let code ← get
  if seesLiteral code then literal
  else if seesIdentifier code then identifier
  else sequence [attributes nested, onlyIf seesLifetime (sequence [lifetime, mark ":"]), block nested]

/-- Bounds with plus signs between them, up to an end. -/
def boundsUntil (ends : Code → Bool) : Reader Code :=
  repeatWhile (fun code => !ends code) (sequence [nested .bound, onlyIf (sees "+") (mark "+")])

/-- Arguments in angle brackets, and whether there are none. -/
def arguments : Reader (Code × Bool) := do
  let colons ← maybe (mark "::")
  let opening ← mark "<"
  let parts ← Part.readAll do
    let code ← nested .argument
    return (code, seesLifetime code && code.length == 1)
  let closing ← mark ">"
  return (colons ++ opening ++ Part.arrange parts ++ closing, parts.isEmpty)

/-- A name of a path with its arguments. Only in a type can these follow without a double colon. -/
def segment (inType : Bool) : Reader Path := do
  if seesOneOf pathKeywords (← get) then return ⟨← anyName, [], true, true⟩
  let name ← identifier <|> keyword "Self"
  let code ← get
  if inType && sees "<" code && !sees "<=" code || sees "::" code && sees "<" (code.drop 2) then
    let (arguments, empty) ← arguments nested
    return ⟨name, arguments, empty, false⟩
  else return ⟨name, [], true, true⟩

/-- The rest of a path, of at most `limit` names. Parentheses behind a double colon are not part of
it. -/
def pathRest (inType : Bool) : (limit : Nat) → Path → Reader Path
  | 0, path => return path
  | limit + 1, path => do
    let code ← get
    if sees "::" code && !seesOpening .parenthesis (code.drop 2) then
      let colons ← mark "::"
      let next ← segment nested inType
      pathRest inType limit (path.append colons next)
    else return path

def path (inType : Bool) : Reader Path := do
  let front ← maybe (mark "::")
  let first ← segment nested inType
  let whole := { first with stem := front ++ first.stem }
  pathRest nested inType (← get).length whole

/-- A path that may begin with a type in angle brackets. -/
def qualifiedPath (inType : Bool) : Reader Path := do
  if sees "<" (← get) then
    let front ← sequence [mark "<", nested (.type true),
      onlyIf (seesName "as") (sequence [keyword "as", Path.code <$> path nested true]), mark ">", mark "::"]
    let first ← segment nested inType
    let whole := { first with stem := front ++ first.stem, plain := false }
    pathRest nested inType (← get).length whole
  else path nested inType

/-- The code behind the angle bracket that closes a list, inside which `depth` further ones are open. The
head of an arrow closes nothing. -/
def behindAngles : (depth : Nat) → Code → Code
  | _, [] => []
  | depth, .mark '-' true :: .mark '>' _ :: rest => behindAngles depth rest
  | depth, .mark '<' _ :: rest => behindAngles (depth + 1) rest
  | 0, .mark '>' _ :: rest => rest
  | depth + 1, .mark '>' _ :: rest => behindAngles depth rest
  | depth, .opening _ :: rest => behindGroup depth 0 rest
  | depth, _ :: rest => behindAngles depth rest
where
  /-- The same from inside a group, in which `inner` further ones are open. -/
  behindGroup (depth : Nat) : Nat → Code → Code
    | _, [] => []
    | inner, .opening _ :: rest => behindGroup depth (inner + 1) rest
    | 0, .closing _ :: rest => behindAngles depth rest
    | inner + 1, .closing _ :: rest => behindGroup depth inner rest
    | inner, _ :: rest => behindGroup depth inner rest

/-- Whether an argument gives the value or the bounds of a name. -/
def seesBinding (code : Code) : Bool :=
  let rest := code.next
  let rest := if sees "::" rest && sees "<" (rest.drop 2) then rest.drop 2 else rest
  let rest := if sees "<" rest then behindAngles 0 rest.tail else rest
  seesPlainPath code && (sees "=" rest || seesColon rest)

/-- An argument that gives the value or the bounds of a name. -/
def binding : Reader Code := do
  let name ← segment nested true
  if sees "=" (← get) then
    let sign ← mark "="
    let code ← get
    let value ←
      if seesLiteral code || seesOpening .brace code then constant nested else nested (.type true)
    return name.code ++ sign ++ value
  else
    let sign ← mark ":"
    return name.code ++ sign ++ (← boundsUntil nested fun code => sees "," code || sees ">" code)

/-- An argument in angle brackets: a lifetime, a constant, a type, or a name with its value or bounds. -/
def argument : Reader Code :=
  firstOf [
    (fun code => seesLifetime code && !sees "+" code.next, lifetime),
    (fun code => seesLiteral code || seesOpening .brace code, constant nested),
    (seesBinding, binding nested),
    (fun _ => true, nested (.type true))]

end ScopeMachine.Codegen.Grammar
