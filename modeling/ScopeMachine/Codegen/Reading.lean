import ScopeMachine.Codegen.Grammar
import ScopeMachine.Codegen.Item

/-!
# Reading declarations

A declaration whose parts are source text, and the item that it declares. Names stand without the comments, attributes
and visibility around them, and parameters and predicates as they are printed again.
-/

namespace ScopeMachine.Codegen.Source

/-- A generic parameter. A lifetime's name begins with an apostrophe and a constant's with `const`. -/
structure Parameter where
  name : String
  /-- The bounds of a type or lifetime, or the type of a constant. -/
  bounds : Option String
  fallback : Option String
deriving DecidableEq, Repr

structure Attribute where
  path : String
  argument : Argument
deriving DecidableEq, Repr

structure Variant where
  name : String
  fields : Fields
  discriminant : Option String
  attributes : List Attribute
deriving DecidableEq, Repr

inductive Body where
  | struct (fields : Fields)
  | enum (variants : List Variant)
  | union
deriving DecidableEq, Repr

structure Declaration where
  name : String
  parameters : List Parameter
  /-- The predicates of the where clause. -/
  predicates : Option String
  body : Body
deriving DecidableEq, Repr

/-! ## Names and expressions -/

def plainName (text : String) : String :=
  match (code text).getLast? with
  | some (.name name) => name
  | _ => text

def plainFields : Fields → Fields
  | .named names => .named (names.map plainName)
  | fields => fields

def decimalDigit? (c : Char) : Option (Fin 10) :=
  let n := c.toNat - '0'.toNat
  if h : n < 10 then some ⟨n, h⟩ else none

/-- An expression behind any attributes. -/
def expression (text : String) : Expression :=
  match Grammar.withoutAttributes (code text) with
  | [.literal literal] =>
    match (Integer.value? literal.toList).map fun n => (Nat.toDigits 10 n).filterMap decimalDigit? with
    | some (first :: rest) => .integer first rest
    | _ => .other
  | _ => .other

/-! ## Attributes and variants -/

/-- An argument. A reserved word is no identifier. -/
def readArgument : Argument → Argument
  | .identifier text =>
    match code text with
    | [.name name] => if Grammar.reservedWords.contains name then .other else .identifier name
    | _ => .other
  | argument => argument

def Attribute.read (a : Attribute) : Codegen.Attribute where
  name :=
    match code a.path with
    | [.name name] => some name
    | _ => none
  argument := readArgument a.argument

def Variant.read (v : Variant) : Codegen.Variant where
  name := plainName v.name
  fields := plainFields v.fields
  discriminant := v.discriminant.map expression
  attributes := v.attributes.map Attribute.read

def Body.read : Body → Codegen.Body
  | .struct fields => .struct (plainFields fields)
  | .enum variants => .enum (variants.map Variant.read)
  | .union => .union

/-! ## Parameters -/

open Grammar

/-- The code that declares a parameter, where `follower` stands behind it unless it has a default. -/
def Parameter.code (p : Parameter) (follower : String) : Code :=
  let text := p.name ++ (p.bounds.map (": " ++ ·)).getD ""
  if p.fallback.isSome then Source.code text else (Source.code (text ++ follower)).dropLast

/-- The parameters as parts that `print` shows. The source has a comma behind each but the last, which
the closing bracket follows. -/
def parts (print : Declared → Code) : List Parameter → List Part
  | [] => []
  | [p] =>
    let declared := declaredParameter (p.code ">")
    [⟨print declared, declared.lifetime, false⟩]
  | p :: ps =>
    let declared := declaredParameter (p.code ",")
    ⟨print declared, declared.lifetime, true⟩ :: parts print ps

/-- Parameters in angle brackets, or nothing if there are none. -/
def angled (print : Declared → Code) (parameters : List Parameter) : Tokens :=
  if parameters.isEmpty then []
  else Code.tokens (Code.operator ['<'] ++ Part.arrange (parts print parameters) ++ Code.operator ['>'])

def whereClause (predicates : Option String) : Tokens :=
  match Code.tokens (printedPredicates (code (predicates.getD ""))) with
  | [] => []
  | predicates => "where" :: predicates

namespace Declaration

def item (d : Declaration) : Item where
  name := plainName d.name
  generics :=
    { declared := angled Declared.code d.parameters
      used := angled Declared.name d.parameters
      whereClause := Source.whereClause d.predicates }
  body := d.body.read

end Declaration

end ScopeMachine.Codegen.Source
