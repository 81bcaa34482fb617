import ScopeMachine.Codegen.Token

/-!
# Declared items

The declarations that code is generated for, as a parser gives them: a struct, an enum or a union with its generic
parameters. Of a field only the name matters, so the types of fields are left out.
-/

namespace ScopeMachine.Codegen

inductive Fields where
  | unit
  | tuple (count : Nat)
  | named (names : List String)
deriving DecidableEq, Repr

/-- What stands behind the path of an attribute. -/
inductive Argument where
  /-- A string literal in parentheses. -/
  | literal (text : String)
  /-- An identifier in parentheses. -/
  | identifier (name : String)
  | other
deriving DecidableEq, Repr

structure Attribute where
  /-- The path, if it is a single identifier. -/
  name : Option String
  argument : Argument
deriving DecidableEq, Repr

/-- An expression, as far as discriminants look at it. -/
inductive Expression where
  /-- An integer literal: the decimal digits of its value, whatever its base is. There is at least one. -/
  | integer (first : Fin 10) (rest : List (Fin 10))
  | other
deriving DecidableEq, Repr

structure Variant where
  name : String
  fields : Fields
  discriminant : Option Expression
  attributes : List Attribute
deriving DecidableEq, Repr

inductive Body where
  | struct (fields : Fields)
  | enum (variants : List Variant)
  | union
deriving DecidableEq, Repr

/-- Generic parameters, ready to be printed: as they are declared, as they are used, and the where clause. -/
structure Generics where
  declared : Tokens
  used : Tokens
  whereClause : Tokens
deriving DecidableEq, Repr

structure Item where
  name : String
  generics : Generics
  body : Body
deriving DecidableEq, Repr

inductive DeriveError where
  | codecOfUnion
  | discriminantNotLiteral
  | discriminantTooLarge
  | discriminantOverflow
  | errorOfNonEnum
  | missingMessage (variant : String)
  | invalidMessage
  | invalidKind
  | incompleteKinds
deriving DecidableEq, Repr

namespace DeriveError

def message : DeriveError → String
  | .codecOfUnion => "BinaryCodec derive does not support unions"
  | .discriminantNotLiteral => "BinaryCodec discriminants must be integer literals"
  | .discriminantTooLarge => "number too large to fit in target type"
  | .discriminantOverflow => "discriminant does not fit in a u8"
  | .errorOfNonEnum => "Error derive only supports enums"
  | .missingMessage variant =>
    "missing #[error(\"...\")] attribute on variant `" ++ variant ++
      "`; every error variant must declare a display message"
  | .invalidMessage =>
    "invalid #[error] attribute; expected a string literal like #[error(\"unknown scope \x7b0\x7d\")]"
  | .invalidKind =>
    "invalid #[kind] attribute; expected an ErrorKind variant like #[kind(OutOfRange)]"
  | .incompleteKinds => "either every variant or no variant must declare #[kind(...)]"

end DeriveError

namespace Variant

/-- The first attribute whose path is the given name. -/
def attribute? (v : Variant) (name : String) : Option Attribute :=
  v.attributes.find? fun a => a.name == some name

end Variant

namespace Item

/-- An implementation block. `subject` stands before the name of the item: the trait and `for`, or nothing. -/
def implementation (item : Item) (subject body : Tokens) : Tokens :=
  ["impl"] ++ item.generics.declared ++ subject ++ [item.name] ++ item.generics.used ++
    item.generics.whereClause ++ Tokens.braced body

end Item

end ScopeMachine.Codegen
