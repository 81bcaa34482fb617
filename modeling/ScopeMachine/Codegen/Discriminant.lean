import ScopeMachine.Codegen.Item

/-!
# Discriminants

The tag bytes of an enum's variants. An explicit discriminant is an integer literal; a variant without
one has the tag after that of the variant before it, and the first has tag 0.
-/

namespace ScopeMachine.Codegen

namespace Discriminant

/-- The byte behind one more decimal digit, if it is one. -/
def append? (byte : UInt8) (digit : Fin 10) : Option UInt8 :=
  if 10 * byte.toNat + digit.val < 256 then some (10 * byte + UInt8.ofNat digit.val) else none

/-- The byte with the given digits behind those of `byte`. -/
def readByte (byte : UInt8) : List (Fin 10) → Option UInt8
  | [] => some byte
  | digit :: digits =>
    match append? byte digit with
    | none => none
    | some byte => readByte byte digits

def parse : Expression → Except DeriveError UInt8
  | .other => .error .discriminantNotLiteral
  | .integer first rest =>
    match readByte 0 (first :: rest) with
    | none => .error .discriminantTooLarge
    | some tag => .ok tag

/-- The tag of a variant, where `next` is the one after the tag before it. -/
def ofVariant (next : UInt16) (v : Variant) : Except DeriveError UInt8 :=
  match v.discriminant with
  | some expression => parse expression
  | none => if next.toNat < 256 then .ok next.toUInt8 else .error .discriminantOverflow

/-- The tags of variants, where `next` is the one after the tag before them. It is counted in 16 bits. -/
def assignFrom (next : UInt16) : List Variant → Except DeriveError (List UInt8)
  | [] => .ok []
  | v :: vs =>
    match ofVariant next v with
    | .error e => .error e
    | .ok tag =>
      match assignFrom (tag.toUInt16 + 1) vs with
      | .error e => .error e
      | .ok tags => .ok (tag :: tags)

/-- The tags of an enum's variants. -/
def assign (variants : List Variant) : Except DeriveError (List UInt8) := assignFrom 0 variants

end Discriminant

end ScopeMachine.Codegen
