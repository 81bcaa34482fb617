import ScopeMachine.Wire.Reader

/-!
# Formats

A `Format` describes which values may stand at a place, and that is what a reader needs to know.
`Format.read` takes one value of a format off a byte string. Formats may be recursive: a vector can
hold a format by its number in a list of definitions, and since a vector starts with a length, each
such step consumes input.
-/

namespace ScopeMachine.Wire

/-- The description of a value's layout. -/
inductive Format where
  | int (type : IntType)
  /-- A byte string behind its length. -/
  | bytes
  /-- A vector behind its length. -/
  | vec (item : Format)
  /-- A vector of the definition with the given number. -/
  | vecOf (definition : Nat)
  /-- A fixed number of items, one after the other. -/
  | array (count : Nat) (item : Format)
  /-- The fields of a record, one after the other. This is what the body generated for a struct writes and reads
  (`Codegen.BinaryCodec.encodeStruct`, `decodeStruct`). -/
  | record (fields : List Format)
  /-- A tag byte and the fields that belong to it, with other tags refused. This is what the body generated for an enum
  writes and reads (`Codegen.BinaryCodec.encodeEnum`, `decodeEnum`), with the tags of `Codegen.Discriminant.assign`. -/
  | choice (variants : List (UInt8 × List Format))
deriving Repr

/-- The definitions that vectors refer to by number. -/
abbrev Definitions := List Format

namespace Definitions

/-- The definition with the given number. A number without one stands for a format that has no
values. -/
def lookup (defs : Definitions) (i : Nat) : Format := defs[i]?.getD (.choice [])

end Definitions

namespace Format

mutual

/-- Reads a value, with `next` for the definitions. -/
def readWith (next : Nat → Reader Value) : Format → Reader Value
  | .int type, input =>
    match Reader.int type input with
    | .error e rest => .error e rest
    | .ok n rest => .ok (.int type n) rest
  | .bytes, input =>
    match Reader.length input with
    | .error e rest => .error e rest
    | .ok n rest =>
      match Reader.items Reader.byte n rest with
      | .error e rest => .error e rest
      | .ok content rest => .ok (.bytes content) rest
  | .vec item, input =>
    match Reader.length input with
    | .error e rest => .error e rest
    | .ok n rest =>
      match Reader.items (readWith next item) n rest with
      | .error e rest => .error e rest
      | .ok items rest => .ok (.vec items) rest
  | .vecOf i, input =>
    match Reader.length input with
    | .error e rest => .error e rest
    | .ok n rest =>
      match Reader.items (next i) n rest with
      | .error e rest => .error e rest
      | .ok items rest => .ok (.vec items) rest
  | .array count item, input =>
    match Reader.items (readWith next item) count input with
    | .error e rest => .error e rest
    | .ok items rest => .ok (.tuple items) rest
  | .record fields, input =>
    match readFields next fields input with
    | .error e rest => .error e rest
    | .ok items rest => .ok (.tuple items) rest
  | .choice variants, input =>
    match Reader.byte input with
    | .error e rest => .error e rest
    | .ok tag rest => readVariant next tag variants rest

/-- Reads the fields of a record or variant in order. -/
def readFields (next : Nat → Reader Value) : List Format → Reader (List Value)
  | [], input => .ok [] input
  | field :: fields, input =>
    match readWith next field input with
    | .error e rest => .error e rest
    | .ok item rest =>
      match readFields next fields rest with
      | .error e rest => .error e rest
      | .ok items rest => .ok (item :: items) rest

/-- Reads the fields of the first variant that has the given tag. -/
def readVariant (next : Nat → Reader Value) (tag : UInt8) : List (UInt8 × List Format) → Reader Value
  | [], input => .error .invalidValue input
  | (own, fields) :: variants, input =>
    if own = tag then
      match readFields next fields input with
      | .error e rest => .error e rest
      | .ok items rest => .ok (.variant tag items) rest
    else readVariant next tag variants input

end

/-- Reads a value of a definition, through at most `depth` nested definitions. -/
def readDefinition (defs : Definitions) : (depth : Nat) → (i : Nat) → Reader Value
  | 0, _ => fun input => .error .unexpectedEnd input
  | depth + 1, i => readWith (readDefinition defs depth) (defs.lookup i)

/-- Reads a value off the front of the input. Each nested definition stands behind a length of its
own, so there are never more of them than bytes. -/
def read (defs : Definitions) (format : Format) : Reader Value := fun input =>
  readWith (readDefinition defs (input.length + 1)) format input

/-- Reads a byte string that holds one value and nothing else. -/
def decode (defs : Definitions) (format : Format) (input : Bytes) : Except ReadError Value :=
  Reader.whole (format.read defs) input

end Format

end ScopeMachine.Wire
