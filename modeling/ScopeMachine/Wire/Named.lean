import ScopeMachine.Register
import ScopeMachine.Wire.Format

/-!
# Named formats

The formats of the machine's own types, and formats by their names: those of the integer types and of the
machine's types, `vec<F>` for vectors and `[F;n]` for arrays of a named format `F`. The worked formats are of
every shape: a record without fields, a pair, a record that holds it, and a choice one of whose variants holds
a vector of the choice itself.
-/

namespace ScopeMachine.Wire

namespace Format

/-- An address of either kind. -/
def address : Format := .record [.int .u64]

def scopeId : Format := .record [.int .u32]

/-- A register: its id is the tag. -/
def register : Format := .choice (Register.all.map fun r => (r.id, []))

end Format

namespace Sample

/-- No fields and no bytes. -/
def unit : Format := .record []

def pair : Format := .record [.int .u8, .int .i32]

/-- A number, a vector and a pair. -/
def record : Format := .record [.int .u16, .vec (.int .u8), pair]

/-- Shapes: empty, a point, a named list, a list of shapes, and a last one. The shape itself is
definition 0. -/
def shape : Format :=
  .choice
    [(0, []), (5, [.int .i16, .int .i16]), (6, [.int .u8, .vec (.int .u16)]), (7, [.vecOf 0]), (255, [])]

/-- The definitions that `shape` refers to. -/
def definitions : Definitions := [shape]

end Sample

namespace Format

def ofSimpleName? : String → Option Format
  | "u8" => some (.int .u8)
  | "u16" => some (.int .u16)
  | "u32" => some (.int .u32)
  | "u64" | "usize" => some (.int .u64)
  | "i8" => some (.int .i8)
  | "i16" => some (.int .i16)
  | "i32" => some (.int .i32)
  | "i64" => some (.int .i64)
  | "stack_address" | "memory_address" => some .address
  | "scope_id" => some .scopeId
  | "register" => some .register
  | "byte_buffer" => some .bytes
  | _ => none

/-- What stands between a first and a last part of a text. -/
def between? (front back text : List Char) : Option (List Char) :=
  if front.isPrefixOf text ∧ back.isSuffixOf text ∧ front.length + back.length ≤ text.length then
    some ((text.drop front.length).take (text.length - front.length - back.length))
  else none

/-- The text before the last semicolon, and the number after it. -/
def splitCount? (text : List Char) : Option (List Char × Nat) :=
  let reversed := text.reverse
  match reversed.dropWhile (· ≠ ';') with
  | [] => none
  | _ :: item =>
    (String.ofList (reversed.takeWhile (· ≠ ';')).reverse).toNat?.map fun count => (item.reverse, count)

/-- The format of a name, in which vectors and arrays are nested less than `depth` deep. -/
def ofNestedName? : (depth : Nat) → List Char → Option Format
  | 0, _ => none
  | depth + 1, name =>
    match between? "vec<".toList ">".toList name with
    | some item => (ofNestedName? depth item).map .vec
    | none =>
      match (between? "[".toList "]".toList name).bind splitCount? with
      | some (item, count) => (ofNestedName? depth item).map (.array count)
      | none => ofSimpleName? (String.ofList name)

def ofName? (name : String) : Option Format := ofNestedName? (name.length + 1) name.toList

end Format

end ScopeMachine.Wire
