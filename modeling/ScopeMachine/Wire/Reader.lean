import ScopeMachine.Wire.Value

/-!
# Readers

A reader takes a value off the front of a byte string. What it consumed before a failure stays
consumed, so both outcomes carry the bytes that are left.
-/

namespace ScopeMachine.Wire

inductive ReadError where
  | unexpectedEnd
  | invalidValue
  | lengthOverflow
deriving DecidableEq, Repr

namespace ReadError

def message : ReadError → String
  | .unexpectedEnd => "unexpected end of input"
  | .invalidValue => "invalid value"
  | .lengthOverflow => "length prefix too large"

end ReadError

/-- A computation on the bytes that are left to read. -/
abbrev Reader := EStateM ReadError Bytes

namespace Reader

/-- Takes exactly `n` bytes, or fails and takes none. -/
def take (n : Nat) : Reader Bytes := fun input =>
  match Bytes.split? n input with
  | some (front, rest) => .ok front rest
  | none => .error .unexpectedEnd input

def byte : Reader UInt8
  | [] => .error .unexpectedEnd []
  | b :: rest => .ok b rest

/-- Takes an integer of a fixed width. -/
def int (type : IntType) : Reader Int := fun input =>
  match take type.width input with
  | .error e rest => .error e rest
  | .ok front rest => .ok (type.decode front) rest

/-- The greatest length that a vector may announce. -/
def maxLength : Nat := 16 * 1024 * 1024

/-- Takes a length. One that is too large is refused after it was taken. -/
def length : Reader Nat := fun input =>
  match take 8 input with
  | .error e rest => .error e rest
  | .ok front rest =>
    let n := Bytes.toNat front
    if maxLength < n then .error .lengthOverflow rest else .ok n rest

/-- Reads `n` items, one after the other. -/
def items {α : Type} (item : Reader α) : Nat → Reader (List α)
  | 0, input => .ok [] input
  | n + 1, input =>
    match item input with
    | .error e rest => .error e rest
    | .ok a rest =>
      match items item n rest with
      | .error e rest => .error e rest
      | .ok as rest => .ok (a :: as) rest

/-- The outcome of reading a whole byte string: bytes left over make it invalid. -/
def whole {α : Type} (reader : Reader α) (input : Bytes) : Except ReadError α :=
  match reader input with
  | .error e _ => .error e
  | .ok a [] => .ok a
  | .ok _ (_ :: _) => .error .invalidValue

end Reader

end ScopeMachine.Wire
