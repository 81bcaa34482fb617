import ScopeMachine.Text
import ScopeMachine.Wire.Reader

/-!
# Cells

The types of values that the evaluation stack holds. A value takes a fixed number of bytes there,
in the layout that the wire has for it. Besides integers these are 64-bit addresses of two kinds: positions
in the evaluation stack and positions in memory.
-/

namespace ScopeMachine

open Wire

/-- A position in the evaluation stack, counted in bytes from its bottom. -/
structure StackAddress where
  offset : UInt64
deriving DecidableEq, Repr, Inhabited

structure MemoryAddress where
  raw : UInt64
deriving DecidableEq, Repr, Inhabited

namespace StackAddress

def text (a : StackAddress) : String := "@" ++ toString a.offset.toNat

end StackAddress

namespace MemoryAddress

def text (a : MemoryAddress) : String := Text.hex 1 a.raw.toNat

end MemoryAddress

/-- A type of values on the evaluation stack. -/
inductive CellType where
  | i8
  | i16
  | i32
  | i64
  | stackAddress
  | memoryAddress
deriving DecidableEq, Repr

namespace CellType

abbrev Value : CellType → Type
  | .i8 => Int8
  | .i16 => Int16
  | .i32 => Int32
  | .i64 => Int64
  | .stackAddress => StackAddress
  | .memoryAddress => MemoryAddress

/-- The integers that a cell type is laid out as. -/
def intType : CellType → IntType
  | .i8 => .i8
  | .i16 => .i16
  | .i32 => .i32
  | .i64 => .i64
  | .stackAddress => .u64
  | .memoryAddress => .u64

/-- How many bytes a slot of the stack has for a value. -/
def width : CellType → Nat
  | .i8 => 1
  | .i16 => 2
  | .i32 => 4
  | .i64 => 8
  | .stackAddress => 8
  | .memoryAddress => 8

def toInt : (t : CellType) → t.Value → Int
  | .i8, v => v.toInt
  | .i16, v => v.toInt
  | .i32, v => v.toInt
  | .i64, v => v.toInt
  | .stackAddress, v => v.offset.toNat
  | .memoryAddress, v => v.raw.toNat

/-- The value of an integer, taken modulo the number of values. -/
def ofInt : (t : CellType) → Int → t.Value
  | .i8, n => Int8.ofInt n
  | .i16, n => Int16.ofInt n
  | .i32, n => Int32.ofInt n
  | .i64, n => Int64.ofInt n
  | .stackAddress, n => ⟨UInt64.ofInt n⟩
  | .memoryAddress, n => ⟨UInt64.ofInt n⟩

def encode (t : CellType) (v : t.Value) : Bytes := t.intType.encode (t.toInt v)

/-- The value of as many bytes as the type is wide. -/
def decode (t : CellType) (bs : Bytes) : t.Value := t.ofInt (t.intType.decode bs)

/-- Takes a value off the front of a byte string. -/
def read (t : CellType) : Reader t.Value := fun input =>
  match Reader.take t.intType.width input with
  | .error e rest => .error e rest
  | .ok front rest => .ok (t.decode front) rest

theorem width_intType (t : CellType) : t.intType.width = t.width := by
  cases t <;> rfl

@[simp] theorem length_encode (t : CellType) (v : t.Value) : (t.encode v).length = t.width := by
  rw [encode, IntType.length_encode, width_intType]

end CellType

end ScopeMachine
