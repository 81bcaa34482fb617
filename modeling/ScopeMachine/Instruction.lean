import ScopeMachine.Cell

/-!
# Instructions

The instruction set as one table: each instruction has an opcode, a mnemonic and the types of its
operands. An instruction's record is its opcode byte and its operands, so its length follows from
the table.

Scope ids are among the operands. Scopes are numbered from zero in the order of their creation; one number is
never issued and stands for no scope.
-/

namespace ScopeMachine

structure ScopeId where
  raw : UInt32
deriving DecidableEq, Repr

namespace ScopeId

/-- The id that no scope has. -/
def invalid : ScopeId := ⟨0xFFFFFFFF⟩

instance : Inhabited ScopeId := ⟨invalid⟩

def isValid (id : ScopeId) : Bool := id != invalid

/-- The position of the scope in its table. -/
def index (id : ScopeId) : Nat := id.raw.toNat

theorem eq_of_index_eq {a b : ScopeId} (h : a.index = b.index) : a = b := by
  cases a
  cases b
  exact congrArg mk (UInt32.toNat_inj.mp h)

def text (id : ScopeId) : String :=
  if id.isValid then toString id.raw.toNat else "<invalid>"

end ScopeId

/-- A type of values in instruction records and on the stack. -/
inductive ValueType where
  | cell (type : CellType)
  | opcode
  | register
  | scopeId
deriving DecidableEq, Repr

namespace ValueType

/-- How many bytes a value takes. -/
def width : ValueType → Nat
  | .cell type => type.width
  | .opcode => 1
  | .register => 1
  | .scopeId => 4

def text : ValueType → String
  | .cell .i8 => "i8"
  | .cell .i16 => "i16"
  | .cell .i32 => "i32"
  | .cell .i64 => "i64"
  | .cell .stackAddress => "stack_address"
  | .cell .memoryAddress => "memory_address"
  | .opcode => "opcode"
  | .register => "register"
  | .scopeId => "scope_id"

def all : List ValueType :=
  [.cell .i8, .cell .i16, .cell .i32, .cell .i64, .cell .stackAddress, .cell .memoryAddress,
    .opcode, .register, .scopeId]

end ValueType

/-- An instruction without its operands. -/
inductive Instruction where
  /-- Does nothing. -/
  | nop
  /-- Pushes a constant. -/
  | pushConst
  /-- Pushes the low half of a general register. -/
  | pushRegister
  /-- Pops into a general register. -/
  | setRegister
  /-- Pops two values and pushes their sum. -/
  | add
  /-- Runs an internal scope. -/
  | call
  /-- Invokes an external scope. -/
  | callExternal
  /-- Ends the scope. -/
  | ret
deriving DecidableEq, Repr

namespace Instruction

/-- All instructions in the order of their opcodes. -/
def all : List Instruction :=
  [.nop, .pushConst, .pushRegister, .setRegister, .add, .call, .callExternal, .ret]

def opcode : Instruction → UInt8
  | .nop => 0
  | .pushConst => 1
  | .pushRegister => 2
  | .setRegister => 3
  | .add => 4
  | .call => 5
  | .callExternal => 6
  | .ret => 7

def mnemonic : Instruction → String
  | .nop => "nop"
  | .pushConst => "push_i4_const"
  | .pushRegister => "push_i4_reg"
  | .setRegister => "set_i4_reg"
  | .add => "add_i4"
  | .call => "call"
  | .callExternal => "xcall"
  | .ret => "ret"

/-- The types of the operands in the record, in order. -/
def operands : Instruction → List ValueType
  | .nop => []
  | .pushConst => [.cell .i32]
  | .pushRegister => [.register]
  | .setRegister => [.register]
  | .add => []
  | .call => [.scopeId]
  | .callExternal => [.scopeId]
  | .ret => []

def operandLength (i : Instruction) : Nat := i.operands.foldr (fun type rest => type.width + rest) 0

def recordLength (i : Instruction) : Nat := ValueType.opcode.width + i.operandLength

def ofOpcode? (opcode : UInt8) : Option Instruction := all.find? (·.opcode == opcode)

def ofMnemonic? (mnemonic : String) : Option Instruction := all.find? (·.mnemonic == mnemonic)

theorem ofOpcode?_opcode (i : Instruction) : ofOpcode? i.opcode = some i := by
  cases i <;> decide

theorem opcode_of_ofOpcode? {b : UInt8} {i : Instruction} (h : ofOpcode? b = some i) :
    i.opcode = b := by
  have := List.find?_some h
  simpa using this

end Instruction

end ScopeMachine
