import ScopeMachine.Cursor
import ScopeMachine.Fault

/-!
# Operations and their records

An operation is an instruction with its operands. `Operation.record` is its byte string;
`Cursor.peekInstruction`, `Cursor.readAs`, `Cursor.operation` and `Cursor.next` take records apart
again at a position in code, each with its own checks. The listing of a byte string is the sequence of
operations that its records stand for, each with its offset; it exists only if the bytes are records
throughout.
-/

namespace ScopeMachine

/-- An instruction with its operands. -/
inductive Operation where
  | nop
  | pushConst (value : Int32)
  | pushRegister (register : Register)
  | setRegister (register : Register)
  | add
  | call (scope : ScopeId)
  | callExternal (scope : ScopeId)
  | ret
deriving DecidableEq, Repr

namespace Operation

def instruction : Operation → Instruction
  | .nop => .nop
  | .pushConst _ => .pushConst
  | .pushRegister _ => .pushRegister
  | .setRegister _ => .setRegister
  | .add => .add
  | .call _ => .call
  | .callExternal _ => .callExternal
  | .ret => .ret

def operandBytes : Operation → Bytes
  | .pushConst value => CellType.i32.encode value
  | .pushRegister register => [register.id]
  | .setRegister register => [register.id]
  | .call scope => Bytes.ofNat 4 scope.raw.toNat
  | .callExternal scope => Bytes.ofNat 4 scope.raw.toNat
  | .nop | .add | .ret => []

/-- The opcode and the operands. -/
def record (op : Operation) : Bytes := op.instruction.opcode :: op.operandBytes

/-- The records of several operations, one after the other. -/
def records (ops : List Operation) : Bytes := ops.flatMap record

/-- The operand as listings show it. -/
def operandText : Operation → Option String
  | .pushConst value => some (toString value.toInt)
  | .pushRegister register => some register.text
  | .setRegister register => some register.text
  | .call scope => some scope.text
  | .callExternal scope => some scope.text
  | .nop | .add | .ret => none

/-- The mnemonic, and the operand after a space. -/
def text (op : Operation) : String :=
  match op.operandText with
  | none => op.instruction.mnemonic
  | some operand => op.instruction.mnemonic ++ " " ++ operand

@[simp] theorem length_record (op : Operation) :
    op.record.length = op.instruction.recordLength := by
  cases op <;>
    simp [record, operandBytes, instruction, Instruction.recordLength, Instruction.operandLength,
      Instruction.operands, ValueType.width, CellType.width]

/-- The operand that a reader takes off the operand bytes. -/
def operand {α : Type} (reader : Wire.Reader α) (operands : Bytes) : Except Fault α :=
  match reader operands with
  | .error e _ => .error (.ofReadError e)
  | .ok a _ => .ok a

/-- The register that the operand byte names. -/
def registerOperand (offset : Nat) (operands : Bytes) : Except Fault Register :=
  match operand Wire.Reader.byte operands with
  | .error fault => .error fault
  | .ok id =>
    match Register.ofId? id with
    | some register => .ok register
    | none => .error (.unknownRegister id offset)

/-- The scope that the operand bytes name. -/
def scopeOperand (operands : Bytes) : Except Fault ScopeId :=
  match operand (Wire.Reader.int .u32) operands with
  | .error fault => .error fault
  | .ok raw => .ok ⟨UInt32.ofInt raw⟩

/-- The operation of an instruction whose operand bytes are given. -/
def ofOperands (offset : Nat) (operands : Bytes) : Instruction → Except Fault Operation
  | .nop => .ok .nop
  | .pushConst => .pushConst <$> operand CellType.i32.read operands
  | .pushRegister => .pushRegister <$> registerOperand offset operands
  | .setRegister => .setRegister <$> registerOperand offset operands
  | .add => .ok .add
  | .call => .call <$> scopeOperand operands
  | .callExternal => .callExternal <$> scopeOperand operands
  | .ret => .ok .ret

end Operation

namespace Instruction

/-- The instruction whose opcode stands at `offset`. -/
def ofOpcode (opcode : UInt8) (offset : Nat) : Except Fault Instruction :=
  match ofOpcode? opcode with
  | some instruction => .ok instruction
  | none => .error (.unsupportedInstruction opcode offset)

end Instruction

namespace Cursor

/-- The instruction at the cursor. Only the opcode byte is looked at. -/
def peekInstruction (c : Cursor) : Except Fault Instruction :=
  match c.rest with
  | [] => .error (.unexpectedEnd c.offset ValueType.opcode.width c.remaining)
  | opcode :: _ => Instruction.ofOpcode opcode c.offset

/-- Moves over the record that the cursor stands on. The operands are not looked at. -/
def next (c : Cursor) : EStateM.Result Fault Cursor Unit :=
  match c.peekInstruction with
  | .error fault => .error fault c
  | .ok instruction =>
    let length := instruction.recordLength
    if c.remaining < length then .error (.unexpectedEnd c.offset length c.remaining) c
    else .ok () (c.skip length)

/-- The operand bytes of the record at the cursor, which must be one of the expected instruction. -/
def readRecord (c : Cursor) (expected : Instruction) : Except Fault Bytes :=
  let length := expected.recordLength
  match c.rest with
  | [] => .error (.unexpectedEnd c.offset length c.remaining)
  | opcode :: _ =>
    if opcode ≠ expected.opcode then .error (.instructionMismatch expected opcode c.offset)
    else
      match c.peek length with
      | none => .error (.unexpectedEnd c.offset length c.remaining)
      | some record => .ok (record.drop ValueType.opcode.width)

/-- The operation at the cursor, read as one of the expected instruction. -/
def readAs (c : Cursor) (expected : Instruction) : Except Fault Operation :=
  match c.readRecord expected with
  | .error fault => .error fault
  | .ok operands => Operation.ofOperands c.offset operands expected

def operation (c : Cursor) : Except Fault Operation :=
  match c.peekInstruction with
  | .error fault => .error fault
  | .ok instruction => c.readAs instruction

end Cursor

/-! ## Listings -/

/-- Operations with their offsets in the code. -/
abbrev Listing := List (Nat × Operation)

namespace Listing

/-- The operations from a cursor on, at most `limit` of them. -/
def ofCursor : (limit : Nat) → Cursor → Except Fault Listing
  | 0, _ => .ok []
  | limit + 1, c =>
    if c.hasData then
      match c.operation with
      | .error fault => .error fault
      | .ok op =>
        match c.next with
        | .error fault _ => .error fault
        | .ok () following =>
          match ofCursor limit following with
          | .error fault => .error fault
          | .ok entries => .ok ((c.offset, op) :: entries)
    else .ok []

/-- The operations of a byte string. A record has at least one byte, so their number is bounded by
the length of the code. -/
def ofBytes (code : Bytes) : Except Fault Listing := ofCursor code.length (Cursor.ofBytes code)

/-- The operations without their offsets. -/
def operations (listing : Listing) : List Operation := listing.map (·.2)

end Listing

end ScopeMachine
