import ScopeMachine.Instruction
import ScopeMachine.Register
import ScopeMachine.Wire.Reader

/-!
# Faults

Everything that can go wrong in the machine and around it, with its category and its message.
-/

namespace ScopeMachine

inductive FaultKind where
  | runtime
  | invalidArgument
  | outOfRange
  | notImplemented
  | capacity
  | size
  | unsupportedInstruction
deriving DecidableEq, Repr

/-- Why an operation failed. -/
inductive Fault where
  | stackOverflow (requested available : Nat)
  | stackUnderflow (requested available : Nat)
  | invalidStackAddress (address : StackAddress) (width base top : Nat)
  | instructionMismatch (expected : Instruction) (actual : UInt8) (offset : Nat)
  | invalidRegister (register : Register) (expected : RegisterKind)
  | unknownRegister (id : UInt8) (offset : Nat)
  | scopeTableFull (issued : Nat)
  | unknownScope (scope : ScopeId)
  | unknownExternalScope (scope : ScopeId)
  | unexpectedEnd (offset requested available : Nat)
  | missingCallback (scope : ScopeId)
  | unsupportedInstruction (opcode : UInt8) (offset : Nat)
  | decoding (reason : String)
  | io (reason : String)
deriving DecidableEq, Repr

namespace Fault

/-- Bytes that could not be read. -/
def ofReadError (e : Wire.ReadError) : Fault := .decoding e.message

def kind : Fault → FaultKind
  | .stackOverflow .. => .capacity
  | .stackUnderflow .. => .size
  | .invalidStackAddress .. => .invalidArgument
  | .instructionMismatch .. => .invalidArgument
  | .invalidRegister .. => .invalidArgument
  | .unknownRegister .. => .invalidArgument
  | .scopeTableFull .. => .capacity
  | .unknownScope .. => .outOfRange
  | .unknownExternalScope .. => .outOfRange
  | .unexpectedEnd .. => .outOfRange
  | .missingCallback .. => .notImplemented
  | .unsupportedInstruction .. => .unsupportedInstruction
  | .decoding .. => .runtime
  | .io .. => .runtime

def message : Fault → String
  | .stackOverflow requested available =>
    s!"stack overflow: requested {requested} bytes, {available} available"
  | .stackUnderflow requested available =>
    s!"stack underflow: requested {requested} bytes, {available} live"
  | .invalidStackAddress address width base top =>
    s!"invalid stack address {address.offset} for a {width}-byte value (live region {base}..{top})"
  | .instructionMismatch expected actual offset =>
    Text.hexByte actual ++ s!" at offset {offset} is not valid for this instruction, expected " ++
      expected.mnemonic
  | .invalidRegister register expected =>
    "register " ++ register.text ++ " is not a " ++ expected.text ++ " register"
  | .unknownRegister id offset =>
    "unknown register id " ++ Text.hexByte id ++ s!" in record at offset {offset}"
  | .scopeTableFull issued => s!"scope table full after {issued} scopes"
  | .unknownScope scope => "unknown scope " ++ scope.text
  | .unknownExternalScope scope => "unknown external scope " ++ scope.text
  | .unexpectedEnd offset requested available =>
    s!"unexpected end of bytecode at offset {offset}: needed {requested} bytes, {available} left"
  | .missingCallback scope => "external scope " ++ scope.text ++ " has no callback"
  | .unsupportedInstruction opcode offset =>
    "unsupported instruction " ++ Text.hexByte opcode ++ s!" at offset {offset}"
  | .decoding reason => "decoding error: " ++ reason
  | .io reason => "io error: " ++ reason

end Fault

end ScopeMachine
