import ScopeMachine.Operation
import ScopeMachine.RegisterFile
import ScopeMachine.ScopeTable

/-!
# The machine

A machine runs the code of a scope over an evaluation stack, a register file and a scope table. Code
is decoded in place, one record at a time: the opcode is looked at, the record is read, the operation
is performed, and only then the cursor moves on. A call runs another scope to its end first. The first
fault ends the run and leaves the machine as it was at that moment.

Nested calls need not end, so `Machine.executeWithin` takes the depth that calls may reach and stops
with `Stop.tooDeep` beyond it; `Machine.execute` and `Machine.run` choose the depth from the machine.
The trace records what was executed.
-/

namespace ScopeMachine

/-- What the machine did. -/
inductive Event where
  /-- A run began with the given scope. -/
  | start (scope : ScopeId)
  /-- A scope was entered; its code has the given number of bytes. -/
  | enter (scope : ScopeId) (size : Nat)
  /-- An instruction was found at an offset of a scope. -/
  | step (scope : ScopeId) (offset : Nat) (instruction : Instruction)
  /-- An external scope was called. -/
  | external (scope : ScopeId)
  /-- A scope came to its end. -/
  | leave (scope : ScopeId)
deriving DecidableEq, Repr

/-- Why a run ended early. -/
inductive Stop where
  | fault (fault : Fault)
  /-- Calls went deeper than allowed. -/
  | tooDeep
deriving DecidableEq, Repr

/-- The state of a machine whose host has the state `σ`. -/
structure Machine (σ : Type) where
  stack : Stack
  registers : RegisterFile
  scopes : ScopeTable σ
  start : ScopeId
  host : σ
  trace : Array Event

abbrev Run (σ : Type) := EStateM Stop (Machine σ)

/-- How a scope goes on after an operation. -/
inductive Flow where
  | next
  | leave
deriving DecidableEq, Repr

namespace Machine

variable {σ : Type}

/-- A machine with zeroed registers, no scopes and no start scope. -/
def initial (host : σ) (capacity : Nat) : Machine σ where
  stack := .empty capacity
  registers := .zero
  scopes := .empty
  start := .invalid
  host := host
  trace := #[]

/-- The machine with one more event in its trace. -/
def record (m : Machine σ) (event : Event) : Machine σ := { m with trace := m.trace.push event }

def onStack {α : Type} (op : StackM α) : Run σ α := fun ⟨stack, registers, scopes, start, host, trace⟩ =>
  match op stack with
  | .ok a stack => .ok a ⟨stack, registers, scopes, start, host, trace⟩
  | .error fault stack => .error (.fault fault) ⟨stack, registers, scopes, start, host, trace⟩

def onScopes {α : Type} (op : TableM σ α) : Run σ α := fun m =>
  match op m.scopes with
  | .ok a scopes => .ok a { m with scopes := scopes }
  | .error fault scopes => .error (.fault fault) { m with scopes := scopes }

/-- Invokes an external scope on the evaluation stack. -/
def invoke (scope : ScopeId) : Run σ Unit := fun m =>
  match m.scopes.externalScope scope with
  | .error fault => .error (.fault fault) m
  | .ok external =>
    match external.invoke (m.stack, m.host) with
    | .ok () (stack, host) => .ok () { m with stack := stack, host := host }
    | .error fault (stack, host) => .error (.fault fault) { m with stack := stack, host := host }

/-- Pushes the low half of a general register. The register is checked before the stack. -/
def pushRegister (register : Register) : Run σ Unit := fun m =>
  match m.registers.getGeneral register with
  | .error fault => .error (.fault fault) m
  | .ok value => onStack (Stack.push .i32 value.toInt32) m

/-- Pops a value into a general register, with its sign extended. The stack is checked before the
register. -/
def setRegister (register : Register) : Run σ Unit := fun m =>
  match onStack (Stack.pop .i32) m with
  | .error stop m => .error stop m
  | .ok value m =>
    match m.registers.setGeneral value.toInt64 register with
    | .error fault registers => .error (.fault fault) { m with registers := registers }
    | .ok () registers => .ok () { m with registers := registers }

/-- Replaces the two topmost values by their sum, which wraps around. -/
def add : Run σ Unit := fun m =>
  match onStack (Stack.pop .i32) m with
  | .error stop m => .error stop m
  | .ok a m =>
    match onStack (Stack.pop .i32) m with
    | .error stop m => .error stop m
    | .ok b m => onStack (Stack.push .i32 (a + b)) m

/-- The scope goes on after a computation. -/
def andNext (op : Run σ Unit) : Run σ Flow := fun m =>
  match op m with
  | .error stop m => .error stop m
  | .ok () m => .ok .next m

/-- Performs one operation, with `call` for running another scope. -/
def perform (call : ScopeId → Run σ Unit) : Operation → Run σ Flow
  | .nop => fun m => .ok .next m
  | .pushConst value => andNext (onStack (Stack.push .i32 value))
  | .pushRegister register => andNext (pushRegister register)
  | .setRegister register => andNext (setRegister register)
  | .add => andNext add
  | .call scope => andNext (call scope)
  | .callExternal scope => andNext fun m => invoke scope (m.record (.external scope))
  | .ret => fun m => .ok .leave m

/-- Runs the code of a scope from a cursor on, through at most `limit` operations. -/
def runFrom (call : ScopeId → Run σ Unit) (scope : ScopeId) : (limit : Nat) → Cursor → Run σ Unit
  | 0, _, m => .ok () m
  | limit + 1, c, m =>
    if c.hasData then
      match c.peekInstruction with
      | .error fault => .error (.fault fault) m
      | .ok instruction =>
        match c.readAs instruction with
        | .error fault => .error (.fault fault) (m.record (.step scope c.offset instruction))
        | .ok op =>
          match perform call op (m.record (.step scope c.offset instruction)) with
          | .error stop m => .error stop m
          | .ok .leave m => .ok () m
          | .ok .next m =>
            match c.next with
            | .error fault _ => .error (.fault fault) m
            | .ok () following => runFrom call scope limit following m
    else .ok () m

/-- Runs a scope to its end, with calls nested at most `depth` deep. A record has at least one byte,
so the length of the code bounds the number of operations. -/
def executeWithin : (depth : Nat) → ScopeId → Run σ Unit
  | 0, _, m => .error .tooDeep m
  | depth + 1, id, m =>
    match m.scopes.scope id with
    | .error fault => .error (.fault fault) m
    | .ok s =>
      match runFrom (executeWithin depth) id s.code.length (Cursor.ofBytes s.code)
          (m.record (.enter id s.code.length)) with
      | .error stop m => .error stop m
      | .ok () m => .ok () (m.record (.leave id))

/-- The depth that calls may reach. With callbacks whose effect on the height of the stack is fixed, a
deeper run would enter some scope twice at the same height, and then it would never end. -/
def depthLimit (m : Machine σ) : Nat := (m.scopes.internal.size + 1) * (m.stack.capacity + 1) + 1

def execute (scope : ScopeId) : Run σ Unit := fun m => executeWithin m.depthLimit scope m

/-- Runs the start scope to its end. -/
def run : Run σ Unit := fun m => execute m.start (m.record (.start m.start))

end Machine

end ScopeMachine
