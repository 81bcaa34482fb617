import ScopeMachine.Machine

/-!
# Benchmark cases

Four programs that exercise one feature of the machine each. They run on a small stack that is fresh
for every run, so every run of a case does the same.
-/

namespace ScopeMachine.Benchmark

/-- A named program for the machine. -/
structure Case where
  name : String
  /-- The table of the program and its start scope. -/
  table : Except Fault (ScopeTable Unit × ScopeId)

def stackCapacity : Nat := 64

/-- Creates a scope with the given operations. -/
def createCode (ops : List Operation) : TableM Unit ScopeId := do
  let id ← ScopeTable.createScope
  ScopeTable.setCode id (Operation.records ops)
  return id

/-- The table that a computation fills, and the start scope that it gives. -/
def build (setup : TableM Unit ScopeId) : Except Fault (ScopeTable Unit × ScopeId) :=
  match setup .empty with
  | .ok start table => .ok (table, start)
  | .error fault _ => .error fault

/-- Pushes a number, and then `pairs` times pushes another one and adds it. -/
def arithmetic (pairs : Nat) : TableM Unit ScopeId :=
  createCode (.pushConst 0 :: (List.range pairs).flatMap fun i => [.pushConst (Int32.ofNat i), .add])

/-- Calls a scope that returns at once. -/
def callOverhead (calls : Nat) : TableM Unit ScopeId := do
  let callee ← createCode [.ret]
  createCode (List.replicate calls (.call callee))

/-- The external scope that drops a number. -/
def dropCallback : Callback Unit := fun (stack, host) =>
  match Stack.pop .i32 stack with
  | .error fault stack => .error fault (stack, host)
  | .ok _ stack => .ok () (stack, host)

/-- Pushes a number and calls an external scope that drops it. -/
def externalOverhead (calls : Nat) : TableM Unit ScopeId := do
  let sink ← ScopeTable.createExternal
  ScopeTable.setCallback sink dropCallback
  createCode ((List.range calls).flatMap fun i => [.pushConst (Int32.ofNat i), .callExternal sink])

/-- Creates a chain of scopes that each add one and call the scope created before; gives the last
one. -/
def createChain : (length : Nat) → TableM Unit (Option ScopeId)
  | 0 => pure none
  | length + 1 => do
    let callee ← createChain length
    let id ← createCode ([.pushConst 1, .add] ++ (callee.map Operation.call).toList)
    return some id

/-- Pushes a number and calls the end of a chain of scopes. -/
def nestedCalls (depth : Nat) : TableM Unit ScopeId := do
  let callee ← createChain depth
  createCode (.pushConst 0 :: (callee.map Operation.call).toList)

/-- The cases in the order of the report. -/
def cases : List Case :=
  [⟨"arithmetic(10K)", build (arithmetic 10000)⟩,
    ⟨"call_overhead(10K)", build (callOverhead 10000)⟩,
    ⟨"xcall_overhead(10K)", build (externalOverhead 10000)⟩,
    ⟨"nested_calls(64)", build (nestedCalls 64)⟩]

/-- The number of instructions that one run of the case executes, if it runs without a fault. -/
def Case.instructions? (c : Case) : Option Nat :=
  match c.table with
  | .error _ => none
  | .ok (table, start) =>
    match Machine.run { Machine.initial () stackCapacity with scopes := table, start := start } with
    | .error _ _ => none
    | .ok () m => some (m.trace.toList.countP fun
      | .step .. => true
      | _ => false)

end ScopeMachine.Benchmark
