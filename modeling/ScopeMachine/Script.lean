import ScopeMachine.Machine

/-!
# Scripted callbacks

Callbacks that are given as data: a list of actions on the evaluation stack, ended by its first fault.
What the actions read is noted in the host's state, which also counts the invocations of each script.
-/

namespace ScopeMachine

/-- A typed operation of the evaluation stack with its arguments. -/
inductive StackAction where
  | push (type : CellType) (value : type.Value)
  | pop (type : CellType)
  | peek (type : CellType)
  | get (type : CellType) (address : StackAddress)
  | set (type : CellType) (address : StackAddress) (value : type.Value)

namespace StackAction

/-- Performs the operation and gives what it reads. -/
def perform : StackAction → StackM (Option Int)
  | .push t v => do Stack.push t v; return none
  | .pop t => do return some (t.toInt (← Stack.pop t))
  | .peek t => do return some (t.toInt (← Stack.peek t))
  | .get t a => do return some (t.toInt (← Stack.get t a))
  | .set t a v => do Stack.set t a v; return none

end StackAction

inductive ScriptAction where
  | stack (action : StackAction)
  /-- Pushes how often the script was invoked, this time included. -/
  | count
  /-- Pushes the topmost value once more. -/
  | dup
  /-- Doubles the topmost value. -/
  | double
  /-- Notes the number of live bytes. -/
  | depth
  /-- Fails with a reason. -/
  | fail (reason : String)

/-- The state of a host that runs scripts. -/
structure ScriptHost where
  /-- How often each script was invoked. -/
  calls : Array Nat
  /-- What the scripts read. -/
  seen : Array Int
deriving DecidableEq, Repr

namespace ScriptHost

def empty : ScriptHost := ⟨#[], #[]⟩

/-- Makes room for one more script and gives its number. -/
def register (host : ScriptHost) : Nat × ScriptHost :=
  (host.calls.size, { host with calls := host.calls.push 0 })

/-- Counts an invocation. -/
def enter (host : ScriptHost) (script : Nat) : ScriptHost :=
  { host with calls := host.calls.modify script (· + 1) }

def clear (host : ScriptHost) : ScriptHost := { host with seen := #[] }

def note (host : ScriptHost) (value : Int) : ScriptHost := { host with seen := host.seen.push value }

end ScriptHost

namespace ScriptAction

/-- Performs the action on the stack and gives what there is to note. `invocation` counts the
invocations of the script. -/
def perform (invocation : Nat) : ScriptAction → StackM (Option Int)
  | .stack action => action.perform
  | .count => do Stack.push .i32 (Int32.ofNat invocation); return none
  | .dup => do
    let v ← Stack.peek .i32
    Stack.push .i32 v
    return none
  | .double => do
    let v ← Stack.pop .i32
    Stack.push .i32 (v + v)
    return none
  | .depth => fun s => .ok (some s.top) s
  | .fail reason => fun s => .error (.decoding reason) s

end ScriptAction

namespace Script

/-- Performs actions in order, up to the first fault. -/
def runActions (invocation : Nat) : List ScriptAction → Callback ScriptHost
  | [], state => .ok () state
  | action :: actions, (stack, host) =>
    match action.perform invocation stack with
    | .error fault stack => .error fault (stack, host)
    | .ok none stack => runActions invocation actions (stack, host)
    | .ok (some value) stack => runActions invocation actions (stack, host.note value)

/-- The callback of the script with the given number. -/
def callback (script : Nat) (actions : List ScriptAction) : Callback ScriptHost := fun (stack, host) =>
  let host := host.enter script
  runActions (host.calls.getD script 0) actions (stack, host)

/-- Attaches a new script, which was never invoked, to an external scope. -/
def attach (id : ScopeId) (actions : List ScriptAction) : Run ScriptHost Unit := fun m =>
  let (script, host) := m.host.register
  Machine.onScopes (ScopeTable.setCallback id (callback script actions)) { m with host := host }

end Script

end ScopeMachine
