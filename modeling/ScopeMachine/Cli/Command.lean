import ScopeMachine.Cli.FileStore
import ScopeMachine.Cli.StackSize
import ScopeMachine.Log.Journal
import ScopeMachine.Machine
import ScopeMachine.Program

/-!
# The command line

The commands as computations on a terminal: what was printed, what was logged, and the files. Leaving
with a status other than zero is an error of the computation, and it keeps what was printed.
-/

namespace ScopeMachine.Cli

open Log

/-- What a command works on. -/
structure Terminal where
  output : String
  journal : Journal
  files : FileStore
deriving Repr

abbrev ExitStatus := Nat

/-- A computation on a terminal that may leave early. -/
abbrev Command := EStateM ExitStatus Terminal

namespace Command

def print (text : String) : Command Unit :=
  modify fun t => { t with output := t.output ++ text }

def printLine (text : String) : Command Unit := print (text ++ "\n")

def log (level : Level) (message : String) : Command Unit :=
  modify fun t => { t with journal := t.journal.log level message }

/-- Reports an error and leaves with status 1. -/
def reject {α : Type} (message : String) : Command α := do
  log .error message
  throw 1

/-- The value of a computation that may fail; a fault is reported. -/
def orReject {α : Type} : Except Fault α → Command α
  | .ok a => pure a
  | .error fault => reject fault.message

end Command

open Command

def usageLines (program : String) : List String :=
  ["Stack VM",
    "",
    "USAGE:",
    "    " ++ program ++ " run <program.svm> [--stack-size <bytes>]",
    "    " ++ program ++ " disasm <program.svm>",
    "    " ++ program ++ " demo [-o <program.svm>]",
    "",
    "COMMANDS:",
    "    run       Load a program and execute its start scope",
    "    disasm    Print every scope's instructions",
    "    demo      Run the built-in `print(4 + 2)` program, or write it with -o",
    "",
    "OPTIONS:",
    "    --stack-size <bytes>    Evaluation stack capacity (default 65536)",
    "    -o, --output <file>     Output file for `demo`",
    "    -h, --help              Print this help message",
    "",
    "ENVIRONMENT:",
    "    STACKVM_LOG           debug | info | warn | error",
    "    STACKVM_STACK_SIZE    Default evaluation stack capacity in bytes",
    "",
    "EXAMPLES:",
    "    " ++ program ++ " demo -o demo.svm",
    "    " ++ program ++ " disasm demo.svm",
    "    " ++ program ++ " run demo.svm --stack-size 1024"]

def usage (program : String) : String := String.join ((usageLines program).map (· ++ "\n"))

def stackSizeVariable : String := "STACKVM_STACK_SIZE"

/-- The stack size that the environment asks for. A value that is none is reported. -/
def stackSizeOf (env : Environment) : Command Nat :=
  match env.stackSize with
  | none => pure Stack.defaultCapacity
  | some raw =>
    match parseStackSize raw with
    | some n => pure n
    | none => do
      log .warn ("Ignoring " ++ stackSizeVariable ++ "='" ++ raw ++ "', using " ++
        toString Stack.defaultCapacity ++ " bytes")
      return Stack.defaultCapacity

def loadProgram (path : String) : Command Program := do
  match (← get).files.read path with
  | .error e => reject (Fault.io e.message).message
  | .ok content => orReject (Program.ofBytes content)

def saveProgram (p : Program) (path : String) : Command Unit := do
  match (← get).files.write path p.toBytes with
  | .error e => reject (Fault.io e.message).message
  | .ok files => modify fun t => { t with files := files }

abbrev Printed := Array Int32

/-- The external scope that prints: it pops a number. -/
def printCallback : Callback Printed := fun (stack, printed) =>
  match Stack.pop .i32 stack with
  | .error fault stack => .error fault (stack, printed)
  | .ok value stack => .ok () (stack, printed.push value)

/-- The table that programs are installed into: external scope 0 prints. -/
def hostTable : Except Fault (ScopeTable Printed) :=
  match ScopeTable.createExternal .empty with
  | .error fault _ => .error fault
  | .ok id table =>
    match ScopeTable.setCallback id printCallback table with
    | .error fault _ => .error fault
    | .ok () table => .ok table

/-- A machine that is ready to run a program. -/
def machineFor (p : Program) (stackSize : Nat) : Except Fault (Machine Printed) :=
  match hostTable with
  | .error fault => .error fault
  | .ok table =>
    match p.install table with
    | .error fault _ => .error fault
    | .ok start table =>
      .ok { Machine.initial #[] stackSize with scopes := table, start := start }

/-- The status after a panic, which is not logged. -/
def panicStatus : ExitStatus := 101

/-- A machine that is ready to run a program. Its stack is allocated after the program is installed. -/
def prepare (p : Program) (stackSize : Nat) : Command (Machine Printed) := do
  let machine ← orReject (machineFor p stackSize)
  if stackSize ≤ Stack.allocationLimit then return machine else throw panicStatus

def eventText : Event → String
  | .start scope => "run: start scope " ++ scope.text
  | .enter scope size => "enter scope " ++ scope.text ++ " (" ++ toString size ++ " bytes)"
  | .step _ offset instruction =>
    "  " ++ Text.alignRight 6 (toString offset) ++ ": " ++ instruction.mnemonic
  | .external scope => "xcall external scope " ++ scope.text
  | .leave scope => "leave scope " ++ scope.text

/-- Logs what a machine did and prints what it printed. -/
def showRun (m : Machine Printed) : Command Unit := do
  m.trace.forM fun event => log .debug (eventText event)
  m.host.forM fun value => printLine (toString value.toInt)

def runMachine (m : Machine Printed) : Command (Machine Printed) :=
  match Machine.run m with
  | .ok () m => do
    showRun m
    return m
  | .error (.fault fault) m => do
    showRun m
    reject fault.message
  | .error .tooDeep m => do
    showRun m
    reject "calls are nested too deeply"

/-- Runs the program in a file on a stack of the given size. -/
def runFile (path : String) (stackSize : Nat) : Command Unit := do
  let program ← loadProgram path
  let machine ← prepare program stackSize
  log .info ("Running " ++ path ++ " (" ++ toString program.scopes.length ++ " scopes, " ++
    toString stackSize ++ " byte stack)")
  let machine ← runMachine machine
  log .info ("Finished with " ++ toString machine.stack.top ++ " bytes left on the stack")

/-- The command `run <path> [--stack-size <bytes>]...`. -/
def runCommand (env : Environment) : List String → Command Unit
  | [] => reject "run requires a program file"
  | path :: options => do
    let preset ← stackSizeOf env
    match parseOptions preset options with
    | .error e => reject e.message
    | .ok stackSize => runFile path stackSize

def printScope (start : UInt32) (index : Nat) (code : Bytes) : Command Unit := do
  let marker := if index = start.toNat then " (start)" else ""
  printLine ("scope " ++ toString index ++ marker ++ ":")
  let listing ← orReject (Listing.ofBytes code)
  listing.forM fun (offset, op) =>
    printLine ("  " ++ Text.alignRight 6 (toString offset) ++ ": " ++ op.text)

/-- Prints the listings of several scopes, counted from `index`. -/
def printScopes (start : UInt32) (index : Nat) : List Bytes → Command Unit
  | [] => pure ()
  | code :: codes => do
    printScope start index code
    printScopes start (index + 1) codes

/-- The command `disasm <path>`. -/
def disasmCommand : List String → Command Unit
  | [] => reject "disasm requires a program file"
  | path :: _ => do
    let program ← loadProgram path
    printScopes program.start 0 program.scopes

/-- A program that prints the sum of 4 and 2. -/
def demoProgram : Program where
  scopes := [Operation.records [.pushConst 4, .pushConst 2, .add, .callExternal ⟨0⟩, .ret]]
  start := 0

/-- The command `demo [-o <path>]`. -/
def demoCommand (env : Environment) : List String → Command Unit
  | [] => do
    let stackSize ← stackSizeOf env
    let machine ← prepare demoProgram stackSize
    let _ ← runMachine machine
  | option :: rest =>
    if option = "-o" ∨ option = "--output" then
      match rest with
      | [] => reject (OptionError.missingArgument option).message
      | path :: _ => do
        saveProgram demoProgram path
        log .info ("Wrote demo program to " ++ path)
    else reject (OptionError.unexpectedArgument option).message

/-- The program: its name and its arguments. -/
def mainCommand (env : Environment) (program : String) (arguments : List String) : Command Unit := do
  modify fun t => { t with journal := t.journal.configure env }
  match arguments with
  | [] =>
    print (usage program)
    throw 1
  | command :: rest =>
    if command = "--help" ∨ command = "-h" then print (usage program)
    else if command = "run" then runCommand env rest
    else if command = "disasm" then disasmCommand rest
    else if command = "demo" then demoCommand env rest
    else
      log .error ("Unknown command: " ++ command ++ "\n")
      print (usage program)
      throw 1

/-- What a program run leaves behind. -/
structure Outcome where
  status : ExitStatus
  output : String
  log : String
  files : FileStore
deriving Repr

def runProgram (env : Environment) (now : Instant) (files : FileStore) (program : String)
    (arguments : List String) : Outcome :=
  let terminal : Terminal := ⟨"", .initial env.colours now, files⟩
  match mainCommand env program arguments terminal with
  | .ok () t => ⟨0, t.output, t.journal.text, t.files⟩
  | .error status t => ⟨status, t.output, t.journal.text, t.files⟩

end ScopeMachine.Cli
