import ScopeMachine.Log.Calendar

/-!
# The journal

The text that the program logs. Records below the least level are left out, and a record may carry a
timestamp, its level and colours.
-/

namespace ScopeMachine.Log

/-- How important a log record is. -/
inductive Level where
  | debug
  | info
  | warn
  | error
deriving DecidableEq, Repr

namespace Level

/-- The position in the order of importance. -/
def rank : Level → Nat
  | .debug => 0
  | .info => 1
  | .warn => 2
  | .error => 3

/-- The name that records carry. -/
def text : Level → String
  | .debug => "DEBUG"
  | .info => "INFO"
  | .warn => "WARN"
  | .error => "ERROR"

/-- The level of a name. Blank ends and the case of ASCII letters do not matter. -/
def parse (name : String) : Option Level :=
  match String.ofList ((Text.trim name.toList).map Char.toLower) with
  | "debug" | "trace" => some .debug
  | "info" => some .info
  | "warn" | "warning" => some .warn
  | "error" => some .error
  | _ => none

end Level

/-- What a journal needs to know of the environment. -/
structure Environment where
  /-- The name of the least level. -/
  log : Option String
  /-- The stack size, as a text. -/
  stackSize : Option String
  /-- The value of `TERM`. -/
  terminal : Option String
  /-- The value of `NO_COLOR`. -/
  noColor : Option String
deriving DecidableEq, Repr

namespace Environment

/-- Whether records are coloured: the terminal must have a name other than `dumb`, and colours must
not be switched off. -/
def colours (env : Environment) : Bool :=
  match env.terminal with
  | none => false
  | some terminal => terminal != "dumb" && env.noColor.isNone

end Environment

/-- A log and the settings of its records. -/
structure Journal where
  level : Level
  showTimestamp : Bool
  showType : Bool
  colours : Bool
  /-- The moment that the records show. -/
  now : Instant
  /-- What was logged. -/
  text : String
deriving DecidableEq, Repr

namespace Journal

def levelVariable : String := "STACKVM_LOG"

/-- An empty journal with the settings that a program begins with. -/
def initial (colours : Bool) (now : Instant) : Journal where
  level := .info
  showTimestamp := true
  showType := true
  colours := colours
  now := now
  text := ""

/-- Whether records of the level are kept. -/
def enabled (j : Journal) (level : Level) : Bool := j.level.rank ≤ level.rank

/-- The control sequence that takes colours back. -/
def plain : String := "\x1b[0m"

/-- The control sequences before a coloured record. -/
def style : Level → String
  | .debug => plain ++ "\x1b[36m"
  | .info => plain
  | .warn => plain ++ "\x1b[1m\x1b[33m"
  | .error => plain ++ "\x1b[1m\x1b[31m"

def record (j : Journal) (level : Level) (message : String) : String :=
  let stamp := if j.showTimestamp then j.now.timestamp else ""
  let type := if j.showType then "[" ++ level.text ++ "] " else ""
  let line := stamp ++ type ++ message ++ "\n"
  if j.colours then style level ++ line ++ plain else line

/-- Writes a record, whatever its level. -/
def write (j : Journal) (level : Level) (message : String) : Journal :=
  { j with text := j.text ++ j.record level message }

/-- Writes a record unless its level is too low. -/
def log (j : Journal) (level : Level) (message : String) : Journal :=
  if j.enabled level then j.write level message else j

/-- Takes the least level from the environment. A value that is no level is reported. -/
def configure (j : Journal) (env : Environment) : Journal :=
  match env.log with
  | none => j
  | some raw =>
    match Level.parse raw with
    | some level => { j with level := level }
    | none => j.write .warn ("ignoring unknown " ++ levelVariable ++ " value '" ++ raw ++ "'")

end Journal

end ScopeMachine.Log
