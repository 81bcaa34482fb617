import ScopeMachine.Stack
import ScopeMachine.Text

/-!
# Stack sizes on the command line

A stack size is a positive decimal number of 64 bits. It is given by options, of which the last one
counts, or by the environment.
-/

namespace ScopeMachine.Cli

/-- The number that decimal digits stand for, if there is at least one and all are digits. -/
def digitsValue? (digits : List Char) : Option Nat :=
  if digits.isEmpty || !digits.all Char.isDigit then none
  else some (digits.foldl (fun n c => 10 * n + (c.toNat - '0'.toNat)) 0)

/-- A text without one leading plus sign. -/
def dropPlus : List Char → List Char
  | '+' :: rest => rest
  | text => text

def parseStackSize (raw : String) : Option Nat :=
  match digitsValue? (dropPlus (Text.trim raw.toList)) with
  | some n => if 0 < n ∧ n < UInt64.size then some n else none
  | none => none

inductive OptionError where
  | missingArgument (option : String)
  | invalidStackSize (value : String)
  | unexpectedArgument (argument : String)
deriving DecidableEq, Repr

namespace OptionError

def message : OptionError → String
  | .missingArgument option => option ++ " requires an argument"
  | .invalidStackSize value => "Invalid stack size: '" ++ value ++ "' is not a positive number"
  | .unexpectedArgument argument => "Unexpected argument: " ++ argument

end OptionError

def stackSizeOption : String := "--stack-size"

/-- The stack size after the options, where `size` is the one before them. -/
def parseOptions (size : Nat) : List String → Except OptionError Nat
  | [] => .ok size
  | argument :: rest =>
    if argument = stackSizeOption then
      match rest with
      | [] => .error (.missingArgument argument)
      | value :: rest =>
        match parseStackSize value with
        | some n => parseOptions n rest
        | none => .error (.invalidStackSize value)
    else .error (.unexpectedArgument argument)

end ScopeMachine.Cli
