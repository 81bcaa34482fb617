import ScopeMachine.Cli.Command
import Std.Time.DateTime

/-!
# The program

Reads the environment, the clock and the files that the arguments name, runs the command line on them,
and writes back what it printed and saved.
-/

namespace ScopeMachine.Cli

open Log

/-- The environment variables that matter. -/
def readEnvironment : IO Environment := do
  return {
    log := ← IO.getEnv Journal.levelVariable
    stackSize := ← IO.getEnv stackSizeVariable
    terminal := ← IO.getEnv "TERM"
    noColor := ← IO.getEnv "NO_COLOR" }

def readClock : IO Instant := do
  let now := (← Std.Time.Timestamp.now).val
  return Instant.ofClock now.second.val now.nano.val.toNat

/-- What is at a place in the file system. What is there and cannot be read counts as a directory. -/
def readEntry (place : Location) : IO (List (Location × Entry)) := do
  try
    let content ← IO.FS.readBinFile place.path
    return [(place, .file content.toList)]
  catch
    | .noFileOrDirectory .. => return []
    | _ => return [(place, .directory)]

/-- The files and directories that the arguments may lead through. -/
def readFiles (arguments : List String) : IO FileStore := do
  let places := arguments.flatMap fun path => (Location.start path).visited (Location.steps path)
  return ⟨(← places.eraseDups.mapM readEntry).flatten⟩

/-- Writes the files whose content is new. -/
def writeFiles (old new : FileStore) : IO Unit :=
  new.entries.forM fun (place, entry) =>
    match entry with
    | .file content =>
      if old.entry? place == some entry then pure ()
      else IO.FS.writeBinFile place.path ⟨content.toArray⟩
    | .directory | .null => pure ()

end ScopeMachine.Cli

open ScopeMachine.Cli in
def main (arguments : List String) : IO UInt32 := do
  let env ← readEnvironment
  let now ← readClock
  let files ← readFiles arguments
  let program := (← IO.appPath).toString
  let outcome := runProgram env now files program arguments
  IO.print outcome.output
  IO.eprint outcome.log
  writeFiles files outcome.files
  return outcome.status.toUInt32
