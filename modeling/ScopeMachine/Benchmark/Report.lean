import ScopeMachine.Benchmark.Binary64
import ScopeMachine.Benchmark.Case
import ScopeMachine.Text

/-!
# The benchmark report

Each case is run until two seconds have passed, and the report gives the average time of a run and of
an instruction. The clock is given as the times that pass before each of its readings.
-/

namespace ScopeMachine.Benchmark

/-- A clock whose readings are known beforehand. -/
structure Clock where
  /-- The nanoseconds that pass before each reading; they repeat. -/
  ticks : List Nat
  /-- The ticks that are left before they repeat. -/
  pending : List Nat
  now : Nat
deriving DecidableEq, Repr

namespace Clock

/-- A clock that stands at zero. -/
def ofTicks (ticks : List Nat) : Clock := ⟨ticks, ticks, 0⟩

def read (c : Clock) : Nat × Clock :=
  match c.pending with
  | tick :: pending => (c.now + tick, { c with pending := pending, now := c.now + tick })
  | [] =>
    match c.ticks with
    | tick :: pending => (c.now + tick, { c with pending := pending, now := c.now + tick })
    | [] => (c.now, c)

end Clock

/-- How long each case runs at least. -/
def leastDuration : Nat := 2000000000

/-- Runs a case until the least duration has passed since `start`, in at most `limit` runs. Gives the
number of runs. -/
def countRuns (start : Nat) : (limit : Nat) → (runs : Nat) → Clock → Nat × Clock
  | 0, runs, clock => (runs, clock)
  | limit + 1, runs, clock =>
    let (now, clock) := clock.read
    if now - start < leastDuration then countRuns start limit (runs + 1) clock else (runs, clock)

/-- A bound on the runs of a case: in each round of the ticks their sum passes. -/
def runLimit (clock : Clock) : Nat :=
  (leastDuration / clock.ticks.foldl (· + ·) 0 + 2) * (clock.ticks.length + 1)

/-- The measured times of a case. -/
structure Measurement where
  runs : Nat
  /-- The nanoseconds that all runs took. -/
  total : Nat
deriving DecidableEq, Repr

def measure (clock : Clock) : Measurement × Clock :=
  let (start, clock) := clock.read
  let (runs, clock) := countRuns start (runLimit clock) 0 clock
  let (now, clock) := clock.read
  (⟨runs, now - start⟩, clock)

namespace Measurement

/-- The average time of a run in whole nanoseconds. The runs are counted with 32 bits; there is no
average of none. -/
def average? (m : Measurement) : Option Nat :=
  let runs := m.runs % UInt32.size
  if runs = 0 then none else some (m.total / runs)

end Measurement

/-- The average time per instruction in a column of the report. -/
def perInstruction (average instructions : Nat) : String :=
  if instructions = 0 then "       -"
  else Text.alignRight 8 (((Binary64.ofNat average).div (.ofNat instructions)).toFixed 1)

def row (name : String) (runs average instructions : Nat) : String :=
  "  " ++ Text.alignLeft 30 name ++ " " ++ Text.alignRight 7 (toString runs) ++ " iters " ++
    Text.alignRight 10 (((Binary64.ofNat average).div (.ofNat 1000)).toFixed 3) ++ " us/iter " ++
    Text.alignRight 10 (toString instructions) ++ " instrs  " ++ perInstruction average instructions ++
    " ns/instr\n"

def header : String :=
  "VM Benchmarks (each runs for >= 2s)\n\n" ++
    "  " ++ Text.alignLeft 30 "benchmark" ++ " " ++ Text.alignRight 7 "iters" ++ "       " ++
    Text.alignRight 14 "avg time" ++ " " ++ Text.alignRight 17 "instrs/run" ++ "  " ++
    Text.alignRight 10 "ns/instr" ++ "\n" ++
    "  " ++ String.ofList (List.replicate 86 '-') ++ "\n"

/-- The status of a program that breaks off. -/
def brokenOff : Nat := 101

/-- Reports the cases that are left. The report breaks off at a case that faults or was not run. -/
def reportCases (output : String) (clock : Clock) : List Case → Nat × String
  | [] => (0, output ++ "\n")
  | c :: rest =>
    match c.instructions? with
    | none => (brokenOff, output)
    | some instructions =>
      let (measurement, clock) := measure clock
      match measurement.average? with
      | none => (brokenOff, output)
      | some average =>
        reportCases (output ++ row c.name measurement.runs average instructions) clock rest

/-- The exit status and the text of the report under a clock. -/
def report (clock : Clock) : Nat × String := reportCases header clock cases

end ScopeMachine.Benchmark
