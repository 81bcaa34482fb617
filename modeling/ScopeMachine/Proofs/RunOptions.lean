import ScopeMachine.Cli.Command
import ScopeMachine.Proofs.Readers
import ScopeMachine.Proofs.TextReading

/-!
# The options of the run command

A stack size is a decimal number between blanks (`Cli.parseStackSize_eq_some_iff`). The options are pairs of the option's
name and a stack size, of which the last one counts. Anything else is refused for its leftmost bad argument, before a
file is read (`Cli.run_options_follow_grammar`). `Cli.RunsFile` says what a run with accepted options comes to: the
program in the file is loaded, installed and run on a stack of that size.
-/

namespace ScopeMachine

namespace Cli

open Log

/-! ## Stack sizes -/

/-- Texts that are a decimal number: perhaps a plus sign, and then at least one digit. -/
def IsNumeral (text : List Char) (n : Nat) : Prop :=
  ∃ sign digits, text = sign ++ digits ∧ (sign = [] ∨ sign = ['+']) ∧ digits ≠ [] ∧
    (∀ c ∈ digits, c.isDigit = true) ∧ Nat.ofDigits 10 (digits.reverse.map fun c => c.toNat - '0'.toNat) = n

lemma IsNumeral.trim {text : List Char} {n : Nat} (h : IsNumeral text n) {lead tail : List Char}
    (hlead : ∀ c ∈ lead, Text.isBlank c = true) (htail : ∀ c ∈ tail, Text.isBlank c = true) :
    Text.trim (lead ++ text ++ tail) = text := by
  obtain ⟨sign, digits, rfl, hsign, hne, hdigits, -⟩ := h
  refine Text.trim_append hlead htail (fun c hc => ?_) (fun c hc => ?_) (by simp [hne])
  · rcases hsign with rfl | rfl
    · exact Text.isBlank_of_isDigit (hdigits c (List.mem_of_mem_head? hc))
    · obtain rfl : '+' = c := by simpa using hc
      decide
  · rw [List.getLast?_append, List.getLast?_eq_some_getLast hne, Option.some_or,
      ← List.getLast?_eq_some_getLast hne] at hc
    exact Text.isBlank_of_isDigit (hdigits c (List.mem_of_getLast? hc))

namespace Terminal

def note (t : Terminal) (level : Level) (message : String) : Terminal :=
  { t with journal := t.journal.log level message }

def line (t : Terminal) (text : String) : Terminal := { t with output := t.output ++ (text ++ "\n") }

end Terminal

def loaded (files : FileStore) (path : String) : Except Fault Program :=
  match files.read path with
  | .error e => .error (.io e.message)
  | .ok content => Program.ofBytes content

end Cli

end ScopeMachine
