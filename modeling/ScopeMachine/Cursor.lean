import ScopeMachine.Bytes

/-!
# Cursors

A cursor is a position in a byte string. Looking ahead does not move it, and moving it stops at the
end of the bytes.
-/

namespace ScopeMachine

/-- A position in a byte string. -/
structure Cursor where
  /-- How many bytes lie before the position. -/
  offset : Nat
  /-- The bytes from the position on. -/
  rest : Bytes
deriving DecidableEq, Repr

namespace Cursor

/-- The position before the first byte. -/
def ofBytes (bytes : Bytes) : Cursor := ⟨0, bytes⟩

def remaining (c : Cursor) : Nat := c.rest.length

def hasData (c : Cursor) : Bool := !c.rest.isEmpty

/-- The next `n` bytes, if there are as many. -/
def peek (c : Cursor) (n : Nat) : Option Bytes := (Bytes.split? n c.rest).map (·.1)

/-- The next bytes in place of the given ones, if there are as many. -/
def readInto (c : Cursor) (destination : Bytes) : Option Bytes := c.peek destination.length

/-- Moves over `n` bytes, or to the end if there are fewer. -/
def skip : (n : Nat) → Cursor → Cursor
  | 0, c => c
  | _ + 1, ⟨offset, []⟩ => ⟨offset, []⟩
  | n + 1, ⟨offset, _ :: rest⟩ => skip n ⟨offset + 1, rest⟩

theorem peek_eq (c : Cursor) (n : Nat) :
    c.peek n = if n ≤ c.remaining then some (c.rest.take n) else none := by
  rw [peek, Bytes.split?_eq, remaining]
  by_cases h : n ≤ c.rest.length <;> simp [h]

theorem skip_eq (n : Nat) (c : Cursor) :
    skip n c = ⟨c.offset + min n c.remaining, c.rest.drop n⟩ := by
  induction n generalizing c with
  | zero => simp [skip]
  | succ n ih =>
    obtain ⟨offset, rest⟩ := c
    cases rest with
    | nil => simp [skip, remaining]
    | cons b rest =>
      rw [skip, ih]
      simp only [remaining, List.length_cons, List.drop_succ_cons, Cursor.mk.injEq, and_true]
      omega

end Cursor

end ScopeMachine
