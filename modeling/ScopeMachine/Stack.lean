import ScopeMachine.Fault
import ScopeMachine.Wire.Sink

/-!
# The evaluation stack

A stack of bytes with a fixed capacity, on which typed values are pushed and popped. The bytes live
in an array that grows with the highest top so far, so bytes above the top stay where they are until
they are overwritten. `Stack.live` is what the stack holds: the bytes below the top.

The operations are computations on a stack that may fail with a `Fault`. A value is written into a slot of its
type's width, and nothing of it is cut off (`filled_eq_encode`). Whether an address is live is told in unbounded
numbers; on stacks whose capacity is a 64-bit word the test in words tells the same (`isLiveWord_iff`).
-/

namespace ScopeMachine

open Wire

structure Stack where
  /-- The greatest number of live bytes. -/
  capacity : Nat
  /-- The bytes that were ever live, from the bottom on. -/
  cells : Array UInt8
  /-- The number of live bytes. -/
  top : Nat
  top_le : top ≤ cells.size := by simp
  size_le : cells.size ≤ capacity := by simp
deriving Repr, DecidableEq

abbrev StackM := EStateM Fault Stack

namespace Stack

/-- The capacity of a stack if none is asked for. -/
def defaultCapacity : Nat := 64 * 1024

/-- The most bytes that can be allocated at once: half of what a 64-bit word addresses. -/
def allocationLimit : Nat := UInt64.size / 2 - 1

def empty (capacity : Nat) : Stack where
  capacity := capacity
  cells := #[]
  top := 0

instance : Inhabited Stack := ⟨empty defaultCapacity⟩

/-- The live bytes, from the bottom to the top. -/
def live (s : Stack) : Bytes := s.cells.toList.take s.top

/-- How many more bytes fit. -/
def remaining (s : Stack) : Nat := s.capacity - s.top

def isEmpty (s : Stack) : Bool := s.top == 0

def baseAddress (_ : Stack) : StackAddress := ⟨0⟩

/-- The address of the next value to be pushed. -/
def currentAddress (s : Stack) : StackAddress := ⟨UInt64.ofNat s.top⟩

/-- Overwrites the bytes from a position on. Bytes that reach beyond the end are appended. -/
def overwrite (cells : Array UInt8) (start : Nat) : Bytes → Array UInt8
  | [] => cells
  | b :: bs =>
    if h : start < cells.size then overwrite (cells.set start b) (start + 1) bs
    else overwrite (cells.push b) (start + 1) bs

theorem size_overwrite (cells : Array UInt8) (start : Nat) (bs : Bytes) (h : start ≤ cells.size) :
    (overwrite cells start bs).size = max cells.size (start + bs.length) := by
  induction bs generalizing cells start with
  | nil => simp [overwrite]; omega
  | cons b bs ih =>
    rw [overwrite]
    split
    · rw [ih _ _ (by simp; omega)]
      simp only [Array.size_set, List.length_cons]
      omega
    · rw [ih _ _ (by simp; omega)]
      simp only [Array.size_push, List.length_cons]
      omega

def window (s : Stack) (start width : Nat) : Bytes := (s.cells.extract start (start + width)).toList

/-- The bytes of a slot. Those that were never live are zero. -/
def slot (s : Stack) (start width : Nat) : Bytes :=
  s.window start width ++ List.replicate (width - (s.window start width).length) 0

/-- The bytes of a slot after a value was written there. What does not fit is dropped. -/
def filled (s : Stack) (start : Nat) (t : CellType) (v : t.Value) : Bytes :=
  (Sink.write (Region.ofBytes (s.slot start t.width)) (t.encode v)).content

theorem length_slot (s : Stack) (start width : Nat) : (s.slot start width).length = width := by
  simp only [slot, window, List.length_append, List.length_replicate, Array.length_toList, Array.size_extract]
  omega

@[simp] theorem length_filled (s : Stack) (start : Nat) (t : CellType) (v : t.Value) :
    (s.filled start t v).length = t.width := by
  have hslot := s.length_slot start t.width
  simp only [filled, Sink.write, Region.content, Region.ofBytes, List.nil_append, List.length_append,
    List.length_take, List.length_drop]
  omega

/-- Nothing of a value is cut off: the table of widths fits the encoding. -/
theorem filled_eq_encode (s : Stack) (start : Nat) (t : CellType) (v : t.Value) :
    s.filled start t v = t.encode v := by
  have hfits : (t.encode v).length = (s.slot start t.width).length := by
    rw [CellType.length_encode, length_slot]
  simp only [filled, Sink.write, Region.content, Region.ofBytes, List.nil_append, ← hfits, List.take_length]
  rw [hfits, List.drop_length, List.append_nil]

def push (t : CellType) (v : t.Value) : StackM Unit := fun s =>
  if h : s.remaining < t.width then .error (.stackOverflow t.width s.remaining) s
  else .ok () { s with
    cells := overwrite s.cells s.top (s.filled s.top t v)
    top := s.top + t.width
    top_le := by
      rw [size_overwrite _ _ _ s.top_le, length_filled]
      exact Nat.le_max_right _ _
    size_le := by
      have := s.top_le
      have := s.size_le
      rw [size_overwrite _ _ _ s.top_le, length_filled]
      unfold remaining at h
      omega }

/-- The value that starts at a position of the cells. -/
def readAt (t : CellType) (start : Nat) : StackM t.Value := fun s =>
  match t.read (s.window start t.width) with
  | .error e _ => .error (.ofReadError e) s
  | .ok v _ => .ok v s

def peek (t : CellType) : StackM t.Value := fun s =>
  if s.top < t.width then .error (.stackUnderflow t.width s.top) s
  else readAt t (s.top - t.width) s

def pop (t : CellType) : StackM t.Value := fun s =>
  match peek t s with
  | .error fault s => .error fault s
  | .ok v s =>
    .ok v { s with top := s.top - t.width, top_le := Nat.le_trans (Nat.sub_le _ _) s.top_le }

/-- Whether a value at the address lies among the live bytes. -/
def IsLive (s : Stack) (t : CellType) (a : StackAddress) : Prop := a.offset.toNat + t.width ≤ s.top

instance (s : Stack) (t : CellType) (a : StackAddress) : Decidable (s.IsLive t a) :=
  inferInstanceAs (Decidable (_ ≤ _))

/-- The end of a value at an address, if there is a word for it: a sum that wraps is less than its parts. -/
def end? (t : CellType) (a : StackAddress) : Option UInt64 :=
  if a.offset + UInt64.ofNat t.width < a.offset then none else some (a.offset + UInt64.ofNat t.width)

/-- Whether a value at the address lies among the live bytes, told in words. -/
def isLiveWord (s : Stack) (t : CellType) (a : StackAddress) : Bool :=
  match end? t a with
  | none => false
  | some stop => stop ≤ UInt64.ofNat s.top

/-- Both tests accept the same addresses on every stack whose capacity is a word. -/
theorem isLiveWord_iff {s : Stack} (hword : s.capacity < UInt64.size) (t : CellType) (a : StackAddress) :
    s.isLiveWord t a = true ↔ s.IsLive t a := by
  have htop := Nat.le_trans s.top_le s.size_le
  have hlt := a.offset.toNat_lt
  have hsum := UInt64.toNat_add a.offset (UInt64.ofNat t.width)
  have hsmall : t.width ≤ 8 := by cases t <;> decide
  have hwidth : (UInt64.ofNat t.width).toNat = t.width := by cases t <;> rfl
  have hstop := UInt64.toNat_ofNat_of_lt' (Nat.lt_of_le_of_lt htop hword)
  simp only [UInt64.size] at hword
  unfold isLiveWord end? IsLive
  -- a slot has at most eight bytes, so a sum that wraps falls below the address
  by_cases hwraps : a.offset + UInt64.ofNat t.width < a.offset
  · rw [if_pos hwraps]
    rw [UInt64.lt_iff_toNat_lt] at hwraps
    simp only [Bool.false_eq_true, false_iff]
    omega
  · rw [if_neg hwraps]
    rw [UInt64.lt_iff_toNat_lt] at hwraps
    simp only [decide_eq_true_eq, UInt64.le_iff_toNat_le]
    omega

def addressFault (s : Stack) (t : CellType) (a : StackAddress) : Fault :=
  .invalidStackAddress a t.width 0 s.top

def get (t : CellType) (a : StackAddress) : StackM t.Value := fun s =>
  if s.IsLive t a then readAt t a.offset.toNat s
  else .error (s.addressFault t a) s

theorem size_overwrite_live {s : Stack} {t : CellType} {a : StackAddress} (h : s.IsLive t a)
    (v : t.Value) :
    (overwrite s.cells a.offset.toNat (s.filled a.offset.toNat t v)).size = s.cells.size := by
  have := s.top_le
  unfold IsLive at h
  rw [size_overwrite _ _ _ (by omega), length_filled]
  omega

def set (t : CellType) (a : StackAddress) (v : t.Value) : StackM Unit := fun s =>
  if h : s.IsLive t a then .ok () { s with
    cells := overwrite s.cells a.offset.toNat (s.filled a.offset.toNat t v)
    top_le := by rw [size_overwrite_live h]; exact s.top_le
    size_le := by rw [size_overwrite_live h]; exact s.size_le }
  else .error (s.addressFault t a) s

end Stack

end ScopeMachine
