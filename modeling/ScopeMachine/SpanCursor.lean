import ScopeMachine.Bytes

/-!
# Cursors with a 64-bit offset

A `Span` is a byte string whose bytes a 64-bit word can count. A `SpanCursor` keeps a whole span and the offset of its
position, and it computes with 64-bit words only, which wrap: looking ahead finds the end of the bytes it is asked for
by an addition with a test for the carry, moving stops at the end of the span, and what follows is a difference.
-/

namespace ScopeMachine

/-- A byte string that is short enough for a 64-bit word to count its bytes. -/
structure Span where
  bytes : Bytes
  fits : bytes.length < UInt64.size
deriving DecidableEq, Repr

namespace Span

def ofBytes? (bytes : Bytes) : Option Span :=
  if h : bytes.length < UInt64.size then some ⟨bytes, h⟩ else none

def length (s : Span) : UInt64 := UInt64.ofNat s.bytes.length

@[simp] theorem toNat_length (s : Span) : s.length.toNat = s.bytes.length :=
  UInt64.toNat_ofNat_of_lt' s.fits

/-- The bytes from `start` up to `stop`, if these are positions of the span, in this order. -/
def slice? (s : Span) (start stop : UInt64) : Option Bytes :=
  if start ≤ stop ∧ stop ≤ s.length then some ((s.bytes.take stop.toNat).drop start.toNat) else none

/-- Overwrites the first bytes with the given ones. -/
def overwritten (s : Span) (front : Bytes) : Bytes := front ++ s.bytes.drop front.length

end Span

/-- A position in a span. -/
structure SpanCursor where
  data : Span
  /-- How many bytes lie before the position. -/
  offset : UInt64
deriving DecidableEq, Repr

namespace SpanCursor

/-- The position before the first byte. -/
def ofSpan (data : Span) : SpanCursor := ⟨data, 0⟩

def remaining (c : SpanCursor) : UInt64 := c.data.length - c.offset

def hasData (c : SpanCursor) : Bool := c.offset < c.data.length

/-- The offset behind the next `n` bytes, if there is a word for it: a sum that wraps is less than its parts. -/
def ahead? (c : SpanCursor) (n : UInt64) : Option UInt64 :=
  if c.offset + n < c.offset then none else some (c.offset + n)

/-- The next `n` bytes, if there are as many. -/
def peek (c : SpanCursor) (n : UInt64) : Option Bytes :=
  match c.ahead? n with
  | none => none
  | some stop => c.data.slice? c.offset stop

/-- Copies the next bytes over the given ones, if there are as many. Gives whether it did, and the destination. -/
def readInto (c : SpanCursor) (destination : Span) : Bool × Bytes :=
  match c.peek destination.length with
  | none => (false, destination.bytes)
  | some bytes => (true, destination.overwritten bytes)

/-- Moves over `n` bytes, or to the end if there are fewer. -/
def skip (n : UInt64) (c : SpanCursor) : SpanCursor := { c with offset := c.offset + min n c.remaining }

end SpanCursor

/-- A call to a cursor, with what it is given. -/
inductive CursorCall where
  | skip (n : UInt64)
  | peek (n : UInt64)
  | readInto (destination : Span)

/-- What a cursor gives back. -/
inductive CursorReply where
  | moved
  | seen (bytes : Option Bytes)
  /-- Whether the destination was filled, and what it holds. -/
  | filled (done : Bool) (destination : Bytes)
deriving DecidableEq, Repr

namespace SpanCursor

def perform (c : SpanCursor) : CursorCall → CursorReply × SpanCursor
  | .skip n => (.moved, c.skip n)
  | .peek n => (.seen (c.peek n), c)
  | .readInto destination =>
    let (done, after) := c.readInto destination
    (.filled done after, c)

end SpanCursor

end ScopeMachine
