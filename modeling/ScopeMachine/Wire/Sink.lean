import ScopeMachine.Wire.Value

/-!
# Sinks

Writing a value sends its pieces to a sink, one call per piece. A sink may keep the bytes (a byte string
or a buffer), count them, or overwrite a region of fixed size from its start.
-/

namespace ScopeMachine.Wire

/-- Something that takes bytes. -/
class Sink (σ : Type) where
  /-- The sink after it took the given bytes. -/
  write : σ → Bytes → σ

/-- A byte string keeps what it is given at its end. -/
instance : Sink Bytes where
  write kept chunk := kept ++ chunk

/-- A buffer of bytes that grows at its end. -/
structure Buffer where
  content : Bytes
deriving DecidableEq, Repr

namespace Buffer

def empty : Buffer := ⟨[]⟩

/-- Appends bytes. Appending none leaves the buffer alone. -/
def append (buffer : Buffer) (chunk : Bytes) : Buffer :=
  if chunk.isEmpty then buffer else ⟨buffer.content ++ chunk⟩

end Buffer

instance : Sink Buffer where
  write := Buffer.append

/-- How many bytes a sink was given. -/
structure ByteCount where
  length : Nat
deriving DecidableEq, Repr

instance : Sink ByteCount where
  write count chunk := ⟨count.length + chunk.length⟩

/-- A region of fixed size that is overwritten from its start. What does not fit is dropped. -/
structure Region where
  /-- The bytes overwritten so far. -/
  filled : Bytes
  /-- The bytes not reached yet, as they were. -/
  untouched : Bytes
deriving DecidableEq, Repr

namespace Region

/-- A region over the given bytes, none of them overwritten. -/
def ofBytes (content : Bytes) : Region := ⟨[], content⟩

def content (r : Region) : Bytes := r.filled ++ r.untouched

/-- How many bytes were overwritten. -/
def written (r : Region) : Nat := r.filled.length

end Region

instance : Sink Region where
  write region chunk :=
    let taken := chunk.take region.untouched.length
    ⟨region.filled ++ taken, region.untouched.drop taken.length⟩

namespace Value

mutual

/-- Sends a value to a sink: an integer, a tag, a length or the content of a byte string is one
piece. -/
def emit {σ : Type} [Sink σ] : Value → σ → σ
  | .int type n, out => Sink.write out (type.encode n)
  | .bytes content, out => Sink.write (Sink.write out (encodeLength content.length)) content
  | .vec items, out => emitAll items (Sink.write out (encodeLength items.length))
  | .tuple items, out => emitAll items out
  | .variant tag fields, out => emitAll fields (Sink.write out [tag])

/-- Sends several values to a sink, one after the other. -/
def emitAll {σ : Type} [Sink σ] : List Value → σ → σ
  | [], out => out
  | item :: items, out => emitAll items (emit item out)

end

/-- The number of bytes that a value takes, found by counting. -/
def encodedLength (v : Value) : Nat := (v.emit (⟨0⟩ : ByteCount)).length

/-- The bytes of a value, gathered in a new buffer. -/
def toBytes (v : Value) : Bytes := (v.emit Buffer.empty).content

end Value

end ScopeMachine.Wire
