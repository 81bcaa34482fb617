import Mathlib.Data.Nat.PSub
import ScopeMachine.Proofs.RoundTrip

/-!
# What sinks receive

A value is sent to a sink in pieces, and every sink takes the pieces as one stream of bytes: byte strings and buffers
keep the stream, a count is its length, and a region holds as much of it as fits
(`Piece.sinks_receive_same_stream`). A `Region` is two byte strings and has no positions that could be out of range. A
`Slice` does its work with positions in a single byte string and checks each of them, and no check ever fails.
-/

namespace ScopeMachine

/-- Overwrites the bytes from `start` up to `stop`. These must be positions of the byte string, in this order, and the
new bytes must be as many. -/
def Bytes.overwrite? (bs : Bytes) (start stop : Nat) (new : Bytes) : Option Bytes :=
  if start ≤ stop ∧ stop ≤ bs.length ∧ new.length = stop - start then
    some (bs.take start ++ new ++ bs.drop stop)
  else none

namespace Wire

/-! ## Sinks that take a stream -/

instance : LawfulSink Bytes where
  write_nil := List.append_nil
  write_append out x y := (List.append_assoc out x y).symm

lemma Buffer.write_eq (buffer : Buffer) (chunk : Bytes) : Sink.write buffer chunk = ⟨buffer.content ++ chunk⟩ := by
  cases chunk with
  | nil =>
    change buffer = ⟨buffer.content ++ []⟩
    rw [List.append_nil]
  | cons b chunk => rfl

instance : LawfulSink Buffer where
  write_nil _ := rfl
  write_append out x y := by
    simp only [Buffer.write_eq, List.append_assoc]

lemma Region.write_eq (r : Region) (chunk : Bytes) :
    Sink.write r chunk = ⟨r.filled ++ chunk.take r.untouched.length, r.untouched.drop chunk.length⟩ := by
  have hdrop : r.untouched.drop (chunk.take r.untouched.length).length = r.untouched.drop chunk.length := by
    rw [List.drop_eq_drop_iff, List.length_take]
    omega
  exact congrArg (Region.mk _) hdrop

instance : LawfulSink Region where
  write_nil r := by
    rw [Region.write_eq, List.take_nil, List.append_nil, List.length_nil, List.drop_zero]
  write_append r x y := by
    simp only [Region.write_eq, List.take_append, List.length_append, List.length_drop, List.append_assoc,
      List.drop_drop]

/-- A region that was given the stream `s` holds as much of it as fits, and its own bytes behind that. -/
lemma Region.write_ofBytes (original s : Bytes) :
    (Sink.write (ofBytes original) s).content =
        s.take (min original.length s.length) ++ original.drop (min original.length s.length) ∧
      (Sink.write (ofBytes original) s).written = min original.length s.length := by
  have htake : s.take (min original.length s.length) = s.take original.length := by
    rw [List.take_eq_take_iff]
    omega
  have hdrop : original.drop (min original.length s.length) = original.drop s.length := by
    rw [List.drop_eq_drop_iff]
    omega
  rw [write_eq, htake, hdrop]
  refine ⟨rfl, ?_⟩
  change ([] ++ s.take original.length).length = _
  rw [List.nil_append, List.length_take]

namespace Value

section

variable {σ τ : Type} [Sink σ] [Sink τ] {f : σ → τ}

mutual

/-- What respects writing respects sending. -/
theorem map_emit (h : ∀ out chunk, f (Sink.write out chunk) = Sink.write (f out) chunk) (out : σ) :
    (v : Value) → f (v.emit out) = v.emit (f out)
  | .int _ _ => h _ _
  | .bytes content => by rw [emit, emit, h, h]
  | .vec items => by rw [emit, emit, map_emitAll h _ items, h]
  | .tuple items => by rw [emit, emit, map_emitAll h _ items]
  | .variant tag fields => by rw [emit, emit, map_emitAll h _ fields, h]

theorem map_emitAll (h : ∀ out chunk, f (Sink.write out chunk) = Sink.write (f out) chunk) (out : σ) :
    (items : List Value) → f (emitAll items out) = emitAll items (f out)
  | [] => rfl
  | item :: items => by rw [emitAll, emitAll, map_emitAll h _ items, map_emit h out item]

end

end

/-- A byte string as a vector of its bytes. -/
def ofEach (content : Bytes) : Value := .vec (content.map fun b => .int .u8 b.toNat)

lemma encode_u8 (b : UInt8) : IntType.u8.encode b.toNat = [b] := by
  have hlt : (b.toNat : Int) < IntType.u8.modulus := Int.ofNat_lt.mpr b.toNat_lt
  have hmod : (b.toNat : Int) % IntType.u8.modulus = b.toNat :=
    Int.emod_eq_of_lt (Int.natCast_nonneg _) hlt
  change [UInt8.ofNat ((b.toNat : Int) % IntType.u8.modulus).toNat] = [b]
  rw [hmod, Int.toNat_natCast, UInt8.ofNat_toNat]

lemma encode_ofEach (content : Bytes) : (ofEach content).encode = (Value.bytes content).encode := by
  have hall : encodeAll (content.map fun b => .int .u8 b.toNat) = content := by
    induction content with
    | nil => rfl
    | cons b content ih => rw [List.map_cons, encodeAll, ih, encode, encode_u8, List.singleton_append]
  rw [ofEach, encode, encode, hall, List.length_map]

lemma emit_ofEach {σ : Type} [Sink σ] [LawfulSink σ] (content : Bytes) (out : σ) :
    (ofEach content).emit out = (Value.bytes content).emit out := by
  rw [emit_eq_write, emit_eq_write, encode_ofEach]

end Value

/-! ## Regions by position -/

/-- A byte string that is overwritten from a position on. -/
structure Slice where
  bytes : Bytes
  position : Nat
deriving DecidableEq, Repr

/-- Writes a chunk. There is no result if a difference is negative or a position is out of range. -/
def Slice.write? (s : Slice) (chunk : Bytes) : Option Slice := do
  let stop := min (s.position + chunk.length) s.bytes.length
  let count ← Nat.psub stop s.position
  let (front, _) ← Bytes.split? count chunk
  let bytes ← s.bytes.overwrite? s.position stop front
  return ⟨bytes, stop⟩

lemma Slice.write?_of_le {s : Slice} (h : s.position ≤ s.bytes.length) (chunk : Bytes) :
    s.write? chunk = some ⟨s.bytes.take s.position ++ chunk.take (s.bytes.length - s.position) ++
      s.bytes.drop (s.position + chunk.length), min (s.position + chunk.length) s.bytes.length⟩ := by
  unfold write?
  generalize hmin : min (s.position + chunk.length) s.bytes.length = stop
  have hlow : s.position ≤ stop := by omega
  have hhigh : stop ≤ s.bytes.length := by omega
  have hcount : stop - s.position ≤ chunk.length := by omega
  have hfront : Bytes.split? (stop - s.position) chunk =
      some (chunk.take (stop - s.position), chunk.drop (stop - s.position)) := by
    rw [Bytes.split?_eq, if_pos hcount]
  have htake : chunk.take (stop - s.position) = chunk.take (s.bytes.length - s.position) := by
    rw [List.take_eq_take_iff]
    omega
  have hdrop : s.bytes.drop stop = s.bytes.drop (s.position + chunk.length) := by
    rw [List.drop_eq_drop_iff]
    omega
  have hwrite : s.bytes.overwrite? s.position stop (chunk.take (stop - s.position)) =
      some (s.bytes.take s.position ++ chunk.take (stop - s.position) ++ s.bytes.drop stop) :=
    if_pos ⟨hlow, hhigh, List.length_take_of_le hcount⟩
  simp only [Nat.psub_eq_sub hlow, Option.bind_eq_bind, Option.bind_some, hfront, hwrite, ← htake, ← hdrop]
  rfl

instance : Sink (Option Slice) where
  write out chunk := out.bind (·.write? chunk)

/-- The region as one byte string and the position up to which it is overwritten. -/
def Region.slice (r : Region) : Slice := ⟨r.content, r.written⟩

lemma Region.slice_write (r : Region) (chunk : Bytes) :
    some (Sink.write r chunk).slice = Sink.write (some r.slice) chunk := by
  have hle : r.slice.position ≤ r.slice.bytes.length := by
    simp [slice, content, written]
  have hwrite : Sink.write (some r.slice) chunk = r.slice.write? chunk := rfl
  rw [hwrite, Slice.write?_of_le hle, write_eq]
  simp [slice, content, written, Nat.min_comm]

/-! ## Sequences of writes -/

/-- What is sent to a sink: a value, or bytes as they are. -/
inductive Piece where
  | value (v : Value)
  | chunk (bytes : Bytes)

namespace Piece

def bytes : Piece → Bytes
  | .value v => v.encode
  | .chunk bytes => bytes

def stream (pieces : List Piece) : Bytes := pieces.flatMap bytes

section

variable {σ τ : Type} [Sink σ] [Sink τ]

def send (out : σ) : Piece → σ
  | .value v => v.emit out
  | .chunk bytes => Sink.write out bytes

def sendAll (pieces : List Piece) (out : σ) : σ := pieces.foldl send out

lemma sendAll_eq_write [LawfulSink σ] (pieces : List Piece) (out : σ) :
    sendAll pieces out = Sink.write out (stream pieces) := by
  induction pieces generalizing out with
  | nil => exact (LawfulSink.write_nil out).symm
  | cons piece pieces ih =>
    have hsend : send out piece = Sink.write out piece.bytes := by
      cases piece with
      | value v => exact v.emit_eq_write out
      | chunk bytes => rfl
    change sendAll pieces (send out piece) = Sink.write out (piece.bytes ++ stream pieces)
    rw [ih, hsend, LawfulSink.write_append]

lemma map_sendAll {f : σ → τ} (h : ∀ out chunk, f (Sink.write out chunk) = Sink.write (f out) chunk)
    (pieces : List Piece) (out : σ) : f (sendAll pieces out) = sendAll pieces (f out) := by
  induction pieces generalizing out with
  | nil => rfl
  | cons piece pieces ih =>
    have hsend : f (send out piece) = send (f out) piece := by
      cases piece with
      | value v => exact Value.map_emit h out v
      | chunk bytes => exact h out bytes
    change f (sendAll pieces (send out piece)) = sendAll pieces (send (f out) piece)
    rw [ih, hsend]

end

/-- Every sink receives the same bytes. Byte strings and buffers keep them behind what they have, and the encoded
length counts them. After each step of a sequence of writes a region holds the first bytes of all that was sent, as
many as fit, and its own bytes behind them; done by positions, no write finds one out of range. It is the same to all
of these sinks whether a byte string comes in one piece or byte by byte. -/
theorem sinks_receive_same_stream :
    (∀ v : Value, v.emit ([] : Bytes) = v.encode ∧ (∀ before : Bytes, v.emit before = before ++ v.encode) ∧
      (∀ before : Buffer, v.emit before = ⟨before.content ++ v.encode⟩) ∧ v.encodedLength = v.encode.length) ∧
    (∀ (original : Bytes) (pieces : List Piece) (steps : Nat),
      let sent := stream (pieces.take steps)
      let reached := min original.length sent.length
      let region := sendAll (pieces.take steps) (Region.ofBytes original)
      region.content = sent.take reached ++ original.drop reached ∧ region.written = reached ∧
        sendAll (pieces.take steps) (some (⟨original, 0⟩ : Slice)) = some ⟨region.content, region.written⟩) ∧
    ∀ content : Bytes, let bulk := Value.bytes content; let each := Value.ofEach content
      (∀ out : Bytes, bulk.emit out = each.emit out) ∧ (∀ out : Buffer, bulk.emit out = each.emit out) ∧
        (∀ out : ByteCount, bulk.emit out = each.emit out) ∧ ∀ out : Region, bulk.emit out = each.emit out := by
  refine ⟨fun v => ⟨?_, ?_, ?_, ?_⟩, ?_, ?_⟩
  · exact v.emit_eq_write []
  · exact fun before => v.emit_eq_write before
  · intro before
    rw [v.emit_eq_write, Buffer.write_eq]
  · exact v.encodedLength_eq
  · intro original pieces steps sent reached region
    have hregion : region = Sink.write (Region.ofBytes original) sent := sendAll_eq_write _ _
    obtain ⟨hcontent, hwritten⟩ := Region.write_ofBytes original sent
    rw [← hregion] at hcontent hwritten
    have hslice := map_sendAll (f := fun r : Region => some r.slice) Region.slice_write (pieces.take steps)
      (Region.ofBytes original)
    exact ⟨hcontent, hwritten, hslice.symm⟩
  · intro content bulk each
    refine ⟨?_, ?_, ?_, ?_⟩
    all_goals
      intro out
      exact (Value.emit_ofEach content out).symm

end Piece

end Wire

end ScopeMachine
