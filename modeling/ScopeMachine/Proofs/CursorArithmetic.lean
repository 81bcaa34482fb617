import Mathlib.Algebra.Ring.Nat
import Mathlib.Data.List.Basic
import ScopeMachine.Cursor
import ScopeMachine.SpanCursor

/-!
# Cursors compute without wrapping

A `SpanCursor` adds and subtracts 64-bit words, a `Cursor` counts without a bound. After any calls, with sizes up to the
largest word, the two stand at the same position and have given the same replies, and that position is the sum of all
moves or the end of the bytes, whichever comes first (`SpanCursor.arithmetic_is_exact`).
-/

namespace ScopeMachine

/-! ## Sequences of calls -/

namespace CursorCall

/-- By how much the call asks to move. -/
def distance : CursorCall → Nat
  | .skip n => n.toNat
  | .peek _ => 0
  | .readInto _ => 0

/-- By how much several calls ask to move, in all. -/
def skipped (calls : List CursorCall) : Nat := (calls.map distance).sum

/-- The replies to several calls, one after the other, and the cursor after them. -/
def performAll {S : Type} (perform : S → CursorCall → CursorReply × S) :
    List CursorCall → S → List CursorReply × S
  | [], c => ([], c)
  | call :: calls, c =>
    let (reply, c) := perform c call
    let (replies, c) := performAll perform calls c
    (reply :: replies, c)

end CursorCall

/-! ## Without a bound -/

namespace Cursor

def perform (c : Cursor) : CursorCall → CursorReply × Cursor
  | .skip n => (.moved, c.skip n.toNat)
  | .peek n => (.seen (c.peek n.toNat), c)
  | .readInto destination =>
    match c.readInto destination.bytes with
    | none => (.filled false destination.bytes, c)
    | some bytes => (.filled true bytes, c)

lemma skip_skip (m n : Nat) (c : Cursor) : (c.skip m).skip n = c.skip (m + n) := by
  simp only [skip_eq, remaining, List.length_drop, List.drop_drop, Cursor.mk.injEq, and_true]
  omega

lemma perform_snd (c : Cursor) (call : CursorCall) : (c.perform call).2 = c.skip call.distance := by
  cases call with
  | skip n => rfl
  | peek n => rfl
  | readInto destination =>
    rw [perform]
    cases c.readInto destination.bytes <;> rfl

/-- Any calls move the cursor like a single one over the sum of their distances. -/
lemma performAll_snd (calls : List CursorCall) (c : Cursor) :
    (CursorCall.performAll perform calls c).2 = c.skip (CursorCall.skipped calls) := by
  induction calls generalizing c with
  | nil => rfl
  | cons call calls ih =>
    change (CursorCall.performAll perform calls (c.perform call).2).2 = _
    rw [ih, perform_snd, skip_skip, CursorCall.skipped, CursorCall.skipped, List.map_cons, List.sum_cons]

end Cursor

/-! ## With words -/

namespace SpanCursor

/-- The position is in the span or at its end. -/
def InRange (c : SpanCursor) : Prop := c.offset.toNat ≤ c.data.bytes.length

/-- The same position, with the bytes before it left out. -/
def cursor (c : SpanCursor) : Cursor := ⟨c.offset.toNat, c.data.bytes.drop c.offset.toNat⟩

section Words

/-- The test for the carry finds the sums that no word holds. -/
lemma ahead?_eq (c : SpanCursor) (n : UInt64) :
    c.ahead? n = if c.offset.toNat + n.toNat < UInt64.size then some (c.offset + n) else none := by
  have hoffset : c.offset.toNat < UInt64.size := c.offset.toNat_lt_size
  have hn : n.toNat < UInt64.size := n.toNat_lt_size
  have hsum : (c.offset + n).toNat = (c.offset.toNat + n.toNat) % UInt64.size := UInt64.toNat_add _ _
  rw [ahead?]
  by_cases h : c.offset.toNat + n.toNat < UInt64.size
  · have hle : ¬ c.offset + n < c.offset := by
      rw [UInt64.lt_iff_toNat_lt, hsum, Nat.mod_eq_of_lt h]
      omega
    rw [if_neg hle, if_pos h]
  · have hlt : c.offset + n < c.offset := by
      rw [UInt64.lt_iff_toNat_lt, hsum, Nat.mod_eq_sub_mod (by omega), Nat.mod_eq_of_lt (by omega)]
      omega
    rw [if_pos hlt, if_neg h]

lemma peek_eq (c : SpanCursor) (n : UInt64) :
    c.peek n = if c.offset.toNat + n.toNat ≤ c.data.bytes.length then
      some ((c.data.bytes.drop c.offset.toNat).take n.toNat) else none := by
  have hlength := c.data.fits
  rw [peek, ahead?_eq]
  by_cases hword : c.offset.toNat + n.toNat < UInt64.size
  · have hsum : (c.offset + n).toNat = c.offset.toNat + n.toNat := by
      rw [UInt64.toNat_add, Nat.mod_eq_of_lt hword]
    have hstart : c.offset ≤ c.offset + n := by
      rw [UInt64.le_iff_toNat_le, hsum]
      omega
    simp only [hword, if_true, Span.slice?, hstart, true_and, UInt64.le_iff_toNat_le, Span.toNat_length, hsum,
      List.drop_take, Nat.add_sub_cancel_left]
  · rw [if_neg hword, if_neg (by omega)]

lemma readInto_eq (c : SpanCursor) (destination : Span) :
    c.readInto destination = if c.offset.toNat + destination.bytes.length ≤ c.data.bytes.length then
      (true, (c.data.bytes.drop c.offset.toNat).take destination.bytes.length) else (false, destination.bytes) := by
  rw [readInto, peek_eq, Span.toNat_length]
  by_cases h : c.offset.toNat + destination.bytes.length ≤ c.data.bytes.length
  · have hfront : ((c.data.bytes.drop c.offset.toNat).take destination.bytes.length).length =
        destination.bytes.length := by
      rw [List.length_take, List.length_drop]
      omega
    rw [if_pos h, if_pos h]
    -- as many bytes were read as the destination has, so none of its own is left
    change (true, _ ++ destination.bytes.drop _) = _
    rw [hfront, List.drop_length, List.append_nil]
  · rw [if_neg h, if_neg h]

lemma perform_readInto (c : SpanCursor) (destination : Span) :
    c.perform (.readInto destination) =
      (if c.offset.toNat + destination.bytes.length ≤ c.data.bytes.length then
        .filled true ((c.data.bytes.drop c.offset.toNat).take destination.bytes.length)
      else .filled false destination.bytes, c) := by
  change (CursorReply.filled (c.readInto destination).1 (c.readInto destination).2, c) = _
  rw [readInto_eq]
  by_cases h : c.offset.toNat + destination.bytes.length ≤ c.data.bytes.length
  · rw [if_pos h, if_pos h]
  · rw [if_neg h, if_neg h]

variable {c : SpanCursor}

lemma inRange_ofSpan (data : Span) : (ofSpan data).InRange := Nat.zero_le _

lemma InRange.offset_le (h : c.InRange) : c.offset.toNat ≤ c.data.bytes.length := h

lemma InRange.toNat_remaining (h : c.InRange) :
    c.remaining.toNat = c.data.bytes.length - c.offset.toNat := by
  have hle : c.offset ≤ c.data.length := by
    rw [UInt64.le_iff_toNat_le, Span.toNat_length]
    exact h.offset_le
  rw [remaining, UInt64.toNat_sub_of_le _ _ hle, Span.toNat_length]

lemma InRange.hasData_iff (h : c.InRange) : c.hasData = true ↔ 0 < c.remaining := by
  have hrange := h.offset_le
  rw [hasData, decide_eq_true_iff, UInt64.lt_iff_toNat_lt, UInt64.lt_iff_toNat_lt, Span.toNat_length,
    h.toNat_remaining, UInt64.toNat_zero]
  omega

/-- In range the sum does not carry, since no more is added than what follows. -/
lemma InRange.toNat_offset_skip (h : c.InRange) (n : UInt64) :
    (c.skip n).offset.toNat = c.offset.toNat + min n.toNat c.remaining.toNat := by
  have hfits : c.offset.toNat + min n.toNat c.remaining.toNat < UInt64.size := by
    have hlength := c.data.fits
    have hrange := h.offset_le
    rw [h.toNat_remaining]
    omega
  rw [skip, UInt64.toNat_add, UInt64.toNat_min, Nat.mod_eq_of_lt hfits]

lemma InRange.skip (h : c.InRange) (n : UInt64) : (c.skip n).InRange := by
  have hrange := h.offset_le
  change (c.skip n).offset.toNat ≤ c.data.bytes.length
  rw [h.toNat_offset_skip, h.toNat_remaining]
  omega

end Words

/-! ## The two cursors -/

section Refinement

variable {c : SpanCursor}

lemma InRange.cursor_skip (h : c.InRange) (n : UInt64) : (c.skip n).cursor = c.cursor.skip n.toNat := by
  have hrange := h.offset_le
  have hdrop : c.data.bytes.drop (c.offset.toNat + min n.toNat (c.data.bytes.length - c.offset.toNat)) =
      c.data.bytes.drop (c.offset.toNat + n.toNat) := by
    rw [List.drop_eq_drop_iff]
    omega
  rw [cursor, h.toNat_offset_skip, h.toNat_remaining, Cursor.skip_eq, Cursor.remaining]
  simp only [cursor, List.length_drop, List.drop_drop, Cursor.mk.injEq, true_and]
  exact hdrop

lemma InRange.peek_cursor (h : c.InRange) (n : Nat) :
    c.cursor.peek n = if c.offset.toNat + n ≤ c.data.bytes.length then
      some ((c.data.bytes.drop c.offset.toNat).take n) else none := by
  have hrange := h.offset_le
  rw [Cursor.peek_eq, Cursor.remaining, cursor, List.length_drop]
  simp only [Nat.le_sub_iff_add_le hrange, Nat.add_comm n]

lemma InRange.perform_cursor (h : c.InRange) (call : CursorCall) :
    Prod.map id cursor (c.perform call) = c.cursor.perform call := by
  cases call with
  | skip n => exact congrArg (Prod.mk _) (h.cursor_skip n)
  | peek n =>
    change (CursorReply.seen (c.peek n), c.cursor) = (.seen (c.cursor.peek n.toNat), c.cursor)
    rw [peek_eq, h.peek_cursor]
  | readInto destination =>
    rw [perform_readInto, Cursor.perform, Cursor.readInto, h.peek_cursor]
    by_cases hle : c.offset.toNat + destination.bytes.length ≤ c.data.bytes.length
    · rw [if_pos hle, if_pos hle]
      rfl
    · rw [if_neg hle, if_neg hle]
      rfl

lemma InRange.perform (h : c.InRange) (call : CursorCall) :
    (c.perform call).2.InRange ∧ (c.perform call).2.data = c.data := by
  cases call with
  | skip n => exact ⟨h.skip n, rfl⟩
  | peek n => exact ⟨h, rfl⟩
  | readInto destination => exact ⟨h, rfl⟩

lemma InRange.performAll (h : c.InRange) (calls : List CursorCall) :
    (CursorCall.performAll SpanCursor.perform calls c).2.InRange ∧
      (CursorCall.performAll SpanCursor.perform calls c).2.data = c.data := by
  induction calls generalizing c with
  | nil => exact ⟨h, rfl⟩
  | cons call calls ih =>
    obtain ⟨hrange, hdata⟩ := h.perform call
    obtain ⟨hrange', hdata'⟩ := ih hrange
    exact ⟨hrange', hdata'.trans hdata⟩

lemma InRange.performAll_cursor (h : c.InRange) (calls : List CursorCall) :
    Prod.map id cursor (CursorCall.performAll SpanCursor.perform calls c) =
      CursorCall.performAll Cursor.perform calls c.cursor := by
  induction calls generalizing c with
  | nil => rfl
  | cons call calls ih =>
    have hrest := ih (h.perform call).1
    have hcall := h.perform_cursor call
    simp only [CursorCall.performAll, ← hcall, Prod.map_fst, Prod.map_snd, id_eq, ← hrest, Prod.map_apply]

end Refinement

lemma toNat_offset_performAll (data : Span) (calls : List CursorCall) :
    (CursorCall.performAll perform calls (ofSpan data)).2.offset.toNat =
      min data.bytes.length (CursorCall.skipped calls) := by
  have hcursors := (inRange_ofSpan data).performAll_cursor calls
  have hcursor : (CursorCall.performAll perform calls (ofSpan data)).2.cursor =
      (Cursor.ofBytes data.bytes).skip (CursorCall.skipped calls) :=
    (congrArg Prod.snd hcursors).trans (Cursor.performAll_snd calls (Cursor.ofBytes data.bytes))
  calc (CursorCall.performAll perform calls (ofSpan data)).2.offset.toNat
      = ((Cursor.ofBytes data.bytes).skip (CursorCall.skipped calls)).offset := congrArg Cursor.offset hcursor
    _ = 0 + min (CursorCall.skipped calls) data.bytes.length := by rw [Cursor.skip_eq]; rfl
    _ = min data.bytes.length (CursorCall.skipped calls) := by rw [Nat.zero_add, Nat.min_comm]

/-- The arithmetic of a cursor on words is that of unbounded numbers, whatever calls were made. The offset is the sum of
all moves, or the length if that is less. What remains is the difference, and a further move adds no more than that, so
neither the difference nor the sum ever wraps. The next bytes are seen, or copied, exactly if the end of them, as an
unbounded sum, is no more than the length; otherwise the destination is as it was; and neither call moves the cursor.
All replies, and the position, are those of the cursor that counts without a bound. -/
theorem arithmetic_is_exact (data : Span) (calls : List CursorCall) :
    let run := CursorCall.performAll perform calls (ofSpan data)
    let c := run.2
    let position := min data.bytes.length (CursorCall.skipped calls)
    c.data = data ∧ c.offset.toNat = position ∧
    c.remaining.toNat = data.bytes.length - position ∧ (c.hasData = true ↔ 0 < c.remaining) ∧
    (∀ n, c.perform (.peek n) =
      (.seen (if position + n.toNat ≤ data.bytes.length then some ((data.bytes.drop position).take n.toNat)
        else none), c)) ∧
    (∀ destination : Span, c.perform (.readInto destination) =
      (if position + destination.bytes.length ≤ data.bytes.length then
        .filled true ((data.bytes.drop position).take destination.bytes.length)
      else .filled false destination.bytes, c)) ∧
    (∀ n, (c.skip n).offset.toNat = c.offset.toNat + min n.toNat c.remaining.toNat) ∧
    let unbounded := CursorCall.performAll Cursor.perform calls (Cursor.ofBytes data.bytes)
    run.1 = unbounded.1 ∧ c.cursor = unbounded.2 := by
  intro run c position
  have hstart := inRange_ofSpan data
  obtain ⟨hrange, hdata⟩ : c.InRange ∧ c.data = data := hstart.performAll calls
  have hoffset : c.offset.toNat = position := toNat_offset_performAll data calls
  have hcursors := hstart.performAll_cursor calls
  refine ⟨hdata, hoffset, ?_, hrange.hasData_iff, fun n => ?_, fun destination => ?_, hrange.toNat_offset_skip,
    congrArg Prod.fst hcursors, congrArg Prod.snd hcursors⟩
  · rw [hrange.toNat_remaining, hdata, hoffset]
  · rw [perform, peek_eq, hdata, hoffset]
  · rw [perform_readInto, hdata, hoffset]

-- two bytes on, a size for which the sum wraps to 1
example : ((ofSpan ⟨[7, 8, 9], by decide⟩).skip 2).peek 0xffffffffffffffff = none ∧
    (((ofSpan ⟨[7, 8, 9], by decide⟩).skip 2).skip 0xffffffffffffffff).offset = 3 := by decide

end SpanCursor

end ScopeMachine
