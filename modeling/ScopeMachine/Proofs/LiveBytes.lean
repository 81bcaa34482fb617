import Mathlib.Data.Nat.Basic
import ScopeMachine.Stack
import ScopeMachine.Proofs.Cells

/-!
# The stack as its live bytes

What the operations of the evaluation stack do to its live bytes: a push appends the bytes of the value,
a pop takes the last bytes off and reads them, and an address stands for a window of them. The bytes above the
top never show.
-/

namespace ScopeMachine.Stack

lemma toList_overwrite (cells : Array UInt8) (start : Nat) (bs : Bytes) (h : start ≤ cells.size) :
    (overwrite cells start bs).toList =
      cells.toList.take start ++ bs ++ cells.toList.drop (start + bs.length) := by
  induction bs generalizing cells start with
  | nil => simp [overwrite]
  | cons b bs ih =>
    rw [overwrite, List.length_cons]
    split
    · -- the first byte replaces a cell
      rename_i hlt
      have hlt' : start < (cells.toList.set start b).length := by simpa using hlt
      have htake : (cells.toList.set start b).take (start + 1) = cells.toList.take start ++ [b] := by
        rw [List.take_succ_eq_append_getElem hlt', List.take_set_of_le (Nat.le_refl _),
          List.getElem_set_self]
      rw [ih _ _ (by rw [Array.size_set]; omega), Array.toList_set, htake,
        List.drop_set_of_lt (by omega), List.append_assoc, List.append_assoc, List.append_assoc,
        List.singleton_append, Nat.add_assoc, Nat.add_comm 1, List.cons_append]
    · -- all cells stand before the start, so the first byte is appended
      obtain rfl : start = cells.size := by omega
      have htake : (cells.push b).toList.take (cells.size + 1) = cells.toList ++ [b] := by
        rw [Array.toList_push, List.take_of_length_le]
        simp
      have hdrop : (cells.push b).toList.drop (cells.size + 1 + bs.length) = [] :=
        List.drop_eq_nil_of_le (by simp)
      have hdrop' : cells.toList.drop (cells.size + (bs.length + 1)) = [] :=
        List.drop_eq_nil_of_le (by simp)
      rw [ih _ _ (by rw [Array.size_push]), htake, hdrop, hdrop', List.append_nil, List.append_nil,
        List.append_assoc, List.singleton_append, List.take_of_length_le (by simp)]

lemma length_live (s : Stack) : s.live.length = s.top := by
  rw [live, List.length_take, Array.length_toList]
  exact min_eq_left s.top_le

lemma remaining_eq (s : Stack) : s.remaining = s.capacity - s.live.length := by
  rw [remaining, length_live]

lemma window_top (s : Stack) {width : Nat} (h : width ≤ s.live.length) :
    s.window (s.top - width) width = s.live.drop (s.live.length - width) := by
  rw [length_live] at h ⊢
  rw [window, Array.toList_extract, Nat.sub_add_cancel h, List.extract_eq_take_drop, live,
    List.drop_take]

/-! ## Push -/

lemma push_of_lt {s : Stack} {t : CellType} (v : t.Value) (h : s.remaining < t.width) :
    push t v s = .error (.stackOverflow t.width s.remaining) s := by
  rw [push, dif_pos h]

lemma push_of_le {s : Stack} {t : CellType} (v : t.Value) (h : t.width ≤ s.remaining) :
    ∃ s', push t v s = .ok () s' ∧ s'.live = s.live ++ t.encode v ∧ s'.capacity = s.capacity := by
  rw [push, dif_neg (Nat.not_lt.mpr h)]
  refine ⟨_, rfl, ?_, rfl⟩
  have htop := s.length_live
  have hlen : (s.live ++ t.encode v).length = s.top + t.width := by
    rw [List.length_append, htop, CellType.length_encode]
  rw [live]
  dsimp only
  rw [filled_eq_encode, toList_overwrite _ _ _ s.top_le, ← hlen]
  exact List.take_left

/-! ## Top and pop -/

lemma peek_of_lt {s : Stack} {t : CellType} (h : s.live.length < t.width) :
    peek t s = .error (.stackUnderflow t.width s.live.length) s := by
  rw [length_live] at h ⊢
  rw [peek, if_pos h]

lemma peek_of_le {s : Stack} {t : CellType} (h : t.width ≤ s.live.length) :
    peek t s = .ok (t.decode (s.live.drop (s.live.length - t.width))) s := by
  have hlt : ¬ s.top < t.width := by
    rw [← length_live]
    omega
  have hlen : (s.live.drop (s.live.length - t.width)).length = t.width := by
    rw [List.length_drop]
    omega
  rw [peek, if_neg hlt, readAt, window_top s h, CellType.read_of_length t hlen]

lemma pop_of_lt {s : Stack} {t : CellType} (h : s.live.length < t.width) :
    pop t s = .error (.stackUnderflow t.width s.live.length) s := by
  rw [pop, peek_of_lt h]

lemma pop_of_le {s : Stack} {t : CellType} (h : t.width ≤ s.live.length) :
    ∃ s', pop t s = .ok (t.decode (s.live.drop (s.live.length - t.width))) s' ∧
      s'.live = s.live.take (s.live.length - t.width) ∧ s'.capacity = s.capacity := by
  rw [pop, peek_of_le h]
  refine ⟨_, rfl, ?_, rfl⟩
  rw [length_live, live, live, List.take_take, min_eq_left (Nat.sub_le _ _)]

/-! ## Get and set -/

lemma isLive_iff {s : Stack} {t : CellType} {a : StackAddress} :
    s.IsLive t a ↔ a.offset.toNat + t.width ≤ s.live.length := by
  rw [IsLive, length_live]

lemma get_of_not_isLive {s : Stack} {t : CellType} {a : StackAddress} (h : ¬ s.IsLive t a) :
    get t a s = .error (.invalidStackAddress a t.width 0 s.live.length) s := by
  rw [get, if_neg h, addressFault, length_live]

lemma set_of_not_isLive {s : Stack} {t : CellType} {a : StackAddress} (v : t.Value) (h : ¬ s.IsLive t a) :
    set t a v s = .error (.invalidStackAddress a t.width 0 s.live.length) s := by
  rw [set, dif_neg h, addressFault, length_live]

lemma window_live {s : Stack} {start width : Nat} (h : start + width ≤ s.live.length) :
    s.window start width = (s.live.drop start).take width := by
  rw [length_live] at h
  rw [window, Array.toList_extract, List.extract_eq_take_drop, live, List.drop_take, List.take_take,
    Nat.add_sub_cancel_left, min_eq_left (by omega)]

lemma get_of_isLive {s : Stack} {t : CellType} {a : StackAddress} (h : s.IsLive t a) :
    get t a s = .ok (t.decode ((s.live.drop a.offset.toNat).take t.width)) s := by
  have hle := isLive_iff.mp h
  have hlen : ((s.live.drop a.offset.toNat).take t.width).length = t.width := by
    rw [List.length_take, List.length_drop]
    omega
  rw [get, if_pos h, readAt, window_live hle, CellType.read_of_length t hlen]

lemma set_of_isLive {s : Stack} {t : CellType} {a : StackAddress} (v : t.Value) (h : s.IsLive t a) :
    ∃ s', set t a v s = .ok () s' ∧ s'.capacity = s.capacity ∧
      s'.live = s.live.take a.offset.toNat ++ t.encode v ++ s.live.drop (a.offset.toNat + t.width) := by
  have htop := s.top_le
  have hle : a.offset.toNat + t.width ≤ s.top := h
  rw [set, dif_pos h]
  refine ⟨_, rfl, rfl, ?_⟩
  have hlen : (s.cells.toList.take a.offset.toNat ++ t.encode v).length = a.offset.toNat + t.width := by
    rw [List.length_append, List.length_take, Array.length_toList, CellType.length_encode]
    omega
  rw [live, live]
  dsimp only
  rw [filled_eq_encode, toList_overwrite _ _ _ (by omega), CellType.length_encode, List.take_append, hlen,
    List.take_of_length_le (by omega), List.take_take, min_eq_left (by omega), List.drop_take]

end ScopeMachine.Stack
