import Mathlib.Tactic.Lemma
import ScopeMachine.Cell

/-!
# Cells and their bytes

Writing and reading a value of a cell type are inverse to each other: a value is read back from its
bytes, and every byte string of the right length is the layout of the value that is read from it.
-/

namespace ScopeMachine

namespace Wire

lemma Reader.take_eq (n : Nat) (input : Bytes) :
    Reader.take n input =
      if n ≤ input.length then .ok (input.take n) (input.drop n) else .error .unexpectedEnd input := by
  rw [Reader.take, Bytes.split?_eq]
  by_cases h : n ≤ input.length <;> simp [h]

lemma Reader.take_all (input : Bytes) : Reader.take input.length input = .ok input [] := by
  simp [Reader.take_eq]

namespace IntType

lemma toNat_lt_modulus (t : IntType) {bs : Bytes} (h : bs.length = t.width) :
    Bytes.toNat bs < t.modulus := by
  have hlt := Bytes.toNat_lt bs
  rwa [h] at hlt

lemma contains_decode (t : IntType) {bs : Bytes} (h : bs.length = t.width) :
    t.Contains (t.decode bs) := by
  have hlt := t.toNat_lt_modulus h
  unfold Contains decode
  cases t.signed with
  | false => simp only [Bool.false_eq_true, if_false, Bool.false_and]; omega
  | true =>
    simp only [if_true, Bool.true_and, decide_eq_true_eq]
    split <;> omega

lemma decode_emod (t : IntType) {bs : Bytes} (h : bs.length = t.width) :
    t.decode bs % (t.modulus : Int) = Bytes.toNat bs := by
  have hlt := t.toNat_lt_modulus h
  unfold decode
  dsimp only
  split
  · rw [Int.sub_emod_right]
    exact Int.emod_eq_of_lt (by omega) (by omega)
  · exact Int.emod_eq_of_lt (by omega) (by omega)

lemma encode_decode (t : IntType) {bs : Bytes} (h : bs.length = t.width) :
    t.encode (t.decode bs) = bs := by
  have hmod : (t.decode bs).emod t.modulus = Bytes.toNat bs := t.decode_emod h
  rw [encode, hmod, Int.toNat_natCast, ← h, Bytes.ofNat_toNat]

end IntType

end Wire

namespace CellType

open Wire

lemma contains_toInt (t : CellType) (v : t.Value) : t.intType.Contains (t.toInt v) := by
  cases t with
  | i8 =>
    have hle := Int8.le_toInt v
    have hlt := Int8.toInt_lt v
    simp only [IntType.Contains, toInt, intType, IntType.i8, if_true, IntType.modulus, Bytes.count]
    omega
  | i16 =>
    have hle := Int16.le_toInt v
    have hlt := Int16.toInt_lt v
    simp only [IntType.Contains, toInt, intType, IntType.i16, if_true, IntType.modulus, Bytes.count]
    omega
  | i32 =>
    have hle := Int32.le_toInt v
    have hlt := Int32.toInt_lt v
    simp only [IntType.Contains, toInt, intType, IntType.i32, if_true, IntType.modulus, Bytes.count]
    omega
  | i64 =>
    have hle := Int64.le_toInt v
    have hlt := Int64.toInt_lt v
    simp only [IntType.Contains, toInt, intType, IntType.i64, if_true, IntType.modulus, Bytes.count]
    omega
  | stackAddress =>
    have hlt := v.offset.toNat_lt
    simp only [IntType.Contains, toInt, intType, IntType.u64, Bool.false_eq_true, if_false,
      IntType.modulus, Bytes.count]
    omega
  | memoryAddress =>
    have hlt := v.raw.toNat_lt
    simp only [IntType.Contains, toInt, intType, IntType.u64, Bool.false_eq_true, if_false,
      IntType.modulus, Bytes.count]
    omega

lemma uint64_ofInt_toNat (v : UInt64) : UInt64.ofInt v.toNat = v := by
  have hlt := v.toNat_lt
  apply UInt64.toNat_inj.mp
  rw [UInt64.ofInt, UInt64.toNat_ofNat']
  omega

lemma uint64_toNat_ofInt {n : Int} (h0 : 0 ≤ n) (h : n < UInt64.size) : ((UInt64.ofInt n).toNat : Int) = n := by
  rw [UInt64.size] at h
  rw [UInt64.ofInt, UInt64.toNat_ofNat']
  omega

lemma ofInt_toInt (t : CellType) (v : t.Value) : t.ofInt (t.toInt v) = v := by
  cases t with
  | i8 => exact Int8.ofInt_toInt v
  | i16 => exact Int16.ofInt_toInt v
  | i32 => exact Int32.ofInt_toInt v
  | i64 => exact Int64.ofInt_toInt v
  | stackAddress => exact congrArg StackAddress.mk (uint64_ofInt_toNat v.offset)
  | memoryAddress => exact congrArg MemoryAddress.mk (uint64_ofInt_toNat v.raw)

lemma toInt_ofInt (t : CellType) {n : Int} (h : t.intType.Contains n) : t.toInt (t.ofInt n) = n := by
  cases t with
  | i8 =>
    simp only [IntType.Contains, intType, IntType.i8, if_true, IntType.modulus, Bytes.count] at h
    exact Int8.toInt_ofInt_of_le (by omega) (by omega)
  | i16 =>
    simp only [IntType.Contains, intType, IntType.i16, if_true, IntType.modulus, Bytes.count] at h
    exact Int16.toInt_ofInt_of_le (by omega) (by omega)
  | i32 =>
    simp only [IntType.Contains, intType, IntType.i32, if_true, IntType.modulus, Bytes.count] at h
    exact Int32.toInt_ofInt_of_le (by omega) (by omega)
  | i64 =>
    simp only [IntType.Contains, intType, IntType.i64, if_true, IntType.modulus, Bytes.count] at h
    exact Int64.toInt_ofInt_of_le (by omega) (by omega)
  | stackAddress =>
    simp only [IntType.Contains, intType, IntType.u64, Bool.false_eq_true, if_false,
      IntType.modulus, Bytes.count] at h
    exact uint64_toNat_ofInt h.1 (by rw [UInt64.size]; omega)
  | memoryAddress =>
    simp only [IntType.Contains, intType, IntType.u64, Bool.false_eq_true, if_false,
      IntType.modulus, Bytes.count] at h
    exact uint64_toNat_ofInt h.1 (by rw [UInt64.size]; omega)

/-- A value is read back from its bytes. -/
theorem decode_encode (t : CellType) (v : t.Value) : t.decode (t.encode v) = v := by
  rw [decode, encode, IntType.decode_encode _ _ (t.contains_toInt v), ofInt_toInt]

/-- Every byte string of the right length is the layout of the value that is read from it. -/
theorem encode_decode (t : CellType) {bs : Bytes} (h : bs.length = t.width) :
    t.encode (t.decode bs) = bs := by
  rw [← width_intType] at h
  rw [encode, decode, toInt_ofInt t (t.intType.contains_decode h), IntType.encode_decode _ h]

lemma read_of_length (t : CellType) {bs : Bytes} (h : bs.length = t.width) :
    t.read bs = .ok (t.decode bs) [] := by
  rw [read, width_intType, ← h, Reader.take_all]

end CellType

end ScopeMachine
