import Mathlib.Data.List.Infix
import ScopeMachine.Operation
import ScopeMachine.Proofs.Cells

/-!
# Records in code

What stands at a position of code is decided by the bytes from there on. The operation at a cursor is
the one whose record the bytes start with, and moving on skips exactly that record
(`Cursor.operation_eq_ok_iff`, `Cursor.next_of_record`); if the bytes start with no record, the
fault says which of three things is wrong with the first one (`Malformed`).
-/

namespace ScopeMachine

namespace Instruction

/-- The instructions whose operand is a register. -/
def TakesRegister (i : Instruction) : Prop := ValueType.register ∈ i.operands

lemma TakesRegister.eq_push_or_set {i : Instruction} (h : i.TakesRegister) :
    i = .pushRegister ∨ i = .setRegister := by
  cases i <;> simp_all [TakesRegister, operands]

lemma TakesRegister.operandLength_eq {i : Instruction} (h : i.TakesRegister) :
    i.operandLength = 1 := by
  rcases h.eq_push_or_set with rfl | rfl <;> rfl

lemma recordLength_eq (i : Instruction) : i.recordLength = i.operandLength + 1 := by
  rw [recordLength, ValueType.width, Nat.add_comm]

lemma ofOpcode?_eq_none_iff {b : UInt8} : ofOpcode? b = none ↔ ∀ i : Instruction, i.opcode ≠ b := by
  constructor
  · intro h i hi
    rw [← hi, ofOpcode?_opcode] at h
    cases h
  · intro h
    cases hb : ofOpcode? b with
    | none => rfl
    | some i => exact absurd (opcode_of_ofOpcode? hb) (h i)

end Instruction

lemma Register.ofId?_eq_none_iff {id : UInt8} : Register.ofId? id = none ↔ 18 < id.toNat := by
  have hlength : Register.all.length = 19 := rfl
  rw [Register.ofId?, List.getElem?_eq_none_iff, hlength]
  omega

namespace Operation

open Wire

/-! ## Operands -/

lemma length_operandBytes (op : Operation) :
    op.operandBytes.length = op.instruction.operandLength := by
  have h := length_record op
  rw [Instruction.recordLength_eq, record, List.length_cons] at h
  omega

lemma operand_i32 {bs : Bytes} (h : bs.length = 4) :
    operand CellType.i32.read bs = .ok (CellType.i32.decode bs) := by
  rw [operand, CellType.read_of_length .i32 h]

lemma scopeOperand_of_length {bs : Bytes} (h : bs.length = 4) :
    scopeOperand bs = .ok ⟨UInt32.ofNat (Bytes.toNat bs)⟩ := by
  have hread : Reader.int .u32 bs = .ok (Bytes.toNat bs : Int) [] := by
    have hw : IntType.u32.width = bs.length := h.symm
    rw [Reader.int, hw, Reader.take_all]
    rfl
  have hraw : UInt32.ofInt (Bytes.toNat bs) = UInt32.ofNat (Bytes.toNat bs) := by
    apply UInt32.toNat_inj.mp
    rw [UInt32.ofInt, UInt32.toNat_ofNat', UInt32.toNat_ofNat']
    omega
  rw [scopeOperand, operand, hread]
  exact congrArg (fun raw => Except.ok (ScopeId.mk raw)) hraw

lemma toNat_ofNat_scope (scope : ScopeId) :
    UInt32.ofNat (Bytes.toNat (Bytes.ofNat 4 scope.raw.toNat)) = scope.raw := by
  have hlt : scope.raw.toNat < Bytes.count 4 := scope.raw.toNat_lt
  rw [Bytes.toNat_ofNat, Nat.mod_eq_of_lt hlt, UInt32.ofNat_toNat]

lemma ofNat_toNat_scope {bs : Bytes} (h : bs.length = 4) :
    Bytes.ofNat 4 (UInt32.ofNat (Bytes.toNat bs)).toNat = bs := by
  have hlt : Bytes.toNat bs < 4294967296 := by
    have := Bytes.toNat_lt bs
    rwa [h] at this
  rw [UInt32.toNat_ofNat', Nat.mod_eq_of_lt hlt, ← h, Bytes.ofNat_toNat]

lemma registerOperand_singleton (offset : Nat) (id : UInt8) :
    registerOperand offset [id] =
      match Register.ofId? id with
      | some register => .ok register
      | none => .error (.unknownRegister id offset) := rfl

lemma ofOperands_operandBytes (offset : Nat) (op : Operation) :
    ofOperands offset op.operandBytes op.instruction = .ok op := by
  cases op with
  | nop => rfl
  | add => rfl
  | ret => rfl
  | pushConst value =>
    rw [operandBytes, instruction, ofOperands, operand_i32 (CellType.length_encode .i32 value),
      CellType.decode_encode]
    rfl
  | pushRegister register =>
    rw [operandBytes, instruction, ofOperands, registerOperand_singleton, Register.ofId?_id]
    rfl
  | setRegister register =>
    rw [operandBytes, instruction, ofOperands, registerOperand_singleton, Register.ofId?_id]
    rfl
  | call scope =>
    rw [operandBytes, instruction, ofOperands, scopeOperand_of_length (Bytes.length_ofNat 4 _),
      toNat_ofNat_scope]
    rfl
  | callExternal scope =>
    rw [operandBytes, instruction, ofOperands, scopeOperand_of_length (Bytes.length_ofNat 4 _),
      toNat_ofNat_scope]
    rfl

lemma registerOperand_eq_ok {offset : Nat} {bs : Bytes} {register : Register} (hlen : bs.length = 1)
    (h : registerOperand offset bs = .ok register) : bs = [register.id] := by
  obtain ⟨id, rfl⟩ := List.length_eq_one_iff.mp hlen
  rw [registerOperand_singleton] at h
  cases hid : Register.ofId? id with
  | none => rw [hid] at h; cases h
  | some r =>
    rw [hid] at h
    cases h
    rw [Register.id_of_ofId? hid]

lemma registerOperand_eq_error {offset : Nat} {bs : Bytes} {fault : Fault} (hlen : bs.length = 1)
    (h : registerOperand offset bs = .error fault) :
    ∃ id, bs = [id] ∧ 18 < id.toNat ∧ fault = .unknownRegister id offset := by
  obtain ⟨id, rfl⟩ := List.length_eq_one_iff.mp hlen
  rw [registerOperand_singleton] at h
  cases hid : Register.ofId? id with
  | some r => rw [hid] at h; cases h
  | none =>
    rw [hid] at h
    cases h
    exact ⟨id, rfl, Register.ofId?_eq_none_iff.mp hid, rfl⟩

lemma eq_ok_of_map_eq_ok {ε α β : Type} {f : α → β} {x : Except ε α} {b : β} (h : f <$> x = .ok b) :
    ∃ a, x = .ok a ∧ f a = b := by
  cases x with
  | error e => cases h
  | ok a => exact ⟨a, rfl, Except.ok.inj h⟩

lemma eq_error_of_map_eq_error {ε α β : Type} {f : α → β} {x : Except ε α} {e : ε}
    (h : f <$> x = .error e) : x = .error e := by
  cases x with
  | error e' => exact congrArg Except.error (Except.error.inj h)
  | ok a => cases h

lemma ofOperands_eq_ok {offset : Nat} {bs : Bytes} {i : Instruction} {op : Operation}
    (hlen : bs.length = i.operandLength) (h : ofOperands offset bs i = .ok op) :
    op.instruction = i ∧ op.operandBytes = bs := by
  cases i with
  | nop => cases h; exact ⟨rfl, (List.length_eq_zero_iff.mp hlen).symm⟩
  | add => cases h; exact ⟨rfl, (List.length_eq_zero_iff.mp hlen).symm⟩
  | ret => cases h; exact ⟨rfl, (List.length_eq_zero_iff.mp hlen).symm⟩
  | pushConst =>
    rw [ofOperands, operand_i32 hlen] at h
    cases h
    exact ⟨rfl, CellType.encode_decode .i32 hlen⟩
  | pushRegister =>
    obtain ⟨register, hr, rfl⟩ := eq_ok_of_map_eq_ok h
    exact ⟨rfl, (registerOperand_eq_ok hlen hr).symm⟩
  | setRegister =>
    obtain ⟨register, hr, rfl⟩ := eq_ok_of_map_eq_ok h
    exact ⟨rfl, (registerOperand_eq_ok hlen hr).symm⟩
  | call =>
    rw [ofOperands, scopeOperand_of_length hlen] at h
    cases h
    exact ⟨rfl, ofNat_toNat_scope hlen⟩
  | callExternal =>
    rw [ofOperands, scopeOperand_of_length hlen] at h
    cases h
    exact ⟨rfl, ofNat_toNat_scope hlen⟩

lemma ofOperands_eq_error {offset : Nat} {bs : Bytes} {i : Instruction} {fault : Fault}
    (hlen : bs.length = i.operandLength) (h : ofOperands offset bs i = .error fault) :
    i.TakesRegister ∧ ∃ id, bs = [id] ∧ 18 < id.toNat ∧ fault = .unknownRegister id offset := by
  cases i with
  | nop => cases h
  | add => cases h
  | ret => cases h
  | pushConst => rw [ofOperands, operand_i32 hlen] at h; cases h
  | pushRegister =>
    exact ⟨List.mem_singleton.mpr rfl, registerOperand_eq_error hlen (eq_error_of_map_eq_error h)⟩
  | setRegister =>
    exact ⟨List.mem_singleton.mpr rfl, registerOperand_eq_error hlen (eq_error_of_map_eq_error h)⟩
  | call => rw [ofOperands, scopeOperand_of_length hlen] at h; cases h
  | callExternal => rw [ofOperands, scopeOperand_of_length hlen] at h; cases h

lemma ofOperands_of_unknown {offset : Nat} {i : Instruction} {id : UInt8} (hi : i.TakesRegister)
    (h : 18 < id.toNat) : ofOperands offset [id] i = .error (.unknownRegister id offset) := by
  have hnone := Register.ofId?_eq_none_iff.mpr h
  rcases hi.eq_push_or_set with rfl | rfl
  · rw [ofOperands, registerOperand_singleton, hnone]
    rfl
  · rw [ofOperands, registerOperand_singleton, hnone]
    rfl

end Operation

/-! ## Records at a cursor -/

/-- What is wrong with bytes that are not empty and start with no record: the fault of reading them
at an offset. -/
inductive Malformed (offset : Nat) : Bytes → Fault → Prop where
  | unknownOpcode (b : UInt8) (w : Bytes) (h : ∀ i : Instruction, i.opcode ≠ b) :
      Malformed offset (b :: w) (.unsupportedInstruction b offset)
  | truncated (i : Instruction) (w : Bytes) (h : (i.opcode :: w).length < i.recordLength) :
      Malformed offset (i.opcode :: w)
        (.unexpectedEnd offset i.recordLength (i.opcode :: w).length)
  | unknownRegister (i : Instruction) (id : UInt8) (w : Bytes) (hi : i.TakesRegister)
      (h : 18 < id.toNat) :
      Malformed offset (i.opcode :: id :: w) (.unknownRegister id offset)

lemma Malformed.ne_nil {offset : Nat} {tail : Bytes} {fault : Fault} (h : Malformed offset tail fault) :
    tail ≠ [] := by
  rintro rfl
  cases h

namespace Cursor

lemma hasData_of_ne_nil (offset : Nat) {rest : Bytes} (h : rest ≠ []) :
    (Cursor.mk offset rest).hasData = true := by
  cases rest with
  | nil => exact absurd rfl h
  | cons b w => rfl

lemma peekInstruction_of_opcode {offset : Nat} (i : Instruction) (w : Bytes) :
    (Cursor.mk offset (i.opcode :: w)).peekInstruction = .ok i := by
  simp only [peekInstruction, Instruction.ofOpcode, Instruction.ofOpcode?_opcode]

lemma readRecord_of_opcode (offset : Nat) (i : Instruction) (w : Bytes) :
    (Cursor.mk offset (i.opcode :: w)).readRecord i =
      if i.operandLength ≤ w.length then .ok (w.take i.operandLength)
      else .error (.unexpectedEnd offset i.recordLength (w.length + 1)) := by
  simp only [readRecord, ne_eq, not_true_eq_false, if_false, peek_eq, remaining, List.length_cons,
    Instruction.recordLength_eq, Nat.add_le_add_iff_right]
  split_ifs with h
  · simp [ValueType.width]
  · rfl

lemma operation_of_opcode (offset : Nat) (i : Instruction) (w : Bytes) :
    (Cursor.mk offset (i.opcode :: w)).operation =
      if i.operandLength ≤ w.length then Operation.ofOperands offset (w.take i.operandLength) i
      else .error (.unexpectedEnd offset i.recordLength (w.length + 1)) := by
  rw [operation, peekInstruction_of_opcode]
  dsimp only
  rw [readAs, readRecord_of_opcode]
  split_ifs <;> rfl

lemma operation_of_unknown {offset : Nat} {b : UInt8} (w : Bytes)
    (h : ∀ i : Instruction, i.opcode ≠ b) :
    (Cursor.mk offset (b :: w)).operation = .error (.unsupportedInstruction b offset) := by
  simp only [operation, peekInstruction, Instruction.ofOpcode,
    Instruction.ofOpcode?_eq_none_iff.mpr h]

lemma opcode_known_or_unknown (b : UInt8) :
    (∃ i : Instruction, i.opcode = b) ∨ ∀ i : Instruction, i.opcode ≠ b := by
  by_cases h : ∃ i : Instruction, i.opcode = b
  · exact .inl h
  · exact .inr (fun i hi => h ⟨i, hi⟩)

lemma operation_of_record (offset : Nat) (op : Operation) (rest : Bytes) :
    (Cursor.mk offset (op.record ++ rest)).operation = .ok op := by
  have hlen := op.length_operandBytes
  rw [Operation.record, List.cons_append, operation_of_opcode, if_pos (by rw [List.length_append]; omega),
    List.take_left' hlen, Operation.ofOperands_operandBytes]

/-- The operation at a cursor is the one whose record the bytes start with. -/
theorem operation_eq_ok_iff {c : Cursor} {op : Operation} :
    c.operation = .ok op ↔ op.record <+: c.rest := by
  obtain ⟨offset, rest⟩ := c
  constructor
  · intro h
    cases rest with
    | nil => cases h
    | cons b w =>
      rcases opcode_known_or_unknown b with ⟨i, rfl⟩ | hb
      · rw [operation_of_opcode] at h
        split_ifs at h with hlen
        obtain ⟨rfl, hbytes⟩ := Operation.ofOperands_eq_ok (List.length_take_of_le hlen) h
        rw [Operation.record, hbytes]
        exact List.cons_prefix_cons.mpr ⟨rfl, List.take_prefix _ w⟩
      · rw [operation_of_unknown w hb] at h
        cases h
  · rintro ⟨w, rfl⟩
    exact operation_of_record offset op w

/-- Where bytes start with no record, the fault says what is wrong with the first one. -/
theorem operation_eq_error_iff {offset : Nat} {tail : Bytes} {fault : Fault} (hne : tail ≠ []) :
    (Cursor.mk offset tail).operation = .error fault ↔ Malformed offset tail fault := by
  constructor
  · intro h
    cases tail with
    | nil => exact absurd rfl hne
    | cons b w =>
      rcases opcode_known_or_unknown b with ⟨i, rfl⟩ | hb
      · rw [operation_of_opcode] at h
        split_ifs at h with hlen
        · obtain ⟨hi, id, hid, hlt, rfl⟩ :=
            Operation.ofOperands_eq_error (List.length_take_of_le hlen) h
          have hw : w = id :: w.drop i.operandLength := by
            conv_lhs => rw [← List.take_append_drop i.operandLength w, hid]
            rfl
          rw [hw]
          exact .unknownRegister i id _ hi hlt
        · cases h
          refine .truncated i w ?_
          rw [Instruction.recordLength_eq, List.length_cons]
          omega
      · rw [operation_of_unknown w hb] at h
        cases h
        exact .unknownOpcode b w hb
  · intro h
    cases h with
    | unknownOpcode b w hb => exact operation_of_unknown w hb
    | truncated i w hlt =>
      rw [Instruction.recordLength_eq, List.length_cons] at hlt
      rw [operation_of_opcode, if_neg (by omega)]
      rfl
    | unknownRegister i id w hi hlt =>
      rw [operation_of_opcode, hi.operandLength_eq, if_pos (by rw [List.length_cons]; omega)]
      exact Operation.ofOperands_of_unknown hi hlt

/-- Moving on from a record skips exactly its bytes. -/
theorem next_of_record (offset : Nat) (op : Operation) (rest : Bytes) :
    (Cursor.mk offset (op.record ++ rest)).next = .ok () ⟨offset + op.record.length, rest⟩ := by
  have hinstr : (Cursor.mk offset (op.record ++ rest)).peekInstruction = .ok op.instruction :=
    peekInstruction_of_opcode op.instruction (op.operandBytes ++ rest)
  have hle : op.record.length ≤ (Cursor.mk offset (op.record ++ rest)).remaining := by
    rw [remaining, List.length_append]
    omega
  have hskip : skip op.record.length ⟨offset, op.record ++ rest⟩ = ⟨offset + op.record.length, rest⟩ := by
    rw [skip_eq, min_eq_left hle, List.drop_left]
  rw [next, hinstr]
  dsimp only
  rw [← Operation.length_record, if_neg (by omega), hskip]

end Cursor

end ScopeMachine
