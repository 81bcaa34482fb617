import ScopeMachine.Proofs.Records

/-!
# Reading a record in four ways

At a cursor the instruction can be looked at, the record can be read as one of a given instruction or as any
operation, and the cursor can be moved over it. These four check the bytes separately, and they agree on every byte
string (`Cursor.reads_agree`).
-/

namespace ScopeMachine.Cursor

section Opcode

variable (offset : Nat) (i : Instruction) (w : Bytes)

lemma readAs_of_opcode :
    (Cursor.mk offset (i.opcode :: w)).readAs i = (Cursor.mk offset (i.opcode :: w)).operation := by
  rw [operation, peekInstruction_of_opcode]

lemma next_of_opcode :
    (Cursor.mk offset (i.opcode :: w)).next =
      if i.operandLength ≤ w.length then
        .ok () ⟨offset + i.recordLength, (i.opcode :: w).drop i.recordLength⟩
      else .error (.unexpectedEnd offset i.recordLength (i.opcode :: w).length) ⟨offset, i.opcode :: w⟩ := by
  have hlength := i.recordLength_eq
  rw [next, peekInstruction_of_opcode]
  dsimp only
  rw [skip_eq, remaining, List.length_cons]
  by_cases h : i.operandLength ≤ w.length
  · rw [if_neg (by omega), if_pos h, min_eq_left (by omega)]
  · rw [if_pos (by omega), if_neg h]

end Opcode

lemma readAs_of_ne {offset : Nat} {b : UInt8} {w : Bytes} {i : Instruction} (h : b ≠ i.opcode) :
    (Cursor.mk offset (b :: w)).readAs i = .error (.instructionMismatch i b offset) := by
  simp [readAs, readRecord, h]

lemma next_of_peekInstruction_error {c : Cursor} {fault : Fault} (h : c.peekInstruction = .error fault) :
    c.next = .error fault c := by
  rw [next, h]

/-! ## Where a record stands -/

lemma opcode_ne_of_ne {i j : Instruction} (h : i ≠ j) : j.opcode ≠ i.opcode := by
  intro heq
  have hi := i.ofOpcode?_opcode
  rw [← heq, Instruction.ofOpcode?_opcode] at hi
  exact h (Option.some.inj hi).symm

lemma reads_of_record (offset : Nat) (op : Operation) (rest : Bytes) :
    (Cursor.mk offset (op.record ++ rest)).peekInstruction = .ok op.instruction ∧
      (Cursor.mk offset (op.record ++ rest)).readAs op.instruction = .ok op ∧
      ∀ i, i ≠ op.instruction → (Cursor.mk offset (op.record ++ rest)).readAs i =
        .error (.instructionMismatch i op.instruction.opcode offset) := by
  have hoperation := operation_of_record offset op rest
  have hrecord : op.record ++ rest = op.instruction.opcode :: (op.operandBytes ++ rest) := rfl
  rw [hrecord] at hoperation ⊢
  refine ⟨peekInstruction_of_opcode _ _, ?_, ?_⟩
  · rw [readAs_of_opcode, hoperation]
  · intro i hne
    exact readAs_of_ne (opcode_ne_of_ne hne)

/-! ## Where no record stands -/

lemma peekInstruction_of_unknown (offset : Nat) {b : UInt8} (w : Bytes) (h : ∀ i : Instruction, i.opcode ≠ b) :
    (Cursor.mk offset (b :: w)).peekInstruction = .error (.unsupportedInstruction b offset) := by
  simp only [peekInstruction, Instruction.ofOpcode, Instruction.ofOpcode?_eq_none_iff.mpr h]

/-- Moving on looks at the opcode and at the length of the record, but not at the register. -/
lemma next_of_malformed {offset : Nat} {tail : Bytes} {fault : Fault} (h : Malformed offset tail fault) :
    (∀ id place, fault = .unknownRegister id place →
        (Cursor.mk offset tail).next = .ok () ⟨offset + 2, tail.drop 2⟩) ∧
      ((∀ id place, fault ≠ .unknownRegister id place) →
        (Cursor.mk offset tail).next = .error fault ⟨offset, tail⟩) := by
  cases h with
  | unknownOpcode b w hb =>
    refine ⟨nofun, fun _ => ?_⟩
    exact next_of_peekInstruction_error (peekInstruction_of_unknown offset w hb)
  | truncated i w hlt =>
    refine ⟨nofun, fun _ => ?_⟩
    rw [i.recordLength_eq, List.length_cons] at hlt
    rw [next_of_opcode, if_neg (by omega)]
  | unknownRegister i id w hi hlt =>
    have hlength : i.recordLength = 2 := by rw [i.recordLength_eq, hi.operandLength_eq]
    refine ⟨fun _ _ _ => ?_, fun hne => absurd rfl (hne id offset)⟩
    rw [next_of_opcode, hi.operandLength_eq, if_pos (by rw [List.length_cons]; omega), hlength]

lemma next_of_operation_error {c : Cursor} {fault : Fault} (h : c.operation = .error fault) :
    (∀ id place, fault = .unknownRegister id place → c.next = .ok () ⟨c.offset + 2, c.rest.drop 2⟩) ∧
      ((∀ id place, fault ≠ .unknownRegister id place) → c.next = .error fault c) := by
  obtain ⟨offset, rest⟩ := c
  by_cases hne : rest = []
  · subst hne
    cases h
    exact ⟨nofun, fun _ => next_of_peekInstruction_error rfl⟩
  · exact next_of_malformed ((operation_eq_error_iff hne).mp h)

lemma readAs_of_head {c : Cursor} {i : Instruction} (h : c.rest.head? = some i.opcode) :
    c.readAs i = c.operation := by
  obtain ⟨offset, rest⟩ := c
  obtain ⟨w, rfl⟩ := List.head?_eq_some_iff.mp h
  exact readAs_of_opcode offset i w

lemma not_malformed_decoding (offset : Nat) (tail : Bytes) (reason : String) :
    ¬ Malformed offset tail (.decoding reason) := by
  intro h
  cases h

/-- The bytes of a record are there when its operands are read. -/
lemma readAs_ne_decoding (c : Cursor) (i : Instruction) (reason : String) :
    c.readAs i ≠ .error (.decoding reason) := by
  intro h
  obtain ⟨offset, rest⟩ := c
  cases rest with
  | nil => cases h
  | cons b w =>
    by_cases hb : b = i.opcode
    · subst hb
      rw [readAs_of_opcode, operation_eq_error_iff (List.cons_ne_nil _ _)] at h
      exact not_malformed_decoding _ _ reason h
    · rw [readAs_of_ne hb] at h
      cases h

/-- Peeking, reading as an instruction, reading an operation and moving on agree at every cursor. Only the move gives a
cursor back, so the reads leave the position as it is.

An operation is read exactly where its record stands. There the instruction is its own, reading as that instruction
gives the operation with its operands, reading as any other finds the opcode that stands there, and moving on skips
the record. Where no operation can be read, the move fails with the same fault and stays, except that it skips the two
bytes of a record with an unknown register; and reading as the instruction whose opcode stands there fails with that
fault. -/
theorem reads_agree (c : Cursor) :
    (∀ op, c.operation = .ok op ↔ op.record <+: c.rest) ∧
    (∀ op, c.operation = .ok op →
      c.peekInstruction = .ok op.instruction ∧
      c.readAs op.instruction = .ok op ∧
      (∀ i, i ≠ op.instruction →
        ∃ b, c.rest.head? = some b ∧ c.readAs i = .error (.instructionMismatch i b c.offset)) ∧
      c.next = .ok () ⟨c.offset + op.record.length, c.rest.drop op.record.length⟩) ∧
    (∀ fault, c.operation = .error fault →
      (∀ id offset, fault = .unknownRegister id offset → c.next = .ok () ⟨c.offset + 2, c.rest.drop 2⟩) ∧
      ((∀ id offset, fault ≠ .unknownRegister id offset) → c.next = .error fault c) ∧
      ∀ i : Instruction, c.rest.head? = some i.opcode → c.readAs i = .error fault) ∧
    ∀ i reason, c.readAs i ≠ .error (.decoding reason) := by
  refine ⟨fun op => operation_eq_ok_iff, fun op hop => ?_, fun fault hfault => ?_, c.readAs_ne_decoding⟩
  · obtain ⟨offset, rest⟩ := c
    obtain ⟨w, rfl⟩ := operation_eq_ok_iff.mp hop
    obtain ⟨hpeek, hread, hother⟩ := reads_of_record offset op w
    refine ⟨hpeek, hread, fun i hne => ⟨_, rfl, hother i hne⟩, ?_⟩
    rw [next_of_record, List.drop_left]
  · obtain ⟨hregister, hsame⟩ := next_of_operation_error hfault
    refine ⟨hregister, hsame, fun i hi => ?_⟩
    rw [readAs_of_head hi, hfault]

end ScopeMachine.Cursor
