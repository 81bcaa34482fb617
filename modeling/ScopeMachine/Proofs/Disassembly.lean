import Mathlib.Algebra.Ring.Nat
import ScopeMachine.Proofs.Records

/-!
# Listing a byte string

Every byte string is, in exactly one way, a sequence of records followed by bytes that start with no
record (`Splits`). It has a listing if and only if nothing is left over, and then the listing is the
sequence; otherwise the fault is about the first byte left over, and it depends only on where that is
and on the bytes from there on (`Malformed`).
-/

namespace ScopeMachine

open Operation (records)

namespace Operation

@[simp] lemma records_cons (op : Operation) (ops : List Operation) :
    records (op :: ops) = op.record ++ records ops := List.flatMap_cons

lemma record_length_pos (op : Operation) : 0 < op.record.length := by
  rw [record, List.length_cons]
  omega

lemma not_record_prefix_nil (op : Operation) : ¬ op.record <+: [] := by
  rw [List.prefix_nil]
  exact List.cons_ne_nil _ _

lemma eq_of_starts_with {op op' : Operation} {bs : Bytes} (h : op.record <+: bs)
    (h' : op'.record <+: bs) : op = op' := by
  have hread : (Cursor.mk 0 bs).operation = .ok op := Cursor.operation_eq_ok_iff.mpr h
  have hread' : (Cursor.mk 0 bs).operation = .ok op' := Cursor.operation_eq_ok_iff.mpr h'
  exact Except.ok.inj (hread.symm.trans hread')

end Operation

/-! ## Taking code apart -/

lemma exists_limit_of_ne_nil {code : Bytes} (h : code ≠ []) {limit : Nat} (hlimit : code.length ≤ limit) :
    ∃ n, limit = n + 1 :=
  Nat.exists_eq_add_one.mpr (Nat.lt_of_lt_of_le (List.length_pos_of_ne_nil h) hlimit)

/-- Code is the records of some operations, followed by bytes that start with no record. -/
structure Splits (code : Bytes) (ops : List Operation) (tail : Bytes) : Prop where
  eq : code = records ops ++ tail
  stuck : ∀ op : Operation, ¬ op.record <+: tail

namespace Splits

lemma nil_iff {code tail : Bytes} :
    Splits code [] tail ↔ code = tail ∧ ∀ op : Operation, ¬ op.record <+: tail :=
  ⟨fun h => ⟨h.eq, h.stuck⟩, fun h => ⟨h.1, h.2⟩⟩

lemma of_records (ops : List Operation) : Splits (records ops) ops [] :=
  ⟨(List.append_nil _).symm, Operation.not_record_prefix_nil⟩

lemma cons {rest tail : Bytes} {ops : List Operation} (op : Operation) (h : Splits rest ops tail) :
    Splits (op.record ++ rest) (op :: ops) tail := by
  refine ⟨?_, h.stuck⟩
  rw [h.eq, Operation.records_cons, List.append_assoc]

lemma eq_record_append {code tail : Bytes} {op : Operation} {ops : List Operation}
    (h : Splits code (op :: ops) tail) : code = op.record ++ (records ops ++ tail) := by
  rw [h.eq, Operation.records_cons, List.append_assoc]

lemma exists_limit {code tail : Bytes} {op : Operation} {ops : List Operation}
    (h : Splits code (op :: ops) tail) {limit : Nat} (hlimit : code.length ≤ limit) :
    ∃ n, limit = n + 1 ∧ (records ops ++ tail).length ≤ n := by
  have hpos := op.record_length_pos
  rw [h.eq_record_append, List.length_append] at hlimit
  exact ⟨limit - 1, by omega, by omega⟩

/-- The operations and the bytes left over are determined by the code. -/
theorem unique {code tail tail' : Bytes} {ops ops' : List Operation} (h : Splits code ops tail)
    (h' : Splits code ops' tail') : ops' = ops ∧ tail' = tail := by
  induction ops generalizing code ops' with
  | nil =>
    cases ops' with
    | nil => exact ⟨rfl, h'.eq.symm.trans h.eq⟩
    | cons op ops' =>
      exact absurd ⟨_, h'.eq_record_append.symm.trans h.eq⟩ (h.stuck op)
  | cons op ops ih =>
    have hcode := h.eq_record_append
    cases ops' with
    | nil => exact absurd ⟨_, hcode.symm.trans h'.eq⟩ (h'.stuck op)
    | cons op' ops' =>
      have hcode' := h'.eq_record_append
      obtain rfl : op = op' := Operation.eq_of_starts_with ⟨_, hcode.symm⟩ ⟨_, hcode'.symm⟩
      have hrest : records ops ++ tail = records ops' ++ tail' :=
        List.append_cancel_left (hcode.symm.trans hcode')
      obtain ⟨rfl, rfl⟩ := ih ⟨rfl, h.stuck⟩ ⟨hrest, h'.stuck⟩
      exact ⟨rfl, rfl⟩

end Splits

/-- Every byte string can be taken apart. -/
theorem exists_splits (code : Bytes) : ∃ ops tail, Splits code ops tail := by
  -- each record takes at least one byte, so what is left after the first one is shorter
  induction hn : code.length using Nat.strong_induction_on generalizing code with
  | _ n ih =>
    by_cases h : ∃ op : Operation, op.record <+: code
    · obtain ⟨op, rest, rfl⟩ := h
      have hpos := op.record_length_pos
      obtain ⟨ops, tail, hsplit⟩ := ih rest.length (by rw [← hn, List.length_append]; omega) rest rfl
      exact ⟨op :: ops, tail, hsplit.cons op⟩
    · exact ⟨[], code, Splits.nil_iff.mpr ⟨rfl, fun op hop => h ⟨op, hop⟩⟩⟩

namespace Listing

/-- Operations with the offsets that their records have when the first one stands at `offset`. -/
def ofOperations : (offset : Nat) → List Operation → Listing
  | _, [] => []
  | offset, op :: ops => (offset, op) :: ofOperations (offset + op.record.length) ops

@[simp] lemma operations_ofOperations (offset : Nat) (ops : List Operation) :
    (ofOperations offset ops).operations = ops := by
  induction ops generalizing offset with
  | nil => rfl
  | cons op ops ih => exact congrArg (op :: ·) (ih _)

lemma offset_ofOperations (offset : Nat) (ops : List Operation) (i : Nat)
    (h : i < (ofOperations offset ops).length) :
    ((ofOperations offset ops)[i]).1 = offset + ((ops.take i).map fun op => op.record.length).sum := by
  induction ops generalizing offset i with
  | nil => cases h
  | cons op ops ih =>
    cases i with
    | zero => rfl
    | succ i =>
      simp only [ofOperations, List.getElem_cons_succ, List.take_succ_cons, List.map_cons, List.sum_cons]
      rw [ih, Nat.add_assoc]

lemma ofCursor_nil (limit offset : Nat) : ofCursor limit ⟨offset, []⟩ = .ok [] := by
  cases limit <;> rfl

lemma ofCursor_record (limit offset : Nat) (op : Operation) (rest : Bytes) :
    ofCursor (limit + 1) ⟨offset, op.record ++ rest⟩ =
      (ofCursor limit ⟨offset + op.record.length, rest⟩).map ((offset, op) :: ·) := by
  rw [ofCursor, if_pos (by rfl), Cursor.operation_of_record]
  simp only [Cursor.next_of_record]
  cases ofCursor limit ⟨offset + op.record.length, rest⟩ with
  | error fault => rfl
  | ok entries => rfl

lemma ofCursor_of_operation_error {limit offset : Nat} {rest : Bytes} {fault : Fault}
    (hne : rest ≠ []) (h : (Cursor.mk offset rest).operation = .error fault) :
    ofCursor (limit + 1) ⟨offset, rest⟩ = .error fault := by
  rw [ofCursor, if_pos (Cursor.hasData_of_ne_nil offset hne), h]

/-- Whether a listing exists is decided by the bytes left over after the records. -/
lemma ofCursor_of_splits {limit : Nat} {rest tail : Bytes} {ops : List Operation} (offset : Nat)
    (hlimit : rest.length ≤ limit) (h : Splits rest ops tail) :
    (tail = [] → ofCursor limit ⟨offset, rest⟩ = .ok (ofOperations offset ops)) ∧
      ∀ fault, Malformed (offset + (records ops).length) tail fault →
        ofCursor limit ⟨offset, rest⟩ = .error fault := by
  induction ops generalizing limit rest offset with
  | nil =>
    obtain ⟨rfl, -⟩ := Splits.nil_iff.mp h
    constructor
    · rintro rfl
      exact ofCursor_nil limit offset
    · intro fault hbad
      have hne := hbad.ne_nil
      obtain ⟨limit, rfl⟩ := exists_limit_of_ne_nil hne hlimit
      exact ofCursor_of_operation_error hne ((Cursor.operation_eq_error_iff hne).mpr hbad)
  | cons op ops ih =>
    obtain ⟨limit, rfl, hlimit'⟩ := h.exists_limit hlimit
    obtain ⟨hok, herror⟩ := ih (offset + op.record.length) hlimit' ⟨rfl, h.stuck⟩
    rw [h.eq_record_append]
    constructor
    · intro htail
      rw [ofCursor_record, hok htail]
      rfl
    · intro fault hbad
      rw [Operation.records_cons, List.length_append, ← Nat.add_assoc] at hbad
      rw [ofCursor_record, herror fault hbad]
      rfl

lemma ofBytes_of_splits {code tail : Bytes} {ops : List Operation} (h : Splits code ops tail) :
    (tail = [] → ofBytes code = .ok (ofOperations 0 ops)) ∧
      ∀ fault, Malformed (records ops).length tail fault → ofBytes code = .error fault := by
  have hcursor := ofCursor_of_splits 0 (Nat.le_refl _) h
  rwa [Nat.zero_add] at hcursor

end Listing

lemma Splits.exists_malformed {code tail : Bytes} {ops : List Operation} (h : Splits code ops tail)
    (hne : tail ≠ []) (offset : Nat) : ∃ fault, Malformed offset tail fault := by
  cases hread : (Cursor.mk offset tail).operation with
  | error fault => exact ⟨fault, (Cursor.operation_eq_error_iff hne).mp hread⟩
  | ok op => exact absurd (Cursor.operation_eq_ok_iff.mp hread) (h.stuck op)

namespace Listing

lemma ofBytes_records (ops : List Operation) : ofBytes (records ops) = .ok (ofOperations 0 ops) :=
  (ofBytes_of_splits (Splits.of_records ops)).1 rfl

lemma eq_of_ofBytes_eq_ok {code : Bytes} {listing : Listing} (h : ofBytes code = .ok listing) :
    code = records listing.operations ∧ listing = ofOperations 0 listing.operations := by
  obtain ⟨ops, tail, hsplit⟩ := exists_splits code
  by_cases htail : tail = []
  · rw [(ofBytes_of_splits hsplit).1 htail] at h
    cases h
    rw [operations_ofOperations, hsplit.eq, htail, List.append_nil]
    exact ⟨rfl, rfl⟩
  · obtain ⟨fault, hbad⟩ := hsplit.exists_malformed htail (records ops).length
    rw [(ofBytes_of_splits hsplit).2 fault hbad] at h
    cases h

lemma records_injective : Function.Injective records := by
  intro ops ops' h
  have hsplit := Splits.of_records ops
  rw [h] at hsplit
  exact ((Splits.of_records ops').unique hsplit).1

/-- A byte string has a listing exactly if it is the concatenated records of some operations. These
operations are unique and they are the ones listed, each at the sum of the record lengths before it;
and the records of any operations are listed as these operations. -/
theorem ofBytes_accepts_exactly_records :
    (∀ code, (∃ listing, ofBytes code = .ok listing) ↔ ∃ ops, code = records ops) ∧
    (∀ code listing, ofBytes code = .ok listing →
      (∀ ops, code = records ops ↔ ops = listing.operations) ∧
      ∀ i (h : i < listing.length),
        (listing[i]).1 = ((listing.operations.take i).map fun op => op.record.length).sum) ∧
    ∀ ops, (ofBytes (records ops)).map operations = .ok ops := by
  refine ⟨fun code => ⟨?_, ?_⟩, fun code listing hok => ⟨fun ops => ⟨?_, ?_⟩, ?_⟩, fun ops => ?_⟩
  · rintro ⟨listing, hok⟩
    exact ⟨listing.operations, (eq_of_ofBytes_eq_ok hok).1⟩
  · rintro ⟨ops, rfl⟩
    exact ⟨_, ofBytes_records ops⟩
  · intro hcode
    exact records_injective (hcode.symm.trans (eq_of_ofBytes_eq_ok hok).1)
  · rintro rfl
    exact (eq_of_ofBytes_eq_ok hok).1
  · intro i hi
    obtain ⟨-, hlisting⟩ := eq_of_ofBytes_eq_ok hok
    generalize listing.operations = ops at hlisting ⊢
    subst hlisting
    rw [offset_ofOperations, Nat.zero_add]
  · rw [ofBytes_records]
    exact congrArg Except.ok (operations_ofOperations 0 ops)

lemma exists_malformed_of_ofBytes_eq_error {code : Bytes} {fault : Fault}
    (h : ofBytes code = .error fault) :
    ∃ ops tail, Splits code ops tail ∧ tail ≠ [] ∧ Malformed (records ops).length tail fault := by
  obtain ⟨ops, tail, hsplit⟩ := exists_splits code
  obtain ⟨hok, herror⟩ := ofBytes_of_splits hsplit
  by_cases htail : tail = []
  · rw [hok htail] at h
    cases h
  · obtain ⟨fault', hbad⟩ := hsplit.exists_malformed htail (records ops).length
    rw [herror fault' hbad] at h
    cases h
    exact ⟨ops, tail, hsplit, htail, hbad⟩

/-- A byte string has no listing exactly if bytes are left over after its records. The records and
what is left over are unique, and the fault is that of the first malformed record, at its offset. No
other fault occurs: reading a record never finds another instruction or too few operand bytes. -/
theorem ofBytes_fails_at_first_malformed :
    (∀ code fault, ofBytes code = .error fault ↔
      ∃ ops tail, Splits code ops tail ∧
        (∀ ops' tail', Splits code ops' tail' → ops' = ops ∧ tail' = tail) ∧
        tail ≠ [] ∧ Malformed (records ops).length tail fault) ∧
    ∀ code, (∀ expected actual offset,
        ofBytes code ≠ .error (.instructionMismatch expected actual offset)) ∧
      ∀ reason, ofBytes code ≠ .error (.decoding reason) := by
  refine ⟨fun code fault => ⟨fun h => ?_, ?_⟩, fun code => ⟨?_, ?_⟩⟩
  · obtain ⟨ops, tail, hsplit, hne, hbad⟩ := exists_malformed_of_ofBytes_eq_error h
    exact ⟨ops, tail, hsplit, fun _ _ h' => hsplit.unique h', hne, hbad⟩
  · rintro ⟨ops, tail, hsplit, -, -, hbad⟩
    exact (ofBytes_of_splits hsplit).2 fault hbad
  · intro expected actual offset h
    obtain ⟨ops, tail, -, -, hbad⟩ := exists_malformed_of_ofBytes_eq_error h
    cases hbad
  · intro reason h
    obtain ⟨ops, tail, -, -, hbad⟩ := exists_malformed_of_ofBytes_eq_error h
    cases hbad

end Listing

end ScopeMachine
