/-!
# Registers

Nineteen registers in four partitions: eight general-purpose ones, six for stack frames, four for
memory and one flag. Their ids count through the partitions in this order.
-/

namespace ScopeMachine

inductive RegisterKind where
  | general
  | stackFrame
  | memory
  | flag
deriving DecidableEq, Repr

/-- A register: its partition and its position there. -/
inductive Register where
  | general (i : Fin 8)
  | stackFrame (i : Fin 6)
  | memory (i : Fin 4)
  | flag
deriving DecidableEq, Repr

namespace RegisterKind

def text : RegisterKind → String
  | .general => "general-purpose"
  | .stackFrame => "stack-frame"
  | .memory => "memory"
  | .flag => "flag"

def size : RegisterKind → Nat
  | .general => 8
  | .stackFrame => 6
  | .memory => 4
  | .flag => 1

def first : RegisterKind → Register
  | .general => .general 0
  | .stackFrame => .stackFrame 0
  | .memory => .memory 0
  | .flag => .flag

end RegisterKind

namespace Register

/-- The id by which instruction records name the register. -/
def id : Register → UInt8
  | .general i => UInt8.ofNat i.val
  | .stackFrame i => UInt8.ofNat (8 + i.val)
  | .memory i => UInt8.ofNat (14 + i.val)
  | .flag => 18

/-- Told from the id, with the flag behind the ids of all others. -/
def kind (r : Register) : RegisterKind :=
  if r.id ≤ 7 then .general
  else if r.id ≤ 13 then .stackFrame
  else if r.id ≤ 17 then .memory
  else .flag

/-- The position within the partition, counted from its first id. -/
def index (r : Register) : Nat := (r.id - r.kind.first.id).toNat

/-- All registers in the order of their ids. -/
def all : List Register :=
  (List.finRange 8).map .general ++ (List.finRange 6).map .stackFrame ++
    (List.finRange 4).map .memory ++ [.flag]

def ofId? (id : UInt8) : Option Register := all[id.toNat]?

/-- The name in listings and messages. -/
def text (r : Register) : String :=
  match r.kind with
  | .general => "r" ++ toString r.index
  | .stackFrame => "sp" ++ toString r.index
  | .memory => "m" ++ toString r.index
  | .flag => "cp"

@[simp] theorem kind_general (i : Fin 8) : (general i).kind = .general := by revert i; decide

@[simp] theorem kind_stackFrame (i : Fin 6) : (stackFrame i).kind = .stackFrame := by revert i; decide

@[simp] theorem kind_memory (i : Fin 4) : (memory i).kind = .memory := by revert i; decide

@[simp] theorem kind_flag : flag.kind = .flag := by decide

@[simp] theorem index_general (i : Fin 8) : (general i).index = i.val := by revert i; decide

@[simp] theorem index_stackFrame (i : Fin 6) : (stackFrame i).index = i.val := by revert i; decide

@[simp] theorem index_memory (i : Fin 4) : (memory i).index = i.val := by revert i; decide

@[simp] theorem index_flag : flag.index = 0 := by decide

theorem index_lt_size (r : Register) : r.index < r.kind.size := by
  cases r <;> simp [RegisterKind.size]

theorem exists_of_kind {r : Register} (h : r.kind = .general) : ∃ i, r = general i := by
  cases r with
  | general i => exact ⟨i, rfl⟩
  | stackFrame i => simp at h
  | memory i => simp at h
  | flag => simp at h

theorem eq_of_index_eq {r s : Register} (hkind : r.kind = s.kind) (hindex : r.index = s.index) : r = s := by
  cases r <;> cases s <;> simp at hkind hindex ⊢
  all_goals exact Fin.ext hindex

theorem ofId?_id (r : Register) : ofId? r.id = some r := by
  cases r with
  | general i => revert i; decide
  | stackFrame i => revert i; decide
  | memory i => revert i; decide
  | flag => decide

theorem id_of_ofId? {id : UInt8} {r : Register} (h : ofId? id = some r) : r.id = id := by
  have hall : ∀ n : Fin 256, ∀ s, ofId? (UInt8.ofNat n.val) = some s → s.id = UInt8.ofNat n.val := by
    decide +kernel
  have hn := hall ⟨id.toNat, id.toNat_lt⟩ r
  rw [UInt8.ofNat_toNat] at hn
  exact hn h

end Register

end ScopeMachine
