import Mathlib.Data.List.Induction
import Mathlib.Logic.Function.Basic
import ScopeMachine.RegisterFile

/-!
# The history of a register file

Over every sequence of calls, those that are refused included, each register holds what was set last through the
accessors of its partition, or zero (`RegisterFile.registers_hold_last_set`). What one call does is said once for all
accessors (`RegisterCall.Serves`): it reads or replaces one slot of its own partition, or it is refused.
-/

namespace ScopeMachine

/-! ## Calls -/

/-- The content of a register, with the partition that holds such contents. -/
inductive RegisterValue where
  | general (value : Int64)
  | stackFrame (address : StackAddress)
  | memory (address : MemoryAddress)
  | flag (value : Bool)
deriving DecidableEq, Repr

/-- What the registers of a partition hold at first. -/
def RegisterKind.zero : RegisterKind → RegisterValue
  | .general => .general 0
  | .stackFrame => .stackFrame ⟨0⟩
  | .memory => .memory ⟨0⟩
  | .flag => .flag false

inductive RegisterCall where
  | getGeneral (register : Register)
  | setGeneral (register : Register) (value : Int64)
  | getStackFrame (register : Register)
  | setStackFrame (register : Register) (value : StackAddress)
  | getMemory (register : Register)
  | setMemory (register : Register) (value : MemoryAddress)
  | getFlag
  | setFlag (value : Bool)

namespace RegisterCall

def kind : RegisterCall → RegisterKind
  | .getGeneral _ | .setGeneral _ _ => .general
  | .getStackFrame _ | .setStackFrame _ _ => .stackFrame
  | .getMemory _ | .setMemory _ _ => .memory
  | .getFlag | .setFlag _ => .flag

/-- The register that is named. The accessors of the flag can only mean the flag. -/
def register : RegisterCall → Register
  | .getGeneral r | .setGeneral r _ | .getStackFrame r | .setStackFrame r _ | .getMemory r | .setMemory r _ => r
  | .getFlag | .setFlag _ => .flag

def value? : RegisterCall → Option RegisterValue
  | .setGeneral _ value => some (.general value)
  | .setStackFrame _ value => some (.stackFrame value)
  | .setMemory _ value => some (.memory value)
  | .setFlag value => some (.flag value)
  | .getGeneral _ | .getStackFrame _ | .getMemory _ | .getFlag => none

/-- The answer to a call that is not refused, where `held` is what the register holds. -/
def reply (call : RegisterCall) (held : RegisterValue) : Option RegisterValue :=
  if call.value?.isNone then some held else none

end RegisterCall

namespace RegisterFile

/-- The answer of a look at a register. The file stays as it is. -/
def looked {α : Type} (file : RegisterFile) (wrap : α → RegisterValue) (answer : Except Fault α) :
    Except Fault (Option RegisterValue) × RegisterFile :=
  (answer.map fun a => some (wrap a), file)

/-- The answer of a change, with the file that it gives back. -/
def changed : EStateM.Result Fault RegisterFile Unit → Except Fault (Option RegisterValue) × RegisterFile
  | .ok () after => (.ok none, after)
  | .error fault after => (.error fault, after)

def perform (file : RegisterFile) : RegisterCall → Except Fault (Option RegisterValue) × RegisterFile
  | .getGeneral r => file.looked .general (file.getGeneral r)
  | .setGeneral r value => changed (file.setGeneral value r)
  | .getStackFrame r => file.looked .stackFrame (file.getStackFrame r)
  | .setStackFrame r value => changed (file.setStackFrame value r)
  | .getMemory r => file.looked .memory (file.getMemory r)
  | .setMemory r value => changed (file.setMemory value r)
  | .getFlag => file.looked .flag (.ok file.flag)
  | .setFlag value => changed (.ok () (file.setFlag value))

/-- The file after calls, those behind a fault included. -/
def after (file : RegisterFile) (calls : List RegisterCall) : RegisterFile :=
  calls.foldl (fun file call => (file.perform call).2) file

lemma after_concat (file : RegisterFile) (calls : List RegisterCall) (call : RegisterCall) :
    file.after (calls ++ [call]) = ((file.after calls).perform call).2 := by
  simp [after]

def slots (file : RegisterFile) : RegisterKind → List RegisterValue
  | .general => file.general.toList.map .general
  | .stackFrame => file.stackFrame.toList.map .stackFrame
  | .memory => file.memory.toList.map .memory
  | .flag => [.flag file.flag]

lemma length_slots (file : RegisterFile) (kind : RegisterKind) : (file.slots kind).length = kind.size := by
  cases kind <;> simp [slots, RegisterKind.size]

lemma slots_zero (kind : RegisterKind) : zero.slots kind = List.replicate kind.size kind.zero := by
  cases kind <;> simp [slots, zero, RegisterKind.size, RegisterKind.zero]

end RegisterFile

/-! ## One call -/

/-- The contents of a partition are the slots of its kind. -/
structure Partition.Holds {α : Type} (p : Partition α) (wrap : α → RegisterValue) : Prop where
  slots_eq (file : RegisterFile) : file.slots p.kind = (p.contents file).toList.map wrap
  slots_replace (file : RegisterFile) (contents : Vector α p.kind.size) :
    (p.replace file contents).slots = Function.update file.slots p.kind (contents.toList.map wrap)

namespace Partition

lemma holds_general : general.Holds .general where
  slots_eq _ := rfl
  slots_replace _ _ := by funext kind; cases kind <;> rfl

lemma holds_stackFrame : stackFrame.Holds .stackFrame where
  slots_eq _ := rfl
  slots_replace _ _ := by funext kind; cases kind <;> rfl

lemma holds_memory : memory.Holds .memory where
  slots_eq _ := rfl
  slots_replace _ _ := by funext kind; cases kind <;> rfl

end Partition

namespace RegisterCall

/-- How a call is served through the accessors of a partition. -/
inductive Serves (file : RegisterFile) (kind : RegisterKind) (register : Register) :
    Option RegisterValue → Except Fault (Option RegisterValue) × RegisterFile → Prop where
  | read {value : RegisterValue} (own : register.kind = kind)
      (held : (file.slots kind)[register.index]? = some value) :
      Serves file kind register none (.ok (some value), file)
  | written {value : RegisterValue} {after : RegisterFile} (own : register.kind = kind)
      (slots_eq : after.slots = Function.update file.slots kind ((file.slots kind).set register.index value)) :
      Serves file kind register (some value) (.ok none, after)
  | refused {value? : Option RegisterValue} (foreign : register.kind ≠ kind) :
      Serves file kind register value? (.error (.invalidRegister register kind), file)

variable (file : RegisterFile)

lemma serves_get {α : Type} {p : Partition α} {wrap : α → RegisterValue} (h : p.Holds wrap) (r : Register) :
    Serves file p.kind r none (file.looked wrap (p.get file r)) := by
  by_cases own : r.kind = p.kind
  · rw [p.get_of_kind file own]
    have hlt : r.index < p.kind.size := own ▸ r.index_lt_size
    refine .read own ?_
    rw [h.slots_eq, List.getElem?_map, Vector.getElem?_toList, Vector.getElem?_eq_getElem hlt]
    rfl
  · rw [p.get_of_ne file own]
    exact .refused own

lemma serves_set {α : Type} {p : Partition α} {wrap : α → RegisterValue} (h : p.Holds wrap) (value : α) (r : Register) :
    Serves file p.kind r (some (wrap value)) (RegisterFile.changed (p.set file value r)) := by
  by_cases own : r.kind = p.kind
  · rw [p.set_of_kind file value own]
    refine .written own ?_
    rw [h.slots_replace, h.slots_eq, Vector.toList_set, List.map_set]
  · rw [p.set_of_ne file value own]
    exact .refused own

lemma serves_setFlag (value : Bool) : Serves file .flag .flag (some (.flag value)) (file.perform (.setFlag value)) := by
  refine .written rfl ?_
  funext kind
  cases kind <;> simp [RegisterFile.slots, RegisterFile.setFlag, Function.update]

lemma serves (call : RegisterCall) : Serves file call.kind call.register call.value? (file.perform call) := by
  cases call with
  | getGeneral r => exact serves_get file Partition.holds_general r
  | setGeneral r value => exact serves_set file Partition.holds_general value r
  | getStackFrame r => exact serves_get file Partition.holds_stackFrame r
  | setStackFrame r value => exact serves_set file Partition.holds_stackFrame value r
  | getMemory r => exact serves_get file Partition.holds_memory r
  | setMemory r value => exact serves_set file Partition.holds_memory value r
  | getFlag => exact .read rfl rfl
  | setFlag value => exact serves_setFlag file value

end RegisterCall

/-! ## All calls -/

namespace RegisterFile

/-- The values that calls set a register to through the accessors of a partition, in order. -/
def valuesSet (kind : RegisterKind) (register : Register) (calls : List RegisterCall) : List RegisterValue :=
  calls.filterMap fun call => if call.kind = kind ∧ call.register = register then call.value? else none

/-- The value that a register was set to last through the accessors of a partition, or zero. -/
def lastSet (kind : RegisterKind) (register : Register) (calls : List RegisterCall) : RegisterValue :=
  (valuesSet kind register calls).getLastD kind.zero

lemma lastSet_concat (kind : RegisterKind) (register : Register) (calls : List RegisterCall) (call : RegisterCall) :
    lastSet kind register (calls ++ [call]) =
      if call.kind = kind ∧ call.register = register then call.value?.getD (lastSet kind register calls)
      else lastSet kind register calls := by
  unfold lastSet valuesSet
  rw [List.filterMap_append]
  by_cases hsame : call.kind = kind ∧ call.register = register
  · cases hvalue : call.value? <;> simp [hsame, hvalue, List.getLastD_eq_getLast?]
  · simp [hsame]

/-- What a register holds, read straight from the array of its partition. -/
def held? (file : RegisterFile) (register : Register) : Option RegisterValue :=
  (file.slots register.kind)[register.index]?

lemma held?_zero (register : Register) : zero.held? register = some register.kind.zero := by
  rw [held?, slots_zero, List.getElem?_replicate, if_pos register.index_lt_size]

/-- One slot is replaced, and the register that it belongs to is the only one that notices. -/
lemma held?_of_slots_eq {file after : RegisterFile} {register : Register} {value : RegisterValue}
    (h : after.slots = Function.update file.slots register.kind ((file.slots register.kind).set register.index value))
    (other : Register) : after.held? other = if other = register then some value else file.held? other := by
  unfold held?
  rw [h]
  by_cases hkind : other.kind = register.kind
  · have hlt : register.index < (file.slots register.kind).length := by
      rw [length_slots]
      exact register.index_lt_size
    rw [hkind, Function.update_self, List.getElem?_set]
    by_cases heq : other = register
    · simp [heq, hlt]
    · have hne : register.index ≠ other.index := fun hindex => heq (Register.eq_of_index_eq hkind hindex.symm)
      simp [heq, hne]
  · have hne : other ≠ register := fun heq => hkind (congrArg Register.kind heq)
    rw [Function.update_of_ne hkind, if_neg hne]

lemma held?_perform (file : RegisterFile) (call : RegisterCall) (register : Register) :
    (file.perform call).2.held? register =
      if call.kind = register.kind ∧ call.register = register then call.value?.or (file.held? register)
      else file.held? register := by
  -- the indices of `Serves` have to be variables before its cases can be taken
  generalize hvalue : call.value? = value?
  have hserves := RegisterCall.serves file call
  generalize file.perform call = result at hserves ⊢
  rw [hvalue] at hserves
  cases hserves with
  | read own held => simp
  | written own slots_eq =>
    rw [held?_of_slots_eq (own ▸ slots_eq)]
    by_cases heq : register = call.register
    · simp [heq, own]
    · simp [heq, Ne.symm heq]
  | refused foreign =>
    have hnot : ¬ (call.kind = register.kind ∧ call.register = register) := by
      rintro ⟨hkind, rfl⟩
      exact foreign hkind.symm
    rw [if_neg hnot]

lemma held?_after (calls : List RegisterCall) (register : Register) :
    (zero.after calls).held? register = some (lastSet register.kind register calls) := by
  induction calls using List.reverseRecOn with
  | nil => exact held?_zero register
  | append_singleton calls call ih =>
    rw [after_concat, held?_perform, lastSet_concat, ih]
    by_cases hsame : call.kind = register.kind ∧ call.register = register
    · cases call.value? <;> simp [hsame]
    · simp [hsame]

lemma perform_eq (file : RegisterFile) (call : RegisterCall) {held : RegisterValue}
    (h : file.held? call.register = some held) :
    (file.perform call).1 =
        (if call.register.kind = call.kind then .ok (call.reply held)
          else .error (.invalidRegister call.register call.kind)) ∧
      (call.register.kind ≠ call.kind ∨ call.value? = none → (file.perform call).2 = file) := by
  unfold RegisterCall.reply
  generalize hvalue : call.value? = value?
  have hserves := RegisterCall.serves file call
  generalize file.perform call = result at hserves ⊢
  rw [hvalue] at hserves
  cases hserves with
  | @read value own held' =>
    rw [held?, own, held'] at h
    cases h
    simp [own]
  | written own slots_eq => simp [own]
  | refused foreign => simp [foreign]

end RegisterFile

namespace Register

lemma first_id_le (register : Register) : register.kind.first.id ≤ register.id := by
  cases register with
  | general i => revert i; decide
  | stackFrame i => revert i; decide
  | memory i => revert i; decide
  | flag => decide

end Register

namespace RegisterFile

/-- The register file is a map from registers to contents, over every sequence of calls. A look gives what was set last
through the same accessors, or zero; a call through the accessors of another partition is refused, with the register
and that partition named, and changes nothing; no call changes another register. The slot of a register is at the
distance of its id from the first id of its partition, which is a position of the partition's array. -/
theorem registers_hold_last_set (calls : List RegisterCall) (call : RegisterCall) :
    (((zero.after calls).perform call).1 =
      if call.register.kind = call.kind then .ok (call.reply (lastSet call.kind call.register calls))
      else .error (.invalidRegister call.register call.kind)) ∧
    (call.register.kind ≠ call.kind ∨ call.value? = none →
      ((zero.after calls).perform call).2 = zero.after calls) ∧
    (∀ other, other ≠ call.register →
      (((zero.after calls).perform call).2.slots other.kind)[other.index]? =
        ((zero.after calls).slots other.kind)[other.index]?) ∧
    ∀ register : Register,
      register.kind.first.id ≤ register.id ∧
      (register.id - register.kind.first.id).toNat = register.index ∧
      register.index < ((zero.after calls).slots register.kind).length ∧
      ((zero.after calls).slots register.kind)[register.index]? = some (lastSet register.kind register calls) := by
  have hanswer := perform_eq _ call (held?_after calls call.register)
  refine ⟨?_, hanswer.2, fun other hother => ?_, fun register => ?_⟩
  · rw [hanswer.1]
    by_cases hown : call.register.kind = call.kind
    · rw [if_pos hown, if_pos hown, hown]
    · rw [if_neg hown, if_neg hown]
  · have hnot : ¬ (call.kind = other.kind ∧ call.register = other) := fun h => hother h.2.symm
    exact (held?_perform _ call other).trans (if_neg hnot)
  · have hlt : register.index < ((zero.after calls).slots register.kind).length := by
      rw [length_slots]
      exact register.index_lt_size
    exact ⟨register.first_id_le, rfl, hlt, held?_after calls register⟩

/-- Calls that mix the accessors of two partitions. -/
def crossed : List RegisterCall :=
  [.setGeneral (RegisterKind.first .general) 5, .setGeneral (RegisterKind.first .stackFrame) 1,
    .setStackFrame (RegisterKind.first .stackFrame) ⟨24⟩, .setStackFrame (RegisterKind.first .general) ⟨7⟩]

theorem crossed_registers_hold_last_set :
    (RegisterKind.first .stackFrame).kind ≠ .general ∧
    (zero.after crossed).perform (.getGeneral (RegisterKind.first .stackFrame)) =
      (.error (.invalidRegister (RegisterKind.first .stackFrame) .general), zero.after crossed) ∧
    ((zero.after crossed).perform (.getStackFrame (RegisterKind.first .stackFrame))).1 =
      .ok (some (.stackFrame ⟨24⟩)) := by
  obtain ⟨hanswer, hsame, -⟩ := registers_hold_last_set crossed (.getGeneral (RegisterKind.first .stackFrame))
  obtain ⟨hlook, -⟩ := registers_hold_last_set crossed (.getStackFrame (RegisterKind.first .stackFrame))
  exact ⟨by decide, Prod.ext hanswer (hsame (.inl (by decide))), hlook⟩

end RegisterFile

end ScopeMachine
