import ScopeMachine.Fault

/-!
# The register file

The contents of the registers, one array for each partition. Reading or writing a register through
another partition's accessor is refused. The accessors are one for all partitions (`Partition.get`,
`Partition.set`); a refused `set` gives the file back as it was.
-/

namespace ScopeMachine

structure RegisterFile where
  general : Vector Int64 8
  stackFrame : Vector StackAddress 6
  memory : Vector MemoryAddress 4
  flag : Bool
deriving DecidableEq, Repr

namespace RegisterFile

/-- All registers zero and the flag down. -/
def zero : RegisterFile where
  general := Vector.replicate 8 0
  stackFrame := Vector.replicate 6 ⟨0⟩
  memory := Vector.replicate 4 ⟨0⟩
  flag := false

instance : Inhabited RegisterFile := ⟨zero⟩

end RegisterFile

/-- The position of a register in a partition, which refuses the registers of all others. -/
def Register.expect (r : Register) (kind : RegisterKind) : Except Fault (Fin kind.size) :=
  if h : r.kind = kind then .ok ⟨r.index, h ▸ r.index_lt_size⟩ else .error (.invalidRegister r kind)

/-- Where a partition's contents are in a register file. -/
structure Partition (α : Type) where
  kind : RegisterKind
  contents : RegisterFile → Vector α kind.size
  replace : RegisterFile → Vector α kind.size → RegisterFile

namespace Partition

variable {α : Type} (p : Partition α) (file : RegisterFile)

def get (r : Register) : Except Fault α :=
  match r.expect p.kind with
  | .error fault => .error fault
  | .ok i => .ok ((p.contents file).get i)

def set (value : α) (r : Register) : EStateM.Result Fault RegisterFile Unit :=
  match r.expect p.kind with
  | .error fault => .error fault file
  | .ok i => .ok () (p.replace file ((p.contents file).set i value i.isLt))

def general : Partition Int64 := ⟨.general, (·.general), fun file values => { file with general := values }⟩

def stackFrame : Partition StackAddress :=
  ⟨.stackFrame, (·.stackFrame), fun file values => { file with stackFrame := values }⟩

def memory : Partition MemoryAddress := ⟨.memory, (·.memory), fun file values => { file with memory := values }⟩

theorem get_of_kind {r : Register} (h : r.kind = p.kind) :
    p.get file r = .ok ((p.contents file).get ⟨r.index, h ▸ r.index_lt_size⟩) := by
  simp [get, Register.expect, h]

theorem get_of_ne {r : Register} (h : r.kind ≠ p.kind) :
    p.get file r = .error (.invalidRegister r p.kind) := by
  simp [get, Register.expect, h]

theorem set_of_kind (value : α) {r : Register} (h : r.kind = p.kind) :
    p.set file value r =
      .ok () (p.replace file ((p.contents file).set r.index value (h ▸ r.index_lt_size))) := by
  simp [set, Register.expect, h]

theorem set_of_ne (value : α) {r : Register} (h : r.kind ≠ p.kind) :
    p.set file value r = .error (.invalidRegister r p.kind) file := by
  simp [set, Register.expect, h]

end Partition

namespace RegisterFile

def getGeneral (file : RegisterFile) : Register → Except Fault Int64 := Partition.general.get file

def setGeneral (file : RegisterFile) : Int64 → Register → EStateM.Result Fault RegisterFile Unit :=
  Partition.general.set file

def getStackFrame (file : RegisterFile) : Register → Except Fault StackAddress := Partition.stackFrame.get file

def setStackFrame (file : RegisterFile) : StackAddress → Register → EStateM.Result Fault RegisterFile Unit :=
  Partition.stackFrame.set file

def getMemory (file : RegisterFile) : Register → Except Fault MemoryAddress := Partition.memory.get file

def setMemory (file : RegisterFile) : MemoryAddress → Register → EStateM.Result Fault RegisterFile Unit :=
  Partition.memory.set file

def setFlag (file : RegisterFile) (value : Bool) : RegisterFile := { file with flag := value }

variable (file : RegisterFile)

theorem getGeneral_general (i : Fin 8) : file.getGeneral (.general i) = .ok (file.general.get i) := by
  have h := Partition.general.get_of_kind file (Register.kind_general i)
  simp only [Register.index_general] at h
  exact h

theorem getGeneral_of_ne {r : Register} (h : r.kind ≠ .general) :
    file.getGeneral r = .error (.invalidRegister r .general) :=
  Partition.general.get_of_ne file h

theorem setGeneral_general (value : Int64) (i : Fin 8) :
    file.setGeneral value (.general i) = .ok () { file with general := file.general.set i value } := by
  have h := Partition.general.set_of_kind file value (Register.kind_general i)
  simp only [Register.index_general] at h
  exact h

theorem setGeneral_of_ne (value : Int64) {r : Register} (h : r.kind ≠ .general) :
    file.setGeneral value r = .error (.invalidRegister r .general) file :=
  Partition.general.set_of_ne file value h

end RegisterFile

end ScopeMachine
