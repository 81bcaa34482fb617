import ScopeMachine.Proofs.LiveBytes
import ScopeMachine.Proofs.Lockstep

/-!
# Runs do not depend on data

Which instructions a run performs and how it ends depend on the code, the capacity of the stack and the number of
live bytes, but on no byte of the stack and no register (`Machine.runs_ignore_data`). The machine has no
operation that branches on a value, every bound that the stack checks is about lengths, and every window of
live bytes is a value of each type.
-/

namespace ScopeMachine

namespace Stack

/-- The stacks have the same capacity and the same number of live bytes. -/
structure SameShape (s s' : Stack) : Prop where
  capacity_eq : s'.capacity = s.capacity
  length_eq : s'.live.length = s.live.length

namespace SameShape

variable {s s' : Stack}

lemma remaining_eq (h : s.SameShape s') : s'.remaining = s.remaining := by
  rw [Stack.remaining_eq, Stack.remaining_eq, h.capacity_eq, h.length_eq]

lemma isLive_iff (h : s.SameShape s') {t : CellType} {a : StackAddress} : s'.IsLive t a ↔ s.IsLive t a := by
  rw [Stack.isLive_iff, Stack.isLive_iff, h.length_eq]

lemma keep (h : s.SameShape s') {u u' : Stack} (hcapacity : u.capacity = s.capacity)
    (hcapacity' : u'.capacity = s'.capacity) (hlength : u'.live.length = u.live.length) : u.SameShape u' where
  capacity_eq := by rw [hcapacity, hcapacity', h.capacity_eq]
  length_eq := hlength

lemma push (h : s.SameShape s') (t : CellType) (v v' : t.Value) :
    InStep (fun _ => False) (SameIf False) SameShape (Stack.push t v s) (Stack.push t v' s') := by
  have hremaining := h.remaining_eq
  by_cases hfull : s.remaining < t.width
  · rw [push_of_lt v hfull, push_of_lt v' (by rwa [hremaining]), hremaining]
    exact .error h
  · obtain ⟨u, hu, hlive, hcapacity⟩ := push_of_le (s := s) v (by omega)
    obtain ⟨u', hu', hlive', hcapacity'⟩ := push_of_le (s := s') v' (by omega)
    rw [hu, hu']
    refine .ok nofun (h.keep hcapacity hcapacity' ?_)
    rw [hlive, hlive', List.length_append, List.length_append, CellType.length_encode, CellType.length_encode,
      h.length_eq]

lemma peek (h : s.SameShape s') (t : CellType) :
    InStep (fun _ => False) (SameIf False) SameShape (Stack.peek t s) (Stack.peek t s') := by
  have hlength := h.length_eq
  by_cases hfew : s.live.length < t.width
  · rw [peek_of_lt hfew, peek_of_lt (by rwa [hlength]), hlength]
    exact .error h
  · rw [peek_of_le (by omega), peek_of_le (by omega)]
    exact .ok nofun h

lemma pop (h : s.SameShape s') (t : CellType) :
    InStep (fun _ => False) (SameIf False) SameShape (Stack.pop t s) (Stack.pop t s') := by
  have hlength := h.length_eq
  by_cases hfew : s.live.length < t.width
  · rw [pop_of_lt hfew, pop_of_lt (by rwa [hlength]), hlength]
    exact .error h
  · obtain ⟨u, hu, hlive, hcapacity⟩ := pop_of_le (s := s) (t := t) (by omega)
    obtain ⟨u', hu', hlive', hcapacity'⟩ := pop_of_le (s := s') (t := t) (by omega)
    rw [hu, hu']
    refine .ok nofun (h.keep hcapacity hcapacity' ?_)
    rw [hlive, hlive', List.length_take, List.length_take, h.length_eq]

lemma get (h : s.SameShape s') (t : CellType) (a : StackAddress) :
    InStep (fun _ => False) (SameIf False) SameShape (Stack.get t a s) (Stack.get t a s') := by
  by_cases hlive : s.IsLive t a
  · rw [get_of_isLive hlive, get_of_isLive (h.isLive_iff.mpr hlive)]
    exact .ok nofun h
  · rw [get_of_not_isLive hlive, get_of_not_isLive (mt h.isLive_iff.mp hlive), h.length_eq]
    exact .error h

lemma set (h : s.SameShape s') (t : CellType) (a : StackAddress) (v : t.Value) :
    InStep (fun _ => False) (SameIf False) SameShape (Stack.set t a v s) (Stack.set t a v s') := by
  by_cases hlive : s.IsLive t a
  · obtain ⟨u, hu, hcapacity, hbytes⟩ := set_of_isLive v hlive
    obtain ⟨u', hu', hcapacity', hbytes'⟩ := set_of_isLive v (h.isLive_iff.mpr hlive)
    rw [hu, hu']
    refine .ok nofun (h.keep hcapacity hcapacity' ?_)
    simp only [hbytes, hbytes', List.length_append, List.length_take, List.length_drop, h.length_eq]
  · rw [set_of_not_isLive v hlive, set_of_not_isLive v (mt h.isLive_iff.mp hlive), h.length_eq]
    exact .error h

end SameShape

end Stack

/-- The runs of two machines whose stacks have the same shape. -/
def Coupling.sameShape : Coupling where
  exact := False
  related := Stack.SameShape
  excused _ := False
  allowed _ := True
  push t v v' h _ := h.push t v v'
  pop t h := h.pop t
  peek t h := h.peek t
  get t a _ h := h.get t a
  set t a v _ h := h.set t a v

namespace Machine

variable {σ : Type}

/-- A run with other bytes on the stack, other registers and another host ends with the same result and the same
number of live bytes, and its trace is the same: it performs the same instructions at the same offsets of the
same scopes. Each callback has a fixed list of actions, which it performs up to the first one that fails
(`Callback.Performs`); it cannot choose them by what it reads. -/
theorem runs_ignore_data (m : Machine σ) (hcallbacks : m.scopes.CallbacksPerform fun _ => True)
    (stack : Stack) (hcapacity : stack.capacity = m.stack.capacity)
    (hlength : stack.live.length = m.stack.live.length) (registers : RegisterFile) (host : σ)
    (result : Except Fault Unit) (final : Machine σ) (hrun : m.Runs result final) :
    ∃ final', { m with stack := stack, registers := registers, host := host }.Runs result final' ∧
      final'.stack.live.length = final.stack.live.length ∧ final'.trace = final.trace := by
  have hstart : Coupling.sameShape.Machines m.scopes m
      { m with stack := stack, registers := registers, host := host } :=
    ⟨⟨hcapacity, hlength⟩, nofun, nofun, rfl, rfl, rfl⟩
  obtain ⟨final', hrun', hfinal⟩ := hstart.runs hcallbacks rfl hrun nofun
  exact ⟨final', hrun', hfinal.stack.length_eq, hfinal.trace⟩

/-- A machine that starts with six live bytes. Its script writes over some of them, reads one and pops a word; then
the code pops two words, and the second one is not there. -/
def skewed : Machine ScriptHost where
  stack := ⟨10, #[1, 2, 3, 4, 5, 6], 6, by decide, by decide⟩
  registers := .zero
  scopes :=
    ⟨#[⟨⟨0⟩, Operation.records [.pushRegister (.general (Fin.last 7)), .callExternal ⟨0⟩, .call ⟨1⟩]⟩,
        ⟨⟨1⟩, Operation.records [.nop, .add]⟩],
      #[⟨⟨0⟩, some (Script.callback 0
        ([.set .i16 ⟨1⟩ (-1), .get .i8 ⟨5⟩, .pop .i32].map ScriptAction.stack))⟩]⟩
  start := ⟨0⟩
  host := ⟨#[0], #[]⟩
  trace := #[]

/-- A stack of the shape that `skewed` starts with. -/
def skewedStack : Stack := ⟨10, #[255, 254, 253, 252, 251, 250, 249], 6, by decide, by decide⟩

theorem skewed_runs_ignore_data :
    ∃ final final' : Machine ScriptHost, skewed.Runs (.error (.stackUnderflow 4 2)) final ∧
      { skewed with
        stack := skewedStack
        registers := { RegisterFile.zero with general := .replicate 8 (-7) }
        host := ⟨#[41], #[3]⟩ }.Runs (.error (.stackUnderflow 4 2)) final' ∧
      final'.stack.live.length = 2 ∧ final'.trace = final.trace := by
  have hcallbacks : skewed.scopes.CallbacksPerform fun _ => True :=
    ScopeTable.callbacksPerform_single _ _ (fun _ _ => trivial) (Script.callback_performs 0 _)
  have hreport : report (·.stack.live.length) (run skewed) = some (.error (.stackUnderflow 4 2), 2) := by
    decide +kernel
  obtain ⟨final, hruns, hlength⟩ := runs_of_report hreport
  obtain ⟨final', hruns', hlength', htrace⟩ :=
    runs_ignore_data skewed hcallbacks skewedStack rfl rfl
      { RegisterFile.zero with general := .replicate 8 (-7) } ⟨#[41], #[3]⟩ _ final hruns
  exact ⟨final, final', hruns, hruns', hlength'.trans hlength, htrace⟩

end Machine

end ScopeMachine
