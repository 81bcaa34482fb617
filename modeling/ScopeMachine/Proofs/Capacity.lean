import ScopeMachine.Proofs.LiveBytes
import ScopeMachine.Proofs.Lockstep

/-!
# More room on the stack

A run that does not end with an overflow is the same with a greater capacity of the stack
(`Machine.runs_with_more_room`). The capacity is looked at by pushes alone, and a push that fits still fits when
there is more room; everything else, the fields of the other faults included, depends on the live bytes.
-/

namespace ScopeMachine

def Fault.IsOverflow (fault : Fault) : Prop := ∃ requested available, fault = .stackOverflow requested available

namespace Stack

/-- The second stack has the live bytes of the first one, and at least its capacity. -/
structure Roomier (s s' : Stack) : Prop where
  capacity_le : s.capacity ≤ s'.capacity
  live_eq : s'.live = s.live

namespace Roomier

variable {s s' : Stack}

lemma remaining_le (h : s.Roomier s') : s.remaining ≤ s'.remaining := by
  have hcapacity := h.capacity_le
  rw [Stack.remaining_eq, Stack.remaining_eq, h.live_eq]
  omega

lemma isLive_iff (h : s.Roomier s') {t : CellType} {a : StackAddress} : s'.IsLive t a ↔ s.IsLive t a := by
  rw [Stack.isLive_iff, Stack.isLive_iff, h.live_eq]

lemma keep (h : s.Roomier s') {u u' : Stack} {live : Bytes} (hcapacity : u.capacity = s.capacity)
    (hcapacity' : u'.capacity = s'.capacity) (hlive : u.live = live) (hlive' : u'.live = live) : u.Roomier u' where
  capacity_le := by
    rw [hcapacity, hcapacity']
    exact h.capacity_le
  live_eq := hlive'.trans hlive.symm

lemma push (h : s.Roomier s') (t : CellType) (v : t.Value) :
    InStep Fault.IsOverflow (SameIf True) Roomier (Stack.push t v s) (Stack.push t v s') := by
  have hremaining := h.remaining_le
  by_cases hfull : s.remaining < t.width
  · rw [push_of_lt v hfull]
    exact .excused ⟨_, _, rfl⟩
  · obtain ⟨u, hu, hlive, hcapacity⟩ := push_of_le (s := s) v (by omega)
    obtain ⟨u', hu', hlive', hcapacity'⟩ := push_of_le (s := s') v (by omega)
    rw [h.live_eq] at hlive'
    rw [hu, hu']
    exact .ok (fun _ => rfl) (h.keep hcapacity hcapacity' hlive hlive')

lemma peek (h : s.Roomier s') (t : CellType) :
    InStep Fault.IsOverflow (SameIf True) Roomier (Stack.peek t s) (Stack.peek t s') := by
  have hlive := h.live_eq
  by_cases hfew : s.live.length < t.width
  · rw [peek_of_lt hfew, peek_of_lt (by rwa [hlive]), hlive]
    exact .error h
  · rw [peek_of_le (by omega), peek_of_le (by rw [hlive]; omega), hlive]
    exact .ok (fun _ => rfl) h

lemma pop (h : s.Roomier s') (t : CellType) :
    InStep Fault.IsOverflow (SameIf True) Roomier (Stack.pop t s) (Stack.pop t s') := by
  by_cases hfew : s.live.length < t.width
  · rw [pop_of_lt hfew, pop_of_lt (by rwa [h.live_eq]), h.live_eq]
    exact .error h
  · obtain ⟨u, hu, hlive, hcapacity⟩ := pop_of_le (s := s) (t := t) (by omega)
    obtain ⟨u', hu', hlive', hcapacity'⟩ := pop_of_le (s := s') (t := t) (by rw [h.live_eq]; omega)
    rw [h.live_eq] at hu' hlive'
    rw [hu, hu']
    exact .ok (fun _ => rfl) (h.keep hcapacity hcapacity' hlive hlive')

lemma get (h : s.Roomier s') (t : CellType) (a : StackAddress) :
    InStep Fault.IsOverflow (SameIf True) Roomier (Stack.get t a s) (Stack.get t a s') := by
  by_cases hlive : s.IsLive t a
  · rw [get_of_isLive hlive, get_of_isLive (h.isLive_iff.mpr hlive), h.live_eq]
    exact .ok (fun _ => rfl) h
  · rw [get_of_not_isLive hlive, get_of_not_isLive (mt h.isLive_iff.mp hlive), h.live_eq]
    exact .error h

lemma set (h : s.Roomier s') (t : CellType) (a : StackAddress) (v : t.Value) :
    InStep Fault.IsOverflow (SameIf True) Roomier (Stack.set t a v s) (Stack.set t a v s') := by
  by_cases hlive : s.IsLive t a
  · obtain ⟨u, hu, hcapacity, hbytes⟩ := set_of_isLive v hlive
    obtain ⟨u', hu', hcapacity', hbytes'⟩ := set_of_isLive v (h.isLive_iff.mpr hlive)
    rw [h.live_eq] at hbytes'
    rw [hu, hu']
    exact .ok (fun _ => rfl) (h.keep hcapacity hcapacity' hbytes hbytes')
  · rw [set_of_not_isLive v hlive, set_of_not_isLive v (mt h.isLive_iff.mp hlive), h.live_eq]
    exact .error h

end Roomier

end Stack

/-- The runs of two machines of which the second one has more room, up to an overflow of the first one. -/
def Coupling.roomier : Coupling where
  exact := True
  related := Stack.Roomier
  excused := Fault.IsOverflow
  allowed _ := True
  push t v v' h hv := by
    obtain rfl := hv trivial
    exact h.push t v'
  pop t h := h.pop t
  peek t h := h.peek t
  get t a _ h := h.get t a
  set t a v _ h := h.set t a v

namespace Machine

variable {σ : Type}

/-- With a greater capacity of the stack a run that does not end with an overflow ends with the same result, the same
live bytes and the same registers. The host has seen the same, and the trace is the same. Each callback has a fixed list
of actions, which it performs up to the first one that fails (`Callback.Performs`); so it cannot go on after an
overflow that the greater capacity would spare it. -/
theorem runs_with_more_room (m : Machine σ) (hcallbacks : m.scopes.CallbacksPerform fun _ => True)
    (stack : Stack) (hcapacity : m.stack.capacity ≤ stack.capacity) (hlive : stack.live = m.stack.live)
    (result : Except Fault Unit) (final : Machine σ) (hrun : m.Runs result final)
    (hresult : ∀ requested available, result ≠ .error (.stackOverflow requested available)) :
    ∃ final', { m with stack := stack }.Runs result final' ∧ final'.stack.live = final.stack.live ∧
      final'.registers = final.registers ∧ final'.host = final.host ∧ final'.trace = final.trace := by
  have hstart : Coupling.roomier.Machines m.scopes m { m with stack := stack } :=
    ⟨⟨hcapacity, hlive⟩, fun _ => rfl, fun _ => rfl, rfl, rfl, rfl⟩
  have hexcused : ∀ fault, fault.IsOverflow → result ≠ .error fault := by
    rintro fault ⟨requested, available, rfl⟩
    exact hresult requested available
  obtain ⟨final', hrun', hfinal⟩ := hstart.runs hcallbacks rfl hrun hexcused
  exact ⟨final', hrun', hfinal.stack.live_eq, hfinal.registers trivial, hfinal.host trivial, hfinal.trace⟩

/-- A machine with room for two words and three bytes, which it fills up to the last byte: its code pushes two words
and its script pushes the bytes. Then the script reads beyond the top. -/
def crammed : Machine ScriptHost where
  stack := .empty 11
  registers := .zero
  scopes :=
    ⟨#[⟨⟨0⟩, Operation.records [.pushConst 7, .setRegister (.general (Fin.last 7)), .pushConst (-1), .pushConst 5,
        .callExternal ⟨0⟩]⟩],
      #[⟨⟨0⟩, some (Script.callback 0
        ([.push .i16 300, .push .i8 (-1), .peek .i32, .get .i32 ⟨8⟩].map ScriptAction.stack))⟩]⟩
  start := ⟨0⟩
  host := ⟨#[0], #[]⟩
  trace := #[]

theorem crammed_runs_with_more_room :
    ∃ final final' : Machine ScriptHost,
      crammed.Runs (.error (.invalidStackAddress ⟨8⟩ 4 0 11)) final ∧
      { crammed with stack := .empty 4096 }.Runs (.error (.invalidStackAddress ⟨8⟩ 4 0 11)) final' ∧
      final'.stack.live = [255, 255, 255, 255, 5, 0, 0, 0, 44, 1, 255] ∧
      final'.registers.general.get 7 = 7 := by
  have hcallbacks : crammed.scopes.CallbacksPerform fun _ => True :=
    ScopeTable.callbacksPerform_single _ _ (fun _ _ => trivial) (Script.callback_performs 0 _)
  have hreport : report (fun final => (final.stack.live, final.registers.general.get 7)) (run crammed) =
      some (.error (.invalidStackAddress ⟨8⟩ 4 0 11), [255, 255, 255, 255, 5, 0, 0, 0, 44, 1, 255], 7) := by
    decide +kernel
  obtain ⟨final, hruns, hview⟩ := runs_of_report hreport
  obtain ⟨hbytes, hregister⟩ := Prod.mk.inj hview
  obtain ⟨final', hruns', hlive, hregisters, -, -⟩ :=
    runs_with_more_room crammed hcallbacks (.empty 4096) (by decide) rfl _ final hruns nofun
  refine ⟨final, final', hruns, hruns', hlive.trans hbytes, ?_⟩
  rw [hregisters]
  exact hregister

end Machine

end ScopeMachine
