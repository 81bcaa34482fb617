import ScopeMachine.Cli.Command
import ScopeMachine.Proofs.LiveBytes
import ScopeMachine.Proofs.Lockstep
import ScopeMachine.Proofs.OperationRefinement

/-!
# What lies below on the stack

Code that does not underflow on its own part of the stack neither reads nor changes what its caller left below:
with further bytes at the bottom of the stack, and as much more capacity, the run is the same and the bytes are
still there (`Machine.runs_above_frame`). Callbacks must not use addresses, which count from the bottom.
-/

namespace ScopeMachine

def Fault.IsUnderflow (fault : Fault) : Prop := ∃ requested available, fault = .stackUnderflow requested available

/-- The action is about the top of the stack. -/
def StackAction.IsAtTop : StackAction → Prop
  | .push .. | .pop _ | .peek _ => True
  | .get .. | .set .. => False

namespace Stack

/-- The second stack is the first one on top of the given bytes. -/
structure StandsOn (below : Bytes) (s s' : Stack) : Prop where
  capacity_eq : s'.capacity = s.capacity + below.length
  live_eq : s'.live = below ++ s.live

namespace StandsOn

variable {below : Bytes} {s s' : Stack}

lemma length_eq (h : StandsOn below s s') : s'.live.length = below.length + s.live.length := by
  rw [h.live_eq, List.length_append]

lemma remaining_eq (h : StandsOn below s s') : s'.remaining = s.remaining := by
  rw [Stack.remaining_eq, Stack.remaining_eq, h.capacity_eq, h.length_eq]
  omega

/-- Counted from the top, the two stacks have the same bytes as far as the first one reaches. -/
lemma split_top (h : StandsOn below s s') {width : Nat} (hwidth : width ≤ s.live.length) :
    s'.live.drop (s'.live.length - width) = s.live.drop (s.live.length - width) ∧
      s'.live.take (s'.live.length - width) = below ++ s.live.take (s.live.length - width) := by
  have hcut : s'.live.length - width = below.length + (s.live.length - width) := by
    rw [h.length_eq]
    omega
  rw [hcut, h.live_eq]
  exact ⟨List.drop_length_add_append _, List.take_length_add_append _⟩

lemma keep (h : StandsOn below s s') {u u' : Stack} (hcapacity : u.capacity = s.capacity)
    (hcapacity' : u'.capacity = s'.capacity) (hlive : u'.live = below ++ u.live) : StandsOn below u u' where
  capacity_eq := by rw [hcapacity, hcapacity', h.capacity_eq]
  live_eq := hlive

lemma push (h : StandsOn below s s') (t : CellType) (v : t.Value) :
    InStep Fault.IsUnderflow (SameIf True) (StandsOn below) (Stack.push t v s) (Stack.push t v s') := by
  have hremaining := h.remaining_eq
  by_cases hfull : s.remaining < t.width
  · rw [push_of_lt v hfull, push_of_lt v (by rwa [hremaining]), hremaining]
    exact .error h
  · obtain ⟨u, hu, hlive, hcapacity⟩ := push_of_le (s := s) v (by omega)
    obtain ⟨u', hu', hlive', hcapacity'⟩ := push_of_le (s := s') v (by omega)
    rw [hu, hu']
    refine .ok (fun _ => rfl) (h.keep hcapacity hcapacity' ?_)
    rw [hlive, hlive', h.live_eq, List.append_assoc]

lemma peek (h : StandsOn below s s') (t : CellType) :
    InStep Fault.IsUnderflow (SameIf True) (StandsOn below) (Stack.peek t s) (Stack.peek t s') := by
  have hlength := h.length_eq
  by_cases hfew : s.live.length < t.width
  · rw [peek_of_lt hfew]
    exact .excused ⟨_, _, rfl⟩
  · obtain ⟨hlast, -⟩ := h.split_top (Nat.le_of_not_lt hfew)
    rw [peek_of_le (by omega), peek_of_le (by omega), hlast]
    exact .ok (fun _ => rfl) h

lemma pop (h : StandsOn below s s') (t : CellType) :
    InStep Fault.IsUnderflow (SameIf True) (StandsOn below) (Stack.pop t s) (Stack.pop t s') := by
  have hlength := h.length_eq
  by_cases hfew : s.live.length < t.width
  · rw [pop_of_lt hfew]
    exact .excused ⟨_, _, rfl⟩
  · obtain ⟨hlast, hinit⟩ := h.split_top (Nat.le_of_not_lt hfew)
    obtain ⟨u, hu, hlive, hcapacity⟩ := pop_of_le (s := s) (t := t) (by omega)
    obtain ⟨u', hu', hlive', hcapacity'⟩ := pop_of_le (s := s') (t := t) (by omega)
    rw [hu, hu', hlast]
    refine .ok (fun _ => rfl) (h.keep hcapacity hcapacity' ?_)
    rw [hlive', hinit, hlive]

end StandsOn

end Stack

/-- The runs of two machines of which the second one has further bytes below, up to an underflow of the first one. -/
def Coupling.standsOn (below : Bytes) : Coupling where
  exact := True
  related := Stack.StandsOn below
  excused := Fault.IsUnderflow
  allowed := StackAction.IsAtTop
  push t v v' h hv := by
    obtain rfl := hv trivial
    exact h.push t v'
  pop t h := h.pop t
  peek t h := h.peek t
  get t a hallowed _ := hallowed.elim
  set t a v hallowed _ := hallowed.elim

lemma Cli.printCallback_performs : Callback.Performs Cli.printCallback [.pop .i32] := by
  refine ⟨fun printed reads _ => reads.foldl (fun p n => p.push (Int32.ofInt n)) printed, fun stack printed => ?_⟩
  have hperform : (StackAction.pop .i32).perform stack =
      EStateM.bind (Stack.pop .i32) (fun v => pure (some v.toInt)) stack := rfl
  rw [printCallback, StackAction.performAll, hperform, EStateM.bind]
  cases Stack.pop .i32 stack with
  | error fault stack => rfl
  | ok value stack =>
    exact congrArg (fun v => EStateM.Result.ok () (stack, printed.push v)) (Int32.ofInt_toInt value).symm

namespace Machine

variable {σ : Type}

/-- A run that does not end with an underflow is not changed by further bytes below its stack: the result, the
registers, the invocations of callbacks and what the host has seen are the same, and so are the bytes above. -/
theorem runs_above_frame (m : Machine σ) (hcallbacks : m.scopes.CallbacksPerform StackAction.IsAtTop)
    (below : Bytes) (stack : Stack) (hcapacity : stack.capacity = m.stack.capacity + below.length)
    (hlive : stack.live = below ++ m.stack.live) (result : Except Fault Unit) (final : Machine σ)
    (hrun : m.Runs result final)
    (hresult : ∀ requested available, result ≠ .error (.stackUnderflow requested available)) :
    ∃ final', { m with stack := stack }.Runs result final' ∧ final'.registers = final.registers ∧
      final'.invocations = final.invocations ∧ final'.host = final.host ∧
      final'.stack.live = below ++ final.stack.live := by
  have hstart : (Coupling.standsOn below).Machines m.scopes m { m with stack := stack } :=
    ⟨⟨hcapacity, hlive⟩, fun _ => rfl, fun _ => rfl, rfl, rfl, rfl⟩
  have hexcused : ∀ fault, fault.IsUnderflow → result ≠ .error fault := by
    rintro fault ⟨requested, available, rfl⟩
    exact hresult requested available
  obtain ⟨final', hrun', hfinal⟩ := hstart.runs hcallbacks rfl hrun hexcused
  have hinvocations : final'.invocations = final.invocations := by
    rw [invocations, invocations, hfinal.trace, hfinal.scopes, hfinal.scopes']
  exact ⟨final', hrun', hfinal.registers trivial, hinvocations, hfinal.host trivial, hfinal.stack.live_eq⟩

/-- A machine with room for two words above three bytes, on which its code calculates. It has the host of the
command line print the sum, and then puts a number into a register that is none for numbers. -/
def summing : Machine Cli.Printed where
  stack := ⟨11, #[1, 2, 3], 3, by decide, by decide⟩
  registers := .zero
  scopes :=
    ⟨#[⟨⟨0⟩, Operation.records [.pushConst 4, .call ⟨1⟩, .pushConst 9, .setRegister (.memory (Fin.last 3))]⟩,
        ⟨⟨1⟩, Operation.records [.pushConst 2, .add, .callExternal ⟨0⟩, .ret]⟩],
      #[⟨⟨0⟩, some Cli.printCallback⟩]⟩
  start := ⟨0⟩
  host := #[]
  trace := #[]

/-- Two bytes below those that `summing` starts with. -/
def summingStack : Stack := ⟨13, #[255, 0, 1, 2, 3, 77], 5, by decide, by decide⟩

theorem summing_runs_above_frame :
    ∃ final final' : Machine Cli.Printed,
      summing.Runs (.error (.invalidRegister (.memory (Fin.last 3)) .general)) final ∧
      { summing with stack := summingStack }.Runs
        (.error (.invalidRegister (.memory (Fin.last 3)) .general)) final' ∧
      final'.invocations = [⟨0⟩] ∧ final'.host = #[6] ∧ final'.stack.live = [255, 0, 1, 2, 3] := by
  have hallowed : ∀ action ∈ [StackAction.pop .i32], action.IsAtTop := List.forall_mem_singleton.mpr trivial
  have hcallbacks : summing.scopes.CallbacksPerform StackAction.IsAtTop :=
    ScopeTable.callbacksPerform_single _ _ hallowed Cli.printCallback_performs
  have hreport : report (fun final => (final.invocations, final.host, final.stack.live)) (run summing) =
      some (.error (.invalidRegister (.memory (Fin.last 3)) .general), [⟨0⟩], #[6], [1, 2, 3]) := by
    decide +kernel
  obtain ⟨final, hruns, hview⟩ := runs_of_report hreport
  obtain ⟨hinvocations, hhost, hbytes⟩ :
      final.invocations = [⟨0⟩] ∧ final.host = #[6] ∧ final.stack.live = [1, 2, 3] := by
    simpa only [Prod.mk.injEq] using hview
  obtain ⟨final', hruns', -, hinvocations', hhost', hlive⟩ :=
    runs_above_frame summing hcallbacks [255, 0] summingStack rfl (by decide) _ final hruns nofun
  refine ⟨final, final', hruns, hruns', hinvocations'.trans hinvocations, hhost'.trans hhost, ?_⟩
  rw [hlive, hbytes]
  rfl

end Machine

end ScopeMachine
