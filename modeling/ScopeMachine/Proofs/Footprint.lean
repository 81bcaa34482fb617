import Mathlib.Algebra.Ring.Int.Defs
import ScopeMachine.Proofs.ByteStack
import ScopeMachine.Proofs.Lockstep
import ScopeMachine.Proofs.OperationRefinement

/-!
# What a run can change

However a run ends, it leaves the capacity of the stack, the scopes, the start scope and the registers that are not for
numbers as they were, and it changes a general register only by an operation that sets it
(`Machine.runs_change_only_set_registers`). The former is followed through the machine (`Machine.fixtures`); for the
latter the operations that were performed are noted beside the configuration (`noting`).
-/

namespace ScopeMachine

variable {σ α β : Type}

/-! ## Work on the stack that is done by actions -/

/-- What the computation does to the stack is the work of some actions. -/
def Stack.UsesActions (x : StackM α) : Prop :=
  ∀ s, ∃ actions, (attempt x s).2 = afterAll StackAction.perform actions s

namespace Stack.UsesActions

lemma capacity {x : StackM α} (h : UsesActions x) (s : Stack) : (attempt x s).2.capacity = s.capacity := by
  obtain ⟨actions, hactions⟩ := h s
  rw [hactions, capacity_afterAll]

lemma pure (a : α) : UsesActions (pure a) := fun _ => ⟨[], rfl⟩

lemma bind {x : StackM α} {f : α → StackM β} (hx : UsesActions x) (hf : ∀ a, UsesActions (f a)) :
    UsesActions (x >>= f) := by
  intro s
  obtain ⟨actions, hactions⟩ := hx s
  rcases attempt_bind_cases x f s with ⟨fault, t, hfirst, hbind⟩ | ⟨a, t, hfirst, hbind⟩
  · rw [hfirst] at hactions
    rw [hbind]
    exact ⟨actions, hactions⟩
  · obtain ⟨actions', hactions'⟩ := hf a t
    rw [hfirst] at hactions
    refine ⟨actions ++ actions', ?_⟩
    rw [hbind, hactions', afterAll_append, ← hactions]

lemma of_map {x : StackM α} (f : α → β) (h : UsesActions (do return f (← x) : StackM β)) : UsesActions x := by
  intro s
  obtain ⟨actions, hactions⟩ := h s
  refine ⟨actions, ?_⟩
  rcases attempt_bind_cases x (fun a => Pure.pure (f a)) s with ⟨fault, t, hfirst, hbind⟩ | ⟨a, t, hfirst, hbind⟩
  · rw [← hactions, hbind, hfirst]
  · rw [← hactions, hbind, hfirst]
    rfl

lemma action (action : StackAction) : UsesActions action.perform := fun _ => ⟨[action], rfl⟩

lemma push (t : CellType) (v : t.Value) : UsesActions (Stack.push t v) := of_map (fun _ => none) (action (.push t v))

lemma pop (t : CellType) : UsesActions (Stack.pop t) := of_map (fun v => some (t.toInt v)) (action (.pop t))

lemma peek (t : CellType) : UsesActions (Stack.peek t) := of_map (fun v => some (t.toInt v)) (action (.peek t))

end Stack.UsesActions

/-- What the callback does to the stack is the work of some actions. It chooses them as it likes. -/
def Callback.UsesActions (callback : Callback σ) : Prop :=
  ∀ stack host, ∃ actions, (attempt callback (stack, host)).2.1 = afterAll StackAction.perform actions stack

def ScopeTable.CallbacksUseActions (table : ScopeTable σ) : Prop :=
  ∀ external ∈ table.external, ∀ callback ∈ external.callback, Callback.UsesActions callback

lemma ScriptAction.usesActions (invocation : Nat) (action : ScriptAction) :
    Stack.UsesActions (action.perform invocation) := by
  cases action with
  | stack action => exact .action action
  | count => exact .bind (.push .i32 _) fun _ => .pure none
  | dup => exact .bind (.peek .i32) fun v => .bind (.push .i32 v) fun _ => .pure none
  | double => exact .bind (.pop .i32) fun v => .bind (.push .i32 (v + v)) fun _ => .pure none
  | depth => exact fun _ => ⟨[], rfl⟩
  | fail reason => exact fun _ => ⟨[], rfl⟩

lemma Script.runActions_usesActions (invocation : Nat) (actions : List ScriptAction) :
    Callback.UsesActions (runActions invocation actions) := by
  induction actions with
  | nil => exact fun _ _ => ⟨[], rfl⟩
  | cons action actions ih =>
    intro stack host
    obtain ⟨first, hfirst⟩ := action.usesActions invocation stack
    unfold attempt at hfirst
    unfold attempt runActions
    cases hresult : action.perform invocation stack with
    | error fault stack' =>
      rw [hresult] at hfirst
      exact ⟨first, hfirst⟩
    | ok read stack' =>
      rw [hresult] at hfirst
      have hrest : ∀ host, ∃ actions', (attempt (runActions invocation actions) (stack', host)).2.1 =
          afterAll StackAction.perform actions' stack := by
        intro host
        obtain ⟨rest, hrest⟩ := ih stack' host
        refine ⟨first ++ rest, ?_⟩
        rw [afterAll_append, ← hfirst]
        exact hrest
      cases read with
      | none => exact hrest host
      | some value => exact hrest (host.note value)

lemma Script.callback_usesActions (script : Nat) (actions : List ScriptAction) :
    Callback.UsesActions (Script.callback script actions) :=
  fun stack host => runActions_usesActions _ actions stack (host.enter script)

/-! ## What stays as it is -/

/-- The parts of a machine that no operation changes. -/
structure Fixtures (σ : Type) where
  capacity : Nat
  stackFrame : Vector StackAddress 6
  memory : Vector MemoryAddress 4
  flag : Bool
  scopes : ScopeTable σ
  start : ScopeId

namespace Machine

def fixtures (m : Machine σ) : Fixtures σ where
  capacity := m.stack.capacity
  stackFrame := m.registers.stackFrame
  memory := m.registers.memory
  flag := m.registers.flag
  scopes := m.scopes
  start := m.start

/-- However the computation ended, the machine has the given fixtures. -/
def Leaves (fixtures : Fixtures σ) : EStateM.Result Stop (Machine σ) α → Prop
  | .ok _ m => m.fixtures = fixtures
  | .error _ m => m.fixtures = fixtures

lemma Leaves.cases {fixtures : Fixtures σ} {x : EStateM.Result Stop (Machine σ) α} (h : Leaves fixtures x) :
    (∃ a m, x = .ok a m ∧ m.fixtures = fixtures) ∨ ∃ stop m, x = .error stop m ∧ m.fixtures = fixtures := by
  cases x with
  | ok a m => exact .inl ⟨a, m, rfl, h⟩
  | error stop m => exact .inr ⟨stop, m, rfl, h⟩

lemma fixtures_of_capacity_eq {m : Machine σ} {stack : Stack} {host : σ} (h : stack.capacity = m.stack.capacity) :
    { m with stack := stack, host := host }.fixtures = m.fixtures := by
  simp [fixtures, h]

lemma onStack_leaves {op : StackM α} (hop : Stack.UsesActions op) (m : Machine σ) :
    Leaves m.fixtures (onStack op m) := by
  obtain ⟨stack, registers, scopes, start, host, trace⟩ := m
  have hcapacity := hop.capacity stack
  unfold attempt at hcapacity
  unfold onStack
  dsimp only
  cases hresult : op stack with
  | ok a stack' =>
    rw [hresult] at hcapacity
    exact fixtures_of_capacity_eq (m := ⟨stack, registers, scopes, start, host, trace⟩) hcapacity
  | error fault stack' =>
    rw [hresult] at hcapacity
    exact fixtures_of_capacity_eq (m := ⟨stack, registers, scopes, start, host, trace⟩) hcapacity

lemma pushRegister_leaves (register : Register) (m : Machine σ) : Leaves m.fixtures (pushRegister register m) := by
  unfold pushRegister
  cases m.registers.getGeneral register with
  | error fault => rfl
  | ok value => exact onStack_leaves (.push .i32 _) m

lemma setRegister_leaves (register : Register) (m : Machine σ) : Leaves m.fixtures (setRegister register m) := by
  unfold setRegister
  rcases (onStack_leaves (.pop .i32) m).cases with ⟨value, m', hpop, hm'⟩ | ⟨stop, m', hpop, hm'⟩
  · rw [hpop, ← hm']
    dsimp only
    by_cases hkind : register.kind = .general
    · obtain ⟨i, rfl⟩ := Register.exists_of_kind hkind
      rw [RegisterFile.setGeneral_general]
      rfl
    · rw [RegisterFile.setGeneral_of_ne _ _ hkind]
      rfl
  · rw [hpop]
    exact hm'

lemma add_leaves (m : Machine σ) : Leaves m.fixtures (add m) := by
  unfold add
  rcases (onStack_leaves (.pop .i32) m).cases with ⟨a, m', hpop, hm'⟩ | ⟨stop, m', hpop, hm'⟩
  · rw [hpop, ← hm']
    dsimp only
    rcases (onStack_leaves (.pop .i32) m').cases with ⟨b, m'', hpop', hm''⟩ | ⟨stop, m'', hpop', hm''⟩
    · rw [hpop', ← hm'']
      exact onStack_leaves (.push .i32 (a + b)) m''
    · rw [hpop']
      exact hm''
  · rw [hpop]
    exact hm'

lemma invoke_leaves (id : ScopeId) {m : Machine σ} (hcallbacks : m.scopes.CallbacksUseActions) :
    Leaves m.fixtures (invoke id m) := by
  unfold invoke
  cases hscope : m.scopes.externalScope id with
  | error fault => rfl
  | ok external =>
    dsimp only [ExternalScope.invoke]
    cases hcallback : external.callback with
    | none => rfl
    | some callback =>
      obtain ⟨actions, hactions⟩ :=
        hcallbacks external (ScopeTable.mem_external hscope) callback hcallback m.stack m.host
      have hcapacity := Stack.capacity_afterAll actions m.stack
      rw [← hactions, attempt] at hcapacity
      dsimp only
      cases hresult : callback (m.stack, m.host) with
      | ok _ after =>
        rw [hresult] at hcapacity
        exact fixtures_of_capacity_eq hcapacity
      | error fault after =>
        rw [hresult] at hcapacity
        exact fixtures_of_capacity_eq hcapacity

lemma Leaves.andNext {fixtures : Fixtures σ} {x : Run σ Unit} {m : Machine σ} (h : Leaves fixtures (x m)) :
    Leaves fixtures (andNext x m) := by
  unfold Machine.andNext
  rcases h.cases with ⟨_, m', hx, hm'⟩ | ⟨stop, m', hx, hm'⟩
  · rw [hx]
    exact hm'
  · rw [hx]
    exact hm'

section Calls

variable {table : ScopeTable σ} (hcallbacks : table.CallbacksUseActions) {call : ScopeId → Run σ Unit}
  (hcall : ∀ id (m : Machine σ), m.scopes = table → Leaves m.fixtures (call id m))

include hcallbacks hcall

lemma perform_leaves (op : Operation) (m : Machine σ) (hm : m.scopes = table) :
    Leaves m.fixtures (perform call op m) := by
  cases op with
  | nop => rfl
  | ret => rfl
  | pushConst value => exact (onStack_leaves (.push .i32 value) m).andNext
  | pushRegister register => exact (pushRegister_leaves register m).andNext
  | setRegister register => exact (setRegister_leaves register m).andNext
  | add => exact (add_leaves m).andNext
  | call id => exact (hcall id m hm).andNext
  | callExternal id => exact Leaves.andNext (invoke_leaves id (m := m.record (.external id)) (hm ▸ hcallbacks))

lemma runFrom_leaves (scope : ScopeId) (limit : Nat) (c : Cursor) (m : Machine σ) (hm : m.scopes = table) :
    Leaves m.fixtures (runFrom call scope limit c m) := by
  induction limit generalizing c m with
  | zero => rfl
  | succ limit ih =>
    rw [runFrom]
    split
    · cases c.peekInstruction with
      | error fault => rfl
      | ok instruction =>
        dsimp only
        cases c.readAs instruction with
        | error fault => rfl
        | ok op =>
          dsimp only
          have hperform := perform_leaves hcallbacks hcall op (m.record (.step scope c.offset instruction)) hm
          rcases hperform.cases with ⟨flow, m', hx, hm'⟩ | ⟨stop, m', hx, hm'⟩
          · rw [hx]
            cases flow with
            | leave => exact hm'
            | next =>
              cases c.next with
              | error fault stuck => exact hm'
              | ok done following =>
                have hscopes : m'.scopes = table := (congrArg Fixtures.scopes hm').trans hm
                have hrest := ih following m' hscopes
                rwa [hm'] at hrest
          · rw [hx]
            exact hm'
    · rfl

end Calls

lemma executeWithin_leaves {table : ScopeTable σ} (hcallbacks : table.CallbacksUseActions) (depth : Nat)
    (id : ScopeId) (m : Machine σ) (hm : m.scopes = table) : Leaves m.fixtures (executeWithin depth id m) := by
  induction depth generalizing id m with
  | zero => rfl
  | succ depth ih =>
    rw [executeWithin]
    cases m.scopes.scope id with
    | error fault => rfl
    | ok s =>
      dsimp only
      have hrun := runFrom_leaves hcallbacks ih id s.code.length (Cursor.ofBytes s.code)
        (m.record (.enter id s.code.length)) hm
      rcases hrun.cases with ⟨_, m', hx, hm'⟩ | ⟨stop, m', hx, hm'⟩
      · rw [hx]
        exact hm'
      · rw [hx]
        exact hm'

end Machine

/-! ## What is set -/

section Noting

variable {S : Type} {bodies : ScopeId → Except Fault Body} {effect : Operation → EStateM Fault S Unit}

/-- Operations with the same effect, and a list of those that were performed without a fault. -/
def noting (effect : Operation → EStateM Fault S Unit) (op : Operation) : EStateM Fault (S × List Operation) Unit :=
  fun (s, performed) =>
    match effect op s with
    | .ok () s => .ok () (s, performed ++ [op])
    | .error fault s => .error fault (s, performed)

lemma WalksScope.exists_noting {id : ScopeId} {s t : S} {result : Except Fault Unit}
    (h : WalksScope bodies effect id s result t) :
    ∃ performed, WalksScope bodies (noting effect) id (s, []) result (t, performed) := by
  have hop : ∀ op s (p : S × List Operation), p.1 = s →
      Alike (· = ·) (fun s p => p.1 = s) (effect op s) (noting effect op p) := by
    rintro op s ⟨s, performed⟩ rfl
    unfold noting
    dsimp only
    cases effect op s with
    | ok _ s' => exact ⟨rfl, rfl⟩
    | error fault s' => exact ⟨rfl, rfl⟩
  obtain ⟨⟨t', performed⟩, hwalk, rfl⟩ := h.simulate hop (t := (s, [])) rfl
  exact ⟨performed, hwalk⟩

/-- What every operation keeps is kept by walks. -/
lemma Walks.keeps {I : S → Prop} (hop : ∀ op s, I s → I (attempt (effect op) s).2) {body : Body} {s t : S}
    {result : Except Fault Unit} (h : Walks bodies effect body s result t) (hs : I s) : I t := by
  induction h with
  | finish => exact hs
  | ret => exact hs
  | callUnknown _ => exact hs
  | @step op _ _ _ _ _ _ plain ok _ ih =>
    have hstep := hop op _ hs
    rw [attempt, ok] at hstep
    exact ih hstep
  | @fault op _ _ _ _ _ plain error =>
    have hstep := hop op _ hs
    rw [attempt, error] at hstep
    exact hstep
  | callFault _ _ ih => exact ih hs
  | callReturn _ _ _ ih ih' => exact ih' (ih hs)

lemma WalksScope.keeps {I : S → Prop} (hop : ∀ op s, I s → I (attempt (effect op) s).2) {id : ScopeId} {s t : S}
    {result : Except Fault Unit} (h : WalksScope bodies effect id s result t) (hs : I s) : I t := by
  unfold WalksScope at h
  cases hbody : bodies id with
  | error fault =>
    rw [hbody] at h
    rw [h.2]
    exact hs
  | ok body =>
    rw [hbody] at h
    exact h.keeps hop hs

end Noting

namespace Config

def KeepsRegisters (x : EStateM Fault (Config σ) α) : Prop := ∀ s, (attempt x s).2.registers = s.registers

namespace KeepsRegisters

lemma bind {x : EStateM Fault (Config σ) α} {f : α → EStateM Fault (Config σ) β} (hx : KeepsRegisters x)
    (hf : ∀ a, KeepsRegisters (f a)) : KeepsRegisters (x >>= f) := by
  intro s
  have hkept := hx s
  rcases attempt_bind_cases x f s with ⟨fault, t, hfirst, hbind⟩ | ⟨a, t, hfirst, hbind⟩
  · rw [hbind, ← hkept, hfirst]
  · rw [hbind, hf a t, ← hkept, hfirst]

lemma onStack (op : StackM α) : KeepsRegisters (Config.onStack op : EStateM Fault (Config σ) α) := by
  intro s
  unfold attempt Config.onStack
  cases op s.stack <;> rfl

lemma getGeneral (register : Register) : KeepsRegisters (Config.getGeneral register : EStateM Fault (Config σ) Int64) := by
  intro s
  unfold attempt Config.getGeneral
  cases s.registers.getGeneral register <;> rfl

lemma invoke (table : ScopeTable σ) (id : ScopeId) : KeepsRegisters (Config.invoke table id) := by
  intro s
  unfold attempt Config.invoke
  cases table.externalScope id with
  | error fault => rfl
  | ok external =>
    dsimp only
    cases external.callback with
    | none => rfl
    | some callback =>
      dsimp only
      cases callback (s.stack, s.host) <;> rfl

end KeepsRegisters

variable (table : ScopeTable σ)

lemma effect_keepsRegisters {op : Operation} (hop : ∀ register, op ≠ .setRegister register) :
    KeepsRegisters (effect table op) := by
  cases op with
  | nop => exact fun _ => rfl
  | pushConst value => exact .onStack _
  | pushRegister register => exact .bind (.getGeneral register) fun _ => .onStack _
  | setRegister register => exact absurd rfl (hop register)
  | add => exact .bind (.onStack _) fun _ => .bind (.onStack _) fun _ => .onStack _
  | callExternal id => exact .invoke table id
  | call id => exact fun _ => rfl
  | ret => exact fun _ => rfl

lemma setRegister_cases (register : Register) (s : Config σ) :
    (∃ fault s', effect table (.setRegister register) s = .error fault s' ∧ s'.registers = s.registers) ∨
      ∃ (i : Fin 8) (value : Int32) (s' : Config σ), register = .general i ∧
        effect table (.setRegister register) s = .ok () s' ∧
        s'.registers.general.get = Function.update s.registers.general.get i value.toInt64 := by
  have hpop := KeepsRegisters.onStack (Stack.pop .i32) s
  have heffect : effect table (.setRegister register) s =
      EStateM.bind (Config.onStack (Stack.pop .i32)) (fun value => setGeneral register value.toInt64) s := rfl
  rw [heffect, EStateM.bind]
  cases hresult : Config.onStack (Stack.pop .i32) s with
  | error fault s' =>
    rw [attempt, hresult] at hpop
    exact .inl ⟨fault, s', rfl, hpop⟩
  | ok value s' =>
    rw [attempt, hresult] at hpop
    by_cases hkind : register.kind = .general
    · obtain ⟨i, rfl⟩ := Register.exists_of_kind hkind
      obtain ⟨file, hset, hgeneral⟩ := s'.setGeneral_general i value.toInt64
      refine .inr ⟨i, value, _, rfl, hset, ?_⟩
      rw [← show s'.registers = s.registers from hpop]
      exact hgeneral
    · exact .inl ⟨_, s', s'.setGeneral_of_ne hkind _, hpop⟩

/-- The general registers have 32-bit numbers where they were set by the operations that were performed, and otherwise
what they started with. -/
def SetBy (start : RegisterFile) (p : Config σ × List Operation) : Prop :=
  ∀ i : Fin 8,
    (.setRegister (.general i) ∈ p.2 →
      -2 ^ 31 ≤ (p.1.registers.general.get i).toInt ∧ (p.1.registers.general.get i).toInt ≤ 2 ^ 31 - 1) ∧
    (.setRegister (.general i) ∉ p.2 → p.1.registers.general.get i = start.general.get i)

lemma SetBy.same {start : RegisterFile} {s s' : Config σ} {performed : List Operation} (h : SetBy start (s, performed))
    (hregisters : s'.registers = s.registers) : SetBy start (s', performed) := by
  unfold SetBy at h ⊢
  rwa [hregisters]

lemma SetBy.step {start : RegisterFile} {p : Config σ × List Operation} (h : SetBy start p) (op : Operation) :
    SetBy start (attempt (noting (effect table) op) p).2 := by
  obtain ⟨s, performed⟩ := p
  unfold attempt noting
  dsimp only
  by_cases hop : ∃ register, op = .setRegister register
  · obtain ⟨register, rfl⟩ := hop
    rcases setRegister_cases table register s with ⟨fault, s', heffect, hregisters⟩ |
      ⟨i, value, s', rfl, heffect, hgeneral⟩
    · rw [heffect]
      exact h.same hregisters
    · rw [heffect]
      intro j
      by_cases hij : j = i
      · subst hij
        have hvalue : s'.registers.general.get j = value.toInt64 := by
          rw [hgeneral, Function.update_self]
        constructor
        · intro _
          simp only [hvalue, Int32.toInt_toInt64]
          exact ⟨value.le_toInt, Int.le_sub_one_of_lt value.toInt_lt⟩
        · intro hnot
          exact absurd (List.mem_append_right _ (List.mem_singleton_self _)) hnot
      · have hvalue : s'.registers.general.get j = s.registers.general.get j := by
          rw [hgeneral, Function.update_of_ne hij]
        simpa [hvalue, hij] using h j
  · have hregisters := effect_keepsRegisters table (fun register heq => hop ⟨register, heq⟩) s
    unfold attempt at hregisters
    cases heffect : effect table op s with
    | error fault s' =>
      rw [heffect] at hregisters
      exact h.same hregisters
    | ok _ s' =>
      rw [heffect] at hregisters
      have hmem : ∀ i, .setRegister (.general i) ∈ performed ++ [op] ↔ .setRegister (.general i) ∈ performed := by
        intro i
        have hne : .setRegister (.general i) ≠ op := fun heq => hop ⟨_, heq.symm⟩
        simp [hne]
      have hsame : SetBy start (s', performed) := h.same hregisters
      unfold SetBy at hsame ⊢
      simpa only [hmem] using hsame

end Config

namespace Machine

/-- A run can change the stack, the host, the trace and the general registers, and of those only the ones that it sets.
Whether it ends with a fault or not, the stack keeps its capacity, and the other registers, the start scope and the
scopes are as before; a general register has what it had before, or a 32-bit number if it was set. -/
theorem runs_change_only_set_registers (m : Machine σ) (hcallbacks : m.scopes.CallbacksUseActions)
    (result : Except Fault Unit) (final : Machine σ) (hrun : m.Runs result final) :
    (final.stack.live.length ≤ final.stack.capacity ∧ final.stack.capacity = m.stack.capacity) ∧
      (final.registers.stackFrame = m.registers.stackFrame ∧ final.registers.memory = m.registers.memory ∧
        final.registers.flag = m.registers.flag) ∧
      (final.start = m.start ∧ final.scopes = m.scopes) ∧
      (∃ performed, WalksScope m.scopes.body (noting (Config.effect m.scopes)) m.start (m.config, []) result
        (final.config, performed)) ∧
      ∀ performed, WalksScope m.scopes.body (noting (Config.effect m.scopes)) m.start (m.config, []) result
          (final.config, performed) → ∀ i : Fin 8,
        (.setRegister (.general i) ∈ performed →
          -2 ^ 31 ≤ (final.registers.general.get i).toInt ∧ (final.registers.general.get i).toInt ≤ 2 ^ 31 - 1) ∧
        (.setRegister (.general i) ∉ performed →
          final.registers.general.get i = m.registers.general.get i) := by
  obtain ⟨depth, hdepth⟩ := hrun
  have hconfig : (m.record (.start m.start)).config = m.config := config_record rfl
  have hfixtures : final.fixtures = m.fixtures := by
    have hleaves := executeWithin_leaves hcallbacks depth m.start (m.record (.start m.start)) rfl
    rw [hdepth] at hleaves
    cases result <;> exact hleaves
  obtain ⟨hwalk, -⟩ := walksScope_of_executeWithin depth m.start _ final result rfl hdepth
  rw [hconfig] at hwalk
  refine ⟨⟨final.stack.length_live_le, congrArg Fixtures.capacity hfixtures⟩,
    ⟨congrArg Fixtures.stackFrame hfixtures, congrArg Fixtures.memory hfixtures, congrArg Fixtures.flag hfixtures⟩,
    ⟨congrArg Fixtures.start hfixtures, congrArg Fixtures.scopes hfixtures⟩, hwalk.exists_noting, ?_⟩
  intro performed hnoted
  have hstart : Config.SetBy m.registers (m.config, []) := by
    intro i
    exact ⟨nofun, fun _ => rfl⟩
  exact hnoted.keeps (fun op p hp => hp.step m.scopes op) hstart

/-- A machine whose general registers start with a number of more than 32 bits. It sets the last one, has a script work
on the stack, and then its other scope pops a number for a register that is none for numbers. -/
def meddling : Machine ScriptHost where
  stack := ⟨64, #[249, 255, 255, 255], 4, by decide, by decide⟩
  registers := { RegisterFile.zero with general := .replicate 8 1099511627776, flag := true }
  scopes :=
    ⟨#[⟨⟨0⟩, Operation.records [.setRegister (.general (Fin.last 7)), .callExternal ⟨0⟩, .call ⟨1⟩]⟩,
        ⟨⟨1⟩, Operation.records [.setRegister (.memory (Fin.last 3)), .nop]⟩],
      #[⟨⟨0⟩, some (Script.callback 0 [.count, .dup, .double, .stack (.pop .i16), .depth])⟩]⟩
  start := ⟨0⟩
  host := ⟨#[0], #[]⟩
  trace := #[]

theorem meddling_changes_only_set_register :
    ∃ (final : Machine ScriptHost) (performed : List Operation),
      meddling.Runs (.error (.invalidRegister (.memory (Fin.last 3)) .general)) final ∧
      WalksScope meddling.scopes.body (noting (Config.effect meddling.scopes)) ⟨0⟩ (meddling.config, [])
        (.error (.invalidRegister (.memory (Fin.last 3)) .general)) (final.config, performed) ∧
      final.stack.live = [1, 0] ∧ final.stack.capacity = 64 ∧ final.registers.flag = true ∧
      (.setRegister (.general (Fin.last 7)) ∈ performed ∧ -2 ^ 31 ≤ (final.registers.general.get (Fin.last 7)).toInt ∧
        (final.registers.general.get (Fin.last 7)).toInt ≤ 2 ^ 31 - 1) ∧
      ∀ i, i ≠ Fin.last 7 → .setRegister (.general i) ∉ performed ∧
        final.registers.general.get i = meddling.registers.general.get i := by
  have hcallbacks : meddling.scopes.CallbacksUseActions := by
    intro external hexternal callback hcallback
    obtain rfl : external = _ := List.mem_singleton.mp (Array.mem_toList_iff.mpr hexternal)
    cases hcallback
    exact Script.callback_usesActions 0 _
  have hreport : report (fun final => (final.stack.live, final.registers.general.get (Fin.last 7),
        decide (∀ i, i ≠ Fin.last 7 → final.registers.general.get i = 1099511627776))) (run meddling) =
      some (.error (.invalidRegister (.memory (Fin.last 3)) .general), [1, 0], -7, true) := by
    decide +kernel
  obtain ⟨final, hruns, hview⟩ := runs_of_report hreport
  obtain ⟨hlive, hset, hothers⟩ : final.stack.live = [1, 0] ∧ final.registers.general.get (Fin.last 7) = -7 ∧
      ∀ i, i ≠ Fin.last 7 → final.registers.general.get i = 1099511627776 := by
    simpa only [Prod.mk.injEq, decide_eq_true_eq] using hview
  obtain ⟨⟨-, hcapacity⟩, ⟨-, -, hflag⟩, -, ⟨performed, hnoted⟩, hgeneral⟩ :=
    runs_change_only_set_registers meddling hcallbacks _ final hruns
  -- a register that has changed was set, and one whose number has more than 32 bits was not
  have hperformed : .setRegister (.general (Fin.last 7)) ∈ performed := by
    by_contra hnot
    have hsame := (hgeneral performed hnoted (Fin.last 7)).2 hnot
    rw [hset] at hsame
    exact absurd hsame (by decide)
  refine ⟨final, performed, hruns, hnoted, hlive, hcapacity, hflag,
    ⟨hperformed, (hgeneral performed hnoted (Fin.last 7)).1 hperformed⟩, ?_⟩
  intro i hi
  have hnot : .setRegister (.general i) ∉ performed := by
    intro hmem
    have hrange := (hgeneral performed hnoted i).1 hmem
    rw [hothers i hi] at hrange
    exact absurd hrange (by decide)
  exact ⟨hnot, (hgeneral performed hnoted i).2 hnot⟩

end Machine

end ScopeMachine
