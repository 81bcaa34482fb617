import ScopeMachine.Proofs.Execution
import ScopeMachine.Script

/-!
# Two runs side by side

Two machines with the same scopes, whose stacks are related in some way, are run side by side. A `Coupling` is a
relation between stacks that every request of the stack keeps: it is granted or refused on both sides alike,
except that after some faults of the first side nothing is said about the second one. A coupling is kept by runs
(`Coupling.Machines.runs`), so a statement about two whole runs is one about the requests of the stack.

Callbacks have to be the same in both runs whatever their host has seen, so they are taken to be fixed lists of
actions (`Callback.Performs`).
-/

namespace ScopeMachine

/-! ## Ending alike -/

section InStep

variable {ε S T α β α' β' : Type}

/-- Two computations end alike, with related values or the same error, and in related states; or the first one ends
with an excused error, and then nothing is asked of the second one. -/
inductive InStep (excused : ε → Prop) (V : α → β → Prop) (R : S → T → Prop) :
    EStateM.Result ε S α → EStateM.Result ε T β → Prop where
  | ok {a : α} {b : β} {s : S} {t : T} (value : V a b) (state : R s t) : InStep excused V R (.ok a s) (.ok b t)
  | error {e : ε} {s : S} {t : T} (state : R s t) : InStep excused V R (.error e s) (.error e t)
  | excused {e : ε} {s : S} {y : EStateM.Result ε T β} (excuse : excused e) : InStep excused V R (.error e s) y

variable {excused : ε → Prop} {V : α → β → Prop} {W : α' → β' → Prop} {R : S → T → Prop}

lemma InStep.bind {x : EStateM ε S α} {y : EStateM ε T β} {f : α → EStateM ε S α'} {g : β → EStateM ε T β'}
    {s : S} {t : T} (h : InStep excused V R (x s) (y t))
    (hnext : ∀ a b s t, V a b → R s t → InStep excused W R (f a s) (g b t)) :
    InStep excused W R ((x >>= f) s) ((y >>= g) t) := by
  change InStep excused W R (EStateM.bind x f s) (EStateM.bind y g t)
  unfold EStateM.bind
  generalize x s = rx, y t = ry at h ⊢
  cases h with
  | ok value state => exact hnext _ _ _ _ value state
  | error state => exact .error state
  | excused excuse => exact .excused excuse

end InStep

/-- The values are equal, if they have to be. -/
def SameIf (exact : Prop) {α : Type} (a b : α) : Prop := exact → b = a

lemma SameIf.map {exact : Prop} {α β : Type} {a b : α} (h : SameIf exact a b) (f : α → β) :
    SameIf exact (f a) (f b) := fun he => congrArg f (h he)

/-! ## Callbacks that are lists of actions -/

/-- Performs actions in order, up to the first fault, and notes what they read. -/
def StackAction.performAll : List StackAction → Callback (List Int)
  | [], state => .ok () state
  | action :: actions, (stack, reads) =>
    match action.perform stack with
    | .error fault stack => .error fault (stack, reads)
    | .ok read stack => performAll actions (stack, reads ++ read.toList)

/-- The callback performs the actions in order, up to the first fault. What its host becomes is a function of what
they read and of how they end. -/
def Callback.Performs {σ : Type} (callback : Callback σ) (actions : List StackAction) : Prop :=
  ∃ respond : σ → List Int → Except Fault Unit → σ, ∀ (stack : Stack) (host : σ),
    callback (stack, host) =
      match StackAction.performAll actions (stack, []) with
      | .ok () (stack, reads) => .ok () (stack, respond host reads (.ok ()))
      | .error fault (stack, reads) => .error fault (stack, respond host reads (.error fault))

/-- Every callback of the table performs a fixed list of actions, all of them allowed. -/
def ScopeTable.CallbacksPerform {σ : Type} (table : ScopeTable σ) (allowed : StackAction → Prop) : Prop :=
  ∀ external ∈ table.external, ∀ callback ∈ external.callback,
    ∃ actions, (∀ action ∈ actions, allowed action) ∧ Callback.Performs callback actions

lemma ScopeTable.callbacksPerform_single {σ : Type} (internal : Array Scope) (id : ScopeId) {callback : Callback σ}
    {actions : List StackAction} {allowed : StackAction → Prop} (hallowed : ∀ action ∈ actions, allowed action)
    (h : Callback.Performs callback actions) :
    ScopeTable.CallbacksPerform ⟨internal, #[⟨id, some callback⟩]⟩ allowed := by
  intro external hexternal callback' hcallback
  obtain rfl : external = _ := List.mem_singleton.mp (Array.mem_toList_iff.mpr hexternal)
  cases hcallback
  exact ⟨actions, hallowed, h⟩

lemma Script.runActions_stack (invocation : Nat) (actions : List StackAction) (stack : Stack) (host : ScriptHost)
    (reads : List Int) :
    runActions invocation (actions.map .stack) (stack, reads.foldl ScriptHost.note host) =
      match StackAction.performAll actions (stack, reads) with
      | .ok () (stack, reads) => .ok () (stack, reads.foldl ScriptHost.note host)
      | .error fault (stack, reads) => .error fault (stack, reads.foldl ScriptHost.note host) := by
  induction actions generalizing stack reads with
  | nil => rfl
  | cons action actions ih =>
    rw [List.map_cons, runActions, StackAction.performAll]
    dsimp only [ScriptAction.perform]
    cases action.perform stack with
    | error fault stack => rfl
    | ok read stack =>
      have hrest := ih stack (reads ++ read.toList)
      rw [List.foldl_append] at hrest
      cases read with
      | none => exact hrest
      | some value => exact hrest

lemma Script.callback_performs (script : Nat) (actions : List StackAction) :
    Callback.Performs (Script.callback script (actions.map .stack)) actions := by
  refine ⟨fun host reads _ => reads.foldl ScriptHost.note (host.enter script), fun stack host => ?_⟩
  exact runActions_stack _ actions stack (host.enter script) []

lemma ScopeTable.mem_external {σ : Type} {table : ScopeTable σ} {id : ScopeId} {external : ExternalScope σ}
    (h : table.externalScope id = .ok external) : external ∈ table.external := by
  unfold externalScope at h
  cases hget : table.external[id.index]? with
  | none =>
    rw [hget] at h
    cases h
  | some s =>
    rw [hget] at h
    cases h
    exact Array.mem_of_getElem? hget

/-! ## Couplings -/

/-- A relation between the stacks of two runs that the requests of the stack keep. -/
structure Coupling where
  /-- Whether the two runs have the same values. -/
  exact : Prop
  related : Stack → Stack → Prop
  /-- The faults of the first run after which nothing is said about the second one. -/
  excused : Fault → Prop
  /-- The actions that callbacks may perform. -/
  allowed : StackAction → Prop
  push : ∀ {s s' : Stack} (t : CellType) {v v' : t.Value}, related s s' → SameIf exact v v' →
    InStep excused (SameIf exact) related (Stack.push t v s) (Stack.push t v' s')
  pop : ∀ {s s' : Stack} (t : CellType), related s s' →
    InStep excused (SameIf exact) related (Stack.pop t s) (Stack.pop t s')
  peek : ∀ {s s' : Stack} (t : CellType), related s s' →
    InStep excused (SameIf exact) related (Stack.peek t s) (Stack.peek t s')
  get : ∀ {s s' : Stack} (t : CellType) (a : StackAddress), allowed (.get t a) → related s s' →
    InStep excused (SameIf exact) related (Stack.get t a s) (Stack.get t a s')
  set : ∀ {s s' : Stack} (t : CellType) (a : StackAddress) (v : t.Value), allowed (.set t a v) →
    related s s' → InStep excused (SameIf exact) related (Stack.set t a v s) (Stack.set t a v s')

namespace Coupling

variable (C : Coupling) {σ : Type} {table : ScopeTable σ}

/-! ### Actions -/

lemma perform_action {action : StackAction} (hallowed : C.allowed action) {s s' : Stack}
    (h : C.related s s') :
    InStep C.excused (SameIf C.exact) C.related (action.perform s) (action.perform s') := by
  cases action with
  | push t v => exact (C.push t h fun _ => rfl).bind fun _ _ _ _ _ h => .ok (fun _ => rfl) h
  | pop t => exact (C.pop t h).bind fun _ _ _ _ hv h => .ok (hv.map (some ∘ t.toInt)) h
  | peek t => exact (C.peek t h).bind fun _ _ _ _ hv h => .ok (hv.map (some ∘ t.toInt)) h
  | get t a => exact (C.get t a hallowed h).bind fun _ _ _ _ hv h => .ok (hv.map (some ∘ t.toInt)) h
  | set t a v => exact (C.set t a v hallowed h).bind fun _ _ _ _ _ h => .ok (fun _ => rfl) h

lemma performAll {actions : List StackAction} (hallowed : ∀ action ∈ actions, C.allowed action)
    {s s' : Stack} (h : C.related s s') {reads reads' : List Int} (hreads : SameIf C.exact reads reads') :
    InStep C.excused (· = ·) (fun x y => C.related x.1 y.1 ∧ SameIf C.exact x.2 y.2)
      (StackAction.performAll actions (s, reads)) (StackAction.performAll actions (s', reads')) := by
  induction actions generalizing s s' reads reads' with
  | nil => exact .ok rfl ⟨h, hreads⟩
  | cons action actions ih =>
    obtain ⟨haction, hactions⟩ := List.forall_mem_cons.mp hallowed
    have hstep := C.perform_action haction h
    unfold StackAction.performAll
    generalize action.perform s = x, action.perform s' = y at hstep ⊢
    cases hstep with
    | ok hv h =>
      refine ih hactions h fun he => ?_
      rw [hreads he, hv he]
    | error h => exact .error ⟨h, hreads⟩
    | excused excuse => exact .excused excuse

/-! ### Operations -/

/-- Machines that stand side by side: they share the scope table and have done the same so far. -/
structure Machines (table : ScopeTable σ) (m m' : Machine σ) : Prop where
  stack : C.related m.stack m'.stack
  registers : SameIf C.exact m.registers m'.registers
  host : SameIf C.exact m.host m'.host
  scopes : m.scopes = table
  scopes' : m'.scopes = table
  trace : m'.trace = m.trace

/-- An end of the first run after which nothing is said about the second one. -/
def ExcusedStop (stop : Stop) : Prop := ∃ fault, stop = .fault fault ∧ C.excused fault

namespace Machines

variable {C} {m m' : Machine σ}

lemma record (h : C.Machines table m m') (event : Event) :
    C.Machines table (m.record event) (m'.record event) where
  stack := h.stack
  registers := h.registers
  host := h.host
  scopes := h.scopes
  scopes' := h.scopes'
  trace := congrArg (·.push event) h.trace

lemma onStack {α : Type} {V : α → α → Prop} {x y : StackM α} (h : C.Machines table m m')
    (hxy : InStep C.excused V C.related (x m.stack) (y m'.stack)) :
    InStep C.ExcusedStop V (C.Machines table) (Machine.onStack x m) (Machine.onStack y m') := by
  obtain ⟨stack, registers, scopes, start, host, trace⟩ := m
  obtain ⟨stack', registers', scopes', start', host', trace'⟩ := m'
  unfold Machine.onStack
  dsimp only at hxy ⊢
  generalize x stack = rx, y stack' = ry at hxy ⊢
  cases hxy with
  | ok value state => exact .ok value ⟨state, h.registers, h.host, h.scopes, h.scopes', h.trace⟩
  | error state => exact .error ⟨state, h.registers, h.host, h.scopes, h.scopes', h.trace⟩
  | excused excuse => exact .excused ⟨_, rfl, excuse⟩

lemma pushRegister (h : C.Machines table m m') (register : Register) :
    InStep C.ExcusedStop (SameIf C.exact) (C.Machines table) (Machine.pushRegister register m)
      (Machine.pushRegister register m') := by
  unfold Machine.pushRegister
  by_cases hkind : register.kind = .general
  · obtain ⟨i, rfl⟩ := Register.exists_of_kind hkind
    have hvalue : SameIf C.exact (m.registers.general.get i) (m'.registers.general.get i) :=
      h.registers.map fun file => file.general.get i
    rw [RegisterFile.getGeneral_general, RegisterFile.getGeneral_general]
    exact h.onStack (C.push .i32 h.stack (hvalue.map Int64.toInt32))
  · rw [RegisterFile.getGeneral_of_ne _ hkind, RegisterFile.getGeneral_of_ne _ hkind]
    exact .error h

lemma pop (h : C.Machines table m m') :
    InStep C.ExcusedStop (SameIf C.exact) (C.Machines table) (Machine.onStack (Stack.pop .i32) m)
      (Machine.onStack (Stack.pop .i32) m') :=
  h.onStack (C.pop .i32 h.stack)

lemma setGeneral (h : C.Machines table m m') {value value' : Int64} (hvalue : SameIf C.exact value value')
    (register : Register) :
    (∃ file file', m.registers.setGeneral value register = .ok () file ∧
        m'.registers.setGeneral value' register = .ok () file' ∧
        C.Machines table { m with registers := file } { m' with registers := file' }) ∨
      ∃ fault, m.registers.setGeneral value register = .error fault m.registers ∧
        m'.registers.setGeneral value' register = .error fault m'.registers := by
  by_cases hkind : register.kind = .general
  · obtain ⟨i, rfl⟩ := Register.exists_of_kind hkind
    refine .inl ⟨_, _, RegisterFile.setGeneral_general .., RegisterFile.setGeneral_general .., h.stack, fun he => ?_,
      h.host, h.scopes, h.scopes', h.trace⟩
    rw [h.registers he, hvalue he]
  · exact .inr ⟨_, RegisterFile.setGeneral_of_ne _ _ hkind, RegisterFile.setGeneral_of_ne _ _ hkind⟩

lemma setRegister (h : C.Machines table m m') (register : Register) :
    InStep C.ExcusedStop (SameIf C.exact) (C.Machines table) (Machine.setRegister register m)
      (Machine.setRegister register m') := by
  have hpop := h.pop
  unfold Machine.setRegister
  generalize Machine.onStack (Stack.pop .i32) m = x, Machine.onStack (Stack.pop .i32) m' = y at hpop ⊢
  cases hpop with
  | ok hv h =>
    dsimp only
    rcases h.setGeneral (hv.map Int32.toInt64) register with ⟨file, file', hset, hset', h⟩ | ⟨fault, hset, hset'⟩
    · rw [hset, hset']
      exact .ok (fun _ => rfl) h
    · rw [hset, hset']
      exact .error h
  | error h => exact .error h
  | excused excuse => exact .excused excuse

lemma add (h : C.Machines table m m') :
    InStep C.ExcusedStop (SameIf C.exact) (C.Machines table) (Machine.add m) (Machine.add m') := by
  have hpop := h.pop
  unfold Machine.add
  generalize Machine.onStack (Stack.pop .i32) m = x, Machine.onStack (Stack.pop .i32) m' = y at hpop ⊢
  cases hpop with
  | @ok a a' n n' ha h =>
    have hpop := h.pop
    dsimp only
    generalize Machine.onStack (Stack.pop .i32) n = x, Machine.onStack (Stack.pop .i32) n' = y at hpop ⊢
    cases hpop with
    | @ok b b' _ _ hb h =>
      refine h.onStack (C.push .i32 h.stack fun he => ?_)
      rw [ha he, hb he]
    | error h => exact .error h
    | excused excuse => exact .excused excuse
  | error h => exact .error h
  | excused excuse => exact .excused excuse

lemma invoke (h : C.Machines table m m') (hcallbacks : table.CallbacksPerform C.allowed) (id : ScopeId) :
    InStep C.ExcusedStop (SameIf C.exact) (C.Machines table) (Machine.invoke id m) (Machine.invoke id m') := by
  have hexternal : m.scopes.externalScope id = table.externalScope id := by rw [h.scopes]
  have hexternal' : m'.scopes.externalScope id = table.externalScope id := by rw [h.scopes']
  unfold Machine.invoke
  rw [hexternal, hexternal']
  cases hext : table.externalScope id with
  | error fault => exact .error h
  | ok external =>
    dsimp only [ExternalScope.invoke]
    cases hcallback : external.callback with
    | none => exact .error h
    | some callback =>
      obtain ⟨actions, hallowed, respond, hperforms⟩ :=
        hcallbacks external (ScopeTable.mem_external hext) callback hcallback
      have hstep := C.performAll hallowed h.stack (fun _ => rfl : SameIf C.exact [] [])
      dsimp only
      rw [hperforms, hperforms]
      generalize StackAction.performAll actions (m.stack, []) = x,
        StackAction.performAll actions (m'.stack, []) = y at hstep ⊢
      cases hstep with
      | ok _ state =>
        refine .ok (fun _ => rfl) ⟨state.1, h.registers, fun he => ?_, h.scopes, h.scopes', h.trace⟩
        dsimp only
        rw [h.host he, state.2 he]
      | error state =>
        refine .error ⟨state.1, h.registers, fun he => ?_, h.scopes, h.scopes', h.trace⟩
        dsimp only
        rw [h.host he, state.2 he]
      | excused excuse => exact .excused ⟨_, rfl, excuse⟩

lemma andNext {x y : Run σ Unit} {V : Unit → Unit → Prop}
    (h : InStep C.ExcusedStop V (C.Machines table) (x m) (y m')) :
    InStep C.ExcusedStop (· = ·) (C.Machines table) (Machine.andNext x m) (Machine.andNext y m') := by
  unfold Machine.andNext
  generalize x m = rx, y m' = ry at h ⊢
  cases h with
  | ok _ h => exact .ok rfl h
  | error h => exact .error h
  | excused excuse => exact .excused excuse

lemma perform (h : C.Machines table m m') (hcallbacks : table.CallbacksPerform C.allowed)
    {call : ScopeId → Run σ Unit}
    (hcall : ∀ id (m m' : Machine σ), C.Machines table m m' →
      InStep C.ExcusedStop (· = ·) (C.Machines table) (call id m) (call id m')) (op : Operation) :
    InStep C.ExcusedStop (· = ·) (C.Machines table) (Machine.perform call op m)
      (Machine.perform call op m') := by
  cases op with
  | nop => exact .ok rfl h
  | pushConst value => exact andNext (h.onStack (C.push .i32 h.stack fun _ => rfl))
  | pushRegister register => exact andNext (h.pushRegister register)
  | setRegister register => exact andNext (h.setRegister register)
  | add => exact andNext h.add
  | call id => exact andNext (hcall id m m' h)
  | callExternal id => exact andNext ((h.record (.external id)).invoke hcallbacks id)
  | ret => exact .ok rfl h

/-! ### Runs -/

/-- The loop looks at nothing but the code to decide what comes next, and the code is the same. -/
lemma runFrom (h : C.Machines table m m') (hcallbacks : table.CallbacksPerform C.allowed)
    {call : ScopeId → Run σ Unit}
    (hcall : ∀ id (m m' : Machine σ), C.Machines table m m' →
      InStep C.ExcusedStop (· = ·) (C.Machines table) (call id m) (call id m'))
    (scope : ScopeId) (limit : Nat) (c : Cursor) :
    InStep C.ExcusedStop (· = ·) (C.Machines table) (Machine.runFrom call scope limit c m)
      (Machine.runFrom call scope limit c m') := by
  induction limit generalizing c m m' with
  | zero => exact .ok rfl h
  | succ limit ih =>
    rw [Machine.runFrom, Machine.runFrom]
    split
    · cases c.peekInstruction with
      | error fault => exact .error h
      | ok instruction =>
        have hnoted := h.record (.step scope c.offset instruction)
        dsimp only
        cases c.readAs instruction with
        | error fault => exact .error hnoted
        | ok op =>
          have hperform := hnoted.perform hcallbacks hcall op
          dsimp only
          generalize Machine.perform call op (m.record (.step scope c.offset instruction)) = x,
            Machine.perform call op (m'.record (.step scope c.offset instruction)) = y at hperform ⊢
          cases hperform with
          | @ok flow _ _ _ hflow h =>
            obtain rfl := hflow
            cases flow with
            | leave => exact .ok rfl h
            | next =>
              dsimp only
              cases c.next with
              | error fault stuck => exact .error h
              | ok done following => exact ih h following
          | error h => exact .error h
          | excused excuse => exact .excused excuse
    · exact .ok rfl h

lemma executeWithin (h : C.Machines table m m') (hcallbacks : table.CallbacksPerform C.allowed) (depth : Nat)
    (id : ScopeId) :
    InStep C.ExcusedStop (· = ·) (C.Machines table) (Machine.executeWithin depth id m)
      (Machine.executeWithin depth id m') := by
  induction depth generalizing id m m' with
  | zero => exact .error h
  | succ depth ih =>
    rw [Machine.executeWithin, Machine.executeWithin, h.scopes, h.scopes']
    cases table.scope id with
    | error fault => exact .error h
    | ok s =>
      have hrun := (h.record (.enter id s.code.length)).runFrom hcallbacks (fun id _ _ h => ih h id) id
        s.code.length (Cursor.ofBytes s.code)
      dsimp only
      generalize Machine.runFrom (Machine.executeWithin depth) id s.code.length (Cursor.ofBytes s.code)
          (m.record (.enter id s.code.length)) = x,
        Machine.runFrom (Machine.executeWithin depth) id s.code.length (Cursor.ofBytes s.code)
          (m'.record (.enter id s.code.length)) = y at hrun ⊢
      cases hrun with
      | ok _ h => exact .ok rfl (h.record (.leave id))
      | error h => exact .error h
      | excused excuse => exact .excused excuse

lemma of_ended {R : Machine σ → Machine σ → Prop} {result : Except Fault Unit} {final : Machine σ}
    {y : EStateM.Result Stop (Machine σ) Unit} (h : InStep C.ExcusedStop (· = ·) R (Machine.ended result final) y)
    (hresult : ∀ fault, C.excused fault → result ≠ .error fault) :
    ∃ final', y = Machine.ended result final' ∧ R final final' := by
  cases result with
  | ok _ =>
    cases h with
    | ok _ state => exact ⟨_, rfl, state⟩
  | error fault =>
    cases h with
    | error state => exact ⟨_, rfl, state⟩
    | excused excuse =>
      obtain ⟨fault', heq, hexcused⟩ := excuse
      cases heq
      exact absurd rfl (hresult fault hexcused)

/-- A coupling is kept by runs: unless the first run ends with an excused fault, the second one ends in the same
way, and the machines stand side by side again. -/
theorem runs (h : C.Machines table m m') (hcallbacks : table.CallbacksPerform C.allowed)
    (hstart : m'.start = m.start) {result : Except Fault Unit} {final : Machine σ} (hrun : m.Runs result final)
    (hresult : ∀ fault, C.excused fault → result ≠ .error fault) :
    ∃ final', m'.Runs result final' ∧ C.Machines table final final' := by
  obtain ⟨depth, hrun⟩ := hrun
  have hstep := (h.record (.start m.start)).executeWithin hcallbacks depth m.start
  rw [hrun] at hstep
  obtain ⟨final', hrun', hfinal⟩ := of_ended hstep hresult
  refine ⟨final', ?_, hfinal⟩
  rw [Machine.Runs, hstart]
  exact ⟨depth, hrun'⟩

end Coupling.Machines

end ScopeMachine
