import ScopeMachine.Proofs.OperationSemantics

/-!
# Bytes and operations

Running the bytes of a scope is the same as walking over the operations that its code starts with, with
the fault of listing the code behind them (`Machine.executes_iff_walksScope`). The machine decodes each
record only when it gets there, so this says that decoding late, sizing a record after its operation was
performed, and the bytes behind a `ret` never matter.
-/

namespace ScopeMachine

open Operation (records)

lemma RegisterFile.get_setGeneral {file file' : RegisterFile} {i : Fin 8} {value : Int64}
    (h : file.setGeneral value (.general i) = .ok () file') :
    file'.general.get = Function.update file.general.get i value := by
  rw [setGeneral_general] at h
  cases h
  funext j
  by_cases hij : j = i
  · rw [hij, Function.update_self]
    exact Vector.getElem_set_self i.isLt
  · have hne : (i : Nat) ≠ j := fun heq => hij (Fin.ext heq.symm)
    rw [Function.update_of_ne hij]
    exact Vector.getElem_set_ne i.isLt j.isLt hne

/-- What can be observed of a machine: the stack, the registers, the host's state, and the external
scopes whose callbacks were invoked, in order. -/
structure Config (σ : Type) where
  stack : Stack
  registers : RegisterFile
  host : σ
  invocations : List ScopeId

variable {σ : Type}

def ScopeTable.hasCallback (table : ScopeTable σ) (id : ScopeId) : Bool :=
  match table.externalScope id with
  | .error _ => false
  | .ok external => external.hasCallback

/-- The external scope whose callback an event stands for. A call of an external scope that does not exist
or has no callback is in the trace, but nothing is invoked. -/
def Event.invoked (table : ScopeTable σ) : Event → Option ScopeId
  | .external id => if table.hasCallback id then some id else none
  | .start _ | .enter .. | .step .. | .leave _ => none

namespace Machine

def invocations (m : Machine σ) : List ScopeId := m.trace.toList.filterMap (Event.invoked m.scopes)

def config (m : Machine σ) : Config σ := ⟨m.stack, m.registers, m.host, m.invocations⟩

end Machine

namespace Config

def onStack {α : Type} (op : StackM α) : EStateM Fault (Config σ) α := fun s =>
  match op s.stack with
  | .ok a stack => .ok a { s with stack := stack }
  | .error fault stack => .error fault { s with stack := stack }

def invoke (table : ScopeTable σ) (id : ScopeId) : EStateM Fault (Config σ) Unit := fun s =>
  match table.externalScope id with
  | .error fault => .error fault s
  | .ok external =>
    match external.callback with
    | none => .error (.missingCallback external.id) s
    | some callback =>
      match callback (s.stack, s.host) with
      | .ok () (stack, host) =>
        .ok () { s with stack := stack, host := host, invocations := s.invocations ++ [id] }
      | .error fault (stack, host) =>
        .error fault { s with stack := stack, host := host, invocations := s.invocations ++ [id] }

def push (value : Int32) : EStateM Fault (Config σ) Unit := onStack (Stack.push .i32 value)

def pop : EStateM Fault (Config σ) Int32 := onStack (Stack.pop .i32)

def getGeneral (register : Register) : EStateM Fault (Config σ) Int64 := fun s =>
  match s.registers.getGeneral register with
  | .error fault => .error fault s
  | .ok value => .ok value s

def setGeneral (register : Register) (value : Int64) : EStateM Fault (Config σ) Unit := fun s =>
  match s.registers.setGeneral value register with
  | .error fault registers => .error fault { s with registers := registers }
  | .ok () registers => .ok () { s with registers := registers }

lemma getGeneral_general (s : Config σ) (i : Fin 8) : getGeneral (.general i) s = .ok (s.registers.general.get i) s := by
  rw [getGeneral, RegisterFile.getGeneral_general]

lemma getGeneral_of_ne (s : Config σ) {register : Register} (h : register.kind ≠ .general) :
    getGeneral register s = .error (.invalidRegister register .general) s := by
  rw [getGeneral, RegisterFile.getGeneral_of_ne _ h]

lemma setGeneral_general (s : Config σ) (i : Fin 8) (value : Int64) :
    ∃ file, setGeneral (.general i) value s = .ok () { s with registers := file } ∧
      file.general.get = Function.update s.registers.general.get i value := by
  have hset := s.registers.setGeneral_general value i
  refine ⟨_, ?_, RegisterFile.get_setGeneral hset⟩
  rw [setGeneral, hset]

lemma setGeneral_of_ne (s : Config σ) {register : Register} (h : register.kind ≠ .general) (value : Int64) :
    setGeneral register value s = .error (.invalidRegister register .general) s := by
  rw [setGeneral, RegisterFile.setGeneral_of_ne _ _ h]

/-- What plain operations do, step by step. -/
def effect (table : ScopeTable σ) : Operation → EStateM Fault (Config σ) Unit
  | .nop => pure ()
  | .pushConst value => push value
  | .pushRegister register => do
    let value ← getGeneral register
    push value.toInt32
  | .setRegister register => do
    let value ← pop
    setGeneral register value.toInt64
  | .add => do
    let a ← pop
    let b ← pop
    push (a + b)
  | .callExternal id => invoke table id
  | .call _ | .ret => pure ()

end Config

namespace Machine

/-! ## One operation -/

/-- A computation of a machine ends like one on its configuration, and keeps the scope table. -/
def Tracks {α : Type} (table : ScopeTable σ) :
    EStateM.Result Stop (Machine σ) α → EStateM.Result Fault (Config σ) α → Prop
  | .ok a m, .ok b s => a = b ∧ m.scopes = table ∧ m.config = s
  | .error (.fault e) m, .error f s => e = f ∧ m.scopes = table ∧ m.config = s
  | _, _ => False

lemma onStack_tracks {α : Type} (op : StackM α) (m : Machine σ) :
    Tracks m.scopes (onStack op m) (Config.onStack op m.config) := by
  obtain ⟨stack, registers, scopes, start, host, trace⟩ := m
  rw [onStack, Config.onStack]
  dsimp only [config]
  cases op stack with
  | ok a stack' => exact ⟨rfl, rfl, rfl⟩
  | error fault stack' => exact ⟨rfl, rfl, rfl⟩

lemma Tracks.cases {α : Type} {table : ScopeTable σ} {x : EStateM.Result Stop (Machine σ) α}
    {y : EStateM.Result Fault (Config σ) α} (h : Tracks table x y) :
    (∃ a m, x = .ok a m ∧ y = .ok a m.config ∧ m.scopes = table) ∨
      ∃ fault m, x = .error (.fault fault) m ∧ y = .error fault m.config ∧ m.scopes = table := by
  match x, y, h with
  | .ok a m, .ok _ _, ⟨rfl, hscopes, rfl⟩ => exact .inl ⟨a, m, rfl, rfl, hscopes⟩
  | .error (.fault fault) m, .error _ _, ⟨rfl, hscopes, rfl⟩ => exact .inr ⟨fault, m, rfl, rfl, hscopes⟩

lemma pushRegister_tracks (register : Register) (m : Machine σ) :
    Tracks m.scopes (pushRegister register m)
      (Config.effect m.scopes (.pushRegister register) m.config) := by
  change Tracks m.scopes _ (EStateM.bind _ _ _)
  unfold pushRegister EStateM.bind
  dsimp only [Config.getGeneral, config]
  cases m.registers.getGeneral register with
  | error fault => exact ⟨rfl, rfl, rfl⟩
  | ok value => exact onStack_tracks (Stack.push .i32 value.toInt32) m

lemma pop_tracks (m : Machine σ) : Tracks m.scopes (onStack (Stack.pop .i32) m) (Config.pop m.config) :=
  onStack_tracks (Stack.pop .i32) m

lemma setRegister_tracks (register : Register) (m : Machine σ) :
    Tracks m.scopes (setRegister register m)
      (Config.effect m.scopes (.setRegister register) m.config) := by
  change Tracks m.scopes _ (EStateM.bind _ _ _)
  unfold setRegister EStateM.bind
  rcases (pop_tracks m).cases with ⟨value, m', hx, hy, hscopes⟩ | ⟨fault, m', hx, hy, hscopes⟩
  · rw [hx, hy]
    dsimp only [Config.setGeneral, config]
    cases m'.registers.setGeneral value.toInt64 register with
    | error fault registers => exact ⟨rfl, hscopes, rfl⟩
    | ok _ registers => exact ⟨rfl, hscopes, rfl⟩
  · rw [hx, hy]
    exact ⟨rfl, hscopes, rfl⟩

lemma add_tracks (m : Machine σ) :
    Tracks m.scopes (add m) (Config.effect m.scopes .add m.config) := by
  change Tracks m.scopes _ (EStateM.bind _ (fun a => EStateM.bind _ _) _)
  unfold add EStateM.bind
  rcases (pop_tracks m).cases with ⟨a, m', hx, hy, hscopes⟩ | ⟨fault, m', hx, hy, hscopes⟩
  · rw [hx, hy]
    dsimp only
    rcases (pop_tracks m').cases with ⟨b, m'', hx', hy', hscopes'⟩ | ⟨fault, m'', hx', hy', hscopes'⟩
    · rw [hx', hy', ← hscopes, ← hscopes']
      exact onStack_tracks (Stack.push .i32 (a + b)) m''
    · rw [hx', hy', ← hscopes, ← hscopes']
      exact ⟨rfl, rfl, rfl⟩
  · rw [hx, hy]
    exact ⟨rfl, hscopes, rfl⟩

lemma invocations_record (m : Machine σ) (event : Event) :
    (m.record event).invocations = m.invocations ++ (event.invoked m.scopes).toList := by
  unfold invocations record
  rw [Array.toList_push, List.filterMap_append]
  cases h : event.invoked m.scopes <;> simp [h]

lemma config_record {m : Machine σ} {event : Event} (h : event.invoked m.scopes = none) :
    (m.record event).config = m.config := by
  have hinv := invocations_record m event
  rw [h, Option.toList_none, List.append_nil] at hinv
  exact congrArg (Config.mk m.stack m.registers m.host) hinv

lemma invoke_tracks (id : ScopeId) (m : Machine σ) :
    Tracks m.scopes (invoke id (m.record (.external id)))
      (Config.effect m.scopes (.callExternal id) m.config) := by
  change Tracks m.scopes _ (Config.invoke m.scopes id m.config)
  have hscopes : (m.record (.external id)).scopes = m.scopes := rfl
  unfold invoke Config.invoke
  rw [hscopes]
  cases hext : m.scopes.externalScope id with
  | error fault =>
    have hnone : (Event.external id).invoked m.scopes = none := by
      simp only [Event.invoked, ScopeTable.hasCallback, hext, Bool.false_eq_true, if_false]
    exact ⟨rfl, rfl, config_record hnone⟩
  | ok external =>
    dsimp only [ExternalScope.invoke]
    cases hcallback : external.callback with
    | none =>
      have hnone : (Event.external id).invoked m.scopes = none := by
        simp only [Event.invoked, ScopeTable.hasCallback, hext, ExternalScope.hasCallback, hcallback,
          Option.isSome_none, Bool.false_eq_true, if_false]
      exact ⟨rfl, rfl, config_record hnone⟩
    | some callback =>
      have hsome : (Event.external id).invoked m.scopes = some id := by
        simp only [Event.invoked, ScopeTable.hasCallback, hext, ExternalScope.hasCallback, hcallback,
          Option.isSome_some, if_true]
      have hinv := invocations_record m (.external id)
      rw [hsome] at hinv
      change Tracks m.scopes
        (match callback (m.stack, m.host) with
          | .ok () (stack, host) => _
          | .error fault (stack, host) => _)
        (match callback (m.stack, m.host) with
          | .ok () (stack, host) => _
          | .error fault (stack, host) => _)
      cases callback (m.stack, m.host) with
      | ok _ after => exact ⟨rfl, rfl, congrArg (Config.mk after.1 m.registers after.2) hinv⟩
      | error fault after => exact ⟨rfl, rfl, congrArg (Config.mk after.1 m.registers after.2) hinv⟩

lemma Tracks.andNext {table : ScopeTable σ} {x : Run σ Unit} {m : Machine σ}
    {y : EStateM.Result Fault (Config σ) Unit} (h : Tracks table (x m) y) :
    (∃ m', andNext x m = .ok .next m' ∧ y = .ok () m'.config ∧ m'.scopes = table) ∨
      ∃ fault m', andNext x m = .error (.fault fault) m' ∧ y = .error fault m'.config ∧
        m'.scopes = table := by
  unfold Machine.andNext
  rcases h.cases with ⟨_, m', hx, hy, hscopes⟩ | ⟨fault, m', hx, hy, hscopes⟩
  · rw [hx]
    exact .inl ⟨m', rfl, hy, hscopes⟩
  · rw [hx]
    exact .inr ⟨fault, m', rfl, hy, hscopes⟩

lemma perform_of_plain (call : ScopeId → Run σ Unit) {op : Operation} (hop : op.IsPlain) (m : Machine σ) :
    (∃ m', perform call op m = .ok .next m' ∧
        Config.effect m.scopes op m.config = .ok () m'.config ∧ m'.scopes = m.scopes) ∨
      ∃ fault m', perform call op m = .error (.fault fault) m' ∧
        Config.effect m.scopes op m.config = .error fault m'.config ∧
        m'.scopes = m.scopes := by
  cases op with
  | nop => exact .inl ⟨m, rfl, rfl, rfl⟩
  | pushConst value => exact Tracks.andNext (onStack_tracks (Stack.push .i32 value) m)
  | pushRegister register => exact Tracks.andNext (pushRegister_tracks register m)
  | setRegister register => exact Tracks.andNext (setRegister_tracks register m)
  | add => exact Tracks.andNext (add_tracks m)
  | callExternal scope => exact Tracks.andNext (invoke_tracks scope m)
  | call scope => exact hop.elim
  | ret => exact hop.elim

/-! ## Runs -/

/-- How a scope ends behind its last operation, when the bytes left over stand at `offset`. -/
def StopsWith (stop : Except Fault Unit) (offset : Nat) (tail : Bytes) : Prop :=
  (tail = [] → stop = .ok ()) ∧ ∀ fault, Malformed offset tail fault → stop = .error fault

lemma StopsWith.next_record {stop : Except Fault Unit} {offset : Nat} {tail : Bytes} {op : Operation}
    {ops : List Operation} (h : StopsWith stop (offset + (records (op :: ops)).length) tail) :
    StopsWith stop (offset + op.record.length + (records ops).length) tail := by
  rwa [Operation.records_cons, List.length_append, ← Nat.add_assoc] at h

lemma config_noteMalformed (scope : ScopeId) (c : Cursor) (m : Machine σ) :
    (noteMalformed scope c m).config = m.config ∧ (noteMalformed scope c m).scopes = m.scopes := by
  unfold noteMalformed
  cases c.peekInstruction with
  | error fault => exact ⟨rfl, rfl⟩
  | ok instruction => exact ⟨config_record rfl, rfl⟩

lemma config_leave (id : ScopeId) (result : Except Fault Unit) (m : Machine σ) :
    (m.leave id result).config = m.config ∧ (m.leave id result).scopes = m.scopes := by
  cases result with
  | ok _ => exact ⟨config_record rfl, rfl⟩
  | error fault => exact ⟨rfl, rfl⟩

lemma runFrom_stuck (scope : ScopeId) {limit offset : Nat} {tail : Bytes}
    (hstuck : Splits tail [] tail) (hlimit : tail.length ≤ limit) {stop : Except Fault Unit}
    (hstop : StopsWith stop offset tail) (m : Machine σ) :
    ∃ final, (∀ call, runFrom call scope limit ⟨offset, tail⟩ m = ended stop final) ∧
      final.config = m.config ∧ final.scopes = m.scopes := by
  by_cases hne : tail = []
  · refine ⟨m, fun call => ?_, rfl, rfl⟩
    rw [hne, runFrom_nil, hstop.1 hne]
    rfl
  · obtain ⟨fault, hbad⟩ := hstuck.exists_malformed hne offset
    obtain ⟨limit, rfl⟩ := exists_limit_of_ne_nil hne hlimit
    refine ⟨_, fun call => ?_, config_noteMalformed scope ⟨offset, tail⟩ m⟩
    rw [runFrom_malformed call scope limit hbad, hstop.2 fault hbad]
    rfl

lemma exists_stopsWith_ofCode (code : Bytes) :
    ∃ tail, Splits code (Body.ofCode code).operations tail ∧
      StopsWith (Body.ofCode code).stop (0 + (records (Body.ofCode code).operations).length) tail := by
  obtain ⟨ops, tail, hsplit⟩ := exists_splits code
  obtain ⟨hops, hstop⟩ := Body.ofCode_of_splits hsplit
  rw [hops, Nat.zero_add]
  exact ⟨tail, hsplit, hstop⟩

lemma exists_runFrom_step (scope : ScopeId) {limit offset : Nat} {rest tail : Bytes} {op : Operation}
    {ops : List Operation} (hsplit : Splits rest (op :: ops) tail) (hlimit : rest.length ≤ limit)
    (m : Machine σ) :
    ∃ limit' m', (records ops ++ tail).length ≤ limit' ∧ m'.config = m.config ∧ m'.scopes = m.scopes ∧
      ∀ call, runFrom call scope limit ⟨offset, rest⟩ m =
        resume call scope limit' ⟨offset + op.record.length, records ops ++ tail⟩ (perform call op m') := by
  obtain ⟨limit, rfl, hlimit'⟩ := hsplit.exists_limit hlimit
  refine ⟨limit, m.record (.step scope offset op.instruction), hlimit', config_record rfl, rfl, ?_⟩
  intro call
  rw [hsplit.eq_record_append, runFrom_record]

/-- The bytes of a scope are run as its operations are walked over, provided that this holds of the
scopes that it calls. -/
lemma walks_of_runFrom {table : ScopeTable σ} {call : ScopeId → Run σ Unit}
    (hcall : ∀ id (m final : Machine σ) result, m.scopes = table → call id m = ended result final →
      WalksScope table.body (Config.effect table) id m.config result final.config ∧
        final.scopes = table)
    (scope : ScopeId) {limit offset : Nat} {rest tail : Bytes} {ops : List Operation}
    (hsplit : Splits rest ops tail) (hlimit : rest.length ≤ limit) {stop : Except Fault Unit}
    (hstop : StopsWith stop (offset + (records ops).length) tail) {m final : Machine σ}
    (hm : m.scopes = table) {result : Except Fault Unit}
    (h : runFrom call scope limit ⟨offset, rest⟩ m = ended result final) :
    Walks table.body (Config.effect table) ⟨ops, stop⟩ m.config result final.config ∧
      final.scopes = table := by
  induction ops generalizing rest limit offset m with
  | nil =>
    obtain ⟨rfl, -⟩ := Splits.nil_iff.mp hsplit
    obtain ⟨final', hrun, hconfig, hscopes⟩ := runFrom_stuck scope hsplit hlimit hstop m
    obtain ⟨rfl, rfl⟩ := ended_injective (h.symm.trans (hrun call))
    rw [hconfig]
    exact ⟨.finish, hscopes.trans hm⟩
  | cons op ops ih =>
    obtain ⟨limit', n, hlimit', hconfig, hn, hrun⟩ := exists_runFrom_step scope hsplit hlimit m
    have hstop' := hstop.next_record
    rw [hm] at hn
    rw [hrun] at h
    rw [← hconfig]
    rcases op.isPlain_or with hplain | rfl | ⟨id, rfl⟩
    · rcases perform_of_plain call hplain n with ⟨m', hperform, heffect, hscopes⟩ |
        ⟨fault, m', hperform, heffect, hscopes⟩
      · rw [hperform] at h
        obtain ⟨hwalk, hfinal⟩ := ih ⟨rfl, hsplit.stuck⟩ hlimit' hstop' (hscopes.trans hn) h
        rw [hn] at heffect
        exact ⟨.step hplain heffect hwalk, hfinal⟩
      · rw [hperform] at h
        obtain ⟨rfl, rfl⟩ := ended_of_fault h
        rw [hn] at heffect
        exact ⟨.fault hplain heffect, hscopes.trans hn⟩
    · obtain ⟨rfl, rfl⟩ := ended_of_ok h
      exact ⟨.ret, hn⟩
    · rw [perform, andNext] at h
      cases hresult : call id n with
      | ok _ m' =>
        rw [hresult] at h
        obtain ⟨hinner, hscopes⟩ := hcall id n m' (.ok ()) hn hresult
        obtain ⟨hwalk, hfinal⟩ := ih ⟨rfl, hsplit.stuck⟩ hlimit' hstop' hscopes h
        exact ⟨hinner.callReturn hwalk, hfinal⟩
      | error stop' m' =>
        rw [hresult] at h
        cases stop' with
        | tooDeep => exact absurd h.symm (ended_ne_tooDeep result final m')
        | fault fault =>
          obtain ⟨rfl, rfl⟩ := ended_of_fault h
          obtain ⟨hinner, hscopes⟩ := hcall id n final (.error fault) hn hresult
          exact ⟨hinner.callFault ops stop, hscopes⟩

lemma walksScope_of_executeWithin {table : ScopeTable σ} (depth : Nat) (id : ScopeId)
    (m final : Machine σ) (result : Except Fault Unit) (hm : m.scopes = table)
    (h : executeWithin depth id m = ended result final) :
    WalksScope table.body (Config.effect table) id m.config result final.config ∧
      final.scopes = table := by
  -- the hypothesis for one depth less is what the loop needs of the scopes that it calls
  induction depth generalizing id m final result with
  | zero => exact absurd h.symm (ended_ne_tooDeep result final m)
  | succ depth ih =>
    cases hscope : table.scope id with
    | error fault =>
      rw [executeWithin_of_unknown (by rw [hm, hscope])] at h
      obtain ⟨rfl, rfl⟩ := ended_injective h
      rw [WalksScope, ScopeTable.body_eq_error_iff.mpr hscope]
      exact ⟨⟨rfl, rfl⟩, hm⟩
    | ok s =>
      obtain ⟨tail, hsplit, hstop⟩ := exists_stopsWith_ofCode s.code
      obtain ⟨last, hrun, rfl⟩ := (executeWithin_succ_iff (by rw [hm, hscope])).mp h
      have henter : (m.record (.enter id s.code.length)).config = m.config := config_record rfl
      have hm' : (m.record (.enter id s.code.length)).scopes = table := hm
      obtain ⟨hwalk, hlast⟩ := walks_of_runFrom ih id hsplit (Nat.le_refl _) hstop hm' hrun
      obtain ⟨hconfig, hscopes⟩ := config_leave id result last
      rw [WalksScope, ScopeTable.body_eq_ok_iff.mpr ⟨s, hscope, rfl⟩, hconfig, hscopes, ← henter]
      exact ⟨hwalk, hlast⟩

/-- From some depth on, a computation ends with `result` and the configuration `t`. -/
def Settles (table : ScopeTable σ) (x : Nat → EStateM.Result Stop (Machine σ) Unit)
    (result : Except Fault Unit) (t : Config σ) : Prop :=
  ∃ final depth, (∀ depth' ≥ depth, x depth' = ended result final) ∧ final.config = t ∧
    final.scopes = table

lemma Settles.of_eq {table : ScopeTable σ} {x : Nat → EStateM.Result Stop (Machine σ) Unit}
    {result : Except Fault Unit} {final : Machine σ} (h : ∀ depth, x depth = ended result final)
    (hscopes : final.scopes = table) : Settles table x result final.config :=
  ⟨final, 0, fun depth _ => h depth, rfl, hscopes⟩

/-- Every loop over bytes with the given body, from a machine with the configuration `s` on, ends with
`result` and the configuration `t`. -/
def SettlesBody (table : ScopeTable σ) (body : Body) (s : Config σ) (result : Except Fault Unit)
    (t : Config σ) : Prop :=
  ∀ (scope : ScopeId) {limit offset : Nat} {rest tail : Bytes}, Splits rest body.operations tail →
    rest.length ≤ limit → StopsWith body.stop (offset + (records body.operations).length) tail →
    ∀ m : Machine σ, m.scopes = table → m.config = s →
      Settles table (fun depth => runFrom (executeWithin depth) scope limit ⟨offset, rest⟩ m) result t

lemma SettlesBody.scope {table : ScopeTable σ} {id : ScopeId} {body : Body}
    (known : table.body id = .ok body) {s t : Config σ} {result : Except Fault Unit}
    (h : SettlesBody table body s result t) {m : Machine σ} (hm : m.scopes = table) (hs : m.config = s) :
    Settles table (fun depth => executeWithin depth id m) result t := by
  obtain ⟨code, hscope, rfl⟩ := ScopeTable.body_eq_ok_iff.mp known
  obtain ⟨tail, hsplit, hstop⟩ := exists_stopsWith_ofCode code.code
  have henter : (m.record (.enter id code.code.length)).config = s := (config_record rfl).trans hs
  obtain ⟨last, depth, hrun, rfl, hlast⟩ :=
    h id hsplit (Nat.le_refl _) hstop (m.record (.enter id code.code.length)) hm henter
  obtain ⟨hconfig, hscopes⟩ := config_leave id result last
  refine ⟨last.leave id result, depth + 1, fun depth' hle => ?_, hconfig, hscopes.trans hlast⟩
  obtain ⟨n, hn, rfl⟩ : ∃ n, depth ≤ n ∧ depth' = n + 1 := ⟨depth' - 1, by omega, by omega⟩
  exact (executeWithin_succ_iff (by rw [hm, hscope])).mpr ⟨last, hrun n hn, rfl⟩

/-- A walk over the operations of code is a run of its bytes, at every depth that is great enough. -/
lemma settlesBody_of_walks {table : ScopeTable σ} {body : Body} {s t : Config σ}
    {result : Except Fault Unit}
    (h : Walks table.body (Config.effect table) body s result t) :
    SettlesBody table body s result t := by
  intro scope limit offset rest tail hsplit hlimit hstop m hm hs
  -- only calls need depth: the callee's, and then that of the rest
  induction h generalizing scope limit offset rest tail m with
  | finish =>
    obtain ⟨rfl, -⟩ := Splits.nil_iff.mp hsplit
    obtain ⟨final, hrun, hconfig, hscopes⟩ := runFrom_stuck scope hsplit hlimit hstop m
    rw [← hs, ← hconfig]
    exact .of_eq (fun depth => hrun _) (hscopes.trans hm)
  | ret =>
    obtain ⟨limit', n, hlimit', hconfig, hn, hrun⟩ := exists_runFrom_step scope hsplit hlimit m
    rw [← hs, ← hconfig]
    exact .of_eq (fun depth => hrun _) (hn.trans hm)
  | step plain ok _ ih =>
    obtain ⟨limit', n, hlimit', hconfig, hn, hrun⟩ := exists_runFrom_step scope hsplit hlimit m
    rw [hm] at hn
    rw [← hs, ← hconfig] at ok
    rcases perform_of_plain (executeWithin 0) plain n with ⟨m', hperform, heffect, hscopes⟩ |
      ⟨fault, m', hperform, heffect, hscopes⟩
    · rw [hn, ok] at heffect
      cases heffect
      obtain ⟨final, depth, hfinal, hrest⟩ :=
        ih scope ⟨rfl, hsplit.stuck⟩ hlimit' hstop.next_record m' (hscopes.trans hn) rfl
      refine ⟨final, depth, fun depth' hle => ?_, hrest⟩
      dsimp only
      rw [hrun, perform_congr_of_plain plain _ (executeWithin 0), hperform]
      exact hfinal depth' hle
    · rw [hn, ok] at heffect
      cases heffect
  | fault plain error =>
    obtain ⟨limit', n, hlimit', hconfig, hn, hrun⟩ := exists_runFrom_step scope hsplit hlimit m
    rw [hm] at hn
    rw [← hs, ← hconfig] at error
    rcases perform_of_plain (executeWithin 0) plain n with ⟨m', hperform, heffect, hscopes⟩ |
      ⟨fault, m', hperform, heffect, hscopes⟩
    · rw [hn, error] at heffect
      cases heffect
    · rw [hn, error] at heffect
      cases heffect
      refine .of_eq (fun depth => ?_) (hscopes.trans hn)
      rw [hrun, perform_congr_of_plain plain _ (executeWithin 0), hperform]
      rfl
  | callUnknown unknown =>
    obtain ⟨limit', n, hlimit', hconfig, hn, hrun⟩ := exists_runFrom_step scope hsplit hlimit m
    rw [hm] at hn
    have hunknown := ScopeTable.body_eq_error_iff.mp unknown
    refine ⟨n, 1, fun depth' hle => ?_, hconfig.trans hs, hn⟩
    obtain ⟨depth, rfl⟩ : ∃ depth, depth' = depth + 1 := ⟨depth' - 1, by omega⟩
    dsimp only
    rw [hrun, perform, andNext, executeWithin_of_unknown (by rw [hn, hunknown])]
    rfl
  | @callFault id _ _ _ fault _ _ known _ ih =>
    obtain ⟨limit', n, hlimit', hconfig, hn, hrun⟩ := exists_runFrom_step scope hsplit hlimit m
    rw [hm] at hn
    obtain ⟨final, depth, hcallee, hrest⟩ := SettlesBody.scope known ih hn (hconfig.trans hs)
    refine ⟨final, depth, fun depth' hle => ?_, hrest⟩
    have hinner : executeWithin depth' id n = ended (.error fault) final := hcallee depth' hle
    dsimp only
    rw [hrun, perform, andNext, hinner]
    rfl
  | @callReturn id _ _ _ _ _ _ _ known _ _ ih ih' =>
    obtain ⟨limit', n, hlimit', hconfig, hn, hrun⟩ := exists_runFrom_step scope hsplit hlimit m
    rw [hm] at hn
    obtain ⟨m', depth, hcallee, hm's, hm'⟩ := SettlesBody.scope known ih hn (hconfig.trans hs)
    obtain ⟨final, depth', hfinal, hrest⟩ :=
      ih' scope ⟨rfl, hsplit.stuck⟩ hlimit' hstop.next_record m' hm' hm's
    refine ⟨final, max depth depth', fun depth'' hle => ?_, hrest⟩
    have hinner : executeWithin depth'' id n = ended (.ok ()) m' := hcallee depth'' (by omega)
    dsimp only
    rw [hrun, perform, andNext, hinner]
    exact hfinal depth'' (by omega)

lemma executes_of_walksScope (m : Machine σ) {id : ScopeId} {result : Except Fault Unit} {s : Config σ}
    (h : WalksScope m.scopes.body (Config.effect m.scopes) id m.config result s) :
    ∃ final, m.Executes id result final ∧ final.config = s := by
  unfold WalksScope at h
  cases hbody : m.scopes.body id with
  | error fault =>
    rw [hbody] at h
    obtain ⟨rfl, rfl⟩ := h
    exact ⟨m, ⟨1, executeWithin_of_unknown (ScopeTable.body_eq_error_iff.mp hbody) 0⟩, rfl⟩
  | ok body =>
    rw [hbody] at h
    obtain ⟨final, depth, hrun, hfinal, -⟩ := SettlesBody.scope hbody (settlesBody_of_walks h) rfl rfl
    exact ⟨final, ⟨depth, hrun depth (Nat.le_refl _)⟩, hfinal⟩

/-- Running the bytes of a scope and walking over the operations of its code end alike: with the same
result, the same stack and registers, the same state of the host and the same invocations of callbacks.
If one of them ends, so does the other, and neither can end in a second way. -/
theorem executes_iff_walksScope (m : Machine σ) (id : ScopeId) :
    (∀ result s, (∃ final, m.Executes id result final ∧ final.config = s) ↔
        WalksScope m.scopes.body (Config.effect m.scopes) id m.config result s) ∧
      ∀ result final, m.Executes id result final → ∀ result' s,
        WalksScope m.scopes.body (Config.effect m.scopes) id m.config result' s →
          result' = result ∧ s = final.config := by
  refine ⟨fun result s => ⟨?_, executes_of_walksScope m⟩, fun result final hrun result' s hwalk => ?_⟩
  · rintro ⟨final, ⟨depth, hrun⟩, rfl⟩
    exact (walksScope_of_executeWithin depth id m final result rfl hrun).1
  · obtain ⟨final', hrun', rfl⟩ := executes_of_walksScope m hwalk
    obtain ⟨rfl, rfl⟩ := hrun.unique hrun'
    exact ⟨rfl, rfl⟩

end Machine

end ScopeMachine
