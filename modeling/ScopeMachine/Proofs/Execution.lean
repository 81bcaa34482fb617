import ScopeMachine.Machine
import ScopeMachine.Proofs.Disassembly

/-!
# Runs of any depth

`Machine.Executes` and `Machine.Runs` say how a run ends when calls may nest as deep as they need to.
A run that ends within some depth ends in the same way within every greater depth
(`Machine.executeWithin_mono`), so there is at most one way.

On the way the loop over the bytes of a scope is described record by record: it performs the operation
of a record and goes on behind it (`Machine.runFrom_record`), and it stops where no record starts
(`Machine.runFrom_nil`, `Machine.runFrom_malformed`).
-/

namespace ScopeMachine

open Operation (records)

/-- Operations that only change the state. The others decide which operation comes next. -/
def Operation.IsPlain : Operation → Prop
  | .call _ | .ret => False
  | .nop | .pushConst _ | .pushRegister _ | .setRegister _ | .add | .callExternal _ => True

lemma Operation.isPlain_or (op : Operation) : op.IsPlain ∨ op = .ret ∨ ∃ id, op = .call id := by
  cases op with
  | ret => exact .inr (.inl rfl)
  | call id => exact .inr (.inr ⟨id, rfl⟩)
  | nop => exact .inl trivial
  | pushConst value => exact .inl trivial
  | pushRegister register => exact .inl trivial
  | setRegister register => exact .inl trivial
  | add => exact .inl trivial
  | callExternal id => exact .inl trivial

namespace Machine

variable {σ : Type}

/-! ## The loop, record by record -/

lemma runFrom_nil (call : ScopeId → Run σ Unit) (scope : ScopeId) (limit offset : Nat) (m : Machine σ) :
    runFrom call scope limit ⟨offset, []⟩ m = .ok () m := by
  cases limit <;> rfl

/-- How a scope goes on from a cursor after an operation was performed. -/
def resume (call : ScopeId → Run σ Unit) (scope : ScopeId) (limit : Nat) (c : Cursor) :
    EStateM.Result Stop (Machine σ) Flow → EStateM.Result Stop (Machine σ) Unit
  | .error stop m => .error stop m
  | .ok .leave m => .ok () m
  | .ok .next m => runFrom call scope limit c m

lemma runFrom_record (call : ScopeId → Run σ Unit) (scope : ScopeId) (limit offset : Nat)
    (op : Operation) (rest : Bytes) (m : Machine σ) :
    runFrom call scope (limit + 1) ⟨offset, op.record ++ rest⟩ m =
      resume call scope limit ⟨offset + op.record.length, rest⟩
        (perform call op (m.record (.step scope offset op.instruction))) := by
  have hpeek : (Cursor.mk offset (op.record ++ rest)).peekInstruction = .ok op.instruction :=
    Cursor.peekInstruction_of_opcode op.instruction (op.operandBytes ++ rest)
  have hread : (Cursor.mk offset (op.record ++ rest)).readAs op.instruction = .ok op := by
    have hop := Cursor.operation_of_record offset op rest
    rwa [Cursor.operation, hpeek] at hop
  rw [runFrom, if_pos (by rfl), hpeek]
  simp only [hread, Cursor.next_of_record]
  cases perform call op (m.record (.step scope offset op.instruction)) with
  | error stop m' => rfl
  | ok flow m' => cases flow <;> rfl

/-- The trace after a malformed record was found: an instruction that is known by its opcode was noted
before its record was read. -/
def noteMalformed (scope : ScopeId) (c : Cursor) (m : Machine σ) : Machine σ :=
  match c.peekInstruction with
  | .error _ => m
  | .ok instruction => m.record (.step scope c.offset instruction)

lemma runFrom_malformed (call : ScopeId → Run σ Unit) (scope : ScopeId) (limit : Nat) {offset : Nat}
    {tail : Bytes} {fault : Fault} (h : Malformed offset tail fault) (m : Machine σ) :
    runFrom call scope (limit + 1) ⟨offset, tail⟩ m =
      .error (.fault fault) (noteMalformed scope ⟨offset, tail⟩ m) := by
  have hread := (Cursor.operation_eq_error_iff h.ne_nil).mpr h
  rw [runFrom, if_pos (Cursor.hasData_of_ne_nil offset h.ne_nil), noteMalformed]
  rw [Cursor.operation] at hread
  cases hpeek : (Cursor.mk offset tail).peekInstruction with
  | error fault' =>
    rw [hpeek] at hread
    cases hread
    rfl
  | ok instruction =>
    rw [hpeek] at hread
    simp only [hread]

/-! ## More depth -/

/-- The second result is the first one, unless that was cut off because of its depth. -/
def Deepens {α : Type} (x y : EStateM.Result Stop (Machine σ) α) : Prop :=
  (∃ m, x = .error .tooDeep m) ∨ y = x

lemma Deepens.refl {α : Type} (x : EStateM.Result Stop (Machine σ) α) : Deepens x x := .inr rfl

lemma perform_congr_of_plain {op : Operation} (hop : op.IsPlain) (call call' : ScopeId → Run σ Unit) :
    perform call op = perform call' op := by
  cases op with
  | call scope => exact hop.elim
  | nop => rfl
  | pushConst value => rfl
  | pushRegister register => rfl
  | setRegister register => rfl
  | add => rfl
  | callExternal scope => rfl
  | ret => rfl

lemma perform_deepens {call call' : ScopeId → Run σ Unit}
    (hcall : ∀ id m, Deepens (call id m) (call' id m)) (op : Operation) (m : Machine σ) :
    Deepens (perform call op m) (perform call' op m) := by
  rcases op.isPlain_or with hplain | rfl | ⟨scope, rfl⟩
  · right
    rw [perform_congr_of_plain hplain call' call]
  · exact .refl _
  · rcases hcall scope m with ⟨m', hdeep⟩ | heq
    · left
      refine ⟨m', ?_⟩
      rw [perform, andNext, hdeep]
    · right
      rw [perform, perform, andNext, andNext, heq]

lemma runFrom_deepens {call call' : ScopeId → Run σ Unit}
    (hcall : ∀ id m, Deepens (call id m) (call' id m)) (scope : ScopeId) {rest tail : Bytes}
    {ops : List Operation} (hsplit : Splits rest ops tail) {limit : Nat} (hlimit : rest.length ≤ limit)
    (offset : Nat) (m : Machine σ) :
    Deepens (runFrom call scope limit ⟨offset, rest⟩ m) (runFrom call' scope limit ⟨offset, rest⟩ m) := by
  induction ops generalizing rest limit offset m with
  | nil =>
    obtain ⟨rfl, -⟩ := Splits.nil_iff.mp hsplit
    right
    by_cases hne : rest = []
    · rw [hne, runFrom_nil, runFrom_nil]
    · obtain ⟨fault, hbad⟩ := hsplit.exists_malformed hne offset
      obtain ⟨limit, rfl⟩ := exists_limit_of_ne_nil hne hlimit
      rw [runFrom_malformed call scope limit hbad, runFrom_malformed call' scope limit hbad]
  | cons op ops ih =>
    obtain ⟨limit, rfl, hlimit'⟩ := hsplit.exists_limit hlimit
    rw [hsplit.eq_record_append, runFrom_record, runFrom_record]
    rcases perform_deepens hcall op (m.record (.step scope offset op.instruction)) with ⟨m', hdeep⟩ | heq
    · left
      exact ⟨m', by rw [hdeep, resume]⟩
    · rw [heq]
      cases perform call op (m.record (.step scope offset op.instruction)) with
      | error stop m' => exact .refl _
      | ok flow m' =>
        cases flow with
        | leave => exact .refl _
        | next => exact ih ⟨rfl, hsplit.stuck⟩ hlimit' _ m'

lemma executeWithin_deepens (depth : Nat) (id : ScopeId) (m : Machine σ) :
    Deepens (executeWithin depth id m) (executeWithin (depth + 1) id m) := by
  induction depth generalizing id m with
  | zero => exact .inl ⟨m, rfl⟩
  | succ depth ih =>
    rw [executeWithin, executeWithin]
    cases m.scopes.scope id with
    | error fault => exact .refl _
    | ok s =>
      obtain ⟨ops, tail, hsplit⟩ := exists_splits s.code
      have hrun := runFrom_deepens ih id hsplit (Nat.le_refl _) 0 (m.record (.enter id s.code.length))
      dsimp only [Cursor.ofBytes]
      rcases hrun with ⟨m', hdeep⟩ | heq
      · exact .inl ⟨m', by rw [hdeep]⟩
      · exact .inr (by rw [heq])

/-! ## Runs without a limit -/

/-- The outcome of a computation that was not cut off. -/
def ended (result : Except Fault Unit) (final : Machine σ) : EStateM.Result Stop (Machine σ) Unit :=
  match result with
  | .ok () => .ok () final
  | .error fault => .error (.fault fault) final

lemma ended_injective {result result' : Except Fault Unit} {final final' : Machine σ}
    (h : ended result final = ended result' final') : result = result' ∧ final = final' := by
  cases result <;> cases result' <;> cases h <;> exact ⟨rfl, rfl⟩

lemma ended_of_ok {result : Except Fault Unit} {m final : Machine σ}
    (h : .ok () m = ended result final) : result = .ok () ∧ final = m := by
  cases result <;> cases h
  exact ⟨rfl, rfl⟩

lemma ended_of_fault {result : Except Fault Unit} {fault : Fault} {m final : Machine σ}
    (h : .error (.fault fault) m = ended result final) : result = .error fault ∧ final = m := by
  cases result <;> cases h
  exact ⟨rfl, rfl⟩

lemma ended_ne_tooDeep (result : Except Fault Unit) (final m : Machine σ) :
    ended result final ≠ .error .tooDeep m := by
  cases result <;> exact nofun

/-- The machine after the loop over a scope's bytes: that the scope came to its end is noted. -/
def leave (id : ScopeId) (result : Except Fault Unit) (m : Machine σ) : Machine σ :=
  match result with
  | .ok () => m.record (.leave id)
  | .error _ => m

lemma executeWithin_of_unknown {id : ScopeId} {m : Machine σ} {fault : Fault}
    (h : m.scopes.scope id = .error fault) (depth : Nat) :
    executeWithin (depth + 1) id m = ended (.error fault) m := by
  rw [executeWithin, h]
  rfl

lemma executeWithin_succ_iff {depth : Nat} {id : ScopeId} {s : Scope} {m final : Machine σ}
    {result : Except Fault Unit} (h : m.scopes.scope id = .ok s) :
    executeWithin (depth + 1) id m = ended result final ↔
      ∃ last, runFrom (executeWithin depth) id s.code.length (Cursor.ofBytes s.code)
        (m.record (.enter id s.code.length)) = ended result last ∧ final = last.leave id result := by
  rw [executeWithin, h]
  dsimp only
  cases runFrom (executeWithin depth) id s.code.length (Cursor.ofBytes s.code)
      (m.record (.enter id s.code.length)) with
  | ok _ last =>
    constructor
    · intro hend
      obtain ⟨rfl, rfl⟩ := ended_of_ok hend
      exact ⟨last, rfl, rfl⟩
    · rintro ⟨last', hend, rfl⟩
      obtain ⟨rfl, rfl⟩ := ended_of_ok hend
      rfl
  | error stop last =>
    cases stop with
    | tooDeep =>
      constructor
      · intro hend
        exact absurd hend.symm (ended_ne_tooDeep result final last)
      · rintro ⟨last', hend, -⟩
        exact absurd hend.symm (ended_ne_tooDeep result last' last)
    | fault fault =>
      constructor
      · intro hend
        obtain ⟨rfl, rfl⟩ := ended_of_fault hend
        exact ⟨final, rfl, rfl⟩
      · rintro ⟨last', hend, rfl⟩
        obtain ⟨rfl, rfl⟩ := ended_of_fault hend
        rfl

/-- Running a scope ends with `result` and leaves the machine as `final`, however deep the calls are
nested. `Machine.execute` tries one depth. -/
def Executes (m : Machine σ) (id : ScopeId) (result : Except Fault Unit) (final : Machine σ) : Prop :=
  ∃ depth, executeWithin depth id m = ended result final

/-- Running the start scope ends with `result` and leaves the machine as `final`. -/
def Runs (m : Machine σ) (result : Except Fault Unit) (final : Machine σ) : Prop :=
  (m.record (.start m.start)).Executes m.start result final

theorem executeWithin_mono {depth depth' : Nat} (hle : depth ≤ depth') {id : ScopeId} {m final : Machine σ}
    {result : Except Fault Unit} (h : executeWithin depth id m = ended result final) :
    executeWithin depth' id m = ended result final := by
  induction hle with
  | refl => exact h
  | step _ ih =>
    rcases executeWithin_deepens _ id m with ⟨m', hdeep⟩ | heq
    · exact absurd (ih.symm.trans hdeep) (ended_ne_tooDeep result final m')
    · exact heq.trans ih

theorem Executes.unique {m final final' : Machine σ} {id : ScopeId} {result result' : Except Fault Unit}
    (h : m.Executes id result final) (h' : m.Executes id result' final') :
    result = result' ∧ final = final' := by
  obtain ⟨depth, h⟩ := h
  obtain ⟨depth', h'⟩ := h'
  have hmax := executeWithin_mono (Nat.le_max_left depth depth') h
  rw [executeWithin_mono (Nat.le_max_right depth depth') h'] at hmax
  obtain ⟨rfl, rfl⟩ := ended_injective hmax
  exact ⟨rfl, rfl⟩

/-- What `run` reports is how the run ends, unless it gave up because of the depth. -/
lemma runs_of_run {m final : Machine σ} {result : Except Fault Unit} (h : run m = ended result final) :
    m.Runs result final := ⟨_, h⟩

/-- How a computation ended and what a view shows of the machine then, unless it was cut off. -/
def report {α : Type} (view : Machine σ → α) :
    EStateM.Result Stop (Machine σ) Unit → Option (Except Fault Unit × α)
  | .ok () final => some (.ok (), view final)
  | .error (.fault fault) final => some (.error fault, view final)
  | .error .tooDeep _ => none

lemma executes_of_report {α : Type} {view : Machine σ → α} {depth : Nat} {id : ScopeId} {m : Machine σ}
    {result : Except Fault Unit} {a : α} (h : report view (executeWithin depth id m) = some (result, a)) :
    ∃ final, m.Executes id result final ∧ view final = a := by
  cases hrun : executeWithin depth id m with
  | ok _ final =>
    rw [hrun] at h
    cases h
    exact ⟨final, ⟨depth, hrun⟩, rfl⟩
  | error stop final =>
    rw [hrun] at h
    cases stop with
    | tooDeep => cases h
    | fault fault =>
      cases h
      exact ⟨final, ⟨depth, hrun⟩, rfl⟩

lemma runs_of_report {α : Type} {view : Machine σ → α} {m : Machine σ} {result : Except Fault Unit} {a : α}
    (h : report view (run m) = some (result, a)) : ∃ final, m.Runs result final ∧ view final = a :=
  executes_of_report h

end Machine

end ScopeMachine
