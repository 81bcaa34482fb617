import ScopeMachine.Proofs.ByteStack
import ScopeMachine.Proofs.CursorReads
import ScopeMachine.Proofs.Execution

/-!
# What a failing instruction leaves behind

`Operation.Fails` lists how an operation other than a call can fail: the fault, and the stack that it leaves. The
registers and the scopes are never touched, and the stack is as before except in two cases, where a value was taken
off before the fault was found (`Machine.failing_instruction_effect`).
-/

namespace ScopeMachine

namespace Stack

/-- The stack without its topmost bytes. -/
def lower (s : Stack) (n : Nat) : Stack :=
  { s with top := s.top - n, top_le := Nat.le_trans (Nat.sub_le _ _) s.top_le }

lemma live_lower (s : Stack) (n : Nat) : (s.lower n).live = s.live.take (s.live.length - n) := by
  rw [length_live, live, live, List.take_take, min_eq_left (Nat.sub_le _ _)]
  rfl

lemma length_live_lower (s : Stack) (n : Nat) : (s.lower n).live.length = s.live.length - n := by
  rw [live_lower, List.length_take]
  omega

lemma remaining_lower (s : Stack) {n : Nat} (h : n ≤ s.live.length) : n ≤ (s.lower n).remaining := by
  have hle := s.length_live_le
  have hcapacity : (s.lower n).capacity = s.capacity := rfl
  rw [remaining_eq, length_live_lower, hcapacity]
  omega

lemma pop_lowers {s : Stack} {t : CellType} (h : t.width ≤ s.live.length) :
    ∃ v, pop t s = .ok v (s.lower t.width) := by
  rw [pop, peek_of_le h]
  exact ⟨_, rfl⟩

end Stack

/-! ## The ways to fail -/

/-- Operations that run no other code. -/
def Operation.IsLocal : Operation → Prop
  | .call _ | .callExternal _ => False
  | .nop | .pushConst _ | .pushRegister _ | .setRegister _ | .add | .ret => True

/-- `Fails s op fault s'`: on the stack `s`, the operation fails with `fault` and leaves the stack `s'`. -/
inductive Operation.Fails (s : Stack) : Operation → Fault → Stack → Prop where
  | pushConst {value : Int32} (full : s.remaining < 4) :
      Fails s (.pushConst value) (.stackOverflow 4 s.remaining) s
  | pushRegister_kind {register : Register} (kind : register.kind ≠ .general) :
      Fails s (.pushRegister register) (.invalidRegister register .general) s
  | pushRegister_full {register : Register} (kind : register.kind = .general) (full : s.remaining < 4) :
      Fails s (.pushRegister register) (.stackOverflow 4 s.remaining) s
  | setRegister_short {register : Register} (short : s.live.length < 4) :
      Fails s (.setRegister register) (.stackUnderflow 4 s.live.length) s
  | setRegister_kind {register : Register} (kind : register.kind ≠ .general) (enough : 4 ≤ s.live.length) :
      Fails s (.setRegister register) (.invalidRegister register .general) (s.lower 4)
  | add_none (short : s.live.length < 4) : Fails s .add (.stackUnderflow 4 s.live.length) s
  | add_one (enough : 4 ≤ s.live.length) (short : s.live.length < 8) :
      Fails s .add (.stackUnderflow 4 (s.live.length - 4)) (s.lower 4)

namespace RegisterFile

lemma getGeneral_of_kind (file : RegisterFile) {register : Register} (h : register.kind = .general) :
    ∃ value, file.getGeneral register = .ok value := by
  obtain ⟨i, rfl⟩ := Register.exists_of_kind h
  exact ⟨_, file.getGeneral_general i⟩

lemma setGeneral_of_kind (file : RegisterFile) (value : Int64) {register : Register}
    (h : register.kind = .general) : ∃ file', file.setGeneral value register = .ok () file' := by
  obtain ⟨i, rfl⟩ := Register.exists_of_kind h
  exact ⟨_, file.setGeneral_general value i⟩

end RegisterFile

namespace Machine

variable {σ α : Type} {m : Machine σ}

lemma onStack_of_ok {x : StackM α} {a : α} {s : Stack} (h : x m.stack = .ok a s) :
    onStack x m = .ok a { m with stack := s } := by
  obtain ⟨stack, registers, scopes, start, host, trace⟩ := m
  simp only at h
  simp only [onStack, h]

lemma onStack_of_error {x : StackM α} {fault : Fault} {s : Stack} (h : x m.stack = .error fault s) :
    onStack x m = .error (.fault fault) { m with stack := s } := by
  obtain ⟨stack, registers, scopes, start, host, trace⟩ := m
  simp only at h
  simp only [onStack, h]

lemma andNext_of_error {x : Run σ Unit} {stop : Stop} {m' : Machine σ} (h : x m = .error stop m') :
    andNext x m = .error stop m' := by
  rw [andNext, h]

lemma andNext_of_ok {x : Run σ Unit} {m' : Machine σ} (h : x m = .ok () m') : andNext x m = .ok .next m' := by
  rw [andNext, h]

/-- Two values can be added: their sum finds the room that they had. -/
lemma add_of_le (h : 8 ≤ m.stack.live.length) : ∃ m', add m = .ok () m' := by
  have henough : 4 ≤ (m.stack.lower 4).live.length := by
    rw [Stack.length_live_lower]
    omega
  have hroom : 4 ≤ ((m.stack.lower 4).lower 4).remaining := Stack.remaining_lower _ henough
  obtain ⟨a, hpop⟩ := Stack.pop_lowers (s := m.stack) (t := .i32) (show 4 ≤ _ by omega)
  obtain ⟨b, hpop'⟩ := Stack.pop_lowers (t := .i32) henough
  obtain ⟨s, hpush, -⟩ := Stack.push_of_le (t := .i32) (a + b) hroom
  have hfirst : onStack (Stack.pop .i32) m = .ok a { m with stack := m.stack.lower 4 } := onStack_of_ok hpop
  refine ⟨{ m with stack := s }, ?_⟩
  rw [add, hfirst]
  dsimp only
  rw [onStack_of_ok hpop']
  exact onStack_of_ok hpush

variable (call : ScopeId → Run σ Unit)

lemma perform_of_fails {op : Operation} {fault : Fault} {s : Stack} (h : op.Fails m.stack fault s) :
    perform call op m = .error (.fault fault) { m with stack := s } := by
  cases h with
  | pushConst full =>
    apply andNext_of_error
    exact onStack_of_error (Stack.push_of_lt _ full)
  | @pushRegister_kind register kind =>
    apply andNext_of_error
    rw [pushRegister, m.registers.getGeneral_of_ne kind]
  | @pushRegister_full register kind full =>
    apply andNext_of_error
    obtain ⟨value, hvalue⟩ := m.registers.getGeneral_of_kind kind
    rw [pushRegister, hvalue]
    exact onStack_of_error (Stack.push_of_lt _ full)
  | setRegister_short short =>
    apply andNext_of_error
    rw [setRegister, onStack_of_error (Stack.pop_of_lt (t := .i32) short)]
    rfl
  | @setRegister_kind register kind enough =>
    apply andNext_of_error
    obtain ⟨value, hpop⟩ := Stack.pop_lowers (t := .i32) enough
    rw [setRegister, onStack_of_ok hpop]
    dsimp only
    rw [RegisterFile.setGeneral_of_ne _ _ kind]
    rfl
  | add_none short =>
    apply andNext_of_error
    rw [add, onStack_of_error (Stack.pop_of_lt (t := .i32) short)]
    rfl
  | add_one enough short =>
    apply andNext_of_error
    obtain ⟨value, hpop⟩ := Stack.pop_lowers (t := .i32) enough
    have hshort : (m.stack.lower 4).live.length < 4 := by
      rw [Stack.length_live_lower]
      omega
    have hpop' := Stack.pop_of_lt (t := .i32) hshort
    rw [add, onStack_of_ok hpop]
    dsimp only
    rw [onStack_of_error hpop', Stack.length_live_lower]
    rfl

lemma perform_succeeds_or_fails {op : Operation} (hop : op.IsLocal) (m : Machine σ) :
    (∃ flow m', perform call op m = .ok flow m') ∨ ∃ fault s, op.Fails m.stack fault s := by
  cases op with
  | call scope => exact hop.elim
  | callExternal scope => exact hop.elim
  | nop => exact .inl ⟨_, _, rfl⟩
  | ret => exact .inl ⟨_, _, rfl⟩
  | pushConst value =>
    rcases Nat.lt_or_ge m.stack.remaining 4 with full | room
    · exact .inr ⟨_, _, .pushConst full⟩
    · obtain ⟨s, hpush, -⟩ := Stack.push_of_le (t := .i32) value room
      exact .inl ⟨_, _, andNext_of_ok (onStack_of_ok hpush)⟩
  | pushRegister register =>
    by_cases kind : register.kind = .general
    · rcases Nat.lt_or_ge m.stack.remaining 4 with full | room
      · exact .inr ⟨_, _, .pushRegister_full kind full⟩
      · obtain ⟨value, hvalue⟩ := m.registers.getGeneral_of_kind kind
        obtain ⟨s, hpush, -⟩ := Stack.push_of_le (t := .i32) value.toInt32 room
        refine .inl ⟨_, { m with stack := s }, andNext_of_ok ?_⟩
        rw [pushRegister, hvalue]
        exact onStack_of_ok hpush
    · exact .inr ⟨_, _, .pushRegister_kind kind⟩
  | setRegister register =>
    rcases Nat.lt_or_ge m.stack.live.length 4 with short | enough
    · exact .inr ⟨_, _, .setRegister_short short⟩
    · by_cases kind : register.kind = .general
      · obtain ⟨value, hpop⟩ := Stack.pop_lowers (t := .i32) enough
        obtain ⟨registers, hset⟩ := m.registers.setGeneral_of_kind value.toInt64 kind
        refine .inl ⟨_, { m with stack := m.stack.lower 4, registers := registers }, andNext_of_ok ?_⟩
        rw [setRegister, onStack_of_ok hpop]
        dsimp only
        rw [hset]
        rfl
      · exact .inr ⟨_, _, .setRegister_kind kind enough⟩
  | add =>
    rcases Nat.lt_or_ge m.stack.live.length 4 with short | enough
    · exact .inr ⟨_, _, .add_none short⟩
    · rcases Nat.lt_or_ge m.stack.live.length 8 with short | both
      · exact .inr ⟨_, _, .add_one enough short⟩
      · obtain ⟨m', hadd⟩ := add_of_le both
        exact .inl ⟨_, _, andNext_of_ok hadd⟩

/-! ## One instruction of a scope -/

section Instruction

variable (scope : ScopeId) {c : Cursor} {op : Operation}

lemma runFrom_one (m : Machine σ) (h : c.operation = .ok op) :
    ∃ c', runFrom call scope 1 c m =
      resume call scope 0 c' (perform call op (m.record (.step scope c.offset op.instruction))) := by
  obtain ⟨offset, rest⟩ := c
  obtain ⟨w, rfl⟩ := Cursor.operation_eq_ok_iff.mp h
  exact ⟨_, runFrom_record call scope 0 offset op w m⟩

variable {call}

lemma runFrom_one_of_ok (h : c.operation = .ok op) {flow : Flow} {m' : Machine σ}
    (hperform : perform call op (m.record (.step scope c.offset op.instruction)) = .ok flow m') :
    runFrom call scope 1 c m = .ok () m' := by
  obtain ⟨c', hrun⟩ := runFrom_one call scope m h
  rw [hrun, hperform]
  cases flow with
  | next => rfl
  | leave => rfl

lemma runFrom_one_add (h : c.operation = .ok .add) (hboth : 8 ≤ m.stack.live.length) :
    ∃ m', runFrom call scope 1 c m = .ok () m' := by
  obtain ⟨m', hadd⟩ := add_of_le (m := m.record (.step scope c.offset .add)) hboth
  exact ⟨m', runFrom_one_of_ok scope h (andNext_of_ok hadd)⟩

lemma runFrom_one_of_fails (h : c.operation = .ok op) {fault : Fault} {s : Stack} (hfails : op.Fails m.stack fault s) :
    runFrom call scope 1 c m =
      .error (.fault fault) { m.record (.step scope c.offset op.instruction) with stack := s } := by
  obtain ⟨c', hrun⟩ := runFrom_one call scope m h
  have hperform := perform_of_fails (m := m.record (.step scope c.offset op.instruction)) call hfails
  rw [hrun, hperform]
  rfl

lemma runFrom_one_of_malformed {fault : Fault} (hne : c.rest ≠ []) (h : c.operation = .error fault) :
    runFrom call scope 1 c m = .error (.fault fault) (noteMalformed scope c m) :=
  runFrom_malformed call scope 0 ((Cursor.operation_eq_error_iff hne).mp h) m

end Instruction

/-- The instruction at the cursor takes a value off the stack before it fails: it adds and there is no second value,
or it sets a register that is not for numbers. -/
def LosesOperand (c : Cursor) (s : Stack) : Prop :=
  (c.operation = .ok .add ∧ 4 ≤ s.live.length ∧ s.live.length < 8) ∨
    ∃ register, c.operation = .ok (.setRegister register) ∧ register.kind ≠ .general ∧ 4 ≤ s.live.length

lemma LosesOperand.enough {c : Cursor} {s : Stack} (h : LosesOperand c s) : 4 ≤ s.live.length := by
  rcases h with ⟨-, enough, -⟩ | ⟨_, -, -, enough⟩
  · exact enough
  · exact enough

lemma stack_of_fails {c : Cursor} {op : Operation} {s s' : Stack} {fault : Fault} (h : c.operation = .ok op)
    (hfails : op.Fails s fault s') :
    (¬ LosesOperand c s → s' = s) ∧ (LosesOperand c s → s' = s.lower 4) := by
  have hsame : (∀ register, op ≠ .setRegister register) → op ≠ .add → ¬ LosesOperand c s := by
    rintro hset hadd (⟨hop, -⟩ | ⟨register, hop, -⟩)
    · exact hadd (Except.ok.inj (h.symm.trans hop))
    · exact hset register (Except.ok.inj (h.symm.trans hop))
  cases hfails with
  | pushConst _ => exact ⟨fun _ => rfl, fun hloses => absurd hloses (hsame nofun nofun)⟩
  | pushRegister_kind _ => exact ⟨fun _ => rfl, fun hloses => absurd hloses (hsame nofun nofun)⟩
  | pushRegister_full _ _ => exact ⟨fun _ => rfl, fun hloses => absurd hloses (hsame nofun nofun)⟩
  | setRegister_short short =>
    refine ⟨fun _ => rfl, fun hloses => ?_⟩
    have henough := hloses.enough
    omega
  | setRegister_kind kind enough =>
    refine ⟨fun hkeeps => absurd ?_ hkeeps, fun _ => rfl⟩
    exact .inr ⟨_, h, kind, enough⟩
  | add_none short =>
    refine ⟨fun _ => rfl, fun hloses => ?_⟩
    have henough := hloses.enough
    omega
  | add_one enough short =>
    refine ⟨fun hkeeps => absurd ?_ hkeeps, fun _ => rfl⟩
    exact .inl ⟨h, enough, short⟩

lemma exists_fails_add {s : Stack} (h : s.live.length < 8) :
    ∃ available s', Operation.Fails s .add (.stackUnderflow 4 available) s' := by
  rcases Nat.lt_or_ge s.live.length 4 with short | enough
  · exact ⟨_, _, .add_none short⟩
  · exact ⟨_, _, .add_one enough h⟩

lemma LosesOperand.exists_fails {c : Cursor} {s : Stack} (h : LosesOperand c s) :
    ∃ op fault, c.operation = .ok op ∧ op.Fails s fault (s.lower 4) := by
  rcases h with ⟨hop, enough, short⟩ | ⟨register, hop, kind, enough⟩
  · exact ⟨_, _, hop, .add_one enough short⟩
  · exact ⟨_, _, hop, .setRegister_kind kind enough⟩

lemma runFrom_one_error_cases {call} {scope : ScopeId} {c : Cursor} {m m' : Machine σ} {stop : Stop}
    (h : runFrom call scope 1 c m = .error stop m') (hcall : c.peekInstruction ≠ .ok .call)
    (hexternal : c.peekInstruction ≠ .ok .callExternal) :
    ((∃ fault, c.operation = .error fault) ∧ m' = noteMalformed scope c m) ∨
      ∃ op fault s, c.operation = .ok op ∧ op.Fails m.stack fault s ∧
        m' = { m.record (.step scope c.offset op.instruction) with stack := s } := by
  cases hread : c.operation with
  | error fault =>
    by_cases hne : c.rest = []
    · obtain ⟨offset, rest⟩ := c
      cases hne
      rw [runFrom_nil] at h
      cases h
    · rw [runFrom_one_of_malformed scope hne hread] at h
      cases h
      exact .inl ⟨⟨fault, rfl⟩, rfl⟩
  | ok op =>
    have hpeek : c.peekInstruction = .ok op.instruction := by
      obtain ⟨offset, rest⟩ := c
      obtain ⟨w, rfl⟩ := Cursor.operation_eq_ok_iff.mp hread
      exact (Cursor.reads_of_record offset op w).1
    have hlocal : op.IsLocal := by
      rw [hpeek] at hcall hexternal
      cases op with
      | call id => exact absurd rfl hcall
      | callExternal id => exact absurd rfl hexternal
      | nop | pushConst _ | pushRegister _ | setRegister _ | add | ret => trivial
    rcases perform_succeeds_or_fails call hlocal (m.record (.step scope c.offset op.instruction)) with
      ⟨flow, m'', hperform⟩ | ⟨fault, s, hfails⟩
    · rw [runFrom_one_of_ok scope hread hperform] at h
      cases h
    · have hfails : op.Fails m.stack fault s := hfails
      rw [runFrom_one_of_fails scope hread hfails] at h
      cases h
      exact .inr ⟨op, fault, s, rfl, hfails, rfl⟩

lemma noteMalformed_eq (scope : ScopeId) (c : Cursor) (m : Machine σ) :
    ∃ trace, noteMalformed scope c m = { m with trace := trace } := by
  unfold noteMalformed
  cases c.peekInstruction with
  | error fault => exact ⟨m.trace, rfl⟩
  | ok instruction => exact ⟨_, rfl⟩

/-- If the instruction at a cursor, other than a call, fails, then the machine is as before, apart from the trace and,
in exactly two cases, from a value that was taken off the stack. In these two cases it does fail. Two values can always
be added, and the sum never finds the stack full; a push of a register that is not for numbers fails whatever the stack
is, and setting a register from too short a stack fails whatever the register is. -/
theorem failing_instruction_effect (call : ScopeId → Run σ Unit) (scope : ScopeId) (c : Cursor) (m : Machine σ) :
    (∀ stop m', runFrom call scope 1 c m = .error stop m' →
      c.peekInstruction ≠ .ok .call → c.peekInstruction ≠ .ok .callExternal →
      m'.registers = m.registers ∧ m'.scopes = m.scopes ∧ m'.start = m.start ∧ m'.host = m.host ∧
      (¬ LosesOperand c m.stack → m'.stack = m.stack) ∧
      (LosesOperand c m.stack → m'.stack.live.length + 4 = m.stack.live.length ∧
        m'.stack.live <+: m.stack.live ∧ m'.stack.capacity = m.stack.capacity)) ∧
    (LosesOperand c m.stack → ∃ fault m', runFrom call scope 1 c m = .error (.fault fault) m') ∧
    (c.operation = .ok .add →
      (8 ≤ m.stack.live.length → ∃ m', runFrom call scope 1 c m = .ok () m') ∧
      ∀ requested available m',
        runFrom call scope 1 c m ≠ .error (.fault (.stackOverflow requested available)) m') ∧
    (∀ register, c.operation = .ok (.pushRegister register) → register.kind ≠ .general →
      ∃ m', runFrom call scope 1 c m = .error (.fault (.invalidRegister register .general)) m') ∧
    ∀ register, c.operation = .ok (.setRegister register) → m.stack.live.length < 4 →
      ∃ m', runFrom call scope 1 c m = .error (.fault (.stackUnderflow 4 m.stack.live.length)) m' := by
  refine ⟨?_, ?_, ?_, ?_, ?_⟩
  · intro stop m' hrun hcall hexternal
    rcases runFrom_one_error_cases hrun hcall hexternal with ⟨⟨fault, hread⟩, rfl⟩ | ⟨op, fault, s, hread, hfails, rfl⟩
    · obtain ⟨trace, hnote⟩ := noteMalformed_eq scope c m
      have hkeeps : ¬ LosesOperand c m.stack := by
        intro hloses
        obtain ⟨op, fault', hop, -⟩ := hloses.exists_fails
        rw [hread] at hop
        cases hop
      rw [hnote]
      exact ⟨rfl, rfl, rfl, rfl, fun _ => rfl, fun hloses => absurd hloses hkeeps⟩
    · obtain ⟨hkeeps, hloses⟩ := stack_of_fails hread hfails
      refine ⟨rfl, rfl, rfl, rfl, hkeeps, fun h => ?_⟩
      have henough := h.enough
      rw [hloses h, Stack.length_live_lower, Stack.live_lower]
      exact ⟨by omega, List.take_prefix _ _, rfl⟩
  · intro hloses
    obtain ⟨op, fault, hop, hfails⟩ := hloses.exists_fails
    exact ⟨fault, _, runFrom_one_of_fails scope hop hfails⟩
  · intro hop
    refine ⟨runFrom_one_add scope hop, fun requested available m' hrun => ?_⟩
    rcases Nat.lt_or_ge m.stack.live.length 8 with hshort | hboth
    · obtain ⟨available', s, hfails⟩ := exists_fails_add hshort
      rw [runFrom_one_of_fails scope hop hfails] at hrun
      cases hrun
    · obtain ⟨m'', hok⟩ := runFrom_one_add scope hop hboth
      rw [hok] at hrun
      cases hrun
  · intro register hop kind
    exact ⟨_, runFrom_one_of_fails scope hop (.pushRegister_kind kind)⟩
  · intro register hop short
    exact ⟨_, runFrom_one_of_fails scope hop (.setRegister_short short)⟩

end Machine

end ScopeMachine
