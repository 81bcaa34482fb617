import ScopeMachine.Proofs.OperationSemantics

/-!
# The word machine

A machine whose stack is a list of 32-bit words, the topmost one last, and whose only registers are the
general ones. It knows nothing of bytes: a push is refused when the words would not fit into the capacity
at four bytes each, and a pop is refused when there is no word.

Host functions that use the stack for words alone are programs (`WordProgram`) that make requests of the
stack and go on with the answers. One program runs over the stack of bytes and over a list of words.
-/

namespace ScopeMachine

abbrev Word := BitVec 32

namespace Word

def bytes (w : Word) : Bytes := Bytes.ofNat 4 w.toNat

def layout (ws : List Word) : Bytes := ws.flatMap bytes

/-! ## A stack of words -/

/-- Puts a word on top of a stack with room for `capacity` bytes. -/
def push (capacity : Nat) (w : Word) : EStateM Fault (List Word) Unit := fun ws =>
  if 4 * (ws.length + 1) > capacity then .error (.stackOverflow 4 (capacity - 4 * ws.length)) ws
  else .ok () (ws ++ [w])

def top : EStateM Fault (List Word) Word := fun ws =>
  match ws.getLast? with
  | none => .error (.stackUnderflow 4 0) ws
  | some w => .ok w ws

def pop : EStateM Fault (List Word) Word := fun ws =>
  match ws.getLast? with
  | none => .error (.stackUnderflow 4 0) ws
  | some w => .ok w ws.dropLast

end Word

/-! ## Host functions -/

/-- The requests that a host function may make of a stack of type `S`. -/
structure WordStack (S : Type) where
  push : Int32 → EStateM Fault S Unit
  pop : EStateM Fault S Int32
  top : EStateM Fault S Int32

/-- The stack of bytes, used for 32-bit integers only. -/
def Stack.wordStack : WordStack Stack := ⟨Stack.push .i32, Stack.pop .i32, Stack.peek .i32⟩

/-- The stack of words, with room for `capacity` bytes. -/
def Word.wordStack (capacity : Nat) : WordStack (List Word) where
  push value := Word.push capacity value.toBitVec
  pop := Int32.ofBitVec <$> Word.pop
  top := Int32.ofBitVec <$> Word.top

/-- What a host function does from some point on: it ends with a result and a state of the host, or it
makes a request of the stack. A refused request is an answer like any other. -/
inductive WordProgram (σ : Type) where
  | done (result : Except Fault Unit) (host : σ)
  | push (value : Int32) (next : Except Fault Unit → WordProgram σ)
  | pop (next : Except Fault Int32 → WordProgram σ)
  | top (next : Except Fault Int32 → WordProgram σ)

def WordProgram.run {S σ : Type} (stack : WordStack S) :
    WordProgram σ → S → EStateM.Result Fault (S × σ) Unit
  | .done (.ok _) host, s => .ok () (s, host)
  | .done (.error fault) host, s => .error fault (s, host)
  | .push value next, s =>
    let (answer, s) := attempt (stack.push value) s
    (next answer).run stack s
  | .pop next, s =>
    let (answer, s) := attempt stack.pop s
    (next answer).run stack s
  | .top next, s =>
    let (answer, s) := attempt stack.top s
    (next answer).run stack s

/-- An external scope whose callback, if there is one, is a program that depends on the host's state. -/
structure WordScope (σ : Type) where
  id : ScopeId
  program : Option (σ → WordProgram σ)

/-- The external scope does over the stacks with the given capacity what the program says. The capacity is
fixed here so that a callback may also loop until the stack is full or empty: such a loop is a program for
every capacity, but not one program for all of them. -/
structure WordScope.Describes {σ : Type} (capacity : Nat) (scope : WordScope σ)
    (external : ExternalScope σ) : Prop where
  id_eq : scope.id = external.id
  hasCallback_eq : scope.program.isSome = external.hasCallback
  callback_eq : ∀ program ∈ scope.program, ∀ callback ∈ external.callback, ∀ (stack : Stack) (host : σ),
    stack.capacity = capacity → callback (stack, host) = (program host).run Stack.wordStack stack

lemma WordScope.Describes.cases {σ : Type} {capacity : Nat} {scope : WordScope σ}
    {external : ExternalScope σ} (h : scope.Describes capacity external) :
    (scope.program = none ∧ external.callback = none) ∨
      ∃ program callback, scope.program = some program ∧ external.callback = some callback ∧
        ∀ (stack : Stack) (host : σ), stack.capacity = capacity →
          callback (stack, host) = (program host).run Stack.wordStack stack := by
  have hsome := h.hasCallback_eq
  unfold ExternalScope.hasCallback at hsome
  cases hprogram : scope.program with
  | none =>
    rw [hprogram] at hsome
    have hnone := Option.isSome_eq_false_iff.mp hsome.symm
    exact .inl ⟨rfl, Option.isNone_iff_eq_none.mp hnone⟩
  | some program =>
    rw [hprogram] at hsome
    obtain ⟨callback, hcallback⟩ := Option.isSome_iff_exists.mp hsome.symm
    exact .inr ⟨program, callback, rfl, hcallback, h.callback_eq program hprogram callback hcallback⟩

/-- The external scopes of a table are described by programs, each by the one at its position. -/
def ScopeTable.DescribedBy {σ : Type} (table : ScopeTable σ) (capacity : Nat)
    (externals : Array (WordScope σ)) : Prop :=
  ∀ i : Nat, Option.Rel (WordScope.Describes capacity) externals[i]? table.external[i]?

lemma ScopeTable.DescribedBy.cases {σ : Type} {table : ScopeTable σ} {capacity : Nat}
    {externals : Array (WordScope σ)} (h : table.DescribedBy capacity externals) (id : ScopeId) :
    (externals[id.index]? = none ∧ table.externalScope id = .error (.unknownExternalScope id)) ∨
      ∃ scope external, externals[id.index]? = some scope ∧ table.externalScope id = .ok external ∧
        scope.Describes capacity external := by
  unfold ScopeTable.externalScope
  have hrel := h id.index
  generalize externals[id.index]? = x, table.external[id.index]? = y at hrel ⊢
  cases hrel with
  | none => exact .inl ⟨rfl, rfl⟩
  | some hdesc => exact .inr ⟨_, _, rfl, rfl, hdesc⟩

/-! ## The machine -/

structure WordState (σ : Type) where
  words : List Word
  general : Fin 8 → Int64
  host : σ

namespace WordState

variable {σ : Type}

def onWords {α : Type} (op : EStateM Fault (List Word) α) : EStateM Fault (WordState σ) α := fun w =>
  match op w.words with
  | .ok a words => .ok a { w with words := words }
  | .error fault words => .error fault { w with words := words }

def push (capacity : Nat) (value : Word) : EStateM Fault (WordState σ) Unit :=
  onWords (Word.push capacity value)

def pop : EStateM Fault (WordState σ) Word := onWords Word.pop

def getGeneral : Register → EStateM Fault (WordState σ) Int64
  | .general i => fun w => .ok (w.general i) w
  | register => fun w => .error (.invalidRegister register .general) w

def setGeneral (value : Int64) : Register → EStateM Fault (WordState σ) Unit
  | .general i => fun w => .ok () { w with general := Function.update w.general i value }
  | register => fun w => .error (.invalidRegister register .general) w

lemma getGeneral_of_ne (w : WordState σ) {register : Register} (h : register.kind ≠ .general) :
    getGeneral register w = .error (.invalidRegister register .general) w := by
  cases register with
  | general i => simp at h
  | stackFrame i => rfl
  | memory i => rfl
  | flag => rfl

lemma setGeneral_of_ne (w : WordState σ) {register : Register} (h : register.kind ≠ .general) (value : Int64) :
    setGeneral value register w = .error (.invalidRegister register .general) w := by
  cases register with
  | general i => simp at h
  | stackFrame i => rfl
  | memory i => rfl
  | flag => rfl

def invoke (capacity : Nat) (externals : Array (WordScope σ)) (id : ScopeId) :
    EStateM Fault (WordState σ) Unit := fun w =>
  match externals[id.index]? with
  | none => .error (.unknownExternalScope id) w
  | some scope =>
    match scope.program with
    | none => .error (.missingCallback scope.id) w
    | some program =>
      match (program w.host).run (Word.wordStack capacity) w.words with
      | .ok () (words, host) => .ok () { w with words := words, host := host }
      | .error fault (words, host) => .error fault { w with words := words, host := host }

/-- What plain operations do, step by step. Sums are taken modulo `2 ^ 32`, a register is pushed modulo
`2 ^ 32`, and a word goes into a register as the signed integer that it stands for. -/
def effect (capacity : Nat) (externals : Array (WordScope σ)) :
    Operation → EStateM Fault (WordState σ) Unit
  | .nop => pure ()
  | .pushConst value => push capacity (BitVec.ofInt 32 value.toInt)
  | .pushRegister register => do
    let value ← getGeneral register
    push capacity (BitVec.ofInt 32 value.toInt)
  | .setRegister register => do
    let word ← pop
    setGeneral (Int64.ofInt word.toInt) register
  | .add => do
    let a ← pop
    let b ← pop
    push capacity (a + b)
  | .callExternal id => invoke capacity externals id
  | .call _ | .ret => pure ()

end WordState

end ScopeMachine
