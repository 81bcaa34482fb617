import ScopeMachine.Stack

/-!
# The scope table

Code lives in internal scopes and the host's functions stand behind external scopes. Each kind has
its own numbering, from zero in the order of creation. `σ` is the host's own state, which callbacks
read and write beside the evaluation stack.
-/

namespace ScopeMachine

/-- A host function: a computation on the evaluation stack and the host's state. -/
abbrev Callback (σ : Type) := EStateM Fault (Stack × σ) Unit

structure Scope where
  id : ScopeId
  code : Bytes
deriving DecidableEq, Repr

/-- A scope that the host stands behind. -/
structure ExternalScope (σ : Type) where
  id : ScopeId
  callback : Option (Callback σ)

namespace ExternalScope

def hasCallback {σ : Type} (scope : ExternalScope σ) : Bool := scope.callback.isSome

/-- The scope as diagnostics show it. -/
def text {σ : Type} (scope : ExternalScope σ) : String :=
  "ExternalScope \x7b id: ScopeId(" ++ toString scope.id.raw.toNat ++ "), has_callback: " ++
    toString scope.hasCallback ++ " \x7d"

/-- Runs the callback, which must have been attached. -/
def invoke {σ : Type} (scope : ExternalScope σ) : Callback σ := fun state =>
  match scope.callback with
  | some callback => callback state
  | none => .error (.missingCallback scope.id) state

end ExternalScope

/-- The scopes of both kinds, each at the position of its id. -/
structure ScopeTable (σ : Type) where
  internal : Array Scope
  external : Array (ExternalScope σ)

abbrev TableM (σ : Type) := EStateM Fault (ScopeTable σ)

namespace ScopeTable

variable {σ : Type}

def empty : ScopeTable σ := ⟨#[], #[]⟩

/-- The id of the next scope when `issued` ids were issued before. -/
def nextId (issued : Nat) : Except Fault ScopeId :=
  if issued < ScopeId.invalid.index then .ok ⟨UInt32.ofNat issued⟩ else .error (.scopeTableFull issued)

def scope (table : ScopeTable σ) (id : ScopeId) : Except Fault Scope :=
  match table.internal[id.index]? with
  | some s => .ok s
  | none => .error (.unknownScope id)

def externalScope (table : ScopeTable σ) (id : ScopeId) : Except Fault (ExternalScope σ) :=
  match table.external[id.index]? with
  | some s => .ok s
  | none => .error (.unknownExternalScope id)

/-- Creates an internal scope without code. -/
def createScope : TableM σ ScopeId := fun table =>
  match nextId table.internal.size with
  | .error fault => .error fault table
  | .ok id => .ok id { table with internal := table.internal.push ⟨id, []⟩ }

/-- Creates an external scope without a callback. -/
def createExternal : TableM σ ScopeId := fun table =>
  match nextId table.external.size with
  | .error fault => .error fault table
  | .ok id => .ok id { table with external := table.external.push ⟨id, none⟩ }

/-- Changes the code of an internal scope. -/
def editCode (id : ScopeId) (edit : Bytes → Bytes) : TableM σ Unit := fun table =>
  match table.scope id with
  | .error fault => .error fault table
  | .ok s =>
    .ok () { table with internal := table.internal.setIfInBounds id.index { s with code := edit s.code } }

def setCode (id : ScopeId) (code : Bytes) : TableM σ Unit := editCode id fun _ => code

/-- Creates an internal scope with the given code. -/
def addScope (code : Bytes) : TableM σ ScopeId := fun table =>
  match createScope table with
  | .error fault table => .error fault table
  | .ok id table =>
    match setCode id code table with
    | .error fault table => .error fault table
    | .ok () table => .ok id table

def appendCode (id : ScopeId) (code : Bytes) : TableM σ Unit := editCode id fun old => old ++ code

/-- Attaches a callback to an external scope, in place of an earlier one. -/
def setCallback (id : ScopeId) (callback : Callback σ) : TableM σ Unit := fun table =>
  match table.externalScope id with
  | .error fault => .error fault table
  | .ok s =>
    .ok () { table with
      external := table.external.setIfInBounds id.index { s with callback := some callback } }

end ScopeTable

end ScopeMachine
