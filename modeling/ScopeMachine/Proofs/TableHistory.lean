import ScopeMachine.Proofs.OperationSemantics
import ScopeMachine.Proofs.ScopeTables

/-!
# The history of a scope table

What a table holds is decided by the actions on it and the answers to them. A scope can be resolved exactly if its id
was given out, and it holds what the edits since then made of it. The next answer depends on nothing but the ids given
out (`ScopeTable.history_determines_scopes`). Both kinds of scopes are treated alike: a kind says what each action
asks of its scopes (`Request`), and how such a request is served is said once (`Served`).
-/

namespace ScopeMachine

section Attempts

variable {S α β : Type} {x : EStateM Fault S α} {s t : S}

lemma attempt_map_of_ok {a : α} (h : x s = .ok a t) (f : α → β) :
    attempt (do return f (← x)) s = (.ok (f a), t) := by
  change attempt (EStateM.bind x fun a => EStateM.pure (f a)) s = _
  rw [attempt, EStateM.bind, h]
  rfl

lemma attempt_map_of_error {fault : Fault} (h : x s = .error fault t) (f : α → β) :
    attempt (do return f (← x)) s = (.error fault, t) := by
  change attempt (EStateM.bind x fun a => EStateM.pure (f a)) s = _
  rw [attempt, EStateM.bind, h]

end Attempts

/-! ## Actions and events -/

inductive TableAction (σ : Type) where
  | createScope
  | createExternal
  | setCode (id : ScopeId) (code : Bytes)
  | appendCode (id : ScopeId) (code : Bytes)
  | setCallback (id : ScopeId) (callback : Callback σ)

/-- Performs the action and gives the id of the scope that it creates, if it creates one. -/
def TableAction.perform {σ : Type} : TableAction σ → TableM σ (Option ScopeId)
  | .createScope => do return some (← ScopeTable.createScope)
  | .createExternal => do return some (← ScopeTable.createExternal)
  | .setCode id code => do ScopeTable.setCode id code; return none
  | .appendCode id code => do ScopeTable.appendCode id code; return none
  | .setCallback id callback => do ScopeTable.setCallback id callback; return none

/-- An action and the answer to it. -/
structure TableEvent (σ : Type) where
  action : TableAction σ
  answer : Except Fault (Option ScopeId)

/-- Performs actions in order, those behind a fault included. Gives the events and the table after them. -/
def ScopeTable.history {σ : Type} (table : ScopeTable σ) :
    List (TableAction σ) → List (TableEvent σ) × ScopeTable σ
  | [] => ([], table)
  | action :: actions =>
    let (answer, after) := attempt action.perform table
    let (events, final) := after.history actions
    (⟨action, answer⟩ :: events, final)

/-! ## Kinds of scopes -/

/-- What an action asks of the scopes of one kind, whose contents have type `α`. -/
inductive Request (α : Type) where
  | nothing
  | create
  | edit (target : ScopeId) (f : α → α)

namespace Request

variable {α : Type}

def target? : Request α → Option ScopeId
  | .edit target _ => some target
  | .nothing | .create => none

/-- The id that the answer to the request gives out. -/
def issues : Request α → Except Fault (Option ScopeId) → Option ScopeId
  | .create, .ok id => id
  | .create, .error _ => none
  | .nothing, _ | .edit .., _ => none

/-- What becomes of the content of a scope through the request and the answer to it. -/
def edits (id : ScopeId) (content : α) : Request α → Except Fault (Option ScopeId) → α
  | .edit target f, .ok _ => if target = id then f content else content
  | .edit .., .error _ => content
  | .nothing, _ | .create, _ => content

/-- The answer to the request when the ids in the list were given out before. -/
def answer? (unknown : ScopeId → Fault) (issued : List ScopeId) : Request α → Option (Except Fault (Option ScopeId))
  | .nothing => none
  | .create =>
    if issued.length < ScopeId.invalid.index then some (.ok (some ⟨UInt32.ofNat issued.length⟩))
    else some (.error (.scopeTableFull issued.length))
  | .edit target _ => if target ∈ issued then some (.ok none) else some (.error (unknown target))

end Request

/-- A kind of scopes: what they hold when they are created, the fault if there is none with an id, and what actions ask
of them. -/
structure ScopeKind (σ α : Type) where
  initial : α
  unknown : ScopeId → Fault
  request : TableAction σ → Request α

namespace ScopeKind

variable {σ α : Type}

/-- Internal scopes hold code. -/
def internal : ScopeKind σ Bytes where
  initial := []
  unknown := .unknownScope
  request
    | .createScope => .create
    | .setCode id code => .edit id fun _ => code
    | .appendCode id code => .edit id fun old => old ++ code
    | .createExternal | .setCallback .. => .nothing

/-- External scopes hold a callback, or none. -/
def external : ScopeKind σ (Option (Callback σ)) where
  initial := none
  unknown := .unknownExternalScope
  request
    | .createExternal => .create
    | .setCallback id callback => .edit id fun _ => some callback
    | .createScope | .setCode .. | .appendCode .. => .nothing

/-- The ids that the events give out for scopes of the kind, in order. -/
def issued (kind : ScopeKind σ α) (events : List (TableEvent σ)) : List ScopeId :=
  events.filterMap fun e => (kind.request e.action).issues e.answer

/-- What the events make of the content of a scope of the kind. -/
def content (kind : ScopeKind σ α) (id : ScopeId) (events : List (TableEvent σ)) : α :=
  events.foldl (fun a e => (kind.request e.action).edits id a e.answer) kind.initial

/-- The answer to an action after the events, if the action is about scopes of the kind. -/
def answer? (kind : ScopeKind σ α) (events : List (TableEvent σ)) (action : TableAction σ) :
    Option (Except Fault (Option ScopeId)) :=
  (kind.request action).answer? kind.unknown (kind.issued events)

variable (kind : ScopeKind σ α) (events : List (TableEvent σ)) (e : TableEvent σ)

lemma issued_append_singleton :
    kind.issued (events ++ [e]) = kind.issued events ++ ((kind.request e.action).issues e.answer).toList := by
  rw [issued, List.filterMap_append]
  cases h : (kind.request e.action).issues e.answer <;> simp [issued, h]

lemma content_append_singleton (id : ScopeId) :
    kind.content id (events ++ [e]) = (kind.request e.action).edits id (kind.content id events) e.answer := by
  simp [content]

end ScopeKind

/-! ## Serving a request -/

/-- The scopes of one kind: how many there are, and the id and content of the one that an id resolves to. -/
structure Shelf (α : Type) where
  count : Nat
  lookup : ScopeId → Option (ScopeId × α)

namespace Shelf

variable {α β : Type}

/-- The id that the next scope gets. -/
def newId (shelf : Shelf α) : ScopeId := ⟨UInt32.ofNat shelf.count⟩

def add (shelf : Shelf α) (a : α) : Shelf α :=
  ⟨shelf.count + 1, Function.update shelf.lookup shelf.newId (some (shelf.newId, a))⟩

def put (shelf : Shelf α) (id : ScopeId) (entry : ScopeId × α) : Shelf α :=
  { shelf with lookup := Function.update shelf.lookup id (some entry) }

lemma index_newId {shelf : Shelf α} (hroom : shelf.count < ScopeId.invalid.index) :
    shelf.newId.index = shelf.count :=
  ScopeId.index_ofNat (Nat.lt_trans hroom (by decide))

lemma lookup_add (shelf : Shelf α) (a : α) (id : ScopeId) :
    (shelf.add a).lookup id = if id = shelf.newId then some (shelf.newId, a) else shelf.lookup id :=
  Function.update_apply shelf.lookup shelf.newId (some (shelf.newId, a)) id

lemma lookup_put (shelf : Shelf α) (target : ScopeId) (entry : ScopeId × α) (id : ScopeId) :
    (shelf.put target entry).lookup id = if id = target then some entry else shelf.lookup id :=
  Function.update_apply shelf.lookup target (some entry) id

/-- The scopes of an array, each at the position of its id. -/
def ofArray (entry : β → ScopeId × α) (scopes : Array β) : Shelf α where
  count := scopes.size
  lookup id := scopes[id.index]?.map entry

lemma ofArray_push (entry : β → ScopeId × α) {scopes : Array β} (hroom : scopes.size < ScopeId.invalid.index)
    {new : β} {a : α} (hentry : entry new = ((ofArray entry scopes).newId, a)) :
    ofArray entry (scopes.push new) = (ofArray entry scopes).add a := by
  have hindex : (ofArray entry scopes).newId.index = scopes.size := index_newId hroom
  have hlookup : (ofArray entry (scopes.push new)).lookup = ((ofArray entry scopes).add a).lookup := by
    funext other
    rw [lookup_add]
    change (scopes.push new)[other.index]?.map entry = _
    rw [Array.getElem?_push, ← hindex]
    by_cases hother : other = (ofArray entry scopes).newId
    · simp [hother, hentry]
    · have hne : other.index ≠ (ofArray entry scopes).newId.index := fun h => hother (ScopeId.eq_of_index_eq h)
      rw [if_neg hne, if_neg hother]
      rfl
  have hcount : (ofArray entry (scopes.push new)).count = ((ofArray entry scopes).add a).count :=
    Array.size_push new
  exact congrArg₂ Shelf.mk hcount hlookup

lemma ofArray_set (entry : β → ScopeId × α) {scopes : Array β} {old : β} {id : ScopeId}
    (hold : scopes[id.index]? = some old) (new : β) :
    ofArray entry (scopes.setIfInBounds id.index new) = (ofArray entry scopes).put id (entry new) := by
  have hlt : id.index < scopes.size := (Array.getElem?_eq_some_iff.mp hold).1
  have hlookup : (ofArray entry (scopes.setIfInBounds id.index new)).lookup =
      ((ofArray entry scopes).put id (entry new)).lookup := by
    funext other
    rw [lookup_put]
    change (scopes.setIfInBounds id.index new)[other.index]?.map entry = _
    rw [Array.getElem?_setIfInBounds]
    by_cases hother : other = id
    · simp [hother, hlt]
    · have hne : id.index ≠ other.index := fun h => hother (ScopeId.eq_of_index_eq h.symm)
      rw [if_neg hne, if_neg hother]
      rfl
  have hcount : (ofArray entry (scopes.setIfInBounds id.index new)).count =
      ((ofArray entry scopes).put id (entry new)).count := Array.size_setIfInBounds
  exact congrArg₂ Shelf.mk hcount hlookup

end Shelf

/-- What becomes of the scopes of a kind when a request is answered. -/
inductive Served {α : Type} (initial : α) (unknown : ScopeId → Fault) (shelf : Shelf α) :
    Request α → Except Fault (Option ScopeId) → Shelf α → Prop where
  | nothing {answer : Except Fault (Option ScopeId)} : Served initial unknown shelf .nothing answer shelf
  | created (room : shelf.count < ScopeId.invalid.index) (free : shelf.lookup shelf.newId = none) :
      Served initial unknown shelf .create (.ok (some shelf.newId)) (shelf.add initial)
  | full (full : ScopeId.invalid.index ≤ shelf.count) :
      Served initial unknown shelf .create (.error (.scopeTableFull shelf.count)) shelf
  | edited {target own : ScopeId} {f : α → α} {a : α} (found : shelf.lookup target = some (own, a)) :
      Served initial unknown shelf (.edit target f) (.ok none) (shelf.put target (own, f a))
  | missing {target : ScopeId} {f : α → α} (missing : shelf.lookup target = none) :
      Served initial unknown shelf (.edit target f) (.error (unknown target)) shelf

section

variable {α : Type} {initial : α} {unknown : ScopeId → Fault} {issued : List ScopeId} {content : ScopeId → α}
  {shelf next : Shelf α} {request : Request α} {answer : Except Fault (Option ScopeId)} {id : ScopeId}

lemma Served.lookup_of_ne (h : Served initial unknown shelf request answer next) {entry : ScopeId × α}
    (hentry : shelf.lookup id = some entry) (hid : request.target? ≠ some id) : next.lookup id = some entry := by
  cases h with
  | nothing => exact hentry
  | created room free =>
    have hne : id ≠ shelf.newId := by
      rintro rfl
      rw [free] at hentry
      cases hentry
    rw [Shelf.lookup_add, if_neg hne, hentry]
  | full => exact hentry
  | @edited target own f a found =>
    have hne : id ≠ target := by
      rintro rfl
      exact hid rfl
    rw [Shelf.lookup_put, if_neg hne, hentry]
  | missing => exact hentry

/-- The scopes of a kind are those whose ids were given out, each with its own id and the content that is said. -/
structure Accounts {α : Type} (initial : α) (issued : List ScopeId) (content : ScopeId → α) (shelf : Shelf α) :
    Prop where
  lookup_eq : ∀ id, shelf.lookup id = if id ∈ issued then some (id, content id) else none
  count_eq : shelf.count = issued.length
  count_le : shelf.count ≤ ScopeId.invalid.index
  index_eq : ∀ (i : Nat) id, issued[i]? = some id → id.index = i
  unissued : ∀ id ∉ issued, content id = initial

namespace Accounts

lemma index_lt (h : Accounts initial issued content shelf) (hid : id ∈ issued) : id.index < shelf.count := by
  obtain ⟨i, hi⟩ := List.mem_iff_getElem?.mp hid
  have hlt : i < issued.length := (List.getElem?_eq_some_iff.mp hi).1
  rw [h.index_eq i id hi, h.count_eq]
  exact hlt

lemma invalid_not_issued (h : Accounts initial issued content shelf) : ScopeId.invalid ∉ issued := by
  intro hid
  have hlt := h.index_lt hid
  have hle := h.count_le
  omega

lemma lookup_eq_some_iff (h : Accounts initial issued content shelf) {entry : ScopeId × α} :
    shelf.lookup id = some entry ↔ id ∈ issued ∧ entry = (id, content id) := by
  rw [h.lookup_eq]
  split_ifs with hid <;> simp [hid, eq_comm]

lemma lookup_eq_none_iff (h : Accounts initial issued content shelf) : shelf.lookup id = none ↔ id ∉ issued := by
  rw [h.lookup_eq]
  split_ifs with hid <;> simp [hid]

lemma add (h : Accounts initial issued content shelf) (hroom : shelf.count < ScopeId.invalid.index) :
    Accounts initial (issued ++ [shelf.newId]) content (shelf.add initial) := by
  have hindex := Shelf.index_newId hroom
  have hfresh : shelf.newId ∉ issued := by
    intro hmem
    have hlt := h.index_lt hmem
    omega
  constructor
  · intro id
    rw [Shelf.lookup_add]
    by_cases hid : id = shelf.newId
    -- edits of a scope that is not there yet have failed, so nothing is left over from them
    · simp [hid, h.unissued shelf.newId hfresh]
    · simp [hid, h.lookup_eq]
  · simp [Shelf.add, h.count_eq]
  · exact hroom
  · intro i id hi
    have hcount := h.count_eq
    rw [List.getElem?_append] at hi
    split_ifs at hi with hlt
    · exact h.index_eq i id hi
    · rw [List.getElem?_singleton] at hi
      split_ifs at hi with hlast
      cases hi
      omega
  · intro id hid
    rw [List.mem_append, not_or] at hid
    exact h.unissued id hid.1

lemma put (h : Accounts initial issued content shelf) {target own : ScopeId} {f : α → α} {a : α}
    (hfound : shelf.lookup target = some (own, a)) :
    Accounts initial issued (fun id => if target = id then f (content id) else content id)
      (shelf.put target (own, f a)) := by
  obtain ⟨hissued, hentry⟩ := h.lookup_eq_some_iff.mp hfound
  cases hentry
  constructor
  · intro id
    rw [Shelf.lookup_put]
    by_cases hid : id = target
    · simp [hid, hissued]
    · simp [hid, Ne.symm hid, h.lookup_eq]
  · exact h.count_eq
  · exact h.count_le
  · exact h.index_eq
  · intro id hid
    have hne : target ≠ id := by
      rintro rfl
      exact hid hissued
    rw [if_neg hne, h.unissued id hid]

lemma step (h : Accounts initial issued content shelf) (hserved : Served initial unknown shelf request answer next) :
    Accounts initial (issued ++ (request.issues answer).toList) (fun id => request.edits id (content id) answer)
      next := by
  cases hserved with
  | created room free => exact h.add room
  | edited found =>
    rw [Request.issues, Option.toList_none, List.append_nil]
    exact h.put found
  | nothing => simpa [Request.issues, Request.edits] using h
  | full => simpa [Request.issues, Request.edits] using h
  | missing => simpa [Request.issues, Request.edits] using h

lemma answer?_eq (h : Accounts initial issued content shelf)
    (hserved : Served initial unknown shelf request answer next) (hrequest : request ≠ .nothing) :
    request.answer? unknown issued = some answer := by
  cases hserved with
  | nothing => exact absurd rfl hrequest
  | created room free =>
    rw [h.count_eq] at room
    rw [Request.answer?, if_pos room, Shelf.newId, h.count_eq]
  | full full =>
    rw [h.count_eq] at full ⊢
    rw [Request.answer?, if_neg (Nat.not_lt.mpr full)]
  | edited found => rw [Request.answer?, if_pos (h.lookup_eq_some_iff.mp found).1]
  | missing missing => rw [Request.answer?, if_neg (h.lookup_eq_none_iff.mp missing)]

end Accounts

end

/-! ## Tables -/

namespace ScopeTable

variable {σ : Type} {table after : ScopeTable σ} {id : ScopeId}

def internalShelf (table : ScopeTable σ) : Shelf Bytes := .ofArray (fun s => (s.id, s.code)) table.internal

def externalShelf (table : ScopeTable σ) : Shelf (Option (Callback σ)) :=
  .ofArray (fun s => (s.id, s.callback)) table.external

lemma scope_eq (table : ScopeTable σ) (id : ScopeId) :
    table.scope id =
      (table.internalShelf.lookup id).elim (.error (.unknownScope id)) fun entry => .ok ⟨entry.1, entry.2⟩ := by
  change _ = (table.internal[id.index]?.map _).elim _ _
  unfold scope
  cases table.internal[id.index]? <;> rfl

lemma externalScope_eq (table : ScopeTable σ) (id : ScopeId) :
    table.externalScope id =
      (table.externalShelf.lookup id).elim (.error (.unknownExternalScope id)) fun entry => .ok ⟨entry.1, entry.2⟩ := by
  change _ = (table.external[id.index]?.map _).elim _ _
  unfold externalScope
  cases table.external[id.index]? <;> rfl

lemma scope_eq_ok_iff {s : Scope} : table.scope id = .ok s ↔ table.internalShelf.lookup id = some (s.id, s.code) := by
  rw [scope_eq]
  cases table.internalShelf.lookup id with
  | none => simp
  | some entry =>
    cases s
    simp [Prod.ext_iff]

lemma externalScope_eq_ok_iff {s : ExternalScope σ} :
    table.externalScope id = .ok s ↔ table.externalShelf.lookup id = some (s.id, s.callback) := by
  rw [externalScope_eq]
  cases table.externalShelf.lookup id with
  | none => simp
  | some entry =>
    cases s
    simp [Prod.ext_iff]

/-! ### Single actions -/

/-- What an action can do: its request is served for either kind of scopes, and if it fails the table is as it was. -/
structure Performed (action : TableAction σ) (table : ScopeTable σ) (answer : Except Fault (Option ScopeId))
    (after : ScopeTable σ) : Prop where
  internal : Served [] .unknownScope table.internalShelf (ScopeKind.internal.request action) answer
    after.internalShelf
  external : Served none .unknownExternalScope table.externalShelf (ScopeKind.external.request action) answer
    after.externalShelf
  unchanged : ∀ fault, answer = .error fault → after = table

namespace Performed

variable {action : TableAction σ} {answer : Except Fault (Option ScopeId)}

lemma scope_of_ne (h : Performed action table answer after) {s : Scope} (hs : table.scope id = .ok s)
    (htarget : (ScopeKind.internal.request action).target? ≠ some id) : after.scope id = .ok s :=
  scope_eq_ok_iff.mpr (h.internal.lookup_of_ne (scope_eq_ok_iff.mp hs) htarget)

lemma externalScope_of_ne (h : Performed action table answer after) {s : ExternalScope σ}
    (hs : table.externalScope id = .ok s) (htarget : (ScopeKind.external.request action).target? ≠ some id) :
    after.externalScope id = .ok s :=
  externalScope_eq_ok_iff.mpr (h.external.lookup_of_ne (externalScope_eq_ok_iff.mp hs) htarget)

end Performed

lemma createExternal_of_lt (h : table.external.size < ScopeId.invalid.index) :
    createExternal table = .ok ⟨UInt32.ofNat table.external.size⟩
      { table with external := table.external.push ⟨⟨UInt32.ofNat table.external.size⟩, none⟩ } := by
  rw [createExternal, nextId_of_lt h]

lemma createExternal_of_ge (h : ScopeId.invalid.index ≤ table.external.size) :
    createExternal table = .error (.scopeTableFull table.external.size) table := by
  rw [createExternal, nextId_of_ge h]

section

variable {α β : Type} {initial : α} {unknown : ScopeId → Fault} {entry : β → ScopeId × α} {scopes : Array β}
  {f : α → α}

lemma served_created {new : β} (hroom : scopes.size < ScopeId.invalid.index)
    (hentry : entry new = ((Shelf.ofArray entry scopes).newId, initial)) :
    Served initial unknown (.ofArray entry scopes) .create (.ok (some ⟨UInt32.ofNat scopes.size⟩))
      (.ofArray entry (scopes.push new)) := by
  have hfree : (Shelf.ofArray entry scopes).lookup (Shelf.ofArray entry scopes).newId = none := by
    change scopes[(Shelf.ofArray entry scopes).newId.index]?.map entry = none
    rw [Shelf.index_newId hroom, Shelf.ofArray, Array.getElem?_size, Option.map_none]
  rw [Shelf.ofArray_push entry hroom hentry]
  exact .created hroom hfree

lemma served_edited {old new : β} (hold : scopes[id.index]? = some old)
    (hentry : entry new = ((entry old).1, f (entry old).2)) :
    Served initial unknown (.ofArray entry scopes) (.edit id f) (.ok none)
      (.ofArray entry (scopes.setIfInBounds id.index new)) := by
  have hfound : (Shelf.ofArray entry scopes).lookup id = some ((entry old).1, (entry old).2) := by
    change scopes[id.index]?.map entry = _
    rw [hold, Option.map_some]
  rw [Shelf.ofArray_set entry hold new, hentry]
  exact .edited hfound

lemma served_missing (hnone : scopes[id.index]? = none) :
    Served initial unknown (.ofArray entry scopes) (.edit id f) (.error (unknown id)) (.ofArray entry scopes) := by
  apply Served.missing
  change scopes[id.index]?.map entry = none
  rw [hnone, Option.map_none]

end

lemma performed_createScope (table : ScopeTable σ) :
    ∃ answer after, attempt TableAction.createScope.perform table = (answer, after) ∧
      Performed .createScope table answer after := by
  by_cases hroom : table.internal.size < ScopeId.invalid.index
  · refine ⟨_, _, attempt_map_of_ok (createScope_of_lt hroom) some, ?_⟩
    exact ⟨served_created hroom rfl, .nothing, nofun⟩
  · have hfull : ScopeId.invalid.index ≤ table.internal.size := Nat.le_of_not_lt hroom
    refine ⟨_, _, attempt_map_of_error (createScope_of_ge hfull) some, ?_⟩
    exact ⟨.full hfull, .nothing, fun _ _ => rfl⟩

lemma performed_createExternal (table : ScopeTable σ) :
    ∃ answer after, attempt TableAction.createExternal.perform table = (answer, after) ∧
      Performed .createExternal table answer after := by
  by_cases hroom : table.external.size < ScopeId.invalid.index
  · refine ⟨_, _, attempt_map_of_ok (createExternal_of_lt hroom) some, ?_⟩
    exact ⟨.nothing, served_created hroom rfl, nofun⟩
  · have hfull : ScopeId.invalid.index ≤ table.external.size := Nat.le_of_not_lt hroom
    refine ⟨_, _, attempt_map_of_error (createExternal_of_ge hfull) some, ?_⟩
    exact ⟨.nothing, .full hfull, fun _ _ => rfl⟩

lemma performed_editCode (table : ScopeTable σ) {action : TableAction σ} {id : ScopeId} {f : Bytes → Bytes}
    (hperform : action.perform = do editCode id f; return none)
    (hinternal : ScopeKind.internal.request action = .edit id f)
    (hexternal : ScopeKind.external.request action = .nothing) :
    ∃ answer after, attempt action.perform table = (answer, after) ∧ Performed action table answer after := by
  rw [hperform]
  cases hs : table.internal[id.index]? with
  | some s =>
    refine ⟨_, _, attempt_map_of_ok (editCode_of_scope hs f) fun _ => none, ?_, ?_, nofun⟩
    · rw [hinternal]
      exact served_edited hs rfl
    · rw [hexternal]
      exact .nothing
  | none =>
    have hfail : editCode id f table = .error (.unknownScope id) table := by rw [editCode, scope, hs]
    refine ⟨_, _, attempt_map_of_error hfail fun _ => none, ?_, ?_, fun _ _ => rfl⟩
    · rw [hinternal]
      exact served_missing hs
    · rw [hexternal]
      exact .nothing

lemma performed_setCallback (table : ScopeTable σ) (id : ScopeId) (callback : Callback σ) :
    ∃ answer after, attempt (TableAction.setCallback id callback).perform table = (answer, after) ∧
      Performed (.setCallback id callback) table answer after := by
  cases hs : table.external[id.index]? with
  | some s =>
    have hset : setCallback id callback table = .ok () { table with
        external := table.external.setIfInBounds id.index { s with callback := some callback } } := by
      rw [setCallback, externalScope, hs]
    refine ⟨_, _, attempt_map_of_ok hset fun _ => none, ?_⟩
    exact ⟨.nothing, served_edited hs rfl, nofun⟩
  | none =>
    have hfail : setCallback id callback table = .error (.unknownExternalScope id) table := by
      rw [setCallback, externalScope, hs]
    refine ⟨_, _, attempt_map_of_error hfail fun _ => none, ?_⟩
    exact ⟨.nothing, served_missing hs, fun _ _ => rfl⟩

lemma exists_performed (action : TableAction σ) (table : ScopeTable σ) :
    ∃ answer after, attempt action.perform table = (answer, after) ∧ Performed action table answer after := by
  cases action with
  | createScope => exact performed_createScope table
  | createExternal => exact performed_createExternal table
  | setCode id code => exact performed_editCode table rfl rfl rfl
  | appendCode id code => exact performed_editCode table rfl rfl rfl
  | setCallback id callback => exact performed_setCallback table id callback

/-! ### Histories -/

/-- The scopes of a table are as the events say. -/
structure Recorded (events : List (TableEvent σ)) (table : ScopeTable σ) : Prop where
  internal : Accounts [] (ScopeKind.internal.issued events) (ScopeKind.internal.content · events) table.internalShelf
  external : Accounts none (ScopeKind.external.issued events) (ScopeKind.external.content · events)
    table.externalShelf

lemma recorded_empty : Recorded [] (empty : ScopeTable σ) where
  internal := ⟨fun _ => rfl, rfl, Nat.zero_le _, nofun, fun _ _ => rfl⟩
  external := ⟨fun _ => rfl, rfl, Nat.zero_le _, nofun, fun _ _ => rfl⟩

namespace Recorded

variable {events : List (TableEvent σ)} {action : TableAction σ} {answer : Except Fault (Option ScopeId)}

lemma scope_eq (h : Recorded events table) (id : ScopeId) : table.scope id =
    if id ∈ ScopeKind.internal.issued events then .ok ⟨id, ScopeKind.internal.content id events⟩
    else .error (.unknownScope id) := by
  rw [ScopeTable.scope_eq, h.internal.lookup_eq]
  split_ifs <;> rfl

lemma externalScope_eq (h : Recorded events table) (id : ScopeId) : table.externalScope id =
    if id ∈ ScopeKind.external.issued events then .ok ⟨id, ScopeKind.external.content id events⟩
    else .error (.unknownExternalScope id) := by
  rw [ScopeTable.externalScope_eq, h.external.lookup_eq]
  split_ifs <;> rfl

lemma answer?_eq (h : Recorded events table) (hperformed : Performed action table answer after) :
    (ScopeKind.internal.answer? events action).or (ScopeKind.external.answer? events action) = some answer := by
  -- every action is about scopes of exactly one kind
  have hinternal : ScopeKind.internal.request action ≠ .nothing →
      ScopeKind.internal.answer? events action = some answer := h.internal.answer?_eq hperformed.internal
  have hexternal : ScopeKind.external.request action ≠ .nothing →
      ScopeKind.external.answer? events action = some answer := h.external.answer?_eq hperformed.external
  cases action with
  | createScope => rw [hinternal nofun, Option.some_or]
  | setCode id code => rw [hinternal nofun, Option.some_or]
  | appendCode id code => rw [hinternal nofun, Option.some_or]
  | createExternal => exact hexternal nofun
  | setCallback id callback => exact hexternal nofun

lemma step (h : Recorded events table) (hperformed : Performed action table answer after) :
    Recorded (events ++ [⟨action, answer⟩]) after := by
  have hinternal := h.internal.step hperformed.internal
  have hexternal := h.external.step hperformed.external
  constructor
  · simpa only [ScopeKind.issued_append_singleton, ScopeKind.content_append_singleton] using hinternal
  · simpa only [ScopeKind.issued_append_singleton, ScopeKind.content_append_singleton] using hexternal

lemma history (h : Recorded events table) (actions : List (TableAction σ)) :
    Recorded (events ++ (table.history actions).1) (table.history actions).2 := by
  induction actions generalizing table events with
  | nil => simpa [ScopeTable.history] using h
  | cons action actions ih =>
    obtain ⟨answer, after, hattempt, hperformed⟩ := exists_performed action table
    have hlater := ih (h.step hperformed)
    rw [List.append_assoc, List.singleton_append] at hlater
    simpa only [ScopeTable.history, hattempt] using hlater

end Recorded

/-- After every sequence of actions on an empty table, the failed ones included, the `i`th scope that was created of a
kind has the id `i`, and an id resolves exactly if it was given out for that kind. It resolves to the scope with that
very id, which holds the code that its edits make up, or the callback that was attached last. The invalid id is never
given out. One more action is answered as the ids given out so far say: an edit goes through exactly if its scope is
there, and a scope is created as long as ids are left. The action leaves every scope alone that it is not about, and
if it fails, the whole table. -/
theorem history_determines_scopes (actions : List (TableAction σ)) :
    let events := (empty.history actions).1
    let table := (empty.history actions).2
    ((∀ (i : Nat) id, (ScopeKind.internal.issued events)[i]? = some id → id.index = i) ∧
      ∀ (i : Nat) id, (ScopeKind.external.issued events)[i]? = some id → id.index = i) ∧
    (∀ id, table.scope id =
      if id ∈ ScopeKind.internal.issued events then .ok ⟨id, ScopeKind.internal.content id events⟩
      else .error (.unknownScope id)) ∧
    (∀ id, table.externalScope id =
      if id ∈ ScopeKind.external.issued events then .ok ⟨id, ScopeKind.external.content id events⟩
      else .error (.unknownExternalScope id)) ∧
    (ScopeId.invalid ∉ ScopeKind.internal.issued events ∧ ScopeId.invalid ∉ ScopeKind.external.issued events ∧
      table.scope .invalid = .error (.unknownScope .invalid) ∧
      table.externalScope .invalid = .error (.unknownExternalScope .invalid)) ∧
    ∀ action answer after, attempt action.perform table = (answer, after) →
      (ScopeKind.internal.answer? events action).or (ScopeKind.external.answer? events action) = some answer ∧
      (∀ id s, table.scope id = .ok s → (ScopeKind.internal.request action).target? ≠ some id →
        after.scope id = .ok s) ∧
      (∀ id s, table.externalScope id = .ok s → (ScopeKind.external.request action).target? ≠ some id →
        after.externalScope id = .ok s) ∧
      ∀ fault, answer = .error fault → after = table := by
  intro events table
  have hrecorded : Recorded events table := recorded_empty.history actions
  have hinvalid := hrecorded.internal.invalid_not_issued
  have hinvalid' := hrecorded.external.invalid_not_issued
  refine ⟨⟨hrecorded.internal.index_eq, hrecorded.external.index_eq⟩, hrecorded.scope_eq,
    hrecorded.externalScope_eq, ⟨hinvalid, hinvalid', ?_, ?_⟩, ?_⟩
  · rw [hrecorded.scope_eq, if_neg hinvalid]
  · rw [hrecorded.externalScope_eq, if_neg hinvalid']
  · intro action answer after hattempt
    obtain ⟨answer', after', hattempt', hperformed⟩ := exists_performed action table
    rw [hattempt] at hattempt'
    cases hattempt'
    exact ⟨hrecorded.answer?_eq hperformed, fun _ _ => hperformed.scope_of_ne,
      fun _ _ => hperformed.externalScope_of_ne, hperformed.unchanged⟩

def idle : Callback Unit := fun state => .ok () state

/-- Scopes of both kinds, created and edited in turn. The first action, the second callback and the last action fail. -/
def busy : List (TableAction Unit) :=
  [.setCode ⟨0⟩ [9], .createScope, .createExternal, .createScope, .appendCode ⟨1⟩ [0], .setCode ⟨1⟩ [4],
    .appendCode ⟨0⟩ [0], .setCallback ⟨0⟩ idle, .setCallback ⟨1⟩ idle, .appendCode ⟨1⟩ [7],
    .appendCode .invalid [1]]

theorem busy_determines_scopes :
    (empty.history busy).2.scope ⟨1⟩ = .ok ⟨⟨1⟩, [4, 7]⟩ ∧
      (empty.history busy).2.externalScope ⟨0⟩ = .ok ⟨⟨0⟩, some idle⟩ ∧
      (empty.history busy).2.externalScope ⟨1⟩ = .error (.unknownExternalScope ⟨1⟩) ∧
      (attempt TableAction.createScope.perform (empty.history busy).2).1 = .ok (some ⟨2⟩) ∧
      (attempt (TableAction.setCode ⟨0⟩ []).perform (empty.history busy).2).2.scope ⟨1⟩ = .ok ⟨⟨1⟩, [4, 7]⟩ ∧
      (attempt (TableAction.setCode ⟨2⟩ []).perform (empty.history busy).2).2 = (empty.history busy).2 := by
  obtain ⟨-, hscope, hexternal, -, hnext⟩ := history_determines_scopes busy
  have hfirst : (empty.history busy).2.scope ⟨1⟩ = .ok ⟨⟨1⟩, [4, 7]⟩ := hscope ⟨1⟩
  refine ⟨hfirst, hexternal ⟨0⟩, hexternal ⟨1⟩, ?_, ?_, ?_⟩
  · exact (Option.some.inj (hnext .createScope _ _ rfl).1).symm
  · exact (hnext (.setCode ⟨0⟩ []) _ _ rfl).2.1 ⟨1⟩ _ hfirst (by decide)
  · exact (hnext (.setCode ⟨2⟩ []) _ _ rfl).2.2.2 (.unknownScope ⟨2⟩) rfl

end ScopeTable

end ScopeMachine
