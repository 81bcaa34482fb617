import Mathlib.Algebra.Ring.Nat
import ScopeMachine.Script
import ScopeMachine.Proofs.LiveBytes
import ScopeMachine.Proofs.OperationSemantics

/-!
# The stack as a list of bytes

A `ByteStack` is a list of bytes and a capacity, with nothing behind it. Over every sequence of actions, the ones that
fail included, the evaluation stack gives the answers of a byte stack, and its live bytes are those of the byte stack
(`Stack.exchanges_as_byteStack`). So the bytes that earlier pops left above the top never show.
-/

namespace ScopeMachine

/-! ## Sequences of actions -/

section Exchanges

variable {S T : Type}

/-- An action on a stack, the answer to it and the stack that it leaves. -/
structure Exchange (S : Type) where
  action : StackAction
  answer : Except Fault (Option Int)
  after : S

def Exchange.map (f : S → T) (e : Exchange S) : Exchange T := ⟨e.action, e.answer, f e.after⟩

/-- Performs actions in order. A fault is an answer, and the next action is performed all the same. -/
def exchanges (perform : StackAction → EStateM Fault S (Option Int)) : List StackAction → S → List (Exchange S)
  | [], _ => []
  | action :: actions, s =>
    let (answer, after) := attempt (perform action) s
    ⟨action, answer, after⟩ :: exchanges perform actions after

def afterAll (perform : StackAction → EStateM Fault S (Option Int)) (actions : List StackAction) (s : S) : S :=
  actions.foldl (fun s action => (attempt (perform action) s).2) s

variable {perform : StackAction → EStateM Fault S (Option Int)}

lemma afterAll_cons (action : StackAction) (actions : List StackAction) (s : S) :
    afterAll perform (action :: actions) s = afterAll perform actions (attempt (perform action) s).2 := rfl

lemma afterAll_append (actions actions' : List StackAction) (s : S) :
    afterAll perform (actions ++ actions') s = afterAll perform actions' (afterAll perform actions s) :=
  List.foldl_append

lemma exchanges_append (actions actions' : List StackAction) (s : S) :
    exchanges perform (actions ++ actions') s =
      exchanges perform actions s ++ exchanges perform actions' (afterAll perform actions s) := by
  induction actions generalizing s with
  | nil => rfl
  | cons action actions ih => simp [exchanges, afterAll, ih]

end Exchanges

/-! ## Stacks of bytes -/

/-- A list of bytes, the topmost one last, and a bound on its length. -/
structure ByteStack where
  capacity : Nat
  bytes : Bytes
deriving DecidableEq, Repr

namespace ByteStack

def remaining (b : ByteStack) : Nat := b.capacity - b.bytes.length

def push (t : CellType) (v : t.Value) : EStateM Fault ByteStack Unit := fun b =>
  if t.width > b.remaining then .error (.stackOverflow t.width b.remaining) b
  else .ok () { b with bytes := b.bytes ++ t.encode v }

def top (t : CellType) : EStateM Fault ByteStack t.Value := fun b =>
  if b.bytes.length < t.width then .error (.stackUnderflow t.width b.bytes.length) b
  else .ok (t.decode (b.bytes.drop (b.bytes.length - t.width))) b

def pop (t : CellType) : EStateM Fault ByteStack t.Value := fun b =>
  if b.bytes.length < t.width then .error (.stackUnderflow t.width b.bytes.length) b
  else .ok (t.decode (b.bytes.drop (b.bytes.length - t.width)))
    { b with bytes := b.bytes.take (b.bytes.length - t.width) }

def get (t : CellType) (a : StackAddress) : EStateM Fault ByteStack t.Value := fun b =>
  if a.offset.toNat + t.width > b.bytes.length then .error (.invalidStackAddress a t.width 0 b.bytes.length) b
  else .ok (t.decode ((b.bytes.drop a.offset.toNat).take t.width)) b

def set (t : CellType) (a : StackAddress) (v : t.Value) : EStateM Fault ByteStack Unit := fun b =>
  if a.offset.toNat + t.width > b.bytes.length then .error (.invalidStackAddress a t.width 0 b.bytes.length) b
  else .ok () { b with
    bytes := b.bytes.take a.offset.toNat ++ t.encode v ++ b.bytes.drop (a.offset.toNat + t.width) }

def perform : StackAction → EStateM Fault ByteStack (Option Int)
  | .push t v => do push t v; return none
  | .pop t => do return some (t.toInt (← pop t))
  | .peek t => do return some (t.toInt (← top t))
  | .get t a => do return some (t.toInt (← get t a))
  | .set t a v => do set t a v; return none

end ByteStack

namespace Stack

/-- What shows of a stack. -/
def view (s : Stack) : ByteStack := ⟨s.capacity, s.live⟩

lemma bytes_view (s : Stack) : s.view.bytes = s.live := rfl

lemma remaining_view (s : Stack) : s.view.remaining = s.remaining := (remaining_eq s).symm

lemma length_live_le (s : Stack) : s.live.length ≤ s.capacity := by
  rw [length_live]
  exact s.top_le.trans s.size_le

/-! ## One action -/

/-- How a request ends on the stack `s` and on what shows of it. Either both grant it with the same value and what is
left shows alike, or both refuse it with the same fault, and then no byte has changed, not even a dead one. A refusal
is never about bytes that cannot be read. -/
inductive Mirrored {α : Type} (s : Stack) :
    EStateM.Result Fault Stack α → EStateM.Result Fault ByteStack α → Prop where
  | granted (a : α) {after : Stack} (capacity_eq : after.capacity = s.capacity) :
      Mirrored s (.ok a after) (.ok a after.view)
  | refused {fault : Fault} (readable : ∀ reason, fault ≠ .decoding reason) :
      Mirrored s (.error fault s) (.error fault s.view)

variable {s : Stack}

lemma push_mirrored (t : CellType) (v : t.Value) (s : Stack) :
    Mirrored s (push t v s) (ByteStack.push t v s.view) := by
  have hremaining := s.remaining_view
  unfold ByteStack.push
  by_cases hfull : s.remaining < t.width
  · rw [push_of_lt v hfull, if_pos (by omega), hremaining]
    exact .refused nofun
  · obtain ⟨s', hpush, hlive, hcapacity⟩ := push_of_le v (Nat.le_of_not_lt hfull)
    have hview : s'.view = { s.view with bytes := s.view.bytes ++ t.encode v } := by
      simp [view, hlive, hcapacity]
    rw [hpush, if_neg (by omega), ← hview]
    exact .granted () hcapacity

lemma peek_mirrored (t : CellType) (s : Stack) : Mirrored s (peek t s) (ByteStack.top t s.view) := by
  unfold ByteStack.top
  rw [bytes_view]
  by_cases hfew : s.live.length < t.width
  · rw [peek_of_lt hfew, if_pos hfew]
    exact .refused nofun
  · rw [peek_of_le (Nat.le_of_not_lt hfew), if_neg hfew]
    exact .granted _ rfl

lemma pop_mirrored (t : CellType) (s : Stack) : Mirrored s (pop t s) (ByteStack.pop t s.view) := by
  unfold ByteStack.pop
  rw [bytes_view]
  by_cases hfew : s.live.length < t.width
  · rw [pop_of_lt hfew, if_pos hfew]
    exact .refused nofun
  · obtain ⟨s', hpop, hlive, hcapacity⟩ := pop_of_le (Nat.le_of_not_lt hfew)
    have hview : s'.view = { s.view with bytes := s.live.take (s.live.length - t.width) } := by
      simp [view, hlive, hcapacity]
    rw [hpop, if_neg hfew, ← hview]
    exact .granted _ hcapacity

lemma get_mirrored (t : CellType) (a : StackAddress) (s : Stack) :
    Mirrored s (get t a s) (ByteStack.get t a s.view) := by
  unfold ByteStack.get
  rw [bytes_view]
  by_cases hlive : s.IsLive t a
  · have hle := isLive_iff.mp hlive
    rw [get_of_isLive hlive, if_neg (by omega)]
    exact .granted _ rfl
  · have hgt := mt isLive_iff.mpr hlive
    rw [get_of_not_isLive hlive, if_pos (by omega)]
    exact .refused nofun

lemma set_mirrored (t : CellType) (a : StackAddress) (v : t.Value) (s : Stack) :
    Mirrored s (set t a v s) (ByteStack.set t a v s.view) := by
  unfold ByteStack.set
  rw [bytes_view]
  by_cases hlive : s.IsLive t a
  · have hle := isLive_iff.mp hlive
    obtain ⟨s', hset, hcapacity, hwindow⟩ := set_of_isLive v hlive
    have hview : s'.view = { s.view with
        bytes := s.live.take a.offset.toNat ++ t.encode v ++ s.live.drop (a.offset.toNat + t.width) } := by
      simp [view, hwindow, hcapacity]
    rw [hset, if_neg (by omega), ← hview]
    exact .granted () hcapacity
  · have hgt := mt isLive_iff.mpr hlive
    rw [set_of_not_isLive v hlive, if_pos (by omega)]
    exact .refused nofun

lemma Mirrored.map {α β : Type} {x : StackM α} {y : EStateM Fault ByteStack α} (f : α → β)
    (h : Mirrored s (x s) (y s.view)) :
    Mirrored s ((do return f (← x) : StackM β) s) ((do return f (← y) : EStateM Fault ByteStack β) s.view) := by
  change Mirrored s (EStateM.bind x _ s) (EStateM.bind y _ s.view)
  unfold EStateM.bind
  generalize x s = rx, y s.view = ry at h ⊢
  cases h with
  | granted a capacity_eq => exact .granted (f a) capacity_eq
  | refused readable => exact .refused readable

lemma perform_mirrored (action : StackAction) (s : Stack) :
    Mirrored s (action.perform s) (ByteStack.perform action s.view) := by
  cases action with
  | push t v => exact (push_mirrored t v s).map fun _ => none
  | pop t => exact (pop_mirrored t s).map fun v => some (t.toInt v)
  | peek t => exact (peek_mirrored t s).map fun v => some (t.toInt v)
  | get t a => exact (get_mirrored t a s).map fun v => some (t.toInt v)
  | set t a v => exact (set_mirrored t a v s).map fun _ => none

lemma attempt_mirrored (action : StackAction) (s : Stack) :
    ∃ answer after, attempt action.perform s = (answer, after) ∧
      attempt (ByteStack.perform action) s.view = (answer, after.view) ∧ after.capacity = s.capacity ∧
      ∀ reason, answer ≠ .error (.decoding reason) := by
  have hstep := perform_mirrored action s
  unfold attempt
  generalize action.perform s = x, ByteStack.perform action s.view = y at hstep ⊢
  cases hstep with
  | granted read capacity_eq => exact ⟨.ok read, _, rfl, rfl, capacity_eq, nofun⟩
  | @refused fault readable =>
    refine ⟨.error fault, s, rfl, rfl, rfl, ?_⟩
    intro reason heq
    exact readable reason (Except.error.inj heq)

lemma eq_of_perform_error {action : StackAction} {s after : Stack} {fault : Fault}
    (h : action.perform s = .error fault after) : after = s := by
  have hstep := perform_mirrored action s
  rw [h] at hstep
  generalize ByteStack.perform action s.view = y at hstep
  cases hstep
  rfl

/-! ## Sequences -/

lemma exchanges_view (actions : List StackAction) (s : Stack) :
    (exchanges StackAction.perform actions s).map (Exchange.map view) =
      exchanges ByteStack.perform actions s.view := by
  induction actions generalizing s with
  | nil => rfl
  | cons action actions ih =>
    obtain ⟨answer, after, hs, hb, -⟩ := attempt_mirrored action s
    simp [exchanges, Exchange.map, hs, hb, ih]

lemma afterAll_view (actions : List StackAction) (s : Stack) :
    (afterAll StackAction.perform actions s).view = afterAll ByteStack.perform actions s.view := by
  induction actions generalizing s with
  | nil => rfl
  | cons action actions ih =>
    obtain ⟨answer, after, hs, hb, -⟩ := attempt_mirrored action s
    rw [afterAll_cons, afterAll_cons, hs, hb]
    exact ih after

lemma capacity_afterAll (actions : List StackAction) (s : Stack) :
    (afterAll StackAction.perform actions s).capacity = s.capacity := by
  induction actions generalizing s with
  | nil => rfl
  | cons action actions ih =>
    obtain ⟨answer, after, hs, -, hcapacity, -⟩ := attempt_mirrored action s
    rw [afterAll_cons, hs, ih, hcapacity]

lemma answer_ne_decoding {actions : List StackAction} {s : Stack} {e : Exchange Stack}
    (he : e ∈ exchanges StackAction.perform actions s) (reason : String) : e.answer ≠ .error (.decoding reason) := by
  induction actions generalizing s with
  | nil => cases he
  | cons action actions ih =>
    obtain ⟨answer, after, hs, -, -, hreadable⟩ := attempt_mirrored action s
    rw [exchanges, hs] at he
    rcases List.mem_cons.mp he with rfl | hrest
    · exact hreadable reason
    · exact ih hrest

/-- Over every sequence of actions a stack is the list of its live bytes, with its capacity: the answers are those of
the byte stack, and what shows after each action is what the byte stack is then. At no time do more bytes live than fit,
and no action fails because of bytes that cannot be read; one that fails changes nothing. Stacks that differ in dead
bytes cannot be told apart. -/
theorem exchanges_as_byteStack (s : Stack) (actions : List StackAction) :
    (exchanges StackAction.perform actions s).map (Exchange.map view) =
        exchanges ByteStack.perform actions s.view ∧
      (∀ e ∈ exchanges StackAction.perform actions s,
        e.after.live.length ≤ e.after.capacity ∧ ∀ reason, e.answer ≠ .error (.decoding reason)) ∧
      (∀ (action : StackAction) (before after : Stack) (fault : Fault),
        action.perform before = .error fault after → after = before) ∧
      (s.top = s.live.length ∧ s.remaining = s.capacity - s.live.length ∧ s.isEmpty = s.live.isEmpty ∧
        s.currentAddress = ⟨UInt64.ofNat s.live.length⟩) ∧
      ∀ s' : Stack, s'.capacity = s.capacity → s'.live = s.live →
        (exchanges StackAction.perform actions s').map (Exchange.map view) =
          (exchanges StackAction.perform actions s).map (Exchange.map view) := by
  refine ⟨exchanges_view actions s, ?_, ?_, ?_, ?_⟩
  · intro e he
    exact ⟨e.after.length_live_le, answer_ne_decoding he⟩
  · intro action before after fault h
    exact eq_of_perform_error h
  · have hlength := s.length_live
    refine ⟨hlength.symm, s.remaining_eq, ?_, ?_⟩
    · rw [isEmpty, ← hlength]
      cases s.live <;> rfl
    · rw [currentAddress, hlength]
  · intro s' hcapacity hlive
    have hview : s'.view = s.view := by simp [view, hcapacity, hlive]
    rw [exchanges_view, exchanges_view, hview]

/-- A stack with three live bytes, and four that earlier pops left above them. -/
def spent : Stack := ⟨9, #[7, 2, 3, 255, 255, 255, 255], 3, by decide, by decide⟩

/-- The live bytes and the capacity of `spent`, with nothing above the top. -/
def fresh : Stack := ⟨9, #[7, 2, 3], 3, by decide, by decide⟩

/-- Actions of several widths on `spent`. Its slots are read and written at other widths than they were pushed with, up
to the greatest address, and three of the actions fail. -/
def session : List StackAction :=
  [.pop .i16, .push .i32 (-2), .get .i64 ⟨18446744073709551615⟩, .set .i16 ⟨0⟩ 258, .get .i32 ⟨1⟩, .push .i64 7,
    .push .i32 9, .peek .stackAddress, .pop .memoryAddress, .pop .i16]

theorem spent_shows_as_fresh :
    fresh.live = spent.live ∧
      (exchanges StackAction.perform session fresh).map (Exchange.map view) =
        (exchanges StackAction.perform session spent).map (Exchange.map view) ∧
      (exchanges StackAction.perform session spent).map (·.answer) =
        [.ok (some 770), .ok none, .error (.invalidStackAddress ⟨18446744073709551615⟩ 8 0 5), .ok none,
          .ok (some (-255)), .error (.stackOverflow 8 4), .ok none, .ok (some 42949672705), .ok (some 42949672705),
          .error (.stackUnderflow 2 1)] ∧
      ∀ e ∈ exchanges StackAction.perform session spent,
        e.after.live.length ≤ e.after.capacity ∧ ∀ reason, e.answer ≠ .error (.decoding reason) := by
  obtain ⟨hview, hsound, -, -, hdead⟩ := exchanges_as_byteStack spent session
  have hanswers := congrArg (List.map (·.answer)) hview
  rw [List.map_map] at hanswers
  refine ⟨by decide, hdead fresh rfl (by decide), hanswers.trans ?_, hsound⟩
  decide +kernel

end Stack

end ScopeMachine
