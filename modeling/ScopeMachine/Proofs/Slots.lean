import Mathlib.Algebra.Ring.Nat
import Mathlib.Order.Interval.Finset.Nat
import ScopeMachine.Proofs.ByteStack

/-!
# Slots keep their values

A value on the stack stays where it was pushed while other values come and go above it. It is read back from its address
and it is popped as it was pushed, as long as its bytes stay live and no other value is written over them
(`Stack.slot_keeps_value`). The bytes are followed one by one: an action that leaves a window live and writes nothing
into it leaves every byte of the window.
-/

namespace ScopeMachine

/-- The places that the action writes to if it is granted, apart from those above the top. -/
def StackAction.overwrites : StackAction → Finset Nat
  | .set t a _ => .Ico a.offset.toNat (a.offset.toNat + t.width)
  | _ => ∅

/-- After the exchange the window of `width` bytes at `start` is live, and the exchange wrote nothing into it. -/
structure Exchange.Spares (start width : Nat) (e : Exchange ByteStack) : Prop where
  live : start + width ≤ e.after.bytes.length
  apart : e.answer.isOk → Disjoint (Finset.Ico start (start + width)) e.action.overwrites

instance (start width : Nat) (e : Exchange ByteStack) : Decidable (e.Spares start width) :=
  decidable_of_iff
    (start + width ≤ e.after.bytes.length ∧
      (e.answer.isOk → Disjoint (Finset.Ico start (start + width)) e.action.overwrites))
    ⟨fun h => ⟨h.1, h.2⟩, fun h => ⟨h.live, h.apart⟩⟩

namespace ByteStack

variable {b after : ByteStack} {action : StackAction} {answer : Except Fault (Option Int)} {start width : Nat}

/-! ## Windows that are spared -/

/-- What an action can do to the bytes: bytes are added or taken away at the top, or a window is overwritten. -/
lemma bytes_of_attempt (h : attempt (perform action) b = (answer, after)) :
    (∃ more, after.bytes = b.bytes ++ more) ∨ (∃ n, after.bytes = b.bytes.take n) ∨
      ∃ t a v, action = .set t a v ∧ answer = .ok none ∧ a.offset.toNat + t.width ≤ b.bytes.length ∧
        after.bytes = b.bytes.take a.offset.toNat ++ t.encode v ++ b.bytes.drop (a.offset.toNat + t.width) := by
  have hsame : after = b → ∃ more, after.bytes = b.bytes ++ more := by
    rintro rfl
    exact ⟨[], (List.append_nil _).symm⟩
  cases action with
  | push t v =>
    simp only [attempt, perform, push, bind, EStateM.bind] at h
    split_ifs at h
    · cases h
      exact .inl (hsame rfl)
    · cases h
      exact .inl ⟨t.encode v, rfl⟩
  | pop t =>
    simp only [attempt, perform, pop, bind, EStateM.bind] at h
    split_ifs at h
    · cases h
      exact .inl (hsame rfl)
    · cases h
      exact .inr (.inl ⟨b.bytes.length - t.width, rfl⟩)
  | peek t =>
    simp only [attempt, perform, top, bind, EStateM.bind] at h
    split_ifs at h
    · cases h
      exact .inl (hsame rfl)
    · cases h
      exact .inl (hsame rfl)
  | get t a =>
    simp only [attempt, perform, get, bind, EStateM.bind] at h
    split_ifs at h
    · cases h
      exact .inl (hsame rfl)
    · cases h
      exact .inl (hsame rfl)
  | set t a v =>
    simp only [attempt, perform, set, bind, EStateM.bind] at h
    split_ifs at h
    · cases h
      exact .inl (hsame rfl)
    · cases h
      exact .inr (.inr ⟨t, a, v, rfl, rfl, by omega, rfl⟩)

lemma getElem?_of_spares (h : attempt (perform action) b = (answer, after)) (hlive : start + width ≤ b.bytes.length)
    (hspares : Exchange.Spares start width ⟨action, answer, after⟩) {i : Nat}
    (hi : i ∈ Finset.Ico start (start + width)) : after.bytes[i]? = b.bytes[i]? := by
  have hhigh := (Finset.mem_Ico.mp hi).2
  have hafter : start + width ≤ after.bytes.length := hspares.live
  rcases bytes_of_attempt h with ⟨more, hbytes⟩ | ⟨n, hbytes⟩ | ⟨t, a, v, rfl, rfl, hwindow, hbytes⟩
  · rw [hbytes, List.getElem?_append_left (by omega)]
  · rw [hbytes, List.length_take] at hafter
    rw [hbytes, List.getElem?_take_of_lt (by omega)]
  · have hapart : i ∉ Finset.Ico a.offset.toNat (a.offset.toNat + t.width) :=
      Finset.disjoint_left.mp (hspares.apart rfl) hi
    rw [Finset.mem_Ico] at hapart
    have hlength : (b.bytes.take a.offset.toNat ++ t.encode v).length = a.offset.toNat + t.width := by
      simp only [List.length_append, List.length_take, CellType.length_encode]
      omega
    rw [hbytes]
    by_cases hbelow : i < a.offset.toNat
    · rw [List.getElem?_append_left (by omega),
        List.getElem?_append_left (by rw [List.length_take]; omega), List.getElem?_take_of_lt hbelow]
    · rw [List.getElem?_append_right (by omega), List.getElem?_drop, hlength]
      congr 1
      omega

lemma getElem?_afterAll {actions : List StackAction} (hlive : start + width ≤ b.bytes.length)
    (hspares : ∀ e ∈ exchanges perform actions b, e.Spares start width) {i : Nat}
    (hi : i ∈ Finset.Ico start (start + width)) : (afterAll perform actions b).bytes[i]? = b.bytes[i]? := by
  induction actions generalizing b with
  | nil => rfl
  | cons action actions ih =>
    rcases hattempt : attempt (perform action) b with ⟨answer, after⟩
    rw [exchanges, hattempt] at hspares
    obtain ⟨hfirst, hrest⟩ := List.forall_mem_cons.mp hspares
    rw [afterAll_cons, hattempt, ih hfirst.live hrest]
    exact getElem?_of_spares hattempt hlive hfirst hi

lemma length_afterAll {actions : List StackAction} (hlive : start + width ≤ b.bytes.length)
    (hspares : ∀ e ∈ exchanges perform actions b, e.Spares start width) :
    start + width ≤ (afterAll perform actions b).bytes.length := by
  induction actions generalizing b with
  | nil => exact hlive
  | cons action actions ih =>
    rw [exchanges] at hspares
    obtain ⟨hfirst, hrest⟩ := List.forall_mem_cons.mp hspares
    exact ih hfirst.live hrest

lemma window_afterAll {actions : List StackAction} (hlive : start + width ≤ b.bytes.length)
    (hspares : ∀ e ∈ exchanges perform actions b, e.Spares start width) :
    ((afterAll perform actions b).bytes.drop start).take width = (b.bytes.drop start).take width := by
  apply List.ext_getElem?
  intro i
  by_cases hi : i < width
  · rw [List.getElem?_take_of_lt hi, List.getElem?_take_of_lt hi, List.getElem?_drop, List.getElem?_drop]
    exact getElem?_afterAll hlive hspares (Finset.mem_Ico.mpr ⟨by omega, by omega⟩)
  · rw [List.getElem?_take_eq_none (by omega), List.getElem?_take_eq_none (by omega)]

/-! ## Pushing and popping a list of values -/

lemma attempt_push {t : CellType} (v : t.Value) (h : t.width ≤ b.remaining) :
    attempt (perform (.push t v)) b = (.ok none, { b with bytes := b.bytes ++ t.encode v }) := by
  simp only [attempt, perform, push, bind, EStateM.bind]
  rw [if_neg (by omega)]
  rfl

lemma attempt_pop (t : CellType) (v : t.Value) (b : ByteStack) :
    attempt (perform (.pop t)) { b with bytes := b.bytes ++ t.encode v } = (.ok (some (t.toInt v)), b) := by
  have hlength : (b.bytes ++ t.encode v).length = b.bytes.length + t.width := by
    rw [List.length_append, CellType.length_encode]
  simp only [attempt, perform, pop, bind, EStateM.bind]
  rw [if_neg (by omega), hlength, Nat.add_sub_cancel, List.drop_left, List.take_left, CellType.decode_encode]
  rfl

end ByteStack

/-- Pushes the values in order, and pops as many of the same types in the reverse order. -/
def StackAction.throughStack (cells : List ((t : CellType) × t.Value)) : List StackAction :=
  cells.map (fun c => .push c.1 c.2) ++ cells.reverse.map (fun c => .pop c.1)

lemma StackAction.throughStack_cons (c : (t : CellType) × t.Value) (cells : List ((t : CellType) × t.Value)) :
    throughStack (c :: cells) = .push c.1 c.2 :: (throughStack cells ++ [.pop c.1]) := by
  simp [throughStack]

lemma ByteStack.exchanges_throughStack {b : ByteStack} {cells : List ((t : CellType) × t.Value)}
    (hfits : (cells.map fun c => c.1.width).sum ≤ b.remaining) :
    (exchanges perform (StackAction.throughStack cells) b).map (·.answer) =
        cells.map (fun _ => .ok none) ++ cells.reverse.map (fun c => .ok (some (c.1.toInt c.2))) ∧
      afterAll perform (StackAction.throughStack cells) b = b := by
  -- the innermost pair of a push and a pop is the last value's, so the pairs are taken off from the outside
  induction cells generalizing b with
  | nil => exact ⟨rfl, rfl⟩
  | cons c cells ih =>
    obtain ⟨t, v⟩ := c
    rw [List.map_cons, List.sum_cons] at hfits
    have hpush := attempt_push v (Nat.le_trans (Nat.le_add_right _ _) hfits)
    have hpop := attempt_pop t v b
    have hrest : (cells.map fun c => c.1.width).sum ≤
        ({ b with bytes := b.bytes ++ t.encode v } : ByteStack).remaining := by
      simp only [remaining, List.length_append, CellType.length_encode] at hfits ⊢
      omega
    obtain ⟨hanswers, hafter⟩ := ih hrest
    rw [StackAction.throughStack_cons]
    constructor
    · simp [exchanges, exchanges_append, hpush, hanswers, hafter, hpop]
    · rw [afterAll_cons, hpush, afterAll_append, hafter, afterAll_cons, hpop]
      rfl

namespace Stack

variable {s pushed : Stack} {t : CellType} {v : t.Value} {actions : List StackAction}

lemma offset_currentAddress (h : s.capacity < UInt64.size) : s.currentAddress.offset.toNat = s.live.length := by
  have hle := s.length_live_le
  rw [length_live] at hle ⊢
  exact UInt64.toNat_ofNat_of_lt' (by omega)

lemma live_of_push (h : push t v s = .ok () pushed) : pushed.live = s.live ++ t.encode v := by
  by_cases hfull : s.remaining < t.width
  · rw [push_of_lt v hfull] at h
    cases h
  · obtain ⟨s', hpush, hlive, -⟩ := push_of_le v (Nat.le_of_not_lt hfull)
    rw [hpush] at h
    cases h
    exact hlive

lemma forall_spares_iff {start width : Nat} :
    (∀ e ∈ exchanges StackAction.perform actions s, (e.map view).Spares start width) ↔
      ∀ e ∈ exchanges ByteStack.perform actions s.view, e.Spares start width := by
  rw [← exchanges_view]
  exact List.forall_mem_map.symm

lemma window_of_push (hpush : push t v s = .ok () pushed)
    (hspares : ∀ e ∈ exchanges StackAction.perform actions pushed, (e.map view).Spares s.live.length t.width) :
    s.live.length + t.width ≤ (afterAll StackAction.perform actions pushed).live.length ∧
      ((afterAll StackAction.perform actions pushed).live.drop s.live.length).take t.width = t.encode v := by
  have hpushed : pushed.view.bytes = s.live ++ t.encode v := live_of_push hpush
  have hlive : s.live.length + t.width ≤ pushed.view.bytes.length := by
    rw [hpushed, List.length_append, CellType.length_encode]
  rw [forall_spares_iff] at hspares
  have hlength := ByteStack.length_afterAll hlive hspares
  have hwindow := ByteStack.window_afterAll hlive hspares
  rw [← afterAll_view] at hlength hwindow
  rw [hpushed, List.drop_left, List.take_of_length_le (CellType.length_encode ..).le] at hwindow
  exact ⟨hlength, hwindow⟩

/-- A value that was pushed is read at its address, and popped when it is the topmost one, after any sequence of actions
that leaves its bytes live and sets nothing there; the pop uncovers the bytes below as they are by then. Values that are
pushed one after the other and popped in the reverse order come back as they were, and the stack is as before. Addresses
have 64 bits, so the capacity is a number that fits into one. -/
theorem slot_keeps_value :
    (∀ (s pushed final : Stack) (t : CellType) (v : t.Value) (actions : List StackAction),
      s.capacity < UInt64.size → push t v s = .ok () pushed →
      (∀ e ∈ exchanges StackAction.perform actions pushed,
        (e.map view).Spares s.currentAddress.offset.toNat t.width) →
      final = afterAll StackAction.perform actions pushed →
        get t s.currentAddress final = .ok v final ∧
        (final.live.length = s.currentAddress.offset.toNat + t.width →
          ∃ rest, pop t final = .ok v rest ∧ rest.live.length = s.currentAddress.offset.toNat ∧
            rest.live = final.live.take s.currentAddress.offset.toNat)) ∧
    ∀ (s : Stack) (cells : List ((t : CellType) × t.Value)), (cells.map fun c => c.1.width).sum ≤ s.remaining →
      (exchanges StackAction.perform (StackAction.throughStack cells) s).map (·.answer) =
          cells.map (fun _ => .ok none) ++ cells.reverse.map (fun c => .ok (some (c.1.toInt c.2))) ∧
        (afterAll StackAction.perform (StackAction.throughStack cells) s).view = s.view := by
  constructor
  · intro s pushed final t v actions hcapacity hpush hspares hfinal
    have haddress := offset_currentAddress hcapacity
    rw [haddress] at hspares ⊢
    obtain ⟨hlive, hwindow⟩ := window_of_push hpush hspares
    rw [← hfinal] at hlive hwindow
    constructor
    · have hisLive : final.IsLive t s.currentAddress := isLive_iff.mpr (by omega)
      rw [get_of_isLive hisLive, haddress, hwindow, CellType.decode_encode]
    · intro htop
      obtain ⟨rest, hpop, hrest, -⟩ := pop_of_le (s := final) (t := t) (by omega)
      have hcut : final.live.length - t.width = s.live.length := by omega
      have hlast : final.live.drop s.live.length = t.encode v := by
        rw [← hwindow, List.take_of_length_le (by rw [List.length_drop]; omega)]
      rw [hcut] at hpop hrest
      rw [hlast, CellType.decode_encode] at hpop
      refine ⟨rest, hpop, ?_, hrest⟩
      rw [hrest, List.length_take]
      omega
  · intro s cells hfits
    rw [← remaining_view] at hfits
    obtain ⟨hanswers, hafter⟩ := ByteStack.exchanges_throughStack hfits
    rw [← exchanges_view, List.map_map] at hanswers
    rw [← afterAll_view] at hafter
    exact ⟨hanswers, hafter⟩

/-- A stack with three live bytes and dead ones above them. -/
def shelf : Stack := ⟨18, #[1, 2, 3, 99, 98, 97, 96, 95], 3, by decide, by decide⟩

/-- Actions around a word that was pushed on `shelf`: values of other widths come and go above it, and there are writes
right below it and right above it. The last action is a write across it, which fails. -/
def visitors : List StackAction :=
  [.push .i16 (-1), .push .i64 5, .push .i8 7, .set .i16 ⟨1⟩ 515, .set .i64 ⟨7⟩ (-1), .get .i64 ⟨2⟩, .push .i64 1,
    .set .i64 ⟨11⟩ 0, .pop .i8, .pop .memoryAddress, .peek .i32, .pop .i16, .pop .i64, .set .i64 ⟨2⟩ 0]

theorem shelf_keeps_value :
    ∃ pushed final rest : Stack,
      push .i32 (-70000) shelf = .ok () pushed ∧ final = afterAll StackAction.perform visitors pushed ∧
      get .i32 shelf.currentAddress final = .ok (-70000) final ∧ pop .i32 final = .ok (-70000) rest ∧
      rest.live = [1, 3, 2] ∧
      (exchanges StackAction.perform (StackAction.throughStack [⟨.i8, -3⟩, ⟨.stackAddress, ⟨8⟩⟩, ⟨.i32, 9⟩]) shelf).map
          (·.answer) =
        [.ok none, .ok none, .ok none, .ok (some 9), .ok (some 8), .ok (some (-3))] := by
  obtain ⟨hslot, hcells⟩ := slot_keeps_value
  obtain ⟨pushed, hpush, hlive, hcapacity⟩ := push_of_le (s := shelf) (t := .i32) (-70000) (by decide)
  have hview : pushed.view = ⟨18, shelf.live ++ CellType.encode .i32 (-70000)⟩ := by
    rw [view, hlive, hcapacity]
    rfl
  have hspares : ∀ e ∈ exchanges StackAction.perform visitors pushed,
      (e.map view).Spares shelf.currentAddress.offset.toNat 4 := by
    rw [forall_spares_iff, hview]
    decide +kernel
  have hfinal : (afterAll StackAction.perform visitors pushed).live = [1, 3, 2, 144, 238, 254, 255] := by
    rw [← bytes_view, afterAll_view, hview]
    decide +kernel
  obtain ⟨hget, hpop⟩ := hslot shelf pushed _ .i32 (-70000) visitors (by decide) hpush hspares rfl
  obtain ⟨rest, hrest, -, hbelow⟩ := hpop (by rw [hfinal]; decide)
  refine ⟨pushed, _, rest, hpush, rfl, hget, hrest, ?_, (hcells shelf _ (by decide)).1⟩
  rw [hbelow, hfinal]
  decide

end Stack

end ScopeMachine
