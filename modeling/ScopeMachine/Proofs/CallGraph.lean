import Mathlib.Data.Fin.Basic
import Mathlib.Data.List.Nodup
import ScopeMachine.Proofs.OperationRefinement

/-!
# The call graph

A scope calls the internal scopes that its live operations name, those before its first `ret`. The graph of
these calls decides whether runs end (`Machine.runs_end_unless_recursive`). If no cycle can be reached from the
start scope, every run ends: no scope is entered while it is being executed, so calls nest no deeper than there
are scopes. If one can be reached, no run succeeds: a run that succeeds performs every live operation of every
scope that it enters, so it follows all edges of the graph, and it would have to follow the cycle for ever.
-/

namespace ScopeMachine

open Relation (ReflTransGen TransGen)

/-- The operations before the first `ret`. -/
def Body.live (body : Body) : List Operation := body.operations.takeWhile (· != .ret)

namespace Body

variable {op : Operation} {ops : List Operation} {stop : Except Fault Unit}

lemma live_nil : live ⟨[], stop⟩ = [] := rfl

lemma live_ret : live ⟨.ret :: ops, stop⟩ = [] := rfl

lemma live_cons (h : op ≠ .ret) : live ⟨op :: ops, stop⟩ = op :: live ⟨ops, stop⟩ :=
  List.takeWhile_cons_of_pos (bne_iff_ne.mpr h)

lemma mem_live_cons (h : op ≠ .ret) {op' : Operation} :
    op' ∈ live ⟨op :: ops, stop⟩ ↔ op' = op ∨ op' ∈ live ⟨ops, stop⟩ := by
  rw [live_cons h, List.mem_cons]

end Body

lemma Operation.IsPlain.ne_ret {op : Operation} (h : op.IsPlain) : op ≠ .ret := by
  rintro rfl
  exact h

lemma Operation.IsPlain.ne_call {op : Operation} (h : op.IsPlain) (id : ScopeId) : .call id ≠ op := by
  rintro rfl
  exact h

/-! ## Edges and cycles -/

namespace ScopeTable

variable {σ : Type} {table : ScopeTable σ}

/-- A live operation of the one scope calls the other, and both exist. -/
structure Calls (table : ScopeTable σ) (caller callee : ScopeId) : Prop where
  live : ∃ body, table.body caller = .ok body ∧ .call callee ∈ body.live
  known : ∃ body, table.body callee = .ok body

/-- Calls lead from the scope to one that calls itself, directly or through others. -/
def ReachesCycle (table : ScopeTable σ) (start : ScopeId) : Prop :=
  ∃ id, ReflTransGen table.Calls start id ∧ TransGen table.Calls id id

lemma index_lt_of_body {id : ScopeId} {body : Body} (h : table.body id = .ok body) :
    id.index < table.internal.size := by
  obtain ⟨s, hs, -⟩ := body_eq_ok_iff.mp h
  unfold scope at hs
  cases hget : table.internal[id.index]? with
  | none =>
    rw [hget] at hs
    cases hs
  | some s' => exact (Array.getElem?_eq_some_iff.mp hget).1

lemma index_lt_of_calls {caller callee : ScopeId} (h : TransGen table.Calls caller callee) :
    caller.index < table.internal.size := by
  obtain ⟨next, hcalls, -⟩ := TransGen.head'_iff.mp h
  obtain ⟨body, hbody, -⟩ := hcalls.live
  exact index_lt_of_body hbody

lemma length_le_size {ids : List ScopeId} (hnodup : ids.Nodup)
    (hids : ∀ id ∈ ids, id.index < table.internal.size) : ids.length ≤ table.internal.size := by
  have hinj : Function.Injective ScopeId.index := fun _ _ h => ScopeId.eq_of_index_eq h
  have hsub : ids.map ScopeId.index ⊆ List.range table.internal.size := by
    intro i hi
    obtain ⟨id, hid, rfl⟩ := List.mem_map.mp hi
    exact List.mem_range.mpr (hids id hid)
  have hle := (hnodup.map hinj).length_le_of_subset hsub
  rwa [List.length_map, List.length_range] at hle

/-- The scopes that are being executed when `id` is about to be: they are all different, and calls lead from each of
them to `id`. -/
structure Nesting (table : ScopeTable σ) (start : ScopeId) (active : List ScopeId) (id : ScopeId) : Prop where
  nodup : active.Nodup
  reached : ReflTransGen table.Calls start id
  calls : ∀ caller ∈ active, TransGen table.Calls caller id

namespace Nesting

variable {start id callee : ScopeId} {active : List ScopeId}

lemma initial (table : ScopeTable σ) (start : ScopeId) : table.Nesting start [] start :=
  ⟨List.nodup_nil, .refl, nofun⟩

lemma length_le (h : table.Nesting start active id) : active.length ≤ table.internal.size :=
  length_le_size h.nodup fun caller hcaller => index_lt_of_calls (h.calls caller hcaller)

lemma nodup_cons (h : table.Nesting start active id) (hacyclic : ¬ table.ReachesCycle start) :
    (id :: active).Nodup :=
  List.nodup_cons.mpr ⟨fun hmem => hacyclic ⟨id, h.reached, h.calls id hmem⟩, h.nodup⟩

lemma length_lt (h : table.Nesting start active id) (hacyclic : ¬ table.ReachesCycle start) {body : Body}
    (hbody : table.body id = .ok body) : active.length < table.internal.size := by
  have hle : (id :: active).length ≤ table.internal.size := by
    refine length_le_size (h.nodup_cons hacyclic) (List.forall_mem_cons.mpr ⟨?_, fun caller hcaller => ?_⟩)
    · exact index_lt_of_body hbody
    · exact index_lt_of_calls (h.calls caller hcaller)
  exact hle

lemma enter (h : table.Nesting start active id) (hacyclic : ¬ table.ReachesCycle start)
    (hcalls : table.Calls id callee) : table.Nesting start (id :: active) callee where
  nodup := h.nodup_cons hacyclic
  reached := h.reached.tail hcalls
  calls := by
    intro caller hcaller
    rcases List.mem_cons.mp hcaller with rfl | hmem
    · exact .single hcalls
    · exact (h.calls caller hmem).tail hcalls

end Nesting

lemma not_transGen_of_acc {id : ScopeId} (h : Acc (Function.swap table.Calls) id) :
    ¬ TransGen table.Calls id id := by
  induction h with
  | intro id _ ih =>
    intro hcycle
    obtain ⟨next, hcalls, hback⟩ := TransGen.head'_iff.mp hcycle
    exact ih next hcalls (TransGen.tail' hback hcalls)

lemma not_reachesCycle_of_acc {start : ScopeId} (h : Acc (Function.swap table.Calls) start) :
    ¬ table.ReachesCycle start := by
  rintro ⟨id, hreach, hcycle⟩
  refine not_transGen_of_acc ?_ hcycle
  clear hcycle
  induction hreach with
  | refl => exact h
  | tail _ hcalls ih => exact ih.inv hcalls

end ScopeTable

/-! ## Success follows every edge -/

section Success

variable {σ S : Type} {table : ScopeTable σ} {effect : Operation → EStateM Fault S Unit}

/-- A walk that succeeds has walked over every scope that a live operation calls, and so has the walk over that
scope: all calls come to an end there. -/
lemma Walks.acc_of_ok {body : Body} {s t : S} {result : Except Fault Unit}
    (h : Walks table.body effect body s result t) (hok : result = .ok ()) {id : ScopeId}
    (hid : .call id ∈ body.live) : Acc (Function.swap table.Calls) id := by
  induction h generalizing id with
  | finish =>
    rw [Body.live_nil] at hid
    cases hid
  | ret =>
    rw [Body.live_ret] at hid
    cases hid
  | step plain _ _ ih =>
    rcases (Body.mem_live_cons plain.ne_ret).mp hid with heq | hrest
    · exact absurd heq (plain.ne_call id)
    · exact ih hok hrest
  | fault => cases hok
  | callUnknown => cases hok
  | callFault => cases hok
  | callReturn known _ _ ih ih' =>
    rcases (Body.mem_live_cons (by nofun)).mp hid with heq | hrest
    · cases heq
      constructor
      intro callee hcalls
      obtain ⟨body', hbody', hlive⟩ := hcalls.live
      cases known.symm.trans hbody'
      exact ih rfl hlive
    · exact ih' hok hrest

lemma WalksScope.acc_of_ok {id : ScopeId} {s t : S} (h : WalksScope table.body effect id s (.ok ()) t) :
    Acc (Function.swap table.Calls) id := by
  constructor
  intro callee hcalls
  obtain ⟨body, hbody, hlive⟩ := hcalls.live
  rw [WalksScope, hbody] at h
  exact Walks.acc_of_ok h rfl hlive

end Success

/-! ## Without cycles runs end -/

namespace Machine

variable {σ : Type} {table : ScopeTable σ}

/-- The computation is not cut off, and it keeps the scope table. -/
def Ends (table : ScopeTable σ) (x : EStateM.Result Stop (Machine σ) Unit) : Prop :=
  ∃ result final, x = ended result final ∧ final.scopes = table

lemma runFrom_ends {call : ScopeId → Run σ Unit} (scope : ScopeId) {limit offset : Nat} {rest tail : Bytes}
    {ops : List Operation} (hsplit : Splits rest ops tail) (hlimit : rest.length ≤ limit)
    {stop : Except Fault Unit} (hstop : StopsWith stop (offset + (Operation.records ops).length) tail)
    (hcall : ∀ id, .call id ∈ Body.live ⟨ops, stop⟩ → ∀ m : Machine σ, m.scopes = table → Ends table (call id m))
    {m : Machine σ} (hm : m.scopes = table) : Ends table (runFrom call scope limit ⟨offset, rest⟩ m) := by
  induction ops generalizing rest limit offset m with
  | nil =>
    obtain ⟨rfl, -⟩ := Splits.nil_iff.mp hsplit
    obtain ⟨final, hrun, -, hscopes⟩ := runFrom_stuck scope hsplit hlimit hstop m
    exact ⟨stop, final, hrun call, hscopes.trans hm⟩
  | cons op ops ih =>
    obtain ⟨limit', n, hlimit', -, hn, hrun⟩ := exists_runFrom_step scope hsplit hlimit m
    rw [hm] at hn
    rw [hrun]
    by_cases hret : op = .ret
    · rw [hret]
      exact ⟨.ok (), n, rfl, hn⟩
    have hgoOn : ∀ m' : Machine σ, m'.scopes = table →
        Ends table (runFrom call scope limit' ⟨offset + op.record.length, Operation.records ops ++ tail⟩ m') := by
      intro m' hm'
      refine ih ⟨rfl, hsplit.stuck⟩ hlimit' hstop.next_record (fun id hid => ?_) hm'
      exact hcall id ((Body.mem_live_cons hret).mpr (.inr hid))
    rcases op.isPlain_or with hplain | rfl | ⟨id, rfl⟩
    · rcases perform_of_plain call hplain n with ⟨m', hperform, -, hscopes⟩ | ⟨fault, m', hperform, -, hscopes⟩
      · rw [hperform]
        exact hgoOn m' (hscopes.trans hn)
      · rw [hperform]
        exact ⟨.error fault, m', rfl, hscopes.trans hn⟩
    · exact absurd rfl hret
    · obtain ⟨result, m', hresult, hm'⟩ := hcall id ((Body.mem_live_cons hret).mpr (.inl rfl)) n hn
      rw [perform, andNext, hresult]
      cases result with
      | ok _ => exact hgoOn m' hm'
      | error fault => exact ⟨.error fault, m', rfl, hm'⟩

/-- Without a cycle a depth is enough if it is the number of scopes that are not being executed, and one more for a
call that names no scope. -/
lemma executeWithin_ends {start : ScopeId} (hacyclic : ¬ table.ReachesCycle start) {depth : Nat}
    {active : List ScopeId} {id : ScopeId} (hnesting : table.Nesting start active id)
    (hdepth : table.internal.size < active.length + depth) {m : Machine σ} (hm : m.scopes = table) :
    Ends table (executeWithin depth id m) := by
  induction depth generalizing active id m with
  | zero =>
    have hle := hnesting.length_le
    omega
  | succ depth ih =>
    cases hscope : table.scope id with
    | error fault => exact ⟨.error fault, m, executeWithin_of_unknown (by rw [hm, hscope]) depth, hm⟩
    | ok s =>
      have hbody : table.body id = .ok (Body.ofCode s.code) := ScopeTable.body_eq_ok_iff.mpr ⟨s, hscope, rfl⟩
      have hlt := hnesting.length_lt hacyclic hbody
      have hcall : ∀ callee, .call callee ∈ (Body.ofCode s.code).live → ∀ n : Machine σ, n.scopes = table →
          Ends table (executeWithin depth callee n) := by
        intro callee hlive n hn
        cases hcallee : table.scope callee with
        | error fault =>
          obtain ⟨depth, rfl⟩ : ∃ d, depth = d + 1 := ⟨depth - 1, by omega⟩
          exact ⟨.error fault, n, executeWithin_of_unknown (by rw [hn, hcallee]) depth, hn⟩
        | ok s' =>
          have hcalls : table.Calls id callee :=
            ⟨⟨_, hbody, hlive⟩, _, ScopeTable.body_eq_ok_iff.mpr ⟨s', hcallee, rfl⟩⟩
          exact ih (hnesting.enter hacyclic hcalls) (by rw [List.length_cons]; omega) hn
      obtain ⟨tail, hsplit, hstop⟩ := exists_stopsWith_ofCode s.code
      have henter : (m.record (.enter id s.code.length)).scopes = table := hm
      obtain ⟨result, last, hrun, hlast⟩ := runFrom_ends id hsplit (Nat.le_refl _) hstop hcall henter
      refine ⟨result, last.leave id result, ?_, (config_leave id result last).2.trans hlast⟩
      exact (executeWithin_succ_iff (by rw [hm, hscope])).mpr ⟨last, hrun, rfl⟩

lemma size_lt_depthLimit (m : Machine σ) : m.scopes.internal.size < m.depthLimit := by
  have hle : m.scopes.internal.size + 1 ≤ (m.scopes.internal.size + 1) * (m.stack.capacity + 1) :=
    Nat.le_mul_of_pos_right _ (Nat.succ_pos _)
  unfold depthLimit
  omega

/-- Whether runs end depends on the calls that can be reached from the start scope. Without a cycle every run
ends, and within the depth that `run` allows; with a cycle no run succeeds. The stack, the registers, the host
and what the callbacks do play no part. -/
theorem runs_end_unless_recursive (m : Machine σ) :
    (¬ m.scopes.ReachesCycle m.start →
      ∃ result final, m.Runs result final ∧ run m = ended result final) ∧
    (m.scopes.ReachesCycle m.start → ∀ final, ¬ m.Runs (.ok ()) final) := by
  constructor
  · intro hacyclic
    have hdepth := size_lt_depthLimit (m.record (.start m.start))
    obtain ⟨result, final, hrun, -⟩ :=
      executeWithin_ends (m := m.record (.start m.start)) hacyclic (ScopeTable.Nesting.initial _ _)
        (by rwa [List.length_nil, Nat.zero_add]) rfl
    exact ⟨result, final, runs_of_run hrun, hrun⟩
  · rintro hcycle final ⟨depth, hrun⟩
    have hwalk := (walksScope_of_executeWithin depth m.start _ final (.ok ()) rfl hrun).1
    exact ScopeTable.not_reachesCycle_of_acc hwalk.acc_of_ok hcycle

/-- A machine with three scopes. The first one calls the second one twice; the second one calls itself, but only
behind its `ret`; the third one pushes a constant and calls itself. -/
def looping (start : ScopeId) : Machine Unit :=
  { initial () 64 with
    scopes := ⟨#[⟨⟨0⟩, Operation.records [.call ⟨1⟩, .call ⟨1⟩]⟩,
      ⟨⟨1⟩, Operation.records [.pushConst 7, .ret, .call ⟨1⟩]⟩,
      ⟨⟨2⟩, Operation.records [.pushConst 7, .call ⟨2⟩]⟩], #[]⟩
    start := start }

lemma mem_takeWhile_of_calls {caller callee : ScopeId} {s : Scope} {ops : List Operation}
    (hscope : table.scope caller = .ok s) (hcode : s.code = Operation.records ops)
    (h : table.Calls caller callee) : .call callee ∈ ops.takeWhile (· != .ret) := by
  obtain ⟨body, hbody, hlive⟩ := h.live
  obtain ⟨s', hs', rfl⟩ := ScopeTable.body_eq_ok_iff.mp hbody
  cases hscope.symm.trans hs'
  rwa [Body.live, hcode, (Body.ofCode_of_splits (Splits.of_records ops)).1] at hlive

theorem looping_ends_or_fails :
    (¬ (looping ⟨0⟩).scopes.ReachesCycle ⟨0⟩ ∧ ∃ result final, (looping ⟨0⟩).Runs result final) ∧
      (looping ⟨2⟩).scopes.ReachesCycle ⟨2⟩ ∧ ∀ final, ¬ (looping ⟨2⟩).Runs (.ok ()) final := by
  have hsecond : Acc (Function.swap (looping ⟨0⟩).scopes.Calls) ⟨1⟩ :=
    ⟨_, fun callee hcalls => absurd (mem_takeWhile_of_calls rfl rfl hcalls) (by simp)⟩
  have hfirst : Acc (Function.swap (looping ⟨0⟩).scopes.Calls) ⟨0⟩ := by
    constructor
    intro callee hcalls
    have hlive := mem_takeWhile_of_calls rfl rfl hcalls
    obtain rfl : callee = ⟨1⟩ := by simpa using hlive
    exact hsecond
  have hacyclic := ScopeTable.not_reachesCycle_of_acc hfirst
  have hthird : (looping ⟨2⟩).scopes.Calls ⟨2⟩ ⟨2⟩ := by
    refine ⟨⟨_, rfl, ?_⟩, _, rfl⟩
    decide
  have hcycle : (looping ⟨2⟩).scopes.ReachesCycle ⟨2⟩ := ⟨⟨2⟩, .refl, .single hthird⟩
  obtain ⟨result, final, hruns, -⟩ := (runs_end_unless_recursive (looping ⟨0⟩)).1 hacyclic
  exact ⟨⟨hacyclic, result, final, hruns⟩, hcycle, (runs_end_unless_recursive (looping ⟨2⟩)).2 hcycle⟩

end Machine

end ScopeMachine
