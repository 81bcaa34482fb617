import ScopeMachine.Script
import ScopeMachine.Proofs.OperationRefinement

/-!
# Calls and inlined code

A call is the callee's operations in its place (`Machine.call_executes_as_inlined`). What a walk does is a relation
between the state before it, its result and the state after it, and walks over operations without a `ret` compose: the
relation of a concatenation is the `Sequence` of the two relations. So a call, whose relation is that of the callee's
body, may be replaced by the body, whatever stands before it and behind it.
-/

namespace ScopeMachine

open Operation (records)

/-! ## One walk after the other -/

section Composition

variable {S : Type}

/-- The second goes on where the first one ends; a fault of the first one ends both. -/
def Sequence (first second : S → Except Fault Unit → S → Prop) (s : S) (result : Except Fault Unit) (t : S) : Prop :=
  (∃ u, first s (.ok ()) u ∧ second u result t) ∨ ∃ fault, result = .error fault ∧ first s (.error fault) t

def Stay (s : S) (result : Except Fault Unit) (t : S) : Prop := result = .ok () ∧ t = s

variable {p q r : S → Except Fault Unit → S → Prop}

lemma stay_sequence : Sequence Stay p = p := by
  funext s result t
  apply propext
  constructor
  · rintro (⟨u, ⟨-, rfl⟩, hp⟩ | ⟨fault, -, hfault, -⟩)
    · exact hp
    · cases hfault
  · intro hp
    exact .inl ⟨s, ⟨rfl, rfl⟩, hp⟩

lemma sequence_stay : Sequence p Stay = p := by
  funext s result t
  apply propext
  constructor
  · rintro (⟨u, hp, rfl, rfl⟩ | ⟨fault, rfl, hp⟩)
    · exact hp
    · exact hp
  · intro hp
    cases result with
    | ok _ => exact .inl ⟨t, hp, rfl, rfl⟩
    | error fault => exact .inr ⟨fault, rfl, hp⟩

lemma sequence_assoc : Sequence (Sequence p q) r = Sequence p (Sequence q r) := by
  funext s result t
  apply propext
  constructor
  · rintro (⟨u, ⟨v, hp, hq⟩ | ⟨fault, hfault, -⟩, hr⟩ | ⟨fault, rfl, ⟨u, hp, hq⟩ | ⟨fault', hfault, hp⟩⟩)
    · exact .inl ⟨v, hp, .inl ⟨u, hq, hr⟩⟩
    · cases hfault
    · exact .inl ⟨u, hp, .inr ⟨fault, rfl, hq⟩⟩
    · exact .inr ⟨fault', hfault, hfault ▸ hp⟩
  · rintro (⟨u, hp, ⟨v, hq, hr⟩ | ⟨fault, rfl, hq⟩⟩ | ⟨fault, rfl, hp⟩)
    · exact .inl ⟨v, .inl ⟨u, hp, hq⟩, hr⟩
    · exact .inr ⟨fault, rfl, .inl ⟨u, hp, hq⟩⟩
    · exact .inr ⟨fault, rfl, .inr ⟨fault, rfl, hp⟩⟩

end Composition

/-! ## Walks over parts of code -/

section Parts

variable {S : Type} {bodies : ScopeId → Except Fault Body} {effect : Operation → EStateM Fault S Unit}
  {op : Operation} {ops ops' : List Operation} {stop stop' : Except Fault Unit}

lemma walks_nil : Walks bodies effect ⟨[], .ok ()⟩ = Stay := by
  funext s result t
  apply propext
  constructor
  · intro h
    cases h
    exact ⟨rfl, rfl⟩
  · rintro ⟨rfl, rfl⟩
    exact .finish

lemma walks_ret : Walks bodies effect ⟨.ret :: ops, stop⟩ = Stay := by
  funext s result t
  apply propext
  constructor
  · intro h
    cases h with
    | ret => exact ⟨rfl, rfl⟩
    | step plain _ _ => exact plain.elim
    | fault plain _ => exact plain.elim
  · rintro ⟨rfl, rfl⟩
    exact .ret

lemma walks_cons (hop : op ≠ .ret) (ops : List Operation) (stop : Except Fault Unit) :
    Walks bodies effect ⟨op :: ops, stop⟩ =
      Sequence (Walks bodies effect ⟨[op], .ok ()⟩) (Walks bodies effect ⟨ops, stop⟩) := by
  funext s result t
  apply propext
  constructor
  · intro h
    cases h with
    | ret => exact absurd rfl hop
    | step plain ok rest => exact .inl ⟨_, .step plain ok .finish, rest⟩
    | fault plain error => exact .inr ⟨_, rfl, .fault plain error⟩
    | callUnknown unknown => exact .inr ⟨_, rfl, .callUnknown unknown⟩
    | callFault known inner => exact .inr ⟨_, rfl, .callFault known inner⟩
    | callReturn known inner rest => exact .inl ⟨_, .callReturn known inner .finish, rest⟩
  · rintro (⟨u, hfirst, hrest⟩ | ⟨fault, rfl, hfirst⟩)
    · cases hfirst with
      | ret => exact absurd rfl hop
      | step plain ok rest =>
        cases rest
        exact .step plain ok hrest
      | callReturn known inner rest =>
        cases rest
        exact .callReturn known inner hrest
    · cases hfirst with
      | step _ _ rest => cases rest
      | fault plain error => exact .fault plain error
      | callUnknown unknown => exact .callUnknown unknown
      | callFault known inner => exact .callFault known inner
      | callReturn _ _ rest => cases rest

lemma walks_append (hret : .ret ∉ ops) :
    Walks bodies effect ⟨ops ++ ops', stop⟩ =
      Sequence (Walks bodies effect ⟨ops, .ok ()⟩) (Walks bodies effect ⟨ops', stop⟩) := by
  induction ops with
  | nil => rw [walks_nil, stay_sequence, List.nil_append]
  | cons op ops ih =>
    have hop : op ≠ .ret := (List.ne_of_not_mem_cons hret).symm
    have hops : .ret ∉ ops := List.not_mem_of_not_mem_cons hret
    rw [List.cons_append, walks_cons hop, ih hops, ← sequence_assoc, ← walks_cons hop]

lemma walks_append_ret (hret : .ret ∉ ops) :
    Walks bodies effect ⟨ops ++ .ret :: ops', stop⟩ = Walks bodies effect ⟨ops, .ok ()⟩ := by
  rw [walks_append hret, walks_ret, sequence_stay]

/-- Code may be replaced behind other code, which need not get there. -/
lemma walks_append_congr (before : List Operation)
    (h : Walks bodies effect ⟨ops, stop⟩ = Walks bodies effect ⟨ops', stop'⟩) :
    Walks bodies effect ⟨before ++ ops, stop⟩ = Walks bodies effect ⟨before ++ ops', stop'⟩ := by
  induction before with
  | nil => exact h
  | cons op before ih =>
    rw [List.cons_append, List.cons_append]
    by_cases hop : op = .ret
    · rw [hop, walks_ret, walks_ret]
    · rw [walks_cons hop (before ++ ops), walks_cons hop (before ++ ops'), ih]

lemma walks_call {id : ScopeId} {body : Body} (known : bodies id = .ok body) :
    Walks bodies effect ⟨[.call id], .ok ()⟩ = Walks bodies effect body := by
  funext s result t
  apply propext
  constructor
  · intro h
    cases h with
    | step plain _ _ => exact plain.elim
    | fault plain _ => exact plain.elim
    | callUnknown unknown =>
      rw [known] at unknown
      cases unknown
    | callFault known' inner =>
      rw [known] at known'
      cases known'
      exact inner
    | callReturn known' inner rest =>
      rw [known] at known'
      cases known'
      cases rest
      exact inner
  · intro h
    cases result with
    | ok _ => exact .callReturn known h .finish
    | error fault => exact .callFault known h

/-- A call is the callee's operations in its place. -/
lemma walks_call_eq_inlined {id : ScopeId} {body : Body} (known : bodies id = .ok body)
    (hbody : Walks bodies effect body = Walks bodies effect ⟨ops, .ok ()⟩) (hret : .ret ∉ ops)
    (before after : List Operation) :
    Walks bodies effect ⟨before ++ [.call id] ++ after, stop⟩ =
      Walks bodies effect ⟨before ++ ops ++ after, stop⟩ := by
  rw [List.append_assoc, List.append_assoc]
  apply walks_append_congr
  calc Walks bodies effect ⟨[.call id] ++ after, stop⟩
      = Sequence (Walks bodies effect ⟨[.call id], .ok ()⟩) (Walks bodies effect ⟨after, stop⟩) :=
        walks_append (by simp)
    _ = Sequence (Walks bodies effect ⟨ops, .ok ()⟩) (Walks bodies effect ⟨after, stop⟩) := by
        rw [walks_call known, hbody]
    _ = Walks bodies effect ⟨ops ++ after, stop⟩ := (walks_append hret).symm

end Parts

/-! ## Code that consists of records -/

namespace Body

lemma ofCode_records (ops : List Operation) : ofCode (records ops) = ⟨ops, .ok ()⟩ := by
  obtain ⟨hops, hstop, -⟩ := ofCode_of_splits (Splits.of_records ops)
  have hok := hstop rfl
  generalize ofCode (records ops) = body at hops hok
  cases body
  cases hops
  cases hok
  rfl

lemma exists_ofCode_ret (ops : List Operation) (rest : Bytes) :
    ∃ ops' stop, ofCode (records ops ++ Operation.ret.record ++ rest) = ⟨ops ++ .ret :: ops', stop⟩ := by
  obtain ⟨ops', tail, hrest⟩ := exists_splits rest
  have hsplit : Splits (records ops ++ Operation.ret.record ++ rest) (ops ++ .ret :: ops') tail := by
    refine ⟨?_, hrest.stuck⟩
    simp [hrest.eq, records, List.flatMap_append]
  obtain ⟨hops, -⟩ := ofCode_of_splits hsplit
  generalize ofCode (records ops ++ Operation.ret.record ++ rest) = body at hops
  cases body
  cases hops
  exact ⟨ops', _, rfl⟩

lemma walks_ofCode {S : Type} {bodies : ScopeId → Except Fault Body} {effect : Operation → EStateM Fault S Unit}
    {code : Bytes} {ops : List Operation}
    (hcode : code = records ops ∨ ∃ rest, code = records ops ++ Operation.ret.record ++ rest) (hret : .ret ∉ ops) :
    Walks bodies effect (ofCode code) = Walks bodies effect ⟨ops, .ok ()⟩ := by
  rcases hcode with rfl | ⟨rest, rfl⟩
  · rw [ofCode_records]
  · obtain ⟨ops', stop, hbody⟩ := exists_ofCode_ret ops rest
    rw [hbody, walks_append_ret hret]

end Body

namespace Machine

variable {σ : Type} {m : Machine σ}

lemma Executes.of_walksScope_eq {id id' : ScopeId} {result : Except Fault Unit} {final : Machine σ}
    (h : WalksScope m.scopes.body (Config.effect m.scopes) id =
      WalksScope m.scopes.body (Config.effect m.scopes) id')
    (hrun : m.Executes id result final) : ∃ final', m.Executes id' result final' ∧ final'.config = final.config := by
  obtain ⟨depth, hdepth⟩ := hrun
  obtain ⟨hwalk, -⟩ := walksScope_of_executeWithin depth id m final result rfl hdepth
  rw [h] at hwalk
  exact executes_of_walksScope m hwalk

lemma walksScope_of_scope {id : ScopeId} {s : Scope} (h : m.scopes.scope id = .ok s) :
    WalksScope m.scopes.body (Config.effect m.scopes) id =
      Walks m.scopes.body (Config.effect m.scopes) (Body.ofCode s.code) := by
  funext config result config'
  rw [WalksScope, ScopeTable.body_eq_ok_iff.mpr ⟨s, h, rfl⟩]

/-- A scope that calls another one and a scope with the callee's operations in place of the call end alike, if they end:
with the same result and the same stack, registers, host and invocations of callbacks. The callee's code may go on
behind a `ret`, with bytes of any kind. -/
theorem call_executes_as_inlined (m : Machine σ) (caller inlined callee : ScopeId) (c c' s : Scope)
    (before body after : List Operation) (hc : m.scopes.scope caller = .ok c) (hc' : m.scopes.scope inlined = .ok c')
    (hs : m.scopes.scope callee = .ok s)
    (hcallee : s.code = records body ∨ ∃ rest, s.code = records body ++ Operation.ret.record ++ rest)
    (hret : .ret ∉ body) (hcaller : c.code = records (before ++ [.call callee] ++ after))
    (hinlined : c'.code = records (before ++ body ++ after)) :
    ((∃ result final, m.Executes caller result final) ↔ ∃ result final, m.Executes inlined result final) ∧
      ∀ result final result' final', m.Executes caller result final → m.Executes inlined result' final' →
        result' = result ∧ final'.config = final.config := by
  have hbody : m.scopes.body callee = .ok (Body.ofCode s.code) := ScopeTable.body_eq_ok_iff.mpr ⟨s, hs, rfl⟩
  have hsame : WalksScope m.scopes.body (Config.effect m.scopes) caller =
      WalksScope m.scopes.body (Config.effect m.scopes) inlined := by
    rw [walksScope_of_scope hc, walksScope_of_scope hc', hcaller, hinlined, Body.ofCode_records, Body.ofCode_records]
    exact walks_call_eq_inlined hbody (Body.walks_ofCode hcallee hret) hret before after
  refine ⟨⟨?_, ?_⟩, ?_⟩
  · rintro ⟨result, final, hrun⟩
    obtain ⟨final', hrun', -⟩ := hrun.of_walksScope_eq hsame
    exact ⟨result, final', hrun'⟩
  · rintro ⟨result, final, hrun⟩
    obtain ⟨final', hrun', -⟩ := hrun.of_walksScope_eq hsame.symm
    exact ⟨result, final', hrun'⟩
  · intro result final result' final' hrun hrun'
    obtain ⟨last, hlast, hconfig⟩ := hrun.of_walksScope_eq hsame
    obtain ⟨rfl, rfl⟩ := hlast.unique hrun'
    exact ⟨rfl, hconfig⟩

/-- The first scope calls the third one, which calls the fourth one and the host, and has bytes behind a `ret` that are
no records. The second scope has the operations of the third one in place of the call. Both fail at their ends. -/
def nested : Machine ScriptHost where
  stack := ⟨16, #[9, 9], 1, by decide, by decide⟩
  registers := .zero
  scopes :=
    ⟨#[⟨⟨0⟩, records ([.pushConst 4] ++ [.call ⟨2⟩] ++ [.callExternal ⟨0⟩, .pushRegister (.memory (Fin.last 3))])⟩,
        ⟨⟨1⟩, records ([.pushConst 4] ++ [.pushConst 3, .call ⟨3⟩, .callExternal ⟨0⟩] ++
          [.callExternal ⟨0⟩, .pushRegister (.memory (Fin.last 3))])⟩,
        ⟨⟨2⟩, records [.pushConst 3, .call ⟨3⟩, .callExternal ⟨0⟩] ++ Operation.ret.record ++ [255, 1]⟩,
        ⟨⟨3⟩, records [.add, .ret, .add]⟩],
      #[⟨⟨0⟩, some (Script.callback 0 [.double, .stack (.push .i16 2), .depth])⟩]⟩
  start := ⟨0⟩
  host := ⟨#[0], #[]⟩
  trace := #[]

theorem nested_executes_as_inlined :
    ∃ final final' : Machine ScriptHost,
      nested.Executes ⟨0⟩ (.error (.invalidRegister (.memory (Fin.last 3)) .general)) final ∧
      nested.Executes ⟨1⟩ (.error (.invalidRegister (.memory (Fin.last 3)) .general)) final' ∧
      final'.config = final.config ∧ final.invocations = [⟨0⟩, ⟨0⟩] ∧ final.host = ⟨#[2], #[7, 9]⟩ ∧
      final.stack.live = [9, 14, 0, 0, 0, 4, 0, 2, 0] := by
  have hreport : report (fun final => (final.invocations, final.host, final.stack.live)) (executeWithin 3 ⟨0⟩ nested) =
      some (.error (.invalidRegister (.memory (Fin.last 3)) .general), [⟨0⟩, ⟨0⟩], ⟨#[2], #[7, 9]⟩,
        [9, 14, 0, 0, 0, 4, 0, 2, 0]) := by
    decide +kernel
  obtain ⟨final, hrun, hview⟩ := executes_of_report hreport
  obtain ⟨hends, hsame⟩ := call_executes_as_inlined nested ⟨0⟩ ⟨1⟩ ⟨2⟩ _ _ _ [.pushConst 4]
    [.pushConst 3, .call ⟨3⟩, .callExternal ⟨0⟩] [.callExternal ⟨0⟩, .pushRegister (.memory (Fin.last 3))] rfl rfl rfl
    (.inr ⟨[255, 1], rfl⟩) (by decide) rfl rfl
  obtain ⟨result', final', hrun'⟩ := hends.mp ⟨_, final, hrun⟩
  obtain ⟨rfl, hconfig⟩ := hsame _ final result' final' hrun hrun'
  have hfinal : final.invocations = [⟨0⟩, ⟨0⟩] ∧ final.host = ⟨#[2], #[7, 9]⟩ ∧
      final.stack.live = [9, 14, 0, 0, 0, 4, 0, 2, 0] := by
    simpa only [Prod.mk.injEq] using hview
  exact ⟨final, final', hrun, hrun', hconfig, hfinal⟩

end Machine

end ScopeMachine
