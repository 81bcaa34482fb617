import ScopeMachine.Proofs.Execution

/-!
# Execution of operations

A semantics of code as a list of operations, without bytes and cursors. `Walks` gives the flow of
control: plain operations one after the other, `ret` and the end of the list leave the scope, `call`
walks the callee's list first. What a plain operation does to the state is a parameter, so two
semantics with the same flow of control are compared through their plain operations alone
(`Walks.simulate`).
-/

namespace ScopeMachine

/-! ## Code as a list of operations -/

/-- The code of a scope as operations, and how the scope ends behind the last one. -/
structure Body where
  operations : List Operation
  stop : Except Fault Unit

namespace Cursor

/-- The operations that are read from a cursor on, one after the other and at most `limit` of them, and
the bytes where reading stops. -/
def leading : (limit : Nat) → Cursor → List Operation × Bytes
  | 0, c => ([], c.rest)
  | limit + 1, c =>
    match c.operation with
    | .error _ => ([], c.rest)
    | .ok op =>
      let (ops, tail) := leading limit (c.skip op.record.length)
      (op :: ops, tail)

lemma splits_leading {limit : Nat} {c : Cursor} (hlimit : c.rest.length ≤ limit) :
    Splits c.rest (c.leading limit).1 (c.leading limit).2 := by
  induction limit generalizing c with
  | zero =>
    have hnil : c.rest = [] := List.length_eq_zero_iff.mp (Nat.le_zero.mp hlimit)
    rw [leading, hnil]
    exact Splits.of_records []
  | succ limit ih =>
    rw [leading]
    cases hread : c.operation with
    | error fault =>
      refine Splits.nil_iff.mpr ⟨rfl, fun op hop => ?_⟩
      rw [operation_eq_ok_iff.mpr hop] at hread
      cases hread
    | ok op =>
      obtain ⟨rest, hrest⟩ := operation_eq_ok_iff.mp hread
      have hpos := op.record_length_pos
      have hskip : (c.skip op.record.length).rest = rest := by
        rw [skip_eq, ← hrest, List.drop_left]
      have hlimit' : (c.skip op.record.length).rest.length ≤ limit := by
        rw [hskip]
        rw [← hrest, List.length_append] at hlimit
        omega
      have hsplit := (ih hlimit').cons op
      rwa [hskip, hrest] at hsplit

end Cursor

/-- The operations of the records that code starts with. Behind them the scope ends normally if no bytes
are left, and otherwise with the fault of listing the code. -/
def Body.ofCode (code : Bytes) : Body :=
  let (ops, tail) := (Cursor.ofBytes code).leading code.length
  ⟨ops, if tail = [] then .ok () else (Listing.ofBytes code).map fun _ => ()⟩

def ScopeTable.body {σ : Type} (table : ScopeTable σ) (id : ScopeId) : Except Fault Body :=
  (table.scope id).map fun s => Body.ofCode s.code

namespace ScopeTable

variable {σ : Type} {table : ScopeTable σ} {id : ScopeId}

lemma body_eq_error_iff {fault : Fault} : table.body id = .error fault ↔ table.scope id = .error fault := by
  unfold body
  cases table.scope id with
  | error fault' => exact ⟨fun h => by cases h; rfl, fun h => by cases h; rfl⟩
  | ok s => exact ⟨nofun, nofun⟩

lemma body_eq_ok_iff {body : Body} :
    table.body id = .ok body ↔ ∃ s, table.scope id = .ok s ∧ body = Body.ofCode s.code := by
  unfold ScopeTable.body
  cases table.scope id with
  | error fault => exact ⟨nofun, nofun⟩
  | ok s =>
    constructor
    · intro h
      cases h
      exact ⟨s, rfl, rfl⟩
    · rintro ⟨s', hs, rfl⟩
      cases hs
      rfl

end ScopeTable

lemma Body.ofCode_of_splits {code tail : Bytes} {ops : List Operation} (h : Splits code ops tail) :
    (Body.ofCode code).operations = ops ∧
      (tail = [] → (Body.ofCode code).stop = .ok ()) ∧
      ∀ fault, Malformed (Operation.records ops).length tail fault →
        (Body.ofCode code).stop = .error fault := by
  have hlead := Cursor.splits_leading (Nat.le_refl (Cursor.ofBytes code).rest.length)
  obtain ⟨hops, htail⟩ := h.unique hlead
  refine ⟨hops, fun hnil => ?_, fun fault hbad => ?_⟩
  · exact if_pos (htail.trans hnil)
  · have hstop : (Body.ofCode code).stop = (Listing.ofBytes code).map fun _ => () :=
      if_neg (fun hnil => hbad.ne_nil (htail.symm.trans hnil))
    rw [hstop, (Listing.ofBytes_of_splits h).2 fault hbad]
    rfl

/-! ## Flow of control -/

variable {S T : Type}

/-- `Walks bodies effect body s result t`: the operations of `body`, performed from the state `s` on, end
with `result` in the state `t`. -/
inductive Walks (bodies : ScopeId → Except Fault Body) (effect : Operation → EStateM Fault S Unit) :
    Body → S → Except Fault Unit → S → Prop where
  | finish {stop : Except Fault Unit} {s : S} : Walks bodies effect ⟨[], stop⟩ s stop s
  | ret {ops : List Operation} {stop : Except Fault Unit} {s : S} :
      Walks bodies effect ⟨.ret :: ops, stop⟩ s (.ok ()) s
  | step {op : Operation} {ops : List Operation} {stop result : Except Fault Unit} {s s' t : S}
      (plain : op.IsPlain) (ok : effect op s = .ok () s')
      (rest : Walks bodies effect ⟨ops, stop⟩ s' result t) :
      Walks bodies effect ⟨op :: ops, stop⟩ s result t
  | fault {op : Operation} {ops : List Operation} {stop : Except Fault Unit} {fault : Fault} {s t : S}
      (plain : op.IsPlain) (error : effect op s = .error fault t) :
      Walks bodies effect ⟨op :: ops, stop⟩ s (.error fault) t
  | callUnknown {id : ScopeId} {ops : List Operation} {stop : Except Fault Unit} {fault : Fault} {s : S}
      (unknown : bodies id = .error fault) :
      Walks bodies effect ⟨.call id :: ops, stop⟩ s (.error fault) s
  | callFault {id : ScopeId} {body : Body} {ops : List Operation} {stop : Except Fault Unit} {fault : Fault}
      {s t : S} (known : bodies id = .ok body) (inner : Walks bodies effect body s (.error fault) t) :
      Walks bodies effect ⟨.call id :: ops, stop⟩ s (.error fault) t
  | callReturn {id : ScopeId} {body : Body} {ops : List Operation} {stop result : Except Fault Unit}
      {s s' t : S} (known : bodies id = .ok body) (inner : Walks bodies effect body s (.ok ()) s')
      (rest : Walks bodies effect ⟨ops, stop⟩ s' result t) :
      Walks bodies effect ⟨.call id :: ops, stop⟩ s result t

/-- Running a scope as a list of operations, from the state `s` on, ends with `result` in the state `t`. -/
def WalksScope (bodies : ScopeId → Except Fault Body) (effect : Operation → EStateM Fault S Unit)
    (id : ScopeId) (s : S) (result : Except Fault Unit) (t : S) : Prop :=
  match bodies id with
  | .error fault => result = .error fault ∧ t = s
  | .ok body => Walks bodies effect body s result t

section Calls

variable {bodies : ScopeId → Except Fault Body} {effect : Operation → EStateM Fault S Unit}

lemma WalksScope.callReturn {id : ScopeId} {s s' t : S} (h : WalksScope bodies effect id s (.ok ()) s')
    {ops : List Operation} {stop result : Except Fault Unit}
    (rest : Walks bodies effect ⟨ops, stop⟩ s' result t) :
    Walks bodies effect ⟨.call id :: ops, stop⟩ s result t := by
  unfold WalksScope at h
  cases hbody : bodies id with
  | error fault =>
    rw [hbody] at h
    cases h.1
  | ok body =>
    rw [hbody] at h
    exact .callReturn hbody h rest

lemma WalksScope.callFault {id : ScopeId} {s t : S} {fault : Fault}
    (h : WalksScope bodies effect id s (.error fault) t) (ops : List Operation)
    (stop : Except Fault Unit) : Walks bodies effect ⟨.call id :: ops, stop⟩ s (.error fault) t := by
  unfold WalksScope at h
  cases hbody : bodies id with
  | error fault' =>
    rw [hbody] at h
    obtain ⟨hfault, rfl⟩ := h
    cases hfault
    exact .callUnknown hbody
  | ok body =>
    rw [hbody] at h
    exact .callFault hbody h

end Calls

/-! ## Comparing two semantics -/

section Comparison

variable {α α' β β' : Type} {V : α → α' → Prop} {W : β → β' → Prop} {R : S → T → Prop}

/-- Two computations end alike: with related values or the same fault, and in related states. -/
def Alike (V : α → α' → Prop) (R : S → T → Prop) :
    EStateM.Result Fault S α → EStateM.Result Fault T α' → Prop
  | .ok a s, .ok b t => V a b ∧ R s t
  | .error e s, .error f t => e = f ∧ R s t
  | _, _ => False

/-- A computation with its fault as the answer. -/
def attempt (x : EStateM Fault S α) (s : S) : Except Fault α × S :=
  match x s with
  | .ok a s => (.ok a, s)
  | .error fault s => (.error fault, s)

lemma attempt_bind_cases (x : EStateM Fault S α) (f : α → EStateM Fault S β) (s : S) :
    (∃ fault t, attempt x s = (.error fault, t) ∧ attempt (x >>= f) s = (.error fault, t)) ∨
      ∃ a t, attempt x s = (.ok a, t) ∧ attempt (x >>= f) s = attempt (f a) t := by
  change (∃ fault t, _ ∧ attempt (EStateM.bind x f) s = _) ∨ ∃ a t, _ ∧ attempt (EStateM.bind x f) s = _
  unfold attempt EStateM.bind
  cases x s with
  | ok a t => exact .inr ⟨a, t, rfl, rfl⟩
  | error fault t => exact .inl ⟨fault, t, rfl, rfl⟩

namespace Alike

lemma of_ok {x : EStateM.Result Fault T α'} {a : α} {s : S} (h : Alike V R (.ok a s) x) :
    ∃ b t, x = .ok b t ∧ V a b ∧ R s t := by
  cases x with
  | ok b t => exact ⟨b, t, rfl, h⟩
  | error f t => exact h.elim

lemma of_error {x : EStateM.Result Fault T α'} {e : Fault} {s : S} (h : Alike V R (.error e s) x) :
    ∃ t, x = .error e t ∧ R s t := by
  cases x with
  | ok b t => exact h.elim
  | error f t => exact ⟨t, by rw [h.1], h.2⟩

lemma symm {x : EStateM.Result Fault S α} {y : EStateM.Result Fault T α'} (h : Alike V R x y) :
    Alike (fun b a => V a b) (fun t s => R s t) y x := by
  cases x with
  | ok a s =>
    obtain ⟨b, t, rfl, hV, hR⟩ := h.of_ok
    exact ⟨hV, hR⟩
  | error e s =>
    obtain ⟨t, rfl, hR⟩ := h.of_error
    exact ⟨rfl, hR⟩

lemma map_right {x : EStateM.Result Fault S α} {y : EStateM Fault T α'} {t : T} {f : α' → α}
    (h : Alike (fun a b => a = f b) R x (y t)) : Alike (· = ·) R x ((f <$> y) t) := by
  change Alike (· = ·) R x (EStateM.map f y t)
  unfold EStateM.map
  cases hy : y t with
  | ok b t' =>
    rw [hy] at h
    obtain ⟨a, s, rfl, hV, hR⟩ := h.symm.of_ok
    exact ⟨hV, hR⟩
  | error e t' =>
    rw [hy] at h
    obtain ⟨s, rfl, hR⟩ := h.symm.of_error
    exact ⟨rfl, hR⟩

lemma bind {x : EStateM Fault S α} {y : EStateM Fault T α'} {f : α → EStateM Fault S β}
    {g : α' → EStateM Fault T β'} {s : S} {t : T} (h : Alike V R (x s) (y t))
    (hnext : ∀ a b s t, V a b → R s t → Alike W R (f a s) (g b t)) :
    Alike W R ((x >>= f) s) ((y >>= g) t) := by
  change Alike W R (EStateM.bind x f s) (EStateM.bind y g t)
  unfold EStateM.bind
  cases hx : x s with
  | ok a s' =>
    rw [hx] at h
    obtain ⟨b, t', hy, hV, hR⟩ := h.of_ok
    rw [hy]
    exact hnext a b s' t' hV hR
  | error e s' =>
    rw [hx] at h
    obtain ⟨t', hy, hR⟩ := h.of_error
    rw [hy]
    exact ⟨rfl, hR⟩

end Alike

variable {bodies : ScopeId → Except Fault Body} {effect : Operation → EStateM Fault S Unit}

/-- Where operations end alike, so do walks over the same bodies. -/
theorem Walks.simulate {effect' : Operation → EStateM Fault T Unit}
    (hop : ∀ op s t, R s t → Alike (· = ·) R (effect op s) (effect' op t)) {body : Body} {s s' : S}
    {result : Except Fault Unit} (h : Walks bodies effect body s result s') {t : T} (hR : R s t) :
    ∃ t', Walks bodies effect' body t result t' ∧ R s' t' := by
  induction h generalizing t with
  | finish => exact ⟨t, .finish, hR⟩
  | ret => exact ⟨t, .ret, hR⟩
  | @step op _ _ _ _ _ _ plain ok _ ih =>
    have halike := hop op _ _ hR
    rw [ok] at halike
    obtain ⟨_, u, hu, -, hRu⟩ := halike.of_ok
    obtain ⟨t', hrest, hR'⟩ := ih hRu
    exact ⟨t', .step plain hu hrest, hR'⟩
  | @fault op _ _ _ _ _ plain error =>
    have halike := hop op _ _ hR
    rw [error] at halike
    obtain ⟨t', ht', hR'⟩ := halike.of_error
    exact ⟨t', .fault plain ht', hR'⟩
  | callUnknown unknown => exact ⟨t, .callUnknown unknown, hR⟩
  | callFault known _ ih =>
    obtain ⟨t', hinner, hR'⟩ := ih hR
    exact ⟨t', .callFault known hinner, hR'⟩
  | callReturn known _ _ ih ih' =>
    obtain ⟨u, hinner, hRu⟩ := ih hR
    obtain ⟨t', hrest, hR'⟩ := ih' hRu
    exact ⟨t', .callReturn known hinner hrest, hR'⟩

theorem WalksScope.simulate {effect' : Operation → EStateM Fault T Unit}
    (hop : ∀ op s t, R s t → Alike (· = ·) R (effect op s) (effect' op t)) {id : ScopeId} {s s' : S}
    {result : Except Fault Unit} (h : WalksScope bodies effect id s result s') {t : T} (hR : R s t) :
    ∃ t', WalksScope bodies effect' id t result t' ∧ R s' t' := by
  unfold WalksScope at h ⊢
  cases hbody : bodies id with
  | error fault =>
    rw [hbody] at h
    obtain ⟨rfl, rfl⟩ := h
    exact ⟨t, ⟨rfl, rfl⟩, hR⟩
  | ok body =>
    rw [hbody] at h
    exact Walks.simulate hop h hR

end Comparison

end ScopeMachine
