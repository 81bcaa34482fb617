import ScopeMachine.Proofs.Reload

/-!
# Installing programs

Installing a program appends its scopes to a table and changes nothing else, as long as there are ids for all of them
(`Program.install_appends_exactly`). The id that a scope is promised when it is added to a program is the number of
scopes added before it, and in a table without internal scopes the promise comes true.
-/

namespace ScopeMachine

lemma ScopeId.index_invalid : invalid.index = 2 ^ 32 - 1 := rfl

namespace ScopeTable

variable {σ : Type} {table next : ScopeTable σ}

/-- The second table is the first one with new internal scopes behind the others, one for each piece of code. -/
structure Appended (table next : ScopeTable σ) (codes : List Bytes) : Prop where
  size_eq : next.internal.size = table.internal.size + codes.length
  kept : ∀ i < table.internal.size, next.internal[i]? = table.internal[i]?
  added : ∀ i code, codes[i]? = some code → ∃ s, next.internal[table.internal.size + i]? = some s ∧
    s.id.index = table.internal.size + i ∧ s.code = code
  external_eq : next.external = table.external

lemma length_numberFrom (first : Nat) (codes : List Bytes) : (numberFrom first codes).length = codes.length := by
  rw [← List.length_map (f := Scope.code), map_code_numberFrom]

lemma appended_numberFrom (table : ScopeTable σ) {codes : List Bytes}
    (hroom : table.internal.size + codes.length ≤ ScopeId.invalid.index) :
    table.Appended
      { table with internal := table.internal ++ (numberFrom table.internal.size codes).toArray } codes where
  size_eq := by simp [length_numberFrom]
  kept i hi := by simp [Array.getElem?_append, hi]
  added i code hcode := by
    have hi : i < codes.length := (List.getElem?_eq_some_iff.mp hcode).1
    have hindex : (ScopeId.mk (UInt32.ofNat (table.internal.size + i))).index = table.internal.size + i := by
      apply ScopeId.index_ofNat
      rw [ScopeId.index_invalid] at hroom
      omega
    refine ⟨⟨⟨UInt32.ofNat (table.internal.size + i)⟩, code⟩, ?_, hindex, rfl⟩
    simp [Array.getElem?_append, getElem?_numberFrom, hcode]
  external_eq := rfl

lemma addScope_of_full (h : table.internal.size = ScopeId.invalid.index) (code : Bytes) :
    addScope code table = .error (.scopeTableFull ScopeId.invalid.index) table := by
  rw [addScope, createScope_of_ge h.ge, h]

end ScopeTable

namespace Program

open ScopeTable (numberFrom Appended)

variable {σ : Type} {table : ScopeTable σ}

/-- Where the ids run out, the scopes that still have one are installed before the installation fails. -/
lemma installScopes_of_gt (codes : List Bytes) (table : ScopeTable σ)
    (hsize : table.internal.size ≤ ScopeId.invalid.index)
    (hfull : ScopeId.invalid.index < table.internal.size + codes.length) :
    installScopes codes table =
      .error (.scopeTableFull ScopeId.invalid.index)
        { table with internal := table.internal ++
            (numberFrom table.internal.size (codes.take (ScopeId.invalid.index - table.internal.size))).toArray } := by
  induction codes generalizing table with
  | nil =>
    rw [List.length_nil] at hfull
    omega
  | cons code codes ih =>
    rw [List.length_cons] at hfull
    rw [installScopes]
    by_cases hlast : table.internal.size = ScopeId.invalid.index
    · have hnone : ScopeId.invalid.index - table.internal.size = 0 := by omega
      rw [ScopeTable.addScope_of_full hlast, hnone, List.take_zero, numberFrom, Array.append_empty]
    · have hmore : ScopeId.invalid.index - table.internal.size =
          ScopeId.invalid.index - (table.internal.size + 1) + 1 := by omega
      have hlater := ih
        { table with internal := table.internal.push ⟨⟨UInt32.ofNat table.internal.size⟩, code⟩ }
        (by rw [Array.size_push]; omega) (by rw [Array.size_push]; omega)
      rw [ScopeTable.addScope_of_lt (by omega), hmore, List.take_succ_cons, numberFrom]
      simp only [hlater, Array.size_push]
      simp

lemma install_of_start_ge {p : Program} (h : p.scopes.length ≤ p.start.toNat) (table : ScopeTable σ) :
    p.install table = .error (.unknownScope ⟨p.start⟩) table := by
  rw [install, if_pos h]

lemma exists_install_of_room {p : Program} (hstart : p.start.toNat < p.scopes.length)
    (hroom : table.internal.size + p.scopes.length ≤ ScopeId.invalid.index) :
    ∃ id next, p.install table = .ok id next ∧ id.index = table.internal.size + p.start.toNat ∧
      table.Appended next p.scopes := by
  refine ⟨_, _, install_of_lt p table hstart hroom, ?_, table.appended_numberFrom hroom⟩
  apply ScopeId.index_ofNat
  rw [ScopeId.index_invalid] at hroom
  omega

lemma exists_install_of_full {p : Program} (hsize : table.internal.size ≤ ScopeId.invalid.index)
    (hstart : p.start.toNat < p.scopes.length)
    (hfull : ScopeId.invalid.index < table.internal.size + p.scopes.length) :
    ∃ next, p.install table = .error (.scopeTableFull ScopeId.invalid.index) next ∧
      table.Appended next (p.scopes.take (ScopeId.invalid.index - table.internal.size)) := by
  refine ⟨_, ?_, table.appended_numberFrom ?_⟩
  · rw [install, if_neg (by omega), installScopes_of_gt p.scopes table hsize hfull]
  · rw [List.length_take]
    omega

/-! ## Building a program -/

def empty : Program := ⟨[], 0⟩

/-- Adds scopes to a program, one after the other, and gives their ids. -/
def addScopes : List Bytes → Program → List ScopeId × Program
  | [], p => ([], p)
  | code :: codes, p =>
    let (id, p) := p.addScope code
    let (ids, p) := addScopes codes p
    (id :: ids, p)

lemma addScopes_eq (codes : List Bytes) (p : Program) :
    addScopes codes p =
      ((numberFrom p.scopes.length codes).map (·.id), { p with scopes := p.scopes ++ codes }) := by
  induction codes generalizing p with
  | nil => simp [addScopes, numberFrom]
  | cons code codes ih => simp [addScopes, addScope, numberFrom, ih]

lemma getElem?_ids_addScopes {codes : List Bytes} (hroom : codes.length < 2 ^ 32) {i : Nat} {id : ScopeId}
    (h : (addScopes codes empty).1[i]? = some id) : i < codes.length ∧ id = ⟨UInt32.ofNat i⟩ ∧ id.index = i := by
  rw [addScopes_eq, List.getElem?_map, ScopeTable.getElem?_numberFrom, empty, List.length_nil, Nat.zero_add] at h
  cases hcode : codes[i]? with
  | none =>
    rw [hcode] at h
    cases h
  | some code =>
    rw [hcode] at h
    cases h
    have hi : i < codes.length := (List.getElem?_eq_some_iff.mp hcode).1
    exact ⟨hi, rfl, ScopeId.index_ofNat (hi.trans hroom)⟩

lemma install_addScopes {codes : List Bytes} (hne : codes ≠ []) (hroom : codes.length < 2 ^ 32) {start : ScopeId}
    (hstart : start = ⟨0⟩ ∨ start ∈ (addScopes codes empty).1) (hempty : table.internal = #[]) :
    ∃ next, { (addScopes codes empty).2 with start := start.raw }.install table = .ok start next ∧
      ∀ (i : Nat) id code, (addScopes codes empty).1[i]? = some id → codes[i]? = some code →
        next.scope id = .ok ⟨id, code⟩ := by
  have hscopes : (addScopes codes empty).2.scopes = codes := by rw [addScopes_eq]; rfl
  have hlt : start.raw.toNat < codes.length := by
    rcases hstart with rfl | hmem
    · exact List.length_pos_of_ne_nil hne
    · obtain ⟨i, hid⟩ := List.mem_iff_getElem?.mp hmem
      obtain ⟨hi, -, hindex⟩ := getElem?_ids_addScopes hroom hid
      exact hindex.trans_lt hi
  refine ⟨_, install_of_internal_eq_empty hempty (by rwa [hscopes]) (by rwa [hscopes]), ?_⟩
  intro i id code hid hcode
  obtain ⟨-, rfl, hindex⟩ := getElem?_ids_addScopes hroom hid
  rw [ScopeTable.scope, hindex]
  simp [ScopeTable.getElem?_numberFrom, hscopes, hcode]

/-- Installing appends exactly the scopes of the program, or fails. A program without its start scope is refused and
the table is left alone. If there is an id for each scope, the scopes follow those of the table in order, and the id
of the start scope is given. If not, the table is filled up and the installation fails. The ids that were given out
while a program was built are those of its scopes once it is installed on its own. -/
theorem install_appends_exactly :
    (∀ (table : ScopeTable σ) (p : Program), p.scopes.length ≤ p.start.toNat →
      p.install table = .error (.unknownScope ⟨p.start⟩) table) ∧
    (∀ (table : ScopeTable σ) (p : Program), p.start.toNat < p.scopes.length →
      table.internal.size + p.scopes.length ≤ 2 ^ 32 - 1 →
      ∃ id next, p.install table = .ok id next ∧ id.index = table.internal.size + p.start.toNat ∧
        table.Appended next p.scopes) ∧
    (∀ (table : ScopeTable σ) (p : Program), table.Built → p.start.toNat < p.scopes.length →
      2 ^ 32 - 1 < table.internal.size + p.scopes.length →
      ∃ next, p.install table = .error (.scopeTableFull (2 ^ 32 - 1)) next ∧
        table.Appended next (p.scopes.take (2 ^ 32 - 1 - table.internal.size))) ∧
    ∀ (codes : List Bytes) (ids : List ScopeId) (p : Program), codes ≠ [] → codes.length < 2 ^ 32 →
      addScopes codes empty = (ids, p) → ids.length = codes.length ∧
        ∀ (start : ScopeId) (table : ScopeTable σ), start = ⟨0⟩ ∨ start ∈ ids → table.internal = #[] →
          ∃ next, { p with start := start.raw }.install table = .ok start next ∧
            ∀ (i : Nat) id code, ids[i]? = some id → codes[i]? = some code → next.scope id = .ok ⟨id, code⟩ := by
  refine ⟨?_, ?_, ?_, ?_⟩
  · intro table p h
    exact install_of_start_ge h table
  · intro table p hstart hroom
    exact exists_install_of_room hstart hroom
  · intro table p hbuilt hstart hfull
    exact exists_install_of_full hbuilt.numbered.size_le hstart hfull
  · intro codes ids p hne hroom hbuild
    obtain ⟨rfl, rfl⟩ : ids = (addScopes codes empty).1 ∧ p = (addScopes codes empty).2 := by simp [hbuild]
    have hlength : (addScopes codes empty).1.length = codes.length := by
      simp [addScopes_eq, ScopeTable.length_numberFrom]
    refine ⟨hlength, ?_⟩
    intro start table hstart hempty
    exact install_addScopes hne hroom hstart hempty

/-- Three scopes, the last of which the program starts with. -/
def staged : Program := ⟨[[0], [], [4, 7]], 2⟩

/-- More scopes than there are ids. -/
def crowded : Program := ⟨List.replicate (2 ^ 32) [], 0⟩

theorem staged_appended :
    { staged with start := 3 }.install calling = .error (.unknownScope ⟨3⟩) calling ∧
      (∃ id next, staged.install calling = .ok id next ∧ id.index = 4 ∧ calling.Appended next staged.scopes) ∧
      (∃ next, crowded.install calling = .error (.scopeTableFull 4294967295) next) ∧
      ∃ next, { (addScopes [[0], [], [4, 7]] empty).2 with start := 1 }.install
          (⟨#[], calling.external⟩ : ScopeTable Nat) = .ok ⟨1⟩ next ∧ next.scope ⟨2⟩ = .ok ⟨⟨2⟩, [4, 7]⟩ := by
  obtain ⟨hrefused, hroom, hfull, hbuilt⟩ := install_appends_exactly (σ := Nat)
  have hlength : crowded.scopes.length = 2 ^ 32 := List.length_replicate
  have hcrowded : 0 < crowded.scopes.length ∧ 2 ^ 32 - 1 < calling.internal.size + crowded.scopes.length := by
    rw [hlength]
    omega
  refine ⟨hrefused calling _ (by decide), hroom calling staged (by decide) (by decide), ?_, ?_⟩
  · obtain ⟨next, hinstall, -⟩ := hfull calling crowded calling_built hcrowded.1 hcrowded.2
    exact ⟨next, hinstall⟩
  · obtain ⟨next, hinstall, hscope⟩ := (hbuilt [[0], [], [4, 7]] _ _ (by decide) (by decide) rfl).2 ⟨1⟩
      ⟨#[], calling.external⟩ (.inr (by decide)) rfl
    exact ⟨next, hinstall, hscope 2 ⟨2⟩ [4, 7] rfl rfl⟩

end Program

end ScopeMachine
