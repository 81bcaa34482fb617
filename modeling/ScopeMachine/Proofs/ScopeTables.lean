import Mathlib.Algebra.Ring.Nat
import ScopeMachine.Program

/-!
# Numbering of scopes

A table gives out ids in the order of the positions, so in every table that was built by its operations the
scope at a position has that position as its id (`ScopeTable.Built.numbered`). Installing a program appends its
scopes, numbered from the first position that is free (`Program.install_of_lt`).
-/

namespace ScopeMachine

lemma ScopeId.index_ofNat {n : Nat} (h : n < 2 ^ 32) : (ScopeId.mk (UInt32.ofNat n)).index = n := by
  rw [index, UInt32.toNat_ofNat']
  exact Nat.mod_eq_of_lt h

namespace ScopeTable

variable {σ : Type} {table next : ScopeTable σ} {id : ScopeId}

/-! ## What the operations do -/

lemma nextId_of_lt {issued : Nat} (h : issued < ScopeId.invalid.index) :
    nextId issued = .ok ⟨UInt32.ofNat issued⟩ := if_pos h

lemma nextId_of_ge {issued : Nat} (h : ScopeId.invalid.index ≤ issued) :
    nextId issued = .error (.scopeTableFull issued) := if_neg (Nat.not_lt.mpr h)

lemma createScope_of_lt (h : table.internal.size < ScopeId.invalid.index) :
    createScope table = .ok ⟨UInt32.ofNat table.internal.size⟩
      { table with internal := table.internal.push ⟨⟨UInt32.ofNat table.internal.size⟩, []⟩ } := by
  rw [createScope, nextId_of_lt h]

lemma createScope_of_ge (h : ScopeId.invalid.index ≤ table.internal.size) :
    createScope table = .error (.scopeTableFull table.internal.size) table := by
  rw [createScope, nextId_of_ge h]

lemma createScope_eq_ok (h : createScope table = .ok id next) :
    table.internal.size < ScopeId.invalid.index ∧
      next.internal = table.internal.push ⟨⟨UInt32.ofNat table.internal.size⟩, []⟩ := by
  by_cases hlt : table.internal.size < ScopeId.invalid.index
  · rw [createScope_of_lt hlt] at h
    cases h
    exact ⟨hlt, rfl⟩
  · rw [createScope, nextId, if_neg hlt] at h
    cases h

lemma internal_of_createExternal (h : createExternal table = .ok id next) : next.internal = table.internal := by
  unfold createExternal at h
  split at h
  · cases h
  · cases h
    rfl

lemma editCode_of_scope {s : Scope} (h : table.internal[id.index]? = some s) (edit : Bytes → Bytes) :
    editCode id edit table =
      .ok () { table with internal := table.internal.setIfInBounds id.index { s with code := edit s.code } } := by
  rw [editCode, scope, h]

lemma editCode_eq_ok {edit : Bytes → Bytes} (h : editCode id edit table = .ok () next) :
    ∃ s, table.internal[id.index]? = some s ∧
      next.internal = table.internal.setIfInBounds id.index { s with code := edit s.code } := by
  cases hs : table.internal[id.index]? with
  | none =>
    rw [editCode, scope, hs] at h
    cases h
  | some s =>
    rw [editCode_of_scope hs] at h
    cases h
    exact ⟨s, rfl, rfl⟩

lemma internal_of_setCallback {callback : Callback σ} (h : setCallback id callback table = .ok () next) :
    next.internal = table.internal := by
  unfold setCallback at h
  split at h
  · cases h
  · cases h
    rfl

lemma addScope_of_lt (h : table.internal.size < ScopeId.invalid.index) (code : Bytes) :
    addScope code table = .ok ⟨UInt32.ofNat table.internal.size⟩
      { table with internal := table.internal.push ⟨⟨UInt32.ofNat table.internal.size⟩, code⟩ } := by
  have hindex : (ScopeId.mk (UInt32.ofNat table.internal.size)).index = table.internal.size :=
    ScopeId.index_ofNat (Nat.lt_trans h (by decide))
  have hset : ∀ s t : Scope, (table.internal.push s).setIfInBounds table.internal.size t =
      table.internal.push t := by grind
  rw [addScope, createScope_of_lt h]
  simp only [setCode, editCode, scope, hindex, Array.getElem?_push_size, hset]

/-! ## Tables as they are built -/

/-- The tables that come from creating scopes, changing their code and attaching callbacks. -/
inductive Built : ScopeTable σ → Prop where
  | empty : Built empty
  | createScope {table next : ScopeTable σ} {id : ScopeId} (built : Built table)
      (step : createScope table = .ok id next) : Built next
  | createExternal {table next : ScopeTable σ} {id : ScopeId} (built : Built table)
      (step : createExternal table = .ok id next) : Built next
  | editCode {table next : ScopeTable σ} {id : ScopeId} {edit : Bytes → Bytes} (built : Built table)
      (step : editCode id edit table = .ok () next) : Built next
  | setCallback {table next : ScopeTable σ} {id : ScopeId} {callback : Callback σ} (built : Built table)
      (step : setCallback id callback table = .ok () next) : Built next

/-- Every internal scope has its position as its id, and no position is the invalid id. -/
structure Numbered (table : ScopeTable σ) : Prop where
  id_eq : ∀ {i : Nat} {s : Scope}, table.internal[i]? = some s → s.id = ⟨UInt32.ofNat i⟩
  size_le : table.internal.size ≤ ScopeId.invalid.index

lemma Numbered.of_internal_eq (h : table.Numbered) (heq : next.internal = table.internal) : next.Numbered where
  id_eq hs := h.id_eq (by rwa [heq] at hs)
  size_le := by
    rw [heq]
    exact h.size_le

lemma Numbered.createScope (h : table.Numbered) (hstep : createScope table = .ok id next) : next.Numbered := by
  obtain ⟨hlt, hnext⟩ := createScope_eq_ok hstep
  constructor
  · intro i s hs
    rw [hnext, Array.getElem?_push] at hs
    split at hs
    · rename_i hi
      cases hs
      rw [hi]
    · exact h.id_eq hs
  · rw [hnext, Array.size_push]
    omega

lemma Numbered.editCode {edit : Bytes → Bytes} (h : table.Numbered)
    (hstep : editCode id edit table = .ok () next) : next.Numbered := by
  obtain ⟨s, hs, hnext⟩ := editCode_eq_ok hstep
  constructor
  · intro i t ht
    rw [hnext, Array.getElem?_setIfInBounds] at ht
    split at ht
    · rename_i hi
      split at ht
      · cases ht
        have hid : s.id = ⟨UInt32.ofNat id.index⟩ := h.id_eq hs
        rw [← hi, ← hid]
      · cases ht
    · exact h.id_eq ht
  · rw [hnext, Array.size_setIfInBounds]
    exact h.size_le

theorem Built.numbered (h : table.Built) : table.Numbered := by
  induction h with
  | empty => exact ⟨nofun, Nat.zero_le _⟩
  | createScope _ step ih => exact ih.createScope step
  | createExternal _ step ih => exact ih.of_internal_eq (internal_of_createExternal step)
  | editCode _ step ih => exact ih.editCode step
  | setCallback _ step ih => exact ih.of_internal_eq (internal_of_setCallback step)

/-- Scopes with the given code, numbered from a position on. -/
def numberFrom : (first : Nat) → (codes : List Bytes) → List Scope
  | _, [] => []
  | first, code :: codes => ⟨⟨UInt32.ofNat first⟩, code⟩ :: numberFrom (first + 1) codes

lemma map_code_numberFrom (first : Nat) (codes : List Bytes) :
    (numberFrom first codes).map (·.code) = codes := by
  induction codes generalizing first with
  | nil => rfl
  | cons code codes ih => rw [numberFrom, List.map_cons, ih]

lemma getElem?_numberFrom (first : Nat) (codes : List Bytes) (i : Nat) :
    (numberFrom first codes)[i]? = codes[i]?.map fun code => ⟨⟨UInt32.ofNat (first + i)⟩, code⟩ := by
  induction codes generalizing first i with
  | nil => rfl
  | cons code codes ih =>
    cases i with
    | zero => rfl
    | succ i =>
      rw [numberFrom, List.getElem?_cons_succ, ih, List.getElem?_cons_succ, Nat.add_assoc, Nat.add_comm 1 i]

lemma Numbered.toList_internal (h : table.Numbered) :
    table.internal.toList = numberFrom 0 (table.internal.toList.map (·.code)) := by
  apply List.ext_getElem?
  intro i
  rw [getElem?_numberFrom, List.getElem?_map, Array.getElem?_toList, Nat.zero_add]
  cases hs : table.internal[i]? with
  | none => rfl
  | some s => rw [Option.map_some, Option.map_some, ← h.id_eq hs]

end ScopeTable

/-! ## Installing a program -/

namespace Program

open ScopeTable (numberFrom)

variable {σ : Type}

lemma installScopes_of_le (codes : List Bytes) (table : ScopeTable σ)
    (hroom : table.internal.size + codes.length ≤ ScopeId.invalid.index) :
    installScopes codes table =
      .ok ((numberFrom table.internal.size codes).map (·.id))
        { table with internal := table.internal ++ (numberFrom table.internal.size codes).toArray } := by
  induction codes generalizing table with
  | nil => rw [installScopes, numberFrom, List.map_nil, Array.append_empty]
  | cons code codes ih =>
    rw [List.length_cons] at hroom
    have happend : ∀ (s : Scope) (rest : List Scope),
        table.internal.push s ++ rest.toArray = table.internal ++ (s :: rest).toArray := by simp
    have hlater := ih
      { table with internal := table.internal.push ⟨⟨UInt32.ofNat table.internal.size⟩, code⟩ }
      (by rw [Array.size_push]; omega)
    rw [installScopes, ScopeTable.addScope_of_lt (by omega)]
    simp only [hlater, Array.size_push, numberFrom, List.map_cons, happend]

lemma install_of_lt (p : Program) (table : ScopeTable σ) (hstart : p.start.toNat < p.scopes.length)
    (hroom : table.internal.size + p.scopes.length ≤ ScopeId.invalid.index) :
    p.install table =
      .ok ⟨UInt32.ofNat (table.internal.size + p.start.toNat)⟩
        { table with internal := table.internal ++ (numberFrom table.internal.size p.scopes).toArray } := by
  have hid : ((numberFrom table.internal.size p.scopes).map (·.id)).getD p.start.toNat .invalid =
      ⟨UInt32.ofNat (table.internal.size + p.start.toNat)⟩ := by
    rw [List.getD_eq_getElem?_getD, List.getElem?_map, ScopeTable.getElem?_numberFrom,
      List.getElem?_eq_getElem hstart]
    rfl
  rw [install, if_neg (by omega), installScopes_of_le p.scopes table hroom]
  simp only [hid]

lemma install_of_internal_eq_empty {p : Program} {table : ScopeTable σ} (hempty : table.internal = #[])
    (hstart : p.start.toNat < p.scopes.length) (hroom : p.scopes.length < 2 ^ 32) :
    p.install table = .ok ⟨p.start⟩ ⟨(numberFrom 0 p.scopes).toArray, table.external⟩ := by
  have hsize : table.internal.size = 0 := by rw [hempty]; rfl
  have hle : p.scopes.length ≤ ScopeId.invalid.index := Nat.le_of_lt_succ hroom
  rw [install_of_lt p table hstart (by omega), hsize, hempty, Nat.zero_add, UInt32.ofNat_toNat,
    Array.empty_append]

end Program

end ScopeMachine
