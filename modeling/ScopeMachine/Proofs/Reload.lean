import ScopeMachine.Proofs.Container
import ScopeMachine.Proofs.Execution
import ScopeMachine.Proofs.ScopeTables

/-!
# Saving and loading a table

A snapshot of a table, written and read back and installed beside the same external scopes, is the table again
(`Program.reloads_as_saved`). Calls name scopes by their ids, so what matters is that the ids come out as they
were: they are the positions of the scopes, in the table that is saved and in the one that is loaded.
-/

namespace ScopeMachine

open Wire

lemma ScopeTable.Numbered.index_lt {σ : Type} {table : ScopeTable σ} (h : table.Numbered) {id : ScopeId}
    (hissued : ∃ s ∈ table.internal, s.id = id) : id.index < table.internal.size := by
  obtain ⟨s, hmem, rfl⟩ := hissued
  obtain ⟨i, hs⟩ := Array.mem_iff_getElem?.mp hmem
  obtain ⟨hi, -⟩ := Array.getElem?_eq_some_iff.mp hs
  have hsmall : i < 2 ^ 32 := Nat.lt_of_lt_of_le hi (Nat.le_trans h.size_le (by decide))
  rw [h.id_eq hs, ScopeId.index_ofNat hsmall]
  exact hi

namespace Program

variable {σ : Type} {table : ScopeTable σ}

lemma fits_snapshot (hsize : table.internal.size ≤ Reader.maxLength)
    (hcode : ∀ s ∈ table.internal, s.code.length ≤ Reader.maxLength) (start : ScopeId) :
    (snapshot table start).Fits where
  scopes := by rwa [snapshot, List.length_map, Array.length_toList]
  code code hmem := by
    obtain ⟨s, hs, rfl⟩ := List.mem_map.mp hmem
    exact hcode s (Array.mem_toList_iff.mp hs)

lemma install_snapshot (hnumbered : table.Numbered) {start : ScopeId}
    (hissued : ∃ s ∈ table.internal, s.id = start) :
    (snapshot table start).install ⟨#[], table.external⟩ = .ok start table := by
  have hlength : (snapshot table start).scopes.length = table.internal.size := by
    rw [snapshot, List.length_map, Array.length_toList]
  have hstart : (snapshot table start).start.toNat < (snapshot table start).scopes.length := by
    rw [hlength]
    exact hnumbered.index_lt hissued
  have hroom : (snapshot table start).scopes.length < 2 ^ 32 := by
    rw [hlength]
    exact Nat.lt_succ_of_le hnumbered.size_le
  have hinternal : (ScopeTable.numberFrom 0 (snapshot table start).scopes).toArray = table.internal := by
    rw [snapshot, ← hnumbered.toList_internal, Array.toArray_toList]
  rw [install_of_internal_eq_empty rfl hstart hroom, hinternal]
  rfl

lemma snapshot_install {p : Program} (hempty : table.internal = #[]) (hstart : p.start.toNat < p.scopes.length)
    (hroom : p.scopes.length < 2 ^ 32) :
    ∃ id loaded, p.install table = .ok id loaded ∧ snapshot loaded id = p := by
  refine ⟨_, _, install_of_internal_eq_empty hempty hstart hroom, ?_⟩
  rw [snapshot, ScopeTable.map_code_numberFrom]

/-- A table whose scopes fit is saved, read back and installed beside the same external scopes without a
change: the start scope has its id again, all scopes have their ids and code, and every run from the start
scope ends in the same way. Conversely a program that is installed on its own is what is saved of the table. -/
theorem reloads_as_saved :
    (∀ (table : ScopeTable σ) (start : ScopeId), table.Built → table.internal.size ≤ Reader.maxLength →
      (∀ s ∈ table.internal, s.code.length ≤ Reader.maxLength) → (∃ s ∈ table.internal, s.id = start) →
      ∃ p loaded, ofBytes (snapshot table start).toBytes = .ok p ∧
        p.install ⟨#[], table.external⟩ = .ok start loaded ∧
        loaded.internal = table.internal ∧ loaded.external = table.external ∧
        ∀ stack registers host trace result final,
          (Machine.mk stack registers table start host trace).Runs result final ↔
            (Machine.mk stack registers loaded start host trace).Runs result final) ∧
    ∀ (table : ScopeTable σ) (p : Program), table.internal = #[] → p.start.toNat < p.scopes.length →
      p.scopes.length < 2 ^ 32 → ∃ id loaded, p.install table = .ok id loaded ∧ snapshot loaded id = p := by
  constructor
  · intro table start hbuilt hsize hcode hissued
    refine ⟨snapshot table start, table, ofBytes_toBytes (fits_snapshot hsize hcode start),
      install_snapshot hbuilt.numbered hissued, rfl, rfl, fun _ _ _ _ _ _ => Iff.rfl⟩
  · exact fun table p hempty hstart hroom => snapshot_install hempty hstart hroom

/-- Two scopes, the first of which calls the second one and the host. -/
def calling : ScopeTable Nat where
  internal := #[⟨⟨0⟩, Operation.records [.call ⟨1⟩, .callExternal ⟨0⟩]⟩,
    ⟨⟨1⟩, Operation.records [.pushConst 7, .ret]⟩]
  external := #[⟨⟨0⟩, none⟩]

lemma calling_built : calling.Built := by
  have hscopes : ScopeTable.Built (⟨#[⟨⟨0⟩, []⟩, ⟨⟨1⟩, []⟩], #[⟨⟨0⟩, none⟩]⟩ : ScopeTable Nat) :=
    ((ScopeTable.Built.empty.createScope rfl).createScope rfl).createExternal rfl
  have hfirst := hscopes.editCode
    (rfl : ScopeTable.setCode ⟨0⟩ (Operation.records [.call ⟨1⟩, .callExternal ⟨0⟩]) _ = .ok () _)
  exact hfirst.editCode (rfl : ScopeTable.setCode ⟨1⟩ (Operation.records [.pushConst 7, .ret]) _ = .ok () _)

theorem calling_reloads :
    calling.Built ∧ ∃ p loaded, ofBytes (snapshot calling ⟨1⟩).toBytes = .ok p ∧
      p.install ⟨#[], calling.external⟩ = .ok ⟨1⟩ loaded ∧ loaded.internal = calling.internal := by
  have hissued : ∃ s ∈ calling.internal, s.id = ⟨1⟩ := by decide
  obtain ⟨p, loaded, hread, hinstall, hinternal, -⟩ :=
    reloads_as_saved.1 calling ⟨1⟩ calling_built (by decide) (by decide) hissued
  exact ⟨calling_built, p, loaded, hread, hinstall, hinternal⟩

end Program

end ScopeMachine
