import Mathlib
import ScopeMachine.Proofs.Disassembly

/-!
# The text of a listing

Code can be recovered from the lines of its listing, without the offsets: two byte strings that can be listed and have
the same lines are the same (`Listing.lines_determine_code`). A line is taken apart at its first blank, since no
mnemonic has one. The mnemonic gives the instruction, and the text behind the blank gives the operand.
-/

namespace ScopeMachine

namespace Text

/-- A word and, if anything follows it, a blank and what follows. -/
def spaced (word : List Char) (rest : Option String) : List Char :=
  word ++ rest.elim [] fun text => ' ' :: text.toList

lemma takeWhile_spaced {word : List Char} (hword : ' ' ∉ word) (rest : Option String) :
    (spaced word rest).takeWhile (· ≠ ' ') = word := by
  have hall : ∀ c ∈ word, decide (c ≠ ' ') = true := by
    intro c hc
    exact decide_eq_true (ne_of_mem_of_not_mem hc hword)
  rw [spaced, List.takeWhile_append_of_pos hall]
  cases rest <;> simp

lemma spaced_inj {word word' : List Char} {rest rest' : Option String} (hword : ' ' ∉ word) (hword' : ' ' ∉ word')
    (h : spaced word rest = spaced word' rest') : word = word' ∧ rest = rest' := by
  have hsame : word = word' := by
    rw [← takeWhile_spaced hword rest, h, takeWhile_spaced hword']
  subst hsame
  refine ⟨rfl, ?_⟩
  have hrest := List.append_cancel_left h
  cases rest with
  | none =>
    cases rest' with
    | none => rfl
    | some text' => cases hrest
  | some text =>
    cases rest' with
    | none => cases hrest
    | some text' =>
      have htext : text.toList = text'.toList := List.tail_eq_of_cons_eq hrest
      rw [String.toList_inj.mp htext]

end Text

/-! ## Operands -/

lemma Register.text_injective : Function.Injective Register.text := by
  intro r r' h
  -- names from different partitions start with different letters
  have hkind : r.kind = r'.kind := by
    have hletter := congrArg (fun name => name.toList.head?) h
    cases r <;> cases r' <;> simp [text] at hletter ⊢
  refine eq_of_index_eq hkind ?_
  have hlt := r.index_lt_size
  have hlt' := r'.index_lt_size
  rw [text, text, hkind] at h
  rw [hkind] at hlt
  cases hof : r'.kind with
  | general => simpa [hof] using h
  | stackFrame => simpa [hof] using h
  | memory => simpa [hof] using h
  | flag =>
    rw [hof, RegisterKind.size] at hlt hlt'
    omega

namespace ScopeId

lemma toString_ne_invalid (n : Nat) : toString n ≠ "<invalid>" := by
  intro h
  have hmem : '<' ∈ Nat.toDigits 10 n := by
    rw [← Nat.toList_repr, ← Nat.toString_eq_repr, h]
    decide
  have hdigit : '<'.isDigit = true := Nat.isDigit_of_mem_toDigits (by decide) (by decide) hmem
  revert hdigit
  decide

lemma text_eq_invalid_iff {id : ScopeId} : id.text = "<invalid>" ↔ id = invalid := by
  unfold text isValid
  constructor
  · intro h
    split_ifs at h with hvalid
    · exact absurd h (toString_ne_invalid _)
    · simpa using hvalid
  · rintro rfl
    rfl

lemma text_injective : Function.Injective text := by
  intro id id' h
  by_cases hinvalid : id = invalid
  · rw [text_eq_invalid_iff.mpr hinvalid] at h
    rw [hinvalid, text_eq_invalid_iff.mp h.symm]
  · have hinvalid' : id' ≠ invalid := by
      intro heq
      rw [text_eq_invalid_iff.mpr heq] at h
      exact hinvalid (text_eq_invalid_iff.mp h)
    have hnumber : id.raw.toNat = id'.raw.toNat := by
      simpa [text, isValid, hinvalid, hinvalid'] using h
    exact eq_of_index_eq hnumber

end ScopeId

/-! ## Lines -/

lemma Instruction.blank_notMem_mnemonic (i : Instruction) : ' ' ∉ i.mnemonic.toList := by
  cases i <;> decide

lemma Instruction.mnemonic_injective : Function.Injective Instruction.mnemonic := by
  intro i i' h
  cases i <;> cases i' <;> simp [mnemonic] at h ⊢

namespace Operation

lemma toList_text (op : Operation) : op.text.toList = Text.spaced op.instruction.mnemonic.toList op.operandText := by
  unfold text Text.spaced
  cases op.operandText <;> simp

lemma eq_of_operandText_eq {op op' : Operation} (hinstruction : op.instruction = op'.instruction)
    (h : op.operandText = op'.operandText) : op = op' := by
  cases op <;> cases op' <;> cases hinstruction
  case nop.nop.refl => rfl
  case pushConst.pushConst.refl value value' =>
    have hvalue : value.toInt = value'.toInt := by simpa [operandText] using h
    rw [Int32.toInt_inj.mp hvalue]
  case pushRegister.pushRegister.refl register register' =>
    rw [Register.text_injective (Option.some.inj h)]
  case setRegister.setRegister.refl register register' =>
    rw [Register.text_injective (Option.some.inj h)]
  case add.add.refl => rfl
  case call.call.refl scope scope' =>
    rw [ScopeId.text_injective (Option.some.inj h)]
  case callExternal.callExternal.refl scope scope' =>
    rw [ScopeId.text_injective (Option.some.inj h)]
  case ret.ret.refl => rfl

lemma text_injective : Function.Injective text := by
  intro op op' h
  have hchars : Text.spaced op.instruction.mnemonic.toList op.operandText =
      Text.spaced op'.instruction.mnemonic.toList op'.operandText := by
    rw [← toList_text, ← toList_text, h]
  obtain ⟨hmnemonic, hoperand⟩ := Text.spaced_inj (Instruction.blank_notMem_mnemonic _)
    (Instruction.blank_notMem_mnemonic _) hchars
  have hinstruction : op.instruction = op'.instruction :=
    Instruction.mnemonic_injective (String.toList_inj.mp hmnemonic)
  exact eq_of_operandText_eq hinstruction hoperand

end Operation

namespace Listing

def lines (listing : Listing) : List String := listing.operations.map Operation.text

/-- The lines of a listing determine the code that was listed, since no two operations have the same text. The one scope
id that is not written as a number is the invalid one. -/
theorem lines_determine_code :
    (∀ code code' listing listing', ofBytes code = .ok listing → ofBytes code' = .ok listing' →
      listing.lines = listing'.lines → code = code') ∧
    Function.Injective Operation.text ∧ ∀ id : ScopeId, id.text = "<invalid>" ↔ id = .invalid := by
  refine ⟨?_, Operation.text_injective, fun id => ScopeId.text_eq_invalid_iff⟩
  intro code code' listing listing' hok hok' hlines
  have hoperations : listing.operations = listing'.operations :=
    Operation.text_injective.list_map hlines
  rw [(eq_of_ofBytes_eq_ok hok).1, (eq_of_ofBytes_eq_ok hok').1, hoperations]

/-- The least constant, a call of the invalid scope and one of the scope with the greatest id there is. -/
def extremes : List Operation :=
  [.pushConst (-2147483648), .setRegister (.stackFrame (Fin.last 5)), .call .invalid, .callExternal ⟨4294967294⟩]

theorem extremes_determined_by_lines :
    ofBytes [1, 0, 0, 0, 128, 3, 13, 5, 255, 255, 255, 255, 6, 254, 255, 255, 255] =
        .ok (ofOperations 0 extremes) ∧
      (ofOperations 0 extremes).lines =
        ["push_i4_const -2147483648", "set_i4_reg sp5", "call <invalid>", "xcall 4294967294"] ∧
      Operation.records extremes = [1, 0, 0, 0, 128, 3, 13, 5, 255, 255, 255, 255, 6, 254, 255, 255, 255] := by
  have hlist : ofBytes [1, 0, 0, 0, 128, 3, 13, 5, 255, 255, 255, 255, 6, 254, 255, 255, 255] =
      .ok (ofOperations 0 extremes) := by rfl
  refine ⟨hlist, by cbv, ?_⟩
  exact lines_determine_code.1 _ _ _ _ (ofBytes_records extremes) hlist rfl

end Listing

end ScopeMachine
