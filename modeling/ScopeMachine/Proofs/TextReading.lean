import Mathlib.Data.Nat.Digits.Defs
import ScopeMachine.Text

/-!
# Reading texts

What readers of options and of literals share: blank ends are cut off, digits are read from the left, and a check from
left to right reports the leftmost thing that is wrong (`Leftmost`).
-/

namespace ScopeMachine

/-! ## Blank ends and digits -/

namespace Text

lemma trim_append {lead core tail : List Char} (hlead : ∀ c ∈ lead, isBlank c = true)
    (htail : ∀ c ∈ tail, isBlank c = true) (hhead : ∀ c ∈ core.head?, isBlank c = false)
    (hlast : ∀ c ∈ core.getLast?, isBlank c = false) (hcore : core ≠ []) : trim (lead ++ core ++ tail) = core := by
  have hfront : (core ++ tail).dropWhile isBlank = core ++ tail := by
    obtain ⟨c, rest, rfl⟩ := List.exists_cons_of_ne_nil hcore
    rw [List.cons_append, List.dropWhile_cons_of_neg (by simp [hhead c rfl])]
  have hback : core.reverse.dropWhile isBlank = core.reverse := by
    obtain ⟨c, rest, hreverse⟩ := List.exists_cons_of_ne_nil (List.reverse_ne_nil_iff.2 hcore)
    have hc : isBlank c = false := hlast c (by rw [← List.head?_reverse, hreverse]; rfl)
    rw [hreverse, List.dropWhile_cons_of_neg (by simp [hc])]
  have hblank : ∀ c ∈ tail.reverse, isBlank c = true := by simpa using htail
  rw [trim, List.append_assoc, List.dropWhile_append_of_pos hlead, hfront, List.reverse_append,
    List.dropWhile_append_of_pos hblank, hback, List.reverse_reverse]

lemma foldl_digits {α : Type} (value : α → Nat) (digits : List α) :
    digits.foldl (fun n digit => 10 * n + value digit) 0 = Nat.ofDigits 10 (digits.reverse.map value) := by
  rw [Nat.ofDigits_eq_foldr, List.foldr_map, List.foldr_reverse]
  simp only [Nat.cast_id, Nat.add_comm]

end Text

/-! ## The leftmost error -/

/-- The leftmost thing that is wrong, where `f` says what is wrong at each position. -/
def Leftmost {ε : Type} (f : Nat → Option ε) (e : ε) : Prop := ∃ i, f i = some e ∧ ∀ j < i, f j = none

section

variable {ε : Type} {f : Nat → Option ε} {e e' : ε}

lemma Leftmost.unique (h : Leftmost f e) (h' : Leftmost f e') : e = e' := by
  obtain ⟨i, hi, hbefore⟩ := h
  obtain ⟨j, hj, hbefore'⟩ := h'
  rcases Nat.lt_trichotomy i j with hij | rfl | hij
  · cases hi.symm.trans (hbefore' i hij)
  · exact Option.some.inj (hi.symm.trans hj)
  · cases hj.symm.trans (hbefore j hij)

end

end ScopeMachine
