import Mathlib.Data.List.Induction
import Mathlib.Data.List.Nodup
import ScopeMachine.Codegen.Discriminant
import ScopeMachine.Proofs.TextReading

/-!
# Tags of variants

The numbers of an enum's variants by the rule of the language, counted without a bound (`Discriminant.number?`), and
what can be wrong with a variant (`Discriminant.objection?`). The tags are these numbers, they are given out exactly
if there is no objection, and otherwise the first objection is reported (`Discriminant.assign_follows_numbering`).
The counter of 16 bits always holds what a counter without a bound would hold.
-/

namespace ScopeMachine.Codegen.Discriminant

/-! ## The rule -/

/-- The number that decimal digits stand for, where the first one is the most significant. -/
def decimal (digits : List (Fin 10)) : Nat := Nat.ofDigits 10 (digits.reverse.map Fin.val)

/-- The number of a variant, where `implicit` is the one that it has without a discriminant. -/
def numberOr (implicit : Option Nat) (v : Variant) : Option Nat :=
  match v.discriminant with
  | some (.integer first rest) => some (decimal (first :: rest))
  | some .other => none
  | none => implicit

/-- The number of the variant at a position, in unbounded arithmetic: the explicit one where there is one, 0 for a first
variant without one, and otherwise the number of the variant before it plus one. -/
def number? (variants : List Variant) : Nat → Option Nat
  | 0 => variants[0]?.bind (numberOr (some 0))
  | i + 1 => variants[i + 1]?.bind (numberOr ((number? variants i).map (· + 1)))

/-- Why a variant is refused. Without a discriminant it is, if the variant before it has the last number. -/
def refusal? (behindLast : Bool) (v : Variant) : Option DeriveError :=
  match v.discriminant with
  | some (.integer first rest) => if decimal (first :: rest) ≤ 255 then none else some .discriminantTooLarge
  | some .other => some .discriminantNotLiteral
  | none => if behindLast then some .discriminantOverflow else none

def objection? (variants : List Variant) (i : Nat) : Option DeriveError :=
  variants[i]?.bind (refusal? (decide (0 < i ∧ number? variants (i - 1) = some 255)))

lemma number?_append {vs : List Variant} (ws : List Variant) {i : Nat} (h : i < vs.length) :
    number? (vs ++ ws) i = number? vs i := by
  induction i with
  | zero => simp only [number?, List.getElem?_append_left h]
  | succ i ih => simp only [number?, List.getElem?_append_left h, ih (Nat.lt_of_succ_lt h)]

lemma number?_of_ge {vs : List Variant} {i : Nat} (h : vs.length ≤ i) : number? vs i = none := by
  cases i <;> simp [number?, List.getElem?_eq_none h]

lemma objection?_append {vs : List Variant} (ws : List Variant) {i : Nat} (h : i < vs.length) :
    objection? (vs ++ ws) i = objection? vs i := by
  have hbefore : number? (vs ++ ws) (i - 1) = number? vs (i - 1) := number?_append ws (by omega)
  simp only [objection?, List.getElem?_append_left h, hbefore]

/-! ## One variant -/

/-- The number of digits behind a number. -/
def append (n : Nat) (digits : List (Fin 10)) : Nat := digits.foldl (fun n digit => 10 * n + digit.val) n

lemma le_append (n : Nat) (digits : List (Fin 10)) : n ≤ append n digits := by
  induction digits generalizing n with
  | nil => exact Nat.le_refl n
  | cons digit digits ih =>
    have hstep := ih (10 * n + digit.val)
    change n ≤ append (10 * n + digit.val) digits
    omega

lemma append_zero (digits : List (Fin 10)) : append 0 digits = decimal digits := Text.foldl_digits Fin.val digits

lemma append?_eq (byte : UInt8) (digit : Fin 10) :
    append? byte digit = if 10 * byte.toNat + digit.val ≤ 255 then
      some (UInt8.ofNat (10 * byte.toNat + digit.val)) else none := by
  have hbyte : 10 * byte + UInt8.ofNat digit.val = UInt8.ofNat (10 * byte.toNat + digit.val) := by
    rw [UInt8.ofNat_add, UInt8.ofNat_mul, UInt8.ofNat_toNat]
    rfl
  rw [append?, hbyte]
  by_cases h : 10 * byte.toNat + digit.val ≤ 255
  · rw [if_pos h, if_pos (by omega)]
  · rw [if_neg h, if_neg (by omega)]

/-- Bytes are read digit by digit, and that fails exactly if the whole number is too large: a number only grows with
further digits. -/
lemma readByte_eq (byte : UInt8) (digits : List (Fin 10)) :
    readByte byte digits = if append byte.toNat digits ≤ 255 then
      some (UInt8.ofNat (append byte.toNat digits)) else none := by
  induction digits generalizing byte with
  | nil =>
    have hbyte := byte.toNat_lt
    change some byte = if byte.toNat ≤ 255 then some (UInt8.ofNat byte.toNat) else none
    rw [if_pos (by omega), UInt8.ofNat_toNat]
  | cons digit digits ih =>
    change _ = if append (10 * byte.toNat + digit.val) digits ≤ 255 then _ else _
    rw [readByte, append?_eq]
    by_cases h : 10 * byte.toNat + digit.val ≤ 255
    · simp only [if_pos h]
      rw [ih, UInt8.toNat_ofNat_of_lt' (by change _ < 256; omega)]
      rfl
    · have hgrow := le_append (10 * byte.toNat + digit.val) digits
      rw [if_neg h, if_neg (by omega)]

lemma parse_integer (first : Fin 10) (rest : List (Fin 10)) :
    parse (.integer first rest) = if decimal (first :: rest) ≤ 255 then
      .ok (UInt8.ofNat (decimal (first :: rest))) else .error .discriminantTooLarge := by
  have hread := readByte_eq 0 (first :: rest)
  rw [UInt8.toNat_zero, append_zero] at hread
  rw [parse, hread]
  by_cases h : decimal (first :: rest) ≤ 255
  · simp only [if_pos h]
  · simp only [if_neg h]

lemma ofVariant_of_refusal?_eq_none {next : UInt16} {v : Variant} (hnext : next.toNat ≤ 256)
    (h : refusal? (decide (next.toNat = 256)) v = none) :
    ∃ tag, ofVariant next v = .ok tag ∧ numberOr (some next.toNat) v = some tag.toNat := by
  unfold refusal? at h
  unfold ofVariant numberOr
  match hd : v.discriminant with
  | some (.integer first rest) =>
    have hle : decimal (first :: rest) ≤ 255 := by simpa [hd] using h
    refine ⟨UInt8.ofNat (decimal (first :: rest)), ?_, ?_⟩
    · exact (parse_integer first rest).trans (if_pos hle)
    · rw [UInt8.toNat_ofNat_of_lt' (by change _ < 256; omega)]
  | some .other => simp [hd] at h
  | none =>
    have hne : next.toNat ≠ 256 := by simpa [hd] using h
    have hlt : next.toNat < 256 := by omega
    refine ⟨next.toUInt8, if_pos hlt, ?_⟩
    rw [UInt16.toNat_toUInt8, Nat.mod_eq_of_lt hlt]

lemma ofVariant_of_refusal?_eq_some {next : UInt16} {v : Variant} {e : DeriveError}
    (h : refusal? (decide (next.toNat = 256)) v = some e) : ofVariant next v = .error e := by
  unfold refusal? at h
  unfold ofVariant
  match hd : v.discriminant with
  | some (.integer first rest) =>
    by_cases hle : decimal (first :: rest) ≤ 255
    · simp [hd, hle] at h
    · have he : .discriminantTooLarge = e := by simpa [hd, hle] using h
      exact (parse_integer first rest).trans ((if_neg hle).trans (congrArg _ he))
  | some .other =>
    have he : .discriminantNotLiteral = e := by simpa [hd] using h
    exact congrArg _ he
  | none =>
    by_cases hlast : next.toNat = 256
    · have he : .discriminantOverflow = e := by simpa [hd, hlast] using h
      simp [hlast, he]
    · simp [hd, hlast] at h

/-! ## The counter -/

/-- What the counter holds after tags, where it held `next` before them. -/
def counter (next : UInt16) (tags : List UInt8) : UInt16 := tags.foldl (fun _ tag => tag.toUInt16 + 1) next

lemma counter_concat (next : UInt16) (tags : List UInt8) (tag : UInt8) :
    counter next (tags ++ [tag]) = tag.toUInt16 + 1 := by
  simp [counter]

lemma toNat_succ_tag (tag : UInt8) : (tag.toUInt16 + 1).toNat = tag.toNat + 1 := by
  have htag := tag.toNat_lt
  rw [UInt16.toNat_add, UInt8.toNat_toUInt16]
  exact Nat.mod_eq_of_lt (by simp; omega)

lemma toNat_counter (tags : List UInt8) :
    (counter 0 tags).toNat = (tags.getLast?.map fun tag => tag.toNat + 1).getD 0 := by
  induction tags using List.reverseRecOn with
  | nil => rfl
  | append_singleton tags tag _ =>
    rw [counter_concat, toNat_succ_tag, List.getLast?_concat]
    rfl

lemma counter_le (tags : List UInt8) : (counter 0 tags).toNat ≤ 256 := by
  rw [toNat_counter]
  cases tags.getLast? with
  | none => simp
  | some tag =>
    have htag := tag.toNat_lt
    simp
    omega

/-! ## All variants -/

lemma assignFrom_append (next : UInt16) (vs ws : List Variant) :
    assignFrom next (vs ++ ws) =
      (assignFrom next vs).bind fun tags => (assignFrom (counter next tags) ws).map (tags ++ ·) := by
  induction vs generalizing next with
  | nil => cases h : assignFrom next ws <;> simp [assignFrom, counter, Except.bind, Except.map, h]
  | cons v vs ih =>
    simp only [List.cons_append, assignFrom]
    cases ofVariant next v with
    | error e => rfl
    | ok tag =>
      simp only [ih]
      cases hvs : assignFrom (tag.toUInt16 + 1) vs with
      | error e => rfl
      | ok tags =>
        simp only [Except.bind, counter, List.foldl_cons]
        cases assignFrom (tags.foldl (fun _ tag => tag.toUInt16 + 1) (tag.toUInt16 + 1)) ws <;> rfl

lemma assign_concat (vs : List Variant) (v : Variant) :
    assign (vs ++ [v]) = (assign vs).bind fun tags => (ofVariant (counter 0 tags) v).map (tags ++ [·]) := by
  rw [assign, assignFrom_append]
  congr 1
  funext tags
  simp only [assignFrom]
  cases ofVariant (counter 0 tags) v <;> rfl

/-- Tags that follow the rule, for variants without an objection. -/
structure Follows (variants : List Variant) (tags : List UInt8) : Prop where
  length_eq : tags.length = variants.length
  number_eq : ∀ i, tags[i]?.map UInt8.toNat = number? variants i
  unobjected : ∀ i, objection? variants i = none

namespace Follows

variable {vs : List Variant} {tags : List UInt8} (h : Follows vs tags) (v : Variant)

include h

lemma number?_concat : number? (vs ++ [v]) vs.length = numberOr (some (counter 0 tags).toNat) v := by
  rw [toNat_counter, List.getLast?_eq_getElem?, h.length_eq]
  cases hlength : vs.length with
  | zero =>
    have htags : tags = [] := List.length_eq_zero_iff.1 (h.length_eq.trans hlength)
    simp [number?, List.length_eq_zero_iff.1 hlength, htags]
  | succ i =>
    have hlt : i < tags.length := by rw [h.length_eq]; omega
    have hnumber : number? (vs ++ [v]) i = some tags[i].toNat := by
      rw [number?_append [v] (by omega), ← h.number_eq, List.getElem?_eq_getElem hlt]
      rfl
    have hlast : (vs ++ [v])[i + 1]? = some v := by rw [← hlength, List.getElem?_concat_length]
    rw [number?, hlast, hnumber, Nat.add_sub_cancel, List.getElem?_eq_getElem hlt]
    rfl

lemma objection?_concat :
    objection? (vs ++ [v]) vs.length = refusal? (decide ((counter 0 tags).toNat = 256)) v := by
  have hbehind : (0 < vs.length ∧ number? (vs ++ [v]) (vs.length - 1) = some 255) ↔
      (counter 0 tags).toNat = 256 := by
    rw [toNat_counter, List.getLast?_eq_getElem?, h.length_eq]
    by_cases hlength : 0 < vs.length
    · have hlt : vs.length - 1 < tags.length := by rw [h.length_eq]; omega
      rw [number?_append [v] (by omega), ← h.number_eq, List.getElem?_eq_getElem hlt]
      simp [hlength]
    · have htags : tags = [] := List.length_eq_zero_iff.1 (by rw [h.length_eq]; omega)
      simp [hlength, htags]
  rw [objection?, List.getElem?_concat_length]
  simp only [hbehind, Option.bind_some]

lemma concat {tag : UInt8} (hrefusal : refusal? (decide ((counter 0 tags).toNat = 256)) v = none)
    (htag : numberOr (some (counter 0 tags).toNat) v = some tag.toNat) : Follows (vs ++ [v]) (tags ++ [tag]) where
  length_eq := by simp [h.length_eq]
  number_eq i := by
    rcases Nat.lt_trichotomy i vs.length with hi | rfl | hi
    · rw [number?_append [v] hi, ← h.number_eq, List.getElem?_append_left (by rw [h.length_eq]; exact hi)]
    · rw [h.number?_concat v, htag, ← h.length_eq, List.getElem?_concat_length]
      rfl
    · rw [number?_of_ge (by simp; omega), List.getElem?_eq_none (by simp [h.length_eq]; omega)]
      rfl
  unobjected i := by
    rcases Nat.lt_trichotomy i vs.length with hi | rfl | hi
    · rw [objection?_append [v] hi, h.unobjected]
    · rw [h.objection?_concat v, hrefusal]
    · rw [objection?, List.getElem?_eq_none (by simp; omega)]
      rfl

end Follows

lemma leftmost_objection?_append {vs : List Variant} {e : DeriveError} (h : Leftmost (objection? vs) e)
    (ws : List Variant) : Leftmost (objection? (vs ++ ws)) e := by
  obtain ⟨i, hi, hbefore⟩ := h
  have hlt : i < vs.length := by
    by_contra hge
    rw [objection?, List.getElem?_eq_none (by omega)] at hi
    cases hi
  refine ⟨i, (objection?_append ws hlt).trans hi, fun j hj => ?_⟩
  rw [objection?_append ws (Nat.lt_trans hj hlt), hbefore j hj]

/-- Either the tags follow the rule, or the first objection is reported. The induction goes along the loop: what holds of
the variants so far decides the next one through the counter. -/
lemma assign_cases (variants : List Variant) :
    (∃ tags, assign variants = .ok tags ∧ Follows variants tags) ∨
      ∃ e, assign variants = .error e ∧ Leftmost (objection? variants) e := by
  induction variants using List.reverseRecOn with
  | nil => exact .inl ⟨[], rfl, rfl, fun i => (number?_of_ge (Nat.zero_le i)).symm, fun _ => rfl⟩
  | append_singleton vs v ih =>
    rw [assign_concat]
    rcases ih with ⟨tags, hok, hfollows⟩ | ⟨e, herror, hfirst⟩
    · rw [hok]
      cases hrefusal : refusal? (decide ((counter 0 tags).toNat = 256)) v with
      | none =>
        obtain ⟨tag, htag, hnumber⟩ := ofVariant_of_refusal?_eq_none (counter_le tags) hrefusal
        refine .inl ⟨tags ++ [tag], ?_, hfollows.concat v hrefusal hnumber⟩
        simp [Except.bind, Except.map, htag]
      | some e =>
        -- nothing was wrong before, so this objection is the first
        refine .inr ⟨e, ?_, vs.length, (hfollows.objection?_concat v).trans hrefusal, fun j hj => ?_⟩
        · simp [Except.bind, Except.map, ofVariant_of_refusal?_eq_some hrefusal]
        · rw [objection?_append [v] hj, hfollows.unobjected]
    · exact .inr ⟨e, by rw [herror]; rfl, leftmost_objection?_append hfirst [v]⟩

lemma follows_of_assign {variants : List Variant} {tags : List UInt8} (h : assign variants = .ok tags) :
    Follows variants tags := by
  rcases assign_cases variants with ⟨tags', hok, hfollows⟩ | ⟨e, herror, -⟩
  · cases h.symm.trans hok
    exact hfollows
  · cases h.symm.trans herror

lemma assign_eq_error_iff {variants : List Variant} {e : DeriveError} :
    assign variants = .error e ↔ Leftmost (objection? variants) e := by
  rcases assign_cases variants with ⟨tags, hok, hfollows⟩ | ⟨e', herror, hfirst⟩
  · rw [hok]
    refine ⟨nofun, fun ⟨i, hi, _⟩ => ?_⟩
    cases hi.symm.trans (hfollows.unobjected i)
  · rw [herror]
    exact ⟨fun h => by cases h; exact hfirst, fun h => by rw [hfirst.unique h]⟩

lemma exists_assign_iff {variants : List Variant} :
    (∃ tags, assign variants = .ok tags) ↔ ∀ i, objection? variants i = none := by
  refine ⟨fun ⟨_, h⟩ => (follows_of_assign h).unobjected, fun h => ?_⟩
  rcases assign_cases variants with ⟨tags, hok, -⟩ | ⟨_, -, i, hi, -⟩
  · exact ⟨tags, hok⟩
  · cases hi.symm.trans (h i)

/-- An integer literal whose value a byte can hold. -/
def IsByteLiteral (expression : Expression) : Prop :=
  ∃ first rest, expression = .integer first rest ∧ decimal (first :: rest) ≤ 255

lemma refusal?_eq_none_iff {behindLast : Bool} {v : Variant} :
    refusal? behindLast v = none ↔
      (∀ expression, v.discriminant = some expression → IsByteLiteral expression) ∧
        (v.discriminant = none → behindLast = false) := by
  unfold refusal?
  match v.discriminant with
  | none => simp
  | some .other => simp [IsByteLiteral]
  | some (.integer first rest) => simp [IsByteLiteral]

lemma forall_objection?_eq_none_iff {variants : List Variant} :
    (∀ i, objection? variants i = none) ↔
      (∀ v ∈ variants, ∀ expression, v.discriminant = some expression → IsByteLiteral expression) ∧
      ∀ i v, variants[i + 1]? = some v → v.discriminant = none → number? variants i ≠ some 255 := by
  have hat (i : Nat) (v : Variant) (hv : variants[i]? = some v) : objection? variants i = none ↔
      (∀ expression, v.discriminant = some expression → IsByteLiteral expression) ∧
        (v.discriminant = none → ¬ (0 < i ∧ number? variants (i - 1) = some 255)) := by
    rw [objection?, hv, Option.bind_some, refusal?_eq_none_iff, decide_eq_false_iff_not]
  constructor
  · intro h
    refine ⟨fun v hv => ?_, fun i v hv hnone hlast => ?_⟩
    · obtain ⟨i, hi⟩ := List.mem_iff_getElem?.1 hv
      exact ((hat i v hi).1 (h i)).1
    · exact ((hat (i + 1) v hv).1 (h (i + 1))).2 hnone ⟨i.succ_pos, hlast⟩
  · rintro ⟨hexplicit, himplicit⟩ i
    cases hv : variants[i]? with
    | none => rw [objection?, hv, Option.bind_none]
    | some v =>
      refine (hat i v hv).2 ⟨hexplicit v (List.mem_of_getElem? hv), ?_⟩
      rintro hnone ⟨hpos, hlast⟩
      obtain ⟨j, rfl⟩ : ∃ j, i = j + 1 := ⟨i - 1, by omega⟩
      exact himplicit j v hv hnone hlast

/-! ## Variants without discriminants -/

lemma number?_of_implicit {variants : List Variant} (h : ∀ v ∈ variants, v.discriminant = none) {i : Nat}
    (hi : i < variants.length) : number? variants i = some i := by
  have hor (implicit : Option Nat) : numberOr implicit variants[i] = implicit := by
    rw [numberOr, h _ (List.getElem_mem hi)]
  induction i with
  | zero => rw [number?, List.getElem?_eq_getElem hi, Option.bind_some, hor]
  | succ i ih =>
    have hprevious := ih (by omega) fun implicit => by rw [numberOr, h _ (List.getElem_mem _)]
    rw [number?, List.getElem?_eq_getElem hi, Option.bind_some, hor, hprevious, Option.map_some]

lemma exists_assign_iff_of_implicit {variants : List Variant} (h : ∀ v ∈ variants, v.discriminant = none) :
    (∃ tags, assign variants = .ok tags) ↔ variants.length ≤ 256 := by
  rw [exists_assign_iff, forall_objection?_eq_none_iff]
  constructor
  · rintro ⟨-, himplicit⟩
    by_contra hlong
    have hlt : 256 < variants.length := by omega
    exact himplicit 255 _ (List.getElem?_eq_getElem hlt) (h _ (List.getElem_mem hlt)) (number?_of_implicit h (by omega))
  · intro hlength
    refine ⟨fun v hv expression hd => ?_, fun i v hv _ hlast => ?_⟩
    · cases (h v hv).symm.trans hd
    · obtain ⟨hi, -⟩ := List.getElem?_eq_some_iff.1 hv
      have := Option.some.inj ((number?_of_implicit h (by omega)).symm.trans hlast)
      omega

lemma Follows.nodup_of_implicit {variants : List Variant} {tags : List UInt8} (hfollows : Follows variants tags)
    (h : ∀ v ∈ variants, v.discriminant = none) : tags.Nodup := by
  rw [List.nodup_iff_getElem?_ne_getElem?]
  intro i j hij hj heq
  have hj' : j < variants.length := hfollows.length_eq ▸ hj
  have hnumbers : number? variants i = number? variants j := by
    rw [← hfollows.number_eq, ← hfollows.number_eq, heq]
  rw [number?_of_implicit h (Nat.lt_trans hij hj'), number?_of_implicit h hj'] at hnumbers
  have := Option.some.inj hnumbers
  omega

/-! ## The tags of an enum -/

/-- Tags are given out exactly if every explicit discriminant is an integer literal up to 255 and no other variant is
directly behind a variant with number 255. They are the numbers of the variants. Otherwise the first objection is
reported. Wherever the loop stands, its counter holds what an unbounded one would hold. -/
theorem assign_follows_numbering (variants : List Variant) :
    ((∃ tags, assign variants = .ok tags) ↔
      (∀ v ∈ variants, ∀ expression, v.discriminant = some expression → IsByteLiteral expression) ∧
      ∀ i v, variants[i + 1]? = some v → v.discriminant = none → number? variants i ≠ some 255) ∧
    (∀ tags, assign variants = .ok tags →
      tags.length = variants.length ∧ ∀ i, tags[i]?.map UInt8.toNat = number? variants i) ∧
    (∀ e, assign variants = .error e ↔
      ∃ i, objection? variants i = some e ∧ ∀ j < i, objection? variants j = none) ∧
    (∀ before after tags, variants = before ++ after → assign before = .ok tags →
      assign variants = (assignFrom (counter 0 tags) after).map (tags ++ ·) ∧
        (counter 0 tags).toNat = (tags.getLast?.map fun tag => tag.toNat + 1).getD 0) ∧
    ((∀ v ∈ variants, v.discriminant = none) →
      ((∃ tags, assign variants = .ok tags) ↔ variants.length ≤ 256) ∧
        ∀ tags, assign variants = .ok tags → tags.Nodup) := by
  refine ⟨exists_assign_iff.trans forall_objection?_eq_none_iff, fun tags h => ?_, fun e => assign_eq_error_iff,
    fun before after tags heq hbefore => ⟨?_, toNat_counter tags⟩, fun himplicit => ⟨?_, fun tags h => ?_⟩⟩
  · exact ⟨(follows_of_assign h).length_eq, (follows_of_assign h).number_eq⟩
  · rw [heq, assign, assignFrom_append, ← assign, hbefore]
    rfl
  · exact exists_assign_iff_of_implicit himplicit
  · exact (follows_of_assign h).nodup_of_implicit himplicit

def bare : Variant := ⟨"Bare", .unit, none, []⟩

def numbered (first : Fin 10) (rest : List (Fin 10)) : Variant := ⟨"Numbered", .unit, some (.integer first rest), []⟩

/-- Explicit numbers between variants without one, up to the last number. -/
def mixed : List Variant := [bare, numbered 2 [5, 4], bare, numbered 0 [0, 7], bare, numbered 2 [5, 5]]

theorem mixed_variants_tagged :
    (assign mixed = .ok [0, 254, 255, 7, 8, 255] ∧ number? mixed 1 = some 254 ∧ number? mixed 2 = some 255 ∧
      ∀ i, ([0, 254, 255, 7, 8, 255] : List UInt8)[i]?.map UInt8.toNat = number? mixed i) ∧
    assign (mixed ++ [bare, numbered 2 [5, 6]]) = .error .discriminantOverflow ∧
    assign (mixed ++ [numbered 2 [5, 6], bare]) = .error .discriminantTooLarge ∧
    (∀ v ∈ List.replicate 257 bare, v.discriminant = none) ∧
    (∃ tags, assign (List.replicate 256 bare) = .ok tags) ∧ ¬ ∃ tags, assign (List.replicate 257 bare) = .ok tags := by
  have hbare (n : Nat) : ∀ v ∈ List.replicate n bare, v.discriminant = none := by
    intro v hv
    rw [List.eq_of_mem_replicate hv]
    rfl
  have hiff (n : Nat) : (∃ tags, assign (List.replicate n bare) = .ok tags) ↔ n ≤ 256 := by
    obtain ⟨-, -, -, -, himplicit⟩ := assign_follows_numbering (List.replicate n bare)
    simpa using (himplicit (hbare n)).1
  obtain ⟨-, htags, -⟩ := assign_follows_numbering mixed
  obtain ⟨-, -, hoverflow, -⟩ := assign_follows_numbering (mixed ++ [bare, numbered 2 [5, 6]])
  obtain ⟨-, -, hlarge, -⟩ := assign_follows_numbering (mixed ++ [numbered 2 [5, 6], bare])
  refine ⟨⟨rfl, rfl, rfl, (htags _ rfl).2⟩, ?_, ?_, hbare 257, ?_, ?_⟩
  · exact (hoverflow _).2 ⟨6, rfl, by decide⟩
  · exact (hlarge _).2 ⟨6, rfl, by decide⟩
  · exact (hiff 256).2 (by decide)
  · exact fun h => absurd ((hiff 257).1 h) (by decide)

end ScopeMachine.Codegen.Discriminant
