import Mathlib.Tactic.Ring
import ScopeMachine.Proofs.RoundTrip

/-!
# What a failed read says about longer input

Reading fails in two ways. A refusal is final: with more bytes behind the input the same error comes up at
the same place. An unexpected end says that the input was cut short: it can be completed to the bytes of a
value, unless it ends within a length whose bytes so far already make it too large. `Reader.Diagnoses` says
this of a reader and its layout, up to a number of bytes as `Reader.Reads` does, and
`Format.read_reports_exactly` collects it for formats in which every choice has a variant.
-/

namespace ScopeMachine

namespace Bytes

lemma toNat_append (x y : Bytes) : toNat (x ++ y) = toNat x + count x.length * toNat y := by
  induction x with
  | nil => simp [toNat, count]
  | cons b x ih =>
    rw [List.cons_append, toNat, ih, toNat, List.length_cons, count]
    ring

lemma toNat_replicate_zero (n : Nat) : toNat (List.replicate n 0) = 0 := by
  induction n with
  | zero => rfl
  | succ n ih => simp [List.replicate_succ, toNat, ih]

end Bytes

namespace Wire

variable {α β : Type}

lemma Layout.exists_sequence {Ls : List (Layout α)} (h : ∀ L ∈ Ls, ∃ a bs, L a bs) :
    ∃ as bs, Layout.sequence Ls as bs := by
  induction Ls with
  | nil => exact ⟨[], [], rfl, rfl⟩
  | cons L Ls ih =>
    obtain ⟨hL, hLs⟩ := List.forall_mem_cons.mp h
    obtain ⟨a, x, ha⟩ := hL
    obtain ⟨as, y, has⟩ := ih hLs
    exact ⟨a :: as, x ++ y, sequence_cons_iff.mpr ⟨a, as, x, y, ha, has, rfl, rfl⟩⟩

namespace Reader

/-- The input ends within a length whose bytes so far already exceed the limit. When the length is complete,
the reader refuses it. -/
def EndsInOverlongLength (r : Reader α) (input : Bytes) : Prop :=
  ∃ front part, input = front ++ part ∧ part.length < 8 ∧ maxLength < Bytes.toNat part ∧
    ∀ ext : Bytes, 8 ≤ part.length + ext.length →
      r (input ++ ext) = .error .lengthOverflow (ext.drop (8 - part.length))

/-- Up to `n` bytes the reader fits the layout, its refusals are final, and an input that is cut short can be
completed or ends in a length that is too large. -/
structure Diagnoses (n : Nat) (r : Reader α) (L : Layout α) : Prop where
  reads : Reads n r L
  refuses : ∀ {input rest : Bytes} {e : ReadError}, input.length ≤ n → r input = .error e rest →
    e ≠ .unexpectedEnd → ∀ ext, r (input ++ ext) = .error e (rest ++ ext)
  truncated : ∀ {input rest : Bytes}, input.length ≤ n → r input = .error .unexpectedEnd rest →
    (∃ a ext, ext ≠ [] ∧ L a (input ++ ext)) ∨ r.EndsInOverlongLength input

lemma EndsInOverlongLength.bind {r : Reader α} {input : Bytes} (h : r.EndsInOverlongLength input)
    (s : α → Reader β) : (r >>= s).EndsInOverlongLength input := by
  obtain ⟨front, part, hinput, hshort, hlarge, hext⟩ := h
  exact ⟨front, part, hinput, hshort, hlarge, fun ext hlen => bind_of_error (hext ext hlen) s⟩

lemma EndsInOverlongLength.after {r : Reader α} {s : α → Reader β} {x left : Bytes} {a : α}
    (hx : ∀ rest, r (x ++ rest) = .ok a rest) (h : (s a).EndsInOverlongLength left) :
    (r >>= s).EndsInOverlongLength (x ++ left) := by
  obtain ⟨front, part, rfl, hshort, hlarge, hext⟩ := h
  refine ⟨x ++ front, part, (List.append_assoc x front part).symm, hshort, hlarge, fun ext hlen => ?_⟩
  rw [List.append_assoc, bind_of_ok (hx _)]
  exact hext ext hlen

namespace Diagnoses

variable {n : Nat}

lemma mono {m : Nat} {r : Reader α} {L : Layout α} (h : Diagnoses n r L) (hle : m ≤ n) : Diagnoses m r L where
  reads := h.reads.mono hle
  refuses hlen := h.refuses (hlen.trans hle)
  truncated hlen := h.truncated (hlen.trans hle)

lemma pure (a : α) : Diagnoses n (pure a) (.nothing a) where
  reads := .pure a
  refuses _ herror := nomatch herror
  truncated _ herror := nomatch herror

lemma bind {r : Reader α} {L : Layout α} {s : α → Reader β} {K : α → Layout β} (h : Diagnoses n r L)
    (hs : ∀ a x, L a x → x.length ≤ n → Diagnoses (n - x.length) (s a) (K a))
    (hK : ∀ a x, L a x → ∃ b y, K a b y) : Diagnoses n (r >>= s) (L.andThen K) where
  reads := h.reads.bind fun a x hx hlen => (hs a x hx hlen).reads
  refuses := by
    intro input rest e hlen herror he ext
    rcases bind_eq_error_iff.mp herror with hr | ⟨a, left, hr, hb⟩
    · exact bind_of_error (h.refuses hlen hr he ext) s
    · obtain ⟨x, hx, rfl⟩ := h.reads.sound hlen hr
      rw [List.length_append] at hlen
      rw [List.append_assoc, bind_of_ok (h.reads.accepts hx (by omega) _)]
      exact (hs a x hx (by omega)).refuses (by omega) hb he ext
  truncated := by
    intro input rest hlen herror
    rcases bind_eq_error_iff.mp herror with hr | ⟨a, left, hr, hb⟩
    · rcases h.truncated hlen hr with ⟨a, ext, hne, ha⟩ | hlong
      · -- whatever is still missing behind the first value can be filled in
        obtain ⟨b, y, hy⟩ := hK a _ ha
        refine .inl ⟨b, ext ++ y, by simp [hne], a, input ++ ext, y, ha, hy, ?_⟩
        exact (List.append_assoc input ext y).symm
      · exact .inr (hlong.bind s)
    · obtain ⟨x, hx, rfl⟩ := h.reads.sound hlen hr
      rw [List.length_append] at hlen
      rcases (hs a x hx (by omega)).truncated (by omega) hb with ⟨b, ext, hne, hb⟩ | hlong
      · exact .inl ⟨b, ext, hne, a, x, left ++ ext, hx, hb, List.append_assoc x left ext⟩
      · exact .inr (.after (h.reads.accepts hx (by omega)) hlong)

lemma map {r : Reader α} {L : Layout α} (h : Diagnoses n r L) (f : α → β) :
    Diagnoses n (f <$> r) (L.map f) := by
  rw [map_eq_pure_bind, Layout.map_eq_andThen]
  exact h.bind (fun a _ _ _ => pure (f a)) fun a _ _ => ⟨f a, [], rfl, rfl⟩

lemma sequence {rs : List (Reader α)} {Ls : List (Layout α)} (h : List.Forall₂ (Diagnoses n) rs Ls)
    (hLs : ∀ L ∈ Ls, ∃ a bs, L a bs) : Diagnoses n (sequence rs) (.sequence Ls) := by
  induction h with
  | nil => exact pure []
  | cons hr _ ih =>
    have hrest := (List.forall_mem_cons.mp hLs).2
    refine hr.bind (fun a x _ _ => ((ih hrest).map (a :: ·)).mono (Nat.sub_le n x.length)) fun a _ _ => ?_
    obtain ⟨as, y, has⟩ := Layout.exists_sequence hrest
    exact ⟨a :: as, y, as, has, rfl⟩

/-- A tag and what belongs to it. Not every tag has to be known, but some has to be. -/
lemma tagged {s : UInt8 → Reader α} {K : UInt8 → Layout α} (hknown : ∃ tag b y, K tag b y)
    (hs : ∀ tag, Diagnoses n (s tag) (K tag) ∨ s tag = throw .invalidValue ∧ ∀ b y, ¬ K tag b y) :
    Diagnoses n (byte >>= s) (Layout.byte.andThen K) where
  reads := by
    refine Reads.byte.bind fun tag x _ _ => ?_
    rcases hs tag with h | ⟨h, hnone⟩
    · exact h.reads.mono (Nat.sub_le n x.length)
    · rw [h]
      exact Reads.throw hnone _
  refuses := by
    intro input rest e hlen herror he ext
    cases input with
    | nil =>
      cases herror
      exact absurd rfl he
    | cons tag input =>
      rcases hs tag with h | ⟨h, -⟩
      · exact h.refuses (Nat.le_of_succ_le hlen) herror he ext
      · change s tag (input ++ ext) = _
        change s tag input = _ at herror
        rw [h] at herror ⊢
        cases herror
        rfl
  truncated := by
    intro input rest hlen herror
    cases input with
    | nil =>
      obtain ⟨tag, b, y, hy⟩ := hknown
      exact .inl ⟨b, tag :: y, List.cons_ne_nil tag y, tag, [tag], y, rfl, hy, rfl⟩
    | cons tag input =>
      rcases hs tag with h | ⟨h, -⟩
      · rcases h.truncated (Nat.le_of_succ_le hlen) herror with ⟨b, ext, hne, hb⟩ | hlong
        · exact .inl ⟨b, ext, hne, tag, [tag], input ++ ext, rfl, hb, rfl⟩
        · exact .inr (.after (x := [tag]) (fun _ => rfl) hlong)
      · change s tag input = _ at herror
        rw [h] at herror
        cases herror

lemma byte : Diagnoses n byte .byte where
  reads := .byte
  refuses := by
    intro input rest e _ herror he
    cases input with
    | nil =>
      cases herror
      exact absurd rfl he
    | cons b input => cases herror
  truncated := by
    intro input rest _ herror
    cases input with
    | nil => exact .inl ⟨0, [0], List.cons_ne_nil 0 [], rfl⟩
    | cons b input => cases herror

lemma int (type : IntType) : Diagnoses n (int type) (.int type) where
  reads := .int type
  refuses := by
    intro input rest e _ herror he
    by_cases hlen : type.width ≤ input.length
    · rw [int_of_le hlen] at herror
      cases herror
    · rw [int_of_lt (by omega)] at herror
      cases herror
      exact absurd rfl he
  truncated := by
    intro input rest _ herror
    by_cases hlen : type.width ≤ input.length
    · rw [int_of_le hlen] at herror
      cases herror
    · have hzeros : (input ++ List.replicate (type.width - input.length) 0).length = type.width := by
        rw [List.length_append, List.length_replicate]
        omega
      refine .inl ⟨_, List.replicate (type.width - input.length) 0, ?_, type.contains_decode hzeros,
        (type.encode_decode hzeros).symm⟩
      rw [ne_eq, List.replicate_eq_nil_iff]
      omega

end Diagnoses

lemma length_of_overlong {part ext : Bytes} (hshort : part.length < 8) (hlarge : maxLength < Bytes.toNat part)
    (hlen : 8 ≤ part.length + ext.length) :
    length (part ++ ext) = .error .lengthOverflow (ext.drop (8 - part.length)) := by
  have htake : (part ++ ext).take 8 = part ++ ext.take (8 - part.length) := by
    rw [List.take_append, List.take_of_length_le (by omega)]
  have hdrop : (part ++ ext).drop 8 = ext.drop (8 - part.length) := by
    rw [List.drop_append, List.drop_of_length_le (by omega), List.nil_append]
  have hvalue : maxLength < Bytes.toNat ((part ++ ext).take 8) := by
    rw [htake, Bytes.toNat_append]
    omega
  rw [length_of_le (by rw [List.length_append]; omega), if_pos hvalue, hdrop]

/-- Bytes of a length that do not make it too large are completed by zeros. -/
lemma encodeLength_toNat {part : Bytes} (hshort : part.length ≤ 8) :
    encodeLength (Bytes.toNat part) = part ++ List.replicate (8 - part.length) 0 := by
  have hlen : (part ++ List.replicate (8 - part.length) 0).length = 8 := by
    rw [List.length_append, List.length_replicate]
    omega
  have hback := Bytes.ofNat_toNat (part ++ List.replicate (8 - part.length) 0)
  rw [hlen, Bytes.toNat_append, Bytes.toNat_replicate_zero, Nat.mul_zero, Nat.add_zero] at hback
  exact hback

namespace Diagnoses

variable {n : Nat}

lemma length : Diagnoses n length .length where
  reads := .length
  refuses := by
    intro input rest e _ herror he ext
    by_cases hlen : 8 ≤ input.length
    · rw [length_of_le hlen] at herror
      rw [length_of_le (by rw [List.length_append]; omega), List.take_append_of_le_length hlen,
        List.drop_append_of_le_length hlen]
      split at herror
      · rename_i hlarge
        cases herror
        rw [if_pos hlarge]
      · cases herror
    · rw [length_of_lt (by omega)] at herror
      cases herror
      exact absurd rfl he
  truncated := by
    intro input rest _ herror
    have hshort : input.length < 8 := by
      by_contra hlen
      rw [length_of_le (by omega)] at herror
      split at herror <;> cases herror
    by_cases hlarge : maxLength < Bytes.toNat input
    · exact .inr ⟨[], input, rfl, hshort, hlarge, fun ext hlen => length_of_overlong hshort hlarge hlen⟩
    · refine .inl ⟨Bytes.toNat input, List.replicate (8 - input.length) 0, ?_, by omega,
        (encodeLength_toNat hshort.le).symm⟩
      rw [ne_eq, List.replicate_eq_nil_iff]
      omega

lemma vector {item : Reader α} {L : Layout α} (h : ∀ m, m + 8 ≤ n → Diagnoses m item L)
    (hL : ∃ a bs, L a bs) : Diagnoses n (vector item) (.vector L) := by
  have hitems : ∀ k, ∀ K ∈ List.replicate k L, ∃ a bs, K a bs :=
    fun _ => List.forall_mem_replicate.mpr (.inr hL)
  refine length.bind ?_ fun k _ _ => Layout.exists_sequence (hitems k)
  rintro k x ⟨-, rfl⟩ hlen
  rw [length_encodeLength] at hlen ⊢
  exact sequence (forall₂_replicate (h (n - 8) (by omega)) k) (hitems k)

end Diagnoses

end Reader

/-! ## The reader of a format -/

namespace Format

open Reader (Diagnoses)

variable {defs : Definitions}

/-- Every choice has a variant, and every number has a definition. -/
def isPopulated (defs : Definitions) : Format → Bool
  | .choice variants => !variants.isEmpty
  | .vecOf i => decide (i < defs.length)
  | _ => true

lemma exists_sequence_layout {fields : List Format} (h : ∀ f ∈ fields, ∃ v bs, f.layout defs v bs) :
    ∃ items bs, Layout.sequence (fields.map (layout defs)) items bs :=
  Layout.exists_sequence (List.forall_mem_map.mpr h)

lemma exists_layout {f : Format} (h : f.Throughout (isPopulated defs) defs) : ∃ v bs, f.layout defs v bs := by
  induction f with
  | int type =>
    have hlen : (List.replicate type.width (0 : UInt8)).length = type.width := List.length_replicate
    exact ⟨_, _, .int (type.contains_decode hlen), .int, rfl⟩
  | bytes => exact ⟨.bytes [], _, .bytes, .bytes (Nat.zero_le _), rfl⟩
  | vec item ih => exact ⟨.vec [], _, .vec nofun, .vec (Nat.zero_le _) nofun, rfl⟩
  | vecOf i => exact ⟨.vec [], _, .vecOf nofun, .vec (Nat.zero_le _) nofun, rfl⟩
  | array count item ih =>
    rw [layout_array]
    have hfields : ∀ f ∈ List.replicate count item, ∃ v bs, f.layout defs v bs :=
      List.forall_mem_replicate.mpr (.inr (ih h.element))
    obtain ⟨items, bs, hitems⟩ := exists_sequence_layout hfields
    rw [List.map_replicate] at hitems
    exact ⟨.tuple items, bs, items, hitems, rfl⟩
  | record fields ih =>
    rw [layout_record]
    obtain ⟨items, bs, hitems⟩ := exists_sequence_layout fun field hfield => ih field hfield (h.field hfield)
    exact ⟨.tuple items, bs, items, hitems, rfl⟩
  | choice variants ih =>
    have hne : variants ≠ [] := by simpa [isPopulated] using h.self
    obtain ⟨v, hv⟩ := List.exists_mem_of_ne_nil variants hne
    obtain ⟨items, bs, hitems⟩ := exists_sequence_layout fun field hfield =>
      ih v hv field hfield (h.variantField hv hfield)
    obtain ⟨heach, hfits, -⟩ := sequence_layout_iff.mp hitems
    exact ⟨.variant v.1 items, _, .choice hv heach, .variant hfits, rfl⟩

theorem read_diagnoses {f : Format} (htags : f.Throughout hasDistinctTags defs)
    (hvariants : f.Throughout (isPopulated defs) defs) (n : Nat) :
    Diagnoses n (f.read defs) (f.layout defs) := by
  induction n using Nat.strong_induction_on generalizing f with
  | _ n ihn =>
    induction f with
    | int type =>
      rw [read_int, layout_int]
      exact (Diagnoses.int type).map _
    | bytes =>
      rw [read_bytes, layout_bytes]
      exact (Diagnoses.vector (fun _ _ => Diagnoses.byte) ⟨0, [0], rfl⟩).map _
    | vec item ih =>
      rw [read_vec, layout_vec]
      have hitem := ih htags.item hvariants.item
      exact (Diagnoses.vector (fun m hm => hitem.mono (by omega)) (exists_layout hvariants.item)).map _
    | vecOf i =>
      rw [read_vecOf, layout_vecOf]
      have hi : i < defs.length := of_decide_eq_true hvariants.self
      have htags' := htags.lookup i fun _ => rfl
      have hvariants' := hvariants.lookup i fun hle => absurd hi (by omega)
      exact (Diagnoses.vector (fun m hm => ihn m (by omega) htags' hvariants')
        (exists_layout hvariants')).map _
    | array count item ih =>
      rw [read_array, layout_array]
      have hitem := exists_layout hvariants.element
      refine (Diagnoses.sequence (forall₂_replicate (ih htags.element hvariants.element) count) ?_).map _
      exact List.forall_mem_replicate.mpr (.inr hitem)
    | record fields ih =>
      rw [read_record, layout_record]
      refine (Diagnoses.sequence ?_ ?_).map _
      · rw [List.forall₂_map_left_iff, List.forall₂_map_right_iff, List.forall₂_same]
        exact fun field hfield => ih field hfield (htags.field hfield) (hvariants.field hfield)
      · exact List.forall_mem_map.mpr fun field hfield => exists_layout (hvariants.field hfield)
    | choice variants ih =>
      have hnodup : (variants.map Prod.fst).Nodup := of_decide_eq_true htags.self
      obtain ⟨v, bs, hv⟩ := exists_layout hvariants
      rw [layout_choice hnodup] at hv
      obtain ⟨tag, x, y, -, htagged, -⟩ := hv
      rw [read_choice, layout_choice hnodup]
      refine Diagnoses.tagged ⟨tag, v, y, htagged⟩ fun tag => ?_
      cases hlookup : variants.lookup tag with
      | none => exact .inr ⟨readTagged_of_none hlookup, not_layoutTagged hlookup⟩
      | some fields =>
        have hmem := mem_of_lookup_eq_some hlookup
        rw [readTagged_of_some hlookup, layoutTagged_of_some hlookup]
        refine .inl ((Diagnoses.sequence ?_ ?_).map _)
        · rw [List.forall₂_map_left_iff, List.forall₂_map_right_iff, List.forall₂_same]
          exact fun field hfield => ih _ hmem field hfield (htags.variantField hmem hfield)
            (hvariants.variantField hmem hfield)
        · exact List.forall_mem_map.mpr fun field hfield =>
            exists_layout (hvariants.variantField hmem hfield)

end Format

/-! ## Longer inputs -/

namespace Reader

/-- What the outcome of a reader says about longer inputs. An unexpected end comes up exactly if more bytes
make the input one that is read as a whole, or if it ends in a length that is too large, which no bytes make
readable. All other errors are final. An end of the input is left in any case. -/
structure ReportsExactly (r : Reader α) : Prop where
  truncated_iff : ∀ input, (∃ rest, r input = .error .unexpectedEnd rest) ↔
    (∃ ext a, ext ≠ [] ∧ r (input ++ ext) = .ok a []) ∨ r.EndsInOverlongLength input
  overlong : ∀ input, r.EndsInOverlongLength input → ∀ ext a rest, r (input ++ ext) ≠ .ok a rest
  refused : ∀ input e rest, r input = .error e rest → e ≠ .unexpectedEnd →
    ∀ ext, r (input ++ ext) = .error e (rest ++ ext)
  suffix : ∀ input, left (r input) <:+ input

section

variable {r : Reader α} {L : Layout α}

lemma Reads.append (h : ∀ n, Reads n r L) {input rest : Bytes} {a : α} (hok : r input = .ok a rest)
    (ext : Bytes) : r (input ++ ext) = .ok a (rest ++ ext) := by
  obtain ⟨bs, hbs, rfl⟩ := (h input.length).sound (Nat.le_refl _) hok
  rw [List.append_assoc]
  exact (h bs.length).accepts hbs (Nat.le_refl _) _

lemma EndsInOverlongLength.not_ok (h : ∀ n, Reads n r L) {input : Bytes} (hlong : r.EndsInOverlongLength input)
    (ext : Bytes) (a : α) (rest : Bytes) : r (input ++ ext) ≠ .ok a rest := by
  intro hok
  obtain ⟨front, part, -, -, -, hext⟩ := hlong
  -- behind eight more bytes the length is complete
  have herror := hext (ext ++ List.replicate 8 0) (by simp; omega)
  rw [← List.append_assoc, Reads.append h hok] at herror
  cases herror

lemma truncated_of_left_eq_nil (h : ∀ n, Diagnoses n r L) {input ext : Bytes} (hne : ext ≠ [])
    (hleft : left (r (input ++ ext)) = []) : ∃ rest, r input = .error .unexpectedEnd rest := by
  cases hr : r input with
  | ok a rest =>
    rw [Reads.append (fun n => (h n).reads) hr] at hleft
    exact absurd (List.append_eq_nil_iff.mp hleft).2 hne
  | error e rest =>
    by_cases he : e = .unexpectedEnd
    · exact ⟨rest, by rw [he]⟩
    · rw [(h input.length).refuses (Nat.le_refl _) hr he] at hleft
      exact absurd (List.append_eq_nil_iff.mp hleft).2 hne

lemma Diagnoses.truncated_iff (h : ∀ n, Diagnoses n r L) (input : Bytes) :
    (∃ rest, r input = .error .unexpectedEnd rest) ↔
      (∃ ext a, ext ≠ [] ∧ r (input ++ ext) = .ok a []) ∨ r.EndsInOverlongLength input := by
  constructor
  · rintro ⟨rest, hr⟩
    rcases (h input.length).truncated (Nat.le_refl _) hr with ⟨a, ext, hne, hL⟩ | hlong
    · have hok := (h (input ++ ext).length).reads.accepts hL (Nat.le_refl _) []
      rw [List.append_nil] at hok
      exact .inl ⟨ext, a, hne, hok⟩
    · exact .inr hlong
  · rintro (⟨ext, a, hne, hok⟩ | ⟨front, part, -, hshort, -, hext⟩)
    · exact truncated_of_left_eq_nil h hne (by rw [hok]; rfl)
    · have hlen : (List.replicate (8 - part.length) (0 : UInt8)).length = 8 - part.length :=
        List.length_replicate
      have hoverflow := hext (List.replicate (8 - part.length) 0) (by omega)
      rw [List.drop_of_length_le hlen.le] at hoverflow
      refine truncated_of_left_eq_nil h ?_ (by rw [hoverflow]; rfl)
      rw [ne_eq, List.replicate_eq_nil_iff]
      omega

lemma Diagnoses.reportsExactly (h : ∀ n, Diagnoses n r L) (hleft : ∀ input, left (r input) <:+ input) :
    r.ReportsExactly where
  truncated_iff := truncated_iff h
  overlong _ hlong := hlong.not_ok fun n => (h n).reads
  refused input _ _ herror he := (h input.length).refuses (Nat.le_refl _) herror he
  suffix := hleft

end

variable {r : Reader α} {f : α → β}

lemma endsInOverlongLength_map_iff {input : Bytes} :
    (f <$> r).EndsInOverlongLength input ↔ r.EndsInOverlongLength input := by
  simp only [EndsInOverlongLength, map_eq_error_iff]

lemma left_map (input : Bytes) : left ((f <$> r) input) = left (r input) := by
  cases h : r input with
  | ok a rest => rw [map_of_ok h, left, left]
  | error e rest => rw [map_of_error h, left, left]

lemma ReportsExactly.of_map (h : (f <$> r).ReportsExactly) : r.ReportsExactly where
  truncated_iff input := by
    have hiff := h.truncated_iff input
    simp only [map_eq_error_iff, map_eq_ok_iff, endsInOverlongLength_map_iff] at hiff
    rw [hiff]
    refine or_congr_left ⟨?_, ?_⟩
    · rintro ⟨ext, _, hne, a, hok, -⟩
      exact ⟨ext, a, hne, hok⟩
    · rintro ⟨ext, a, hne, hok⟩
      exact ⟨ext, f a, hne, a, hok, rfl⟩
  overlong input hlong ext a rest hok :=
    h.overlong input (endsInOverlongLength_map_iff.mpr hlong) ext (f a) rest (map_of_ok hok f)
  refused input e rest herror he ext :=
    map_eq_error_iff.mp (h.refused input e rest (map_eq_error_iff.mpr herror) he ext)
  suffix input := by
    rw [← left_map (f := f)]
    exact h.suffix input

lemma ReportsExactly.truncated_of_strict_front (h : r.ReportsExactly) {whole front : Bytes} {a : α}
    (hok : r whole = .ok a []) (hfront : front <+: whole) (hne : front ≠ whole) :
    ∃ rest, r front = .error .unexpectedEnd rest := by
  obtain ⟨ext, rfl⟩ := hfront
  refine (h.truncated_iff front).mpr (.inl ⟨ext, a, ?_, hok⟩)
  rintro rfl
  exact hne (List.append_nil front).symm

end Reader

lemma Format.reportsExactly {defs : Definitions} {f : Format} (htags : f.Throughout hasDistinctTags defs)
    (hvariants : f.Throughout (isPopulated defs) defs) : (f.read defs).ReportsExactly :=
  Reader.Diagnoses.reportsExactly (read_diagnoses htags hvariants) (left_read_suffix defs f)

end Wire

lemma Program.map_toValue_read : toValue <$> read = format.read [] := by
  funext input
  cases h : format.read [] input with
  | ok v rest =>
    obtain ⟨p, rfl, hp⟩ := read_of_ok h
    exact Wire.Reader.map_of_ok hp toValue
  | error e rest => exact Wire.Reader.map_of_error (read_of_error h) toValue

lemma Program.reportsExactly : read.ReportsExactly := by
  refine Wire.Reader.ReportsExactly.of_map (f := toValue) ?_
  rw [map_toValue_read]
  exact Wire.Format.reportsExactly format_hasDistinctTags (by decide)

namespace Wire.Format

/-- Where the tags of every choice are distinct and every choice has a variant, an error says whether more
input could help, and input that stops before the end of an encoded value that fits is always reported as cut
short. The formats of the machine's own types and the sample formats are of this kind, and programs are read
in the same way. -/
theorem read_reports_exactly :
    (∀ (defs : Definitions) (f : Format), f.Throughout hasDistinctTags defs →
      f.Throughout (isPopulated defs) defs →
      (f.read defs).ReportsExactly ∧
      ∀ v, f.Admits defs v → v.Fits → ∀ front, front <+: v.encode → front ≠ v.encode →
        ∃ rest, f.read defs front = .error .unexpectedEnd rest) ∧
    (∀ f ∈ [register, scopeId, address, Sample.unit, Sample.pair, Sample.record, Sample.shape, Program.format],
      f.Throughout hasDistinctTags Sample.definitions ∧
      f.Throughout (isPopulated Sample.definitions) Sample.definitions) ∧
    Program.read.ReportsExactly ∧
    ∀ p : Program, p.Fits → ∀ front, front <+: p.encode → front ≠ p.encode →
      ∃ rest, Program.read front = .error .unexpectedEnd rest := by
  refine ⟨fun defs f htags hvariants => ?_, by decide, Program.reportsExactly, ?_⟩
  · refine ⟨reportsExactly htags hvariants, fun v hv hfits front hfront hne => ?_⟩
    have hread := read_encode_self htags hv hfits
    exact (reportsExactly htags hvariants).truncated_of_strict_front hread hfront hne
  · intro p hfits front hfront hne
    exact Program.reportsExactly.truncated_of_strict_front (Program.read_encode_self hfits) hfront hne

theorem nested_shape_cut_short :
    Sample.shape.Throughout hasDistinctTags Sample.definitions ∧
      Sample.shape.Throughout (isPopulated Sample.definitions) Sample.definitions ∧
      ∃ rest, Sample.shape.read Sample.definitions (Sample.nested.encode.take 12) =
        .error .unexpectedEnd rest := by
  have htags : Sample.shape.Throughout hasDistinctTags Sample.definitions := by decide
  have hvariants : Sample.shape.Throughout (isPopulated Sample.definitions) Sample.definitions := by decide
  have hshapes := read_reports_exactly.1 Sample.definitions Sample.shape htags hvariants
  exact ⟨htags, hvariants, hshapes.2 Sample.nested Sample.nested_admitted Sample.nested_fits _
    (List.take_prefix 12 _) (by decide)⟩

/-- A length whose first four bytes are too large is reported as cut short, although nothing completes it. -/
theorem overlong_length_reads_as_truncated :
    ¬ ((∃ rest, (Format.vec (.int .u8)).read [] [255, 255, 255, 255] = .error .unexpectedEnd rest) ↔
      ∃ ext v, ext ≠ [] ∧ (Format.vec (.int .u8)).read [] ([255, 255, 255, 255] ++ ext) = .ok v []) := by
  have htags : (Format.vec (.int .u8)).Throughout hasDistinctTags [] := by decide
  have hlong : Reader.EndsInOverlongLength ((Format.vec (.int .u8)).read []) [255, 255, 255, 255] := by
    refine ⟨[], _, rfl, by decide, by decide, fun ext hlen => ?_⟩
    rw [read_vec]
    exact Reader.map_of_error (bind_of_error (Reader.length_of_overlong (by decide) (by decide) hlen) _) _
  rintro ⟨hcompleted, -⟩
  obtain ⟨ext, v, -, hok⟩ := hcompleted ⟨_, rfl⟩
  exact hlong.not_ok (read_reads htags) ext v [] hok

end Wire.Format

end ScopeMachine
