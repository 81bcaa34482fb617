import ScopeMachine.Proofs.Layouts

/-!
# Layouts of formats

`Format.Admits` says which values a format describes and `Value.Fits` that none of their vectors is longer
than a reader accepts. The bytes of such values make up the layout of the format, and this file takes the
layout of each kind of format apart as `Proofs.Readers` does its reader.
-/

namespace ScopeMachine.Wire

/-! ## Values of a format -/

/-- The values that a format describes. -/
inductive Format.Admits (defs : Definitions) : Format → Value → Prop where
  | int {type : IntType} {n : Int} (contains : type.Contains n) : Admits defs (.int type) (.int type n)
  | bytes {content : Bytes} : Admits defs .bytes (.bytes content)
  | vec {item : Format} {items : List Value} (each : ∀ v ∈ items, Admits defs item v) :
      Admits defs (.vec item) (.vec items)
  | vecOf {i : Nat} {items : List Value} (each : ∀ v ∈ items, Admits defs (defs.lookup i) v) :
      Admits defs (.vecOf i) (.vec items)
  | array {item : Format} {items : List Value} (each : ∀ v ∈ items, Admits defs item v) :
      Admits defs (.array items.length item) (.tuple items)
  | record {fields : List Format} {items : List Value} (each : List.Forall₂ (Admits defs) fields items) :
      Admits defs (.record fields) (.tuple items)
  | choice {variants : List (UInt8 × List Format)} {tag : UInt8} {fields : List Format}
      {items : List Value} (known : (tag, fields) ∈ variants)
      (each : List.Forall₂ (Admits defs) fields items) : Admits defs (.choice variants) (.variant tag items)

/-- No vector and no byte string in the value is longer than a reader accepts. -/
inductive Value.Fits : Value → Prop where
  | int {type : IntType} {n : Int} : Fits (.int type n)
  | bytes {content : Bytes} (short : content.length ≤ Reader.maxLength) : Fits (.bytes content)
  | vec {items : List Value} (short : items.length ≤ Reader.maxLength) (each : ∀ v ∈ items, Fits v) :
      Fits (.vec items)
  | tuple {items : List Value} (each : ∀ v ∈ items, Fits v) : Fits (.tuple items)
  | variant {tag : UInt8} {fields : List Value} (each : ∀ v ∈ fields, Fits v) : Fits (.variant tag fields)

namespace Format

/-- The bytes of the values of a format. -/
def layout (defs : Definitions) (f : Format) : Layout Value :=
  fun v bs => f.Admits defs v ∧ v.Fits ∧ bs = v.encode

variable {defs : Definitions}

lemma sequence_layout_iff {fields : List Format} {items : List Value} {bs : Bytes} :
    Layout.sequence (fields.map (layout defs)) items bs ↔
      List.Forall₂ (Admits defs) fields items ∧ (∀ v ∈ items, v.Fits) ∧ bs = Value.encodeAll items := by
  induction fields generalizing items bs with
  | nil =>
    rw [List.map_nil, Layout.sequence_nil_iff, List.forall₂_nil_left_iff]
    refine and_congr_right fun hnil => ?_
    subst hnil
    exact ⟨fun h => ⟨nofun, h⟩, fun h => h.2⟩
  | cons field fields ih =>
    rw [List.map_cons, Layout.sequence_cons_iff]
    constructor
    · rintro ⟨v, rest, x, y, ⟨hv, hfits, rfl⟩, hrest, rfl, rfl⟩
      obtain ⟨heach, hfits', rfl⟩ := ih.mp hrest
      exact ⟨.cons hv heach, List.forall_mem_cons.mpr ⟨hfits, hfits'⟩, rfl⟩
    · rintro ⟨hall, hfits, rfl⟩
      cases hall with
      | @cons _ v _ rest hv hrest =>
        obtain ⟨hfit, hfits⟩ := List.forall_mem_cons.mp hfits
        exact ⟨v, rest, v.encode, Value.encodeAll rest, ⟨hv, hfit, rfl⟩, ih.mpr ⟨hrest, hfits, rfl⟩, rfl, rfl⟩

lemma forall₂_replicate_iff {R : Format → Value → Prop} {n : Nat} {f : Format} {items : List Value} :
    List.Forall₂ R (List.replicate n f) items ↔ items.length = n ∧ ∀ v ∈ items, R f v := by
  induction n generalizing items with
  | zero =>
    rw [List.replicate_zero, List.forall₂_nil_left_iff, List.length_eq_zero_iff]
    refine ⟨fun h => ⟨h, by simp [h]⟩, fun h => h.1⟩
  | succ n ih =>
    rw [List.replicate_succ]
    cases items with
    | nil => simp
    | cons v items => simp [ih, and_left_comm]

lemma sequence_replicate_iff {f : Format} {n : Nat} {items : List Value} {bs : Bytes} :
    Layout.sequence (List.replicate n (layout defs f)) items bs ↔
      items.length = n ∧ (∀ v ∈ items, f.Admits defs v) ∧ (∀ v ∈ items, v.Fits) ∧
        bs = Value.encodeAll items := by
  rw [← List.map_replicate, sequence_layout_iff, forall₂_replicate_iff, and_assoc]

lemma layout_int (type : IntType) : layout defs (.int type) = (Layout.int type).map (.int type) := by
  funext v bs
  apply propext
  constructor
  · rintro ⟨hv, -, rfl⟩
    cases hv with
    | int hn => exact ⟨_, ⟨hn, rfl⟩, rfl⟩
  · rintro ⟨n, ⟨hn, rfl⟩, rfl⟩
    exact ⟨.int hn, .int, rfl⟩

lemma layout_bytes : layout defs .bytes = (Layout.vector Layout.byte).map .bytes := by
  funext v bs
  apply propext
  constructor
  · rintro ⟨hv, hfits, rfl⟩
    cases hv with
    | @bytes content =>
      cases hfits with
      | bytes hshort =>
        exact ⟨content, ⟨content.length, encodeLength content.length, content, ⟨hshort, rfl⟩,
          Layout.sequence_byte_iff.mpr ⟨rfl, rfl⟩, rfl⟩, rfl⟩
  · rintro ⟨content, ⟨n, x, y, ⟨hn, rfl⟩, hcontent, rfl⟩, rfl⟩
    obtain ⟨rfl, rfl⟩ := Layout.sequence_byte_iff.mp hcontent
    exact ⟨.bytes, .bytes hn, rfl⟩

lemma vector_layout_iff {f : Format} {v : Value} {bs : Bytes} :
    (Layout.vector (layout defs f)).map Value.vec v bs ↔
      ∃ items, v = .vec items ∧ (∀ w ∈ items, f.Admits defs w) ∧ v.Fits ∧ bs = v.encode := by
  constructor
  · rintro ⟨items, ⟨n, x, y, ⟨hn, rfl⟩, hitems, rfl⟩, rfl⟩
    obtain ⟨rfl, hadmits, hfits, rfl⟩ := sequence_replicate_iff.mp hitems
    exact ⟨items, rfl, hadmits, .vec hn hfits, rfl⟩
  · rintro ⟨items, rfl, hadmits, hfits, rfl⟩
    cases hfits with
    | vec hshort heach =>
      exact ⟨items, ⟨items.length, encodeLength items.length, Value.encodeAll items, ⟨hshort, rfl⟩,
        sequence_replicate_iff.mpr ⟨rfl, hadmits, heach, rfl⟩, rfl⟩, rfl⟩

lemma layout_vec (item : Format) :
    layout defs (.vec item) = (Layout.vector (layout defs item)).map .vec := by
  funext v bs
  apply propext
  rw [vector_layout_iff]
  constructor
  · rintro ⟨hv, hfits⟩
    cases hv with
    | vec heach => exact ⟨_, rfl, heach, hfits⟩
  · rintro ⟨items, rfl, heach, hfits⟩
    exact ⟨.vec heach, hfits⟩

lemma layout_vecOf (i : Nat) :
    layout defs (.vecOf i) = (Layout.vector (layout defs (defs.lookup i))).map .vec := by
  funext v bs
  apply propext
  rw [vector_layout_iff]
  constructor
  · rintro ⟨hv, hfits⟩
    cases hv with
    | vecOf heach => exact ⟨_, rfl, heach, hfits⟩
  · rintro ⟨items, rfl, heach, hfits⟩
    exact ⟨.vecOf heach, hfits⟩

lemma layout_array (count : Nat) (item : Format) :
    layout defs (.array count item) =
      (Layout.sequence (List.replicate count (layout defs item))).map .tuple := by
  funext v bs
  apply propext
  constructor
  · rintro ⟨hv, hfits, rfl⟩
    cases hv with
    | array heach =>
      cases hfits with
      | tuple hfits => exact ⟨_, sequence_replicate_iff.mpr ⟨rfl, heach, hfits, rfl⟩, rfl⟩
  · rintro ⟨items, hitems, rfl⟩
    obtain ⟨rfl, heach, hfits, rfl⟩ := sequence_replicate_iff.mp hitems
    exact ⟨.array heach, .tuple hfits, rfl⟩

lemma layout_record (fields : List Format) :
    layout defs (.record fields) = (Layout.sequence (fields.map (layout defs))).map .tuple := by
  funext v bs
  apply propext
  constructor
  · rintro ⟨hv, hfits, rfl⟩
    cases hv with
    | record heach =>
      cases hfits with
      | tuple hfits => exact ⟨_, sequence_layout_iff.mpr ⟨heach, hfits, rfl⟩, rfl⟩
  · rintro ⟨items, hitems, rfl⟩
    obtain ⟨heach, hfits, rfl⟩ := sequence_layout_iff.mp hitems
    exact ⟨.record heach, .tuple hfits, rfl⟩

/-- The fields of the variant with a tag. -/
def layoutTagged (defs : Definitions) (variants : List (UInt8 × List Format)) (tag : UInt8) : Layout Value :=
  fun v bs => ∃ fields, variants.lookup tag = some fields ∧
    (Layout.sequence (fields.map (layout defs))).map (.variant tag) v bs

lemma layoutTagged_of_some {variants : List (UInt8 × List Format)} {tag : UInt8} {fields : List Format}
    (h : variants.lookup tag = some fields) :
    layoutTagged defs variants tag = (Layout.sequence (fields.map (layout defs))).map (.variant tag) := by
  funext v bs
  simp [layoutTagged, h]

lemma not_layoutTagged {variants : List (UInt8 × List Format)} {tag : UInt8}
    (h : variants.lookup tag = none) (v : Value) (bs : Bytes) : ¬ layoutTagged defs variants tag v bs := by
  simp [layoutTagged, h]

lemma lookup_eq_some_iff_mem {variants : List (UInt8 × List Format)} (h : (variants.map Prod.fst).Nodup)
    {tag : UInt8} {fields : List Format} :
    variants.lookup tag = some fields ↔ (tag, fields) ∈ variants := by
  refine ⟨mem_of_lookup_eq_some, fun hmem => ?_⟩
  obtain ⟨before, after, rfl⟩ := List.append_of_mem hmem
  have hfirst : ∀ v ∈ before, (tag != v.1) = true := by
    intro v hv
    rw [List.map_append, List.map_cons, List.nodup_append] at h
    have hne : v.1 ≠ tag := h.2.2 v.1 (List.mem_map_of_mem hv) tag List.mem_cons_self
    exact bne_iff_ne.mpr hne.symm
  exact List.lookup_eq_some_iff.mpr ⟨before, after, rfl, hfirst⟩

lemma layout_choice {variants : List (UInt8 × List Format)} (h : (variants.map Prod.fst).Nodup) :
    layout defs (.choice variants) = Layout.byte.andThen (layoutTagged defs variants) := by
  funext v bs
  apply propext
  constructor
  · rintro ⟨hv, hfits, rfl⟩
    cases hv with
    | @choice _ tag fields items hmem heach =>
      cases hfits with
      | variant hfits =>
        refine ⟨tag, [tag], Value.encodeAll items, rfl, ⟨fields, ?_, items, ?_, rfl⟩, rfl⟩
        · exact (lookup_eq_some_iff_mem h).mpr hmem
        · exact sequence_layout_iff.mpr ⟨heach, hfits, rfl⟩
  · rintro ⟨tag, x, y, rfl, ⟨fields, hlookup, items, hitems, rfl⟩, rfl⟩
    obtain ⟨heach, hfits, rfl⟩ := sequence_layout_iff.mp hitems
    exact ⟨.choice ((lookup_eq_some_iff_mem h).mp hlookup) heach, .variant hfits, rfl⟩

/-! ## Conditions on formats -/

mutual

/-- A format and all formats inside it. -/
def parts : Format → List Format
  | .int type => [.int type]
  | .bytes => [.bytes]
  | .vec item => .vec item :: parts item
  | .vecOf i => [.vecOf i]
  | .array count item => .array count item :: parts item
  | .record fields => .record fields :: partsOfFields fields
  | .choice variants => .choice variants :: partsOfVariants variants

def partsOfFields : List Format → List Format
  | [] => []
  | field :: fields => parts field ++ partsOfFields fields

def partsOfVariants : List (UInt8 × List Format) → List Format
  | [] => []
  | (_, fields) :: variants => partsOfFields fields ++ partsOfVariants variants

end

lemma self_mem_parts (f : Format) : f ∈ f.parts := by
  cases f <;> simp [parts]

lemma mem_partsOfFields {fields : List Format} {f : Format} (h : f ∈ fields) : f.parts ⊆ partsOfFields fields := by
  induction fields with
  | nil => cases h
  | cons field fields ih =>
    rw [partsOfFields]
    rcases List.mem_cons.mp h with rfl | h
    · exact List.subset_append_left _ _
    · exact List.Subset.trans (ih h) (List.subset_append_right _ _)

lemma mem_partsOfVariants {variants : List (UInt8 × List Format)} {v : UInt8 × List Format} (h : v ∈ variants)
    {f : Format} (hf : f ∈ v.2) : f.parts ⊆ partsOfVariants variants := by
  induction variants with
  | nil => cases h
  | cons w variants ih =>
    rw [partsOfVariants]
    rcases List.mem_cons.mp h with rfl | h
    · exact List.Subset.trans (mem_partsOfFields hf) (List.subset_append_left _ _)
    · exact List.Subset.trans (ih h) (List.subset_append_right _ _)

/-- A test that a format, the definitions and all formats inside them pass. -/
def Throughout (test : Format → Bool) (defs : Definitions) (f : Format) : Prop :=
  ∀ d ∈ f :: defs, ∀ g ∈ d.parts, test g

instance (test : Format → Bool) (defs : Definitions) (f : Format) : Decidable (f.Throughout test defs) :=
  inferInstanceAs (Decidable (∀ d ∈ f :: defs, ∀ g ∈ d.parts, test g))

namespace Throughout

variable {test : Format → Bool} {f : Format}

lemma self (h : f.Throughout test defs) : test f := h f List.mem_cons_self f f.self_mem_parts

lemma of_subset {g : Format} (h : f.Throughout test defs) (hsub : g.parts ⊆ f.parts) :
    g.Throughout test defs := by
  intro d hd p hp
  rcases List.mem_cons.mp hd with rfl | hd
  · exact h f List.mem_cons_self p (hsub hp)
  · exact h d (List.mem_cons_of_mem f hd) p hp

lemma item {item : Format} (h : (Format.vec item).Throughout test defs) : item.Throughout test defs :=
  h.of_subset (by rw [parts]; exact List.subset_cons_self _ _)

lemma element {count : Nat} {item : Format} (h : (Format.array count item).Throughout test defs) :
    item.Throughout test defs :=
  h.of_subset (by rw [parts]; exact List.subset_cons_self _ _)

lemma field {fields : List Format} (h : (Format.record fields).Throughout test defs) {g : Format}
    (hg : g ∈ fields) : g.Throughout test defs :=
  h.of_subset (by rw [parts]; exact List.Subset.trans (mem_partsOfFields hg) (List.subset_cons_self _ _))

lemma variantField {variants : List (UInt8 × List Format)} (h : (Format.choice variants).Throughout test defs)
    {v : UInt8 × List Format} (hv : v ∈ variants) {g : Format} (hg : g ∈ v.2) : g.Throughout test defs :=
  h.of_subset (by rw [parts]; exact List.Subset.trans (mem_partsOfVariants hv hg) (List.subset_cons_self _ _))

lemma lookup (h : f.Throughout test defs) (i : Nat) (hempty : defs.length ≤ i → test (.choice [])) :
    (defs.lookup i).Throughout test defs := by
  unfold Definitions.lookup
  by_cases hi : i < defs.length
  · have hmem : defs[i] ∈ defs := List.getElem_mem hi
    rw [List.getElem?_eq_getElem hi, Option.getD_some]
    intro d hd
    rcases List.mem_cons.mp hd with rfl | hd
    · exact h _ (List.mem_cons_of_mem f hmem)
    · exact h d (List.mem_cons_of_mem f hd)
  · rw [List.getElem?_eq_none (by omega), Option.getD_none]
    intro d hd
    rcases List.mem_cons.mp hd with rfl | hd
    · simpa [parts, partsOfVariants] using hempty (by omega)
    · exact h d (List.mem_cons_of_mem f hd)

end Throughout

end Format

end ScopeMachine.Wire
