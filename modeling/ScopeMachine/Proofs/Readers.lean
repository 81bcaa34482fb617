import Mathlib.Algebra.Ring.Nat
import Mathlib.Data.List.Infix
import Mathlib.Data.List.Nodup
import ScopeMachine.Wire.Format
import ScopeMachine.Proofs.Cells

/-!
# Readers as computations

The reader of a format is built from the readers of its parts by sequencing. This file writes it that
way: `Format.read_vec`, `Format.read_record` and so on give the reader of each kind of format, without a
bound on the depth of nested definitions (`Format.read_eq`). The bound never matters because a definition
stands behind a length, so it is read from fewer bytes.
-/

namespace ScopeMachine

section EStateM

variable {ε σ α β : Type} {x : EStateM ε σ α} {s s' : σ}

lemma bind_of_ok {a : α} (h : x s = .ok a s') (f : α → EStateM ε σ β) : (x >>= f) s = f a s' := by
  change EStateM.bind x f s = _
  rw [EStateM.bind, h]

lemma bind_of_error {e : ε} (h : x s = .error e s') (f : α → EStateM ε σ β) : (x >>= f) s = .error e s' := by
  change EStateM.bind x f s = _
  rw [EStateM.bind, h]

end EStateM

namespace Wire

variable {α β γ : Type}

lemma forall₂_replicate {R : α → β → Prop} {a : α} {b : β} (h : R a b) (n : Nat) :
    List.Forall₂ R (List.replicate n a) (List.replicate n b) := by
  induction n with
  | zero => exact .nil
  | succ n ih => exact .cons h ih

@[simp] lemma length_encodeLength (n : Nat) : (encodeLength n).length = 8 := Bytes.length_ofNat 8 n

namespace Reader

lemma bind_eq_ok_iff {r : Reader α} {s : α → Reader β} {input rest : Bytes} {b : β} :
    (r >>= s) input = .ok b rest ↔ ∃ a left, r input = .ok a left ∧ s a left = .ok b rest := by
  cases h : r input with
  | ok a left => simp [bind_of_ok h]
  | error e left => simp [bind_of_error h]

lemma bind_eq_error_iff {r : Reader α} {s : α → Reader β} {input rest : Bytes} {e : ReadError} :
    (r >>= s) input = .error e rest ↔
      r input = .error e rest ∨ ∃ a left, r input = .ok a left ∧ s a left = .error e rest := by
  cases h : r input with
  | ok a left => simp [bind_of_ok h]
  | error e left => simp [bind_of_error h]

lemma map_of_ok {r : Reader α} {input rest : Bytes} {a : α} (h : r input = .ok a rest) (f : α → β) :
    (f <$> r) input = .ok (f a) rest := by
  rw [map_eq_pure_bind]
  exact bind_of_ok h _

lemma map_of_error {r : Reader α} {input rest : Bytes} {e : ReadError} (h : r input = .error e rest)
    (f : α → β) : (f <$> r) input = .error e rest := by
  rw [map_eq_pure_bind]
  exact bind_of_error h _

lemma map_eq_ok_iff {r : Reader α} {f : α → β} {input rest : Bytes} {b : β} :
    (f <$> r) input = .ok b rest ↔ ∃ a, r input = .ok a rest ∧ f a = b := by
  cases h : r input with
  | ok a left =>
    rw [map_of_ok h]
    grind
  | error e left =>
    rw [map_of_error h]
    exact ⟨nofun, nofun⟩

lemma map_eq_error_iff {r : Reader α} {f : α → β} {input rest : Bytes} {e : ReadError} :
    (f <$> r) input = .error e rest ↔ r input = .error e rest := by
  cases h : r input with
  | ok a left =>
    rw [map_of_ok h]
    exact ⟨nofun, nofun⟩
  | error e' left =>
    rw [map_of_error h]
    grind

lemma eq_map {x : Reader β} {r : Reader α} {f : α → β}
    (hok : ∀ {input a rest}, r input = .ok a rest → x input = .ok (f a) rest)
    (herror : ∀ {input e rest}, r input = .error e rest → x input = .error e rest) : x = f <$> r := by
  funext input
  cases h : r input with
  | ok a rest => rw [map_of_ok h, hok h]
  | error e rest => rw [map_of_error h, herror h]

lemma eq_bind_map {x : Reader γ} {r : Reader α} {s : α → Reader β} {f : α → β → γ}
    (hok : ∀ {input a left b rest}, r input = .ok a left → s a left = .ok b rest →
      x input = .ok (f a b) rest)
    (hsecond : ∀ {input a left e rest}, r input = .ok a left → s a left = .error e rest →
      x input = .error e rest)
    (hfirst : ∀ {input e rest}, r input = .error e rest → x input = .error e rest) :
    x = r >>= fun a => f a <$> s a := by
  funext input
  cases h : r input with
  | error e rest => rw [bind_of_error h, hfirst h]
  | ok a left =>
    rw [bind_of_ok h]
    cases h' : s a left with
    | ok b rest => rw [map_of_ok h', hok h h']
    | error e rest => rw [map_of_error h', hsecond h h']

lemma take_of_le {n : Nat} {input : Bytes} (h : n ≤ input.length) :
    take n input = .ok (input.take n) (input.drop n) := by
  rw [take_eq, if_pos h]

lemma take_of_lt {n : Nat} {input : Bytes} (h : input.length < n) :
    take n input = .error .unexpectedEnd input := by
  rw [take_eq, if_neg (by omega)]

lemma int_of_le {type : IntType} {input : Bytes} (h : type.width ≤ input.length) :
    int type input = .ok (type.decode (input.take type.width)) (input.drop type.width) := by
  rw [int, take_of_le h]

lemma int_of_lt {type : IntType} {input : Bytes} (h : input.length < type.width) :
    int type input = .error .unexpectedEnd input := by
  rw [int, take_of_lt h]

lemma length_of_le {input : Bytes} (h : 8 ≤ input.length) :
    length input =
      if maxLength < Bytes.toNat (input.take 8) then .error .lengthOverflow (input.drop 8)
      else .ok (Bytes.toNat (input.take 8)) (input.drop 8) := by
  rw [length, take_of_le h]

lemma length_of_lt {input : Bytes} (h : input.length < 8) : length input = .error .unexpectedEnd input := by
  rw [length, take_of_lt h]

lemma length_of_encodeLength {n : Nat} (hn : n < 2 ^ 64) (rest : Bytes) :
    length (encodeLength n ++ rest) = if maxLength < n then .error .lengthOverflow rest else .ok n rest := by
  have hlen : (encodeLength n).length = 8 := length_encodeLength n
  have hvalue : Bytes.toNat (encodeLength n) = n := by
    rw [encodeLength, Bytes.toNat_ofNat]
    exact Nat.mod_eq_of_lt hn
  rw [length_of_le (by rw [List.length_append]; omega), List.take_left' hlen, List.drop_left' hlen, hvalue]

lemma length_eq_ok_iff {input rest : Bytes} {n : Nat} :
    length input = .ok n rest ↔ n ≤ maxLength ∧ input = encodeLength n ++ rest := by
  constructor
  · intro h
    by_cases hlen : 8 ≤ input.length
    · have htake : (input.take 8).length = 8 := List.length_take_of_le hlen
      rw [length_of_le hlen] at h
      split at h
      · cases h
      · cases h
        have hback := Bytes.ofNat_toNat (input.take 8)
        rw [htake] at hback
        refine ⟨by omega, ?_⟩
        rw [encodeLength, hback, List.take_append_drop]
    · rw [length_of_lt (by omega)] at h
      cases h
  · rintro ⟨hn, rfl⟩
    rw [length_of_encodeLength (Nat.lt_of_le_of_lt hn (by decide)), if_neg (by omega)]

def sequence : List (Reader α) → Reader (List α)
  | [] => pure []
  | r :: rs => r >>= fun a => (a :: ·) <$> sequence rs

/-- A length, and as many items. -/
def vector (item : Reader α) : Reader (List α) :=
  length >>= fun n => sequence (List.replicate n item)

lemma items_eq_sequence (item : Reader α) (n : Nat) : items item n = sequence (List.replicate n item) := by
  induction n with
  | zero => rfl
  | succ n ih =>
    rw [List.replicate_succ, sequence, ← ih]
    refine eq_bind_map (fun h h' => ?_) (fun h h' => ?_) fun h => ?_
    · simp only [items, h, h']
    · simp only [items, h, h']
    · simp only [items, h]

lemma eq_map_vector {x : Reader β} {item : Reader α} {f : List α → β}
    (hok : ∀ {input n left as rest}, length input = .ok n left → items item n left = .ok as rest →
      x input = .ok (f as) rest)
    (hitems : ∀ {input n left e rest}, length input = .ok n left → items item n left = .error e rest →
      x input = .error e rest)
    (hlength : ∀ {input e rest}, length input = .error e rest → x input = .error e rest) :
    x = f <$> vector item := by
  rw [vector, map_bind]
  simp only [← items_eq_sequence]
  exact eq_bind_map hok hitems hlength

end Reader

/-! ## The reader of each kind of format -/

namespace Format

/-- Induction on formats, with the formats inside as cases. -/
@[elab_as_elim, induction_eliminator]
theorem induction {motive : Format → Prop} (int : ∀ type, motive (.int type)) (bytes : motive .bytes)
    (vec : ∀ item, motive item → motive (.vec item)) (vecOf : ∀ i, motive (.vecOf i))
    (array : ∀ count item, motive item → motive (.array count item))
    (record : ∀ fields, (∀ f ∈ fields, motive f) → motive (.record fields))
    (choice : ∀ variants, (∀ v ∈ variants, ∀ f ∈ v.2, motive f) → motive (.choice variants))
    (f : Format) : motive f :=
  @Format.rec motive (fun fields => ∀ f ∈ fields, motive f)
    (fun variants => ∀ v ∈ variants, ∀ f ∈ v.2, motive f) (fun v => ∀ f ∈ v.2, motive f)
    int bytes vec vecOf array record choice nofun
    (fun _ _ hf hfs => List.forall_mem_cons.mpr ⟨hf, hfs⟩) nofun
    (fun _ _ hv hvs => List.forall_mem_cons.mpr ⟨hv, hvs⟩) (fun _ _ h => h) f

section Parts

variable (next : Nat → Reader Value)

lemma readFields_eq (fields : List Format) :
    readFields next fields = Reader.sequence (fields.map (readWith next)) := by
  induction fields with
  | nil => rfl
  | cons field fields ih =>
    rw [List.map_cons, Reader.sequence, ← ih]
    refine Reader.eq_bind_map (fun h h' => ?_) (fun h h' => ?_) fun h => ?_
    · simp only [readFields, h, h']
    · simp only [readFields, h, h']
    · simp only [readFields, h]

/-- The fields of the variant with a tag, or a refusal if there is none. -/
def readTagged (read : Format → Reader Value) (variants : List (UInt8 × List Format)) (tag : UInt8) :
    Reader Value :=
  match variants.lookup tag with
  | some fields => .variant tag <$> Reader.sequence (fields.map read)
  | none => throw .invalidValue

lemma readTagged_of_some {read : Format → Reader Value} {variants : List (UInt8 × List Format)}
    {tag : UInt8} {fields : List Format} (h : variants.lookup tag = some fields) :
    readTagged read variants tag = .variant tag <$> Reader.sequence (fields.map read) := by
  rw [readTagged, h]

lemma readTagged_of_none {read : Format → Reader Value} {variants : List (UInt8 × List Format)}
    {tag : UInt8} (h : variants.lookup tag = none) :
    readTagged read variants tag = throw .invalidValue := by
  rw [readTagged, h]

lemma mem_of_lookup_eq_some {variants : List (UInt8 × List Format)} {tag : UInt8} {fields : List Format}
    (h : variants.lookup tag = some fields) : (tag, fields) ∈ variants := by
  obtain ⟨before, after, rfl, -⟩ := List.lookup_eq_some_iff.mp h
  exact List.mem_append_right before List.mem_cons_self

lemma readVariant_eq (tag : UInt8) (variants : List (UInt8 × List Format)) :
    readVariant next tag variants = readTagged (readWith next) variants tag := by
  induction variants with
  | nil => rfl
  | cons v variants ih =>
    obtain ⟨own, fields⟩ := v
    by_cases h : own = tag
    · subst h
      rw [readTagged_of_some List.lookup_cons_self, ← readFields_eq]
      refine Reader.eq_map (fun hfields => ?_) fun hfields => ?_
      · simp only [readVariant, if_true, hfields]
      · simp only [readVariant, if_true, hfields]
    · funext input
      rw [readVariant, if_neg h, ih, readTagged, readTagged, List.lookup_cons, beq_false_of_ne (Ne.symm h)]

lemma readWith_int (type : IntType) : readWith next (.int type) = .int type <$> Reader.int type := by
  refine Reader.eq_map (fun h => ?_) fun h => ?_
  · simp only [readWith, h]
  · simp only [readWith, h]

lemma readWith_bytes : readWith next .bytes = .bytes <$> Reader.vector Reader.byte := by
  refine Reader.eq_map_vector (fun h h' => ?_) (fun h h' => ?_) fun h => ?_
  · simp only [readWith, h, h']
  · simp only [readWith, h, h']
  · simp only [readWith, h]

lemma readWith_vec (item : Format) :
    readWith next (.vec item) = .vec <$> Reader.vector (readWith next item) := by
  refine Reader.eq_map_vector (fun h h' => ?_) (fun h h' => ?_) fun h => ?_
  · simp only [readWith, h, h']
  · simp only [readWith, h, h']
  · simp only [readWith, h]

lemma readWith_vecOf (i : Nat) : readWith next (.vecOf i) = .vec <$> Reader.vector (next i) := by
  refine Reader.eq_map_vector (fun h h' => ?_) (fun h h' => ?_) fun h => ?_
  · simp only [readWith, h, h']
  · simp only [readWith, h, h']
  · simp only [readWith, h]

lemma readWith_array (count : Nat) (item : Format) :
    readWith next (.array count item) =
      .tuple <$> Reader.sequence (List.replicate count (readWith next item)) := by
  rw [← Reader.items_eq_sequence]
  refine Reader.eq_map (fun h => ?_) fun h => ?_
  · simp only [readWith, h]
  · simp only [readWith, h]

lemma readWith_record (fields : List Format) :
    readWith next (.record fields) = .tuple <$> Reader.sequence (fields.map (readWith next)) := by
  rw [← readFields_eq]
  refine Reader.eq_map (fun h => ?_) fun h => ?_
  · simp only [readWith, h]
  · simp only [readWith, h]

lemma readWith_choice (variants : List (UInt8 × List Format)) :
    readWith next (.choice variants) = Reader.byte >>= readTagged (readWith next) variants := by
  funext input
  cases h : Reader.byte input with
  | error e rest =>
    rw [bind_of_error h]
    simp only [readWith, h]
  | ok tag rest =>
    rw [bind_of_ok h, ← readVariant_eq]
    simp only [readWith, h]

end Parts

end Format

/-! ## Depth -/

namespace Reader

/-- The bytes that are left after reading. -/
def left : EStateM.Result ReadError Bytes α → Bytes
  | .ok _ rest => rest
  | .error _ rest => rest

/-- On at most `n` bytes the two readers do the same, and they leave an end of the bytes. -/
def Agree (n : Nat) (r r' : Reader α) : Prop :=
  ∀ input : Bytes, input.length ≤ n → r input = r' input ∧ left (r input) <:+ input

namespace Agree

variable {n : Nat}

lemma mono {m : Nat} {r r' : Reader α} (h : Agree n r r') (hle : m ≤ n) : Agree m r r' :=
  fun input hlen => h input (hlen.trans hle)

lemma pure (a : α) : Agree n (pure a) (Pure.pure a) := fun input _ => ⟨rfl, List.suffix_refl input⟩

lemma bind {r r' : Reader α} {s s' : α → Reader β} (h : Agree n r r')
    (hs : ∀ input a rest, input.length ≤ n → r input = .ok a rest → Agree rest.length (s a) (s' a)) :
    Agree n (r >>= s) (r' >>= s') := by
  intro input hlen
  obtain ⟨heq, hsuffix⟩ := h input hlen
  cases hr : r input with
  | error e rest =>
    rw [bind_of_error hr, bind_of_error (heq.symm.trans hr)]
    rw [hr] at hsuffix
    exact ⟨rfl, hsuffix⟩
  | ok a rest =>
    obtain ⟨heq', hsuffix'⟩ := hs input a rest hlen hr rest (Nat.le_refl _)
    rw [bind_of_ok hr, bind_of_ok (heq.symm.trans hr)]
    rw [hr] at hsuffix
    exact ⟨heq', hsuffix'.trans hsuffix⟩

lemma map {r r' : Reader α} (h : Agree n r r') (f : α → β) : Agree n (f <$> r) (f <$> r') := by
  rw [map_eq_pure_bind, map_eq_pure_bind]
  exact h.bind fun _ a _ _ _ => pure (f a)

lemma length_le {r r' : Reader α} (h : Agree n r r') {input rest : Bytes} {a : α} (hlen : input.length ≤ n)
    (hr : r input = .ok a rest) : rest.length ≤ n := by
  have hsuffix := (h input hlen).2
  rw [hr] at hsuffix
  exact hsuffix.length_le.trans hlen

lemma sequence {rs rs' : List (Reader α)} (h : List.Forall₂ (Agree n) rs rs') :
    Agree n (sequence rs) (Reader.sequence rs') := by
  induction h with
  | nil => exact pure []
  | cons hr _ ih =>
    exact hr.bind fun _ a rest hlen hok => (ih.map (a :: ·)).mono (hr.length_le hlen hok)

lemma byte : Agree n byte Reader.byte := by
  intro input _
  cases input with
  | nil => exact ⟨rfl, List.suffix_refl []⟩
  | cons b rest => exact ⟨rfl, List.suffix_cons b rest⟩

lemma int (type : IntType) : Agree n (int type) (Reader.int type) := by
  intro input _
  refine ⟨rfl, ?_⟩
  by_cases h : type.width ≤ input.length
  · rw [int_of_le h]
    exact List.drop_suffix _ _
  · rw [int_of_lt (by omega)]
    exact List.suffix_refl _

lemma length : Agree n length Reader.length := by
  intro input _
  refine ⟨rfl, ?_⟩
  by_cases h : 8 ≤ input.length
  · rw [length_of_le h]
    split <;> exact List.drop_suffix _ _
  · rw [length_of_lt (by omega)]
    exact List.suffix_refl _

lemma vector {item item' : Reader α} (h : ∀ m, m + 8 ≤ n → Agree m item item') :
    Agree n (vector item) (Reader.vector item') := by
  refine length.bind fun input k rest hlen hok => sequence ?_
  have hitem := h rest.length (by
    rw [(length_eq_ok_iff.mp hok).2, List.length_append, length_encodeLength] at hlen
    omega)
  exact forall₂_replicate hitem k

end Agree

end Reader

namespace Format

open Reader (Agree)

lemma readTagged_agree {n : Nat} {read read' : Format → Reader Value}
    {variants : List (UInt8 × List Format)}
    (h : ∀ v ∈ variants, ∀ f ∈ v.2, Agree n (read f) (read' f)) (tag : UInt8) :
    Agree n (readTagged read variants tag) (readTagged read' variants tag) := by
  cases hlookup : variants.lookup tag with
  | none =>
    rw [readTagged_of_none hlookup, readTagged_of_none hlookup]
    exact fun input _ => ⟨rfl, List.suffix_refl input⟩
  | some fields =>
    rw [readTagged_of_some hlookup, readTagged_of_some hlookup]
    refine Agree.map (Agree.sequence ?_) _
    rw [List.forall₂_map_left_iff, List.forall₂_map_right_iff, List.forall₂_same]
    exact h (tag, fields) (mem_of_lookup_eq_some hlookup)

/-- Reading a format from at most `n` bytes needs the definitions only on bytes behind a length. -/
lemma readWith_agree {n : Nat} {next next' : Nat → Reader Value}
    (h : ∀ i m, m + 8 ≤ n → Agree m (next i) (next' i)) (f : Format) :
    Agree n (readWith next f) (readWith next' f) := by
  induction f with
  | int type => rw [readWith_int, readWith_int]; exact (Agree.int type).map _
  | bytes => rw [readWith_bytes, readWith_bytes]; exact (Agree.vector fun _ _ => Agree.byte).map _
  | vec item ih =>
    rw [readWith_vec, readWith_vec]
    exact (Agree.vector fun m hm => ih.mono (by omega)).map _
  | vecOf i =>
    rw [readWith_vecOf, readWith_vecOf]
    exact (Agree.vector fun m hm => h i m hm).map _
  | array count item ih =>
    rw [readWith_array, readWith_array]
    exact (Agree.sequence (forall₂_replicate ih count)).map _
  | record fields ih =>
    rw [readWith_record, readWith_record]
    refine (Agree.sequence ?_).map _
    rw [List.forall₂_map_left_iff, List.forall₂_map_right_iff, List.forall₂_same]
    exact ih
  | choice variants ih =>
    rw [readWith_choice, readWith_choice]
    exact Agree.byte.bind fun _ tag _ hlen hok =>
      (readTagged_agree ih tag).mono (Agree.byte.length_le hlen hok)

variable (defs : Definitions)

lemma readDefinition_agree {n depth depth' : Nat} (h : n < depth) (h' : n < depth') (i : Nat) :
    Agree n (readDefinition defs depth i) (readDefinition defs depth' i) := by
  induction depth generalizing n depth' i with
  | zero => omega
  | succ depth ih =>
    obtain ⟨depth', rfl⟩ := Nat.exists_eq_add_one.mpr (Nat.zero_lt_of_lt h')
    exact readWith_agree (fun i m hm => ih (by omega) (by omega) i) _

/-- The depth of definitions is never what makes reading fail: `read` reads a format whose definitions are
read by `read` itself. -/
theorem read_eq (f : Format) : f.read defs = readWith (fun i => (defs.lookup i).read defs) f := by
  funext input
  refine (readWith_agree (fun i m hm => ?_) f input (Nat.le_refl _)).1
  intro rest hrest
  exact readDefinition_agree defs (by omega) (Nat.lt_succ_of_lt (Nat.lt_succ_self rest.length)) i rest
    (Nat.le_refl _)

lemma read_int (type : IntType) : (Format.int type).read defs = .int type <$> Reader.int type := by
  rw [read_eq, readWith_int]

lemma read_bytes : Format.bytes.read defs = .bytes <$> Reader.vector Reader.byte := by
  rw [read_eq, readWith_bytes]

lemma read_vec (item : Format) : (Format.vec item).read defs = .vec <$> Reader.vector (item.read defs) := by
  rw [read_eq, readWith_vec, ← read_eq]

lemma read_vecOf (i : Nat) :
    (Format.vecOf i).read defs = .vec <$> Reader.vector ((defs.lookup i).read defs) := by
  rw [read_eq, readWith_vecOf]

lemma read_array (count : Nat) (item : Format) :
    (Format.array count item).read defs =
      .tuple <$> Reader.sequence (List.replicate count (item.read defs)) := by
  rw [read_eq, readWith_array, ← read_eq]

lemma read_record (fields : List Format) :
    (Format.record fields).read defs = .tuple <$> Reader.sequence (fields.map (read defs)) := by
  rw [read_eq, readWith_record, ← funext (read_eq defs)]

lemma read_choice (variants : List (UInt8 × List Format)) :
    (Format.choice variants).read defs = Reader.byte >>= readTagged (read defs) variants := by
  rw [read_eq, readWith_choice, ← funext (read_eq defs)]

lemma left_read_suffix (f : Format) (input : Bytes) : Reader.left (f.read defs input) <:+ input := by
  have hnext : ∀ i m, m + 8 ≤ input.length →
      Agree m (readDefinition defs (input.length + 1) i) (readDefinition defs (input.length + 1) i) :=
    fun i m hm => readDefinition_agree defs (by omega) (by omega) i
  exact (readWith_agree hnext f input (Nat.le_refl _)).2

end Format

end Wire

end ScopeMachine
