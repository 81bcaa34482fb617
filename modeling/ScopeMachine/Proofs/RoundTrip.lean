import ScopeMachine.Program
import ScopeMachine.Proofs.FormatLayouts
import ScopeMachine.Wire.Named

/-!
# Reading inverts writing

Where the tags of every choice are distinct, reading a format and writing a value are inverse to each other:
reading takes exactly the bytes of an admitted value that fits, and gives that value
(`Format.read_inverts_encode`). Nothing is assumed about the depth of values: the law of `Proofs.Layouts` is
proved for longer and longer inputs, and a definition is always read from a shorter one.
-/

namespace ScopeMachine

namespace Wire

/-! ## The reader of a format fits its layout -/

namespace Format

open Reader (Reads)

/-- No two variants of a choice have the same tag. -/
def hasDistinctTags : Format → Bool
  | .choice variants => decide (variants.map Prod.fst).Nodup
  | _ => true

variable {defs : Definitions}

lemma readTagged_reads {n : Nat} {variants : List (UInt8 × List Format)}
    (h : ∀ v ∈ variants, ∀ f ∈ v.2, Reads n (f.read defs) (f.layout defs)) (tag : UInt8) :
    Reads n (readTagged (read defs) variants tag) (layoutTagged defs variants tag) := by
  cases hlookup : variants.lookup tag with
  | none =>
    rw [readTagged_of_none hlookup]
    exact Reads.throw (not_layoutTagged hlookup) _
  | some fields =>
    rw [readTagged_of_some hlookup, layoutTagged_of_some hlookup]
    refine (Reads.sequence ?_).map _
    rw [List.forall₂_map_left_iff, List.forall₂_map_right_iff, List.forall₂_same]
    exact h (tag, fields) (mem_of_lookup_eq_some hlookup)

theorem read_reads {f : Format} (h : f.Throughout hasDistinctTags defs) (n : Nat) :
    Reads n (f.read defs) (f.layout defs) := by
  -- a definition is read behind a length, so from fewer bytes; all other parts are smaller formats
  induction n using Nat.strong_induction_on generalizing f with
  | _ n ihn =>
    induction f with
    | int type =>
      rw [read_int, layout_int]
      exact (Reads.int type).map _
    | bytes =>
      rw [read_bytes, layout_bytes]
      exact (Reads.vector fun _ _ => Reads.byte).map _
    | vec item ih =>
      rw [read_vec, layout_vec]
      exact (Reads.vector fun m hm => (ih h.item).mono (by omega)).map _
    | vecOf i =>
      rw [read_vecOf, layout_vecOf]
      exact (Reads.vector fun m hm => ihn m (by omega) (h.lookup i fun _ => rfl)).map _
    | array count item ih =>
      rw [read_array, layout_array]
      exact (Reads.sequence (forall₂_replicate (ih h.element) count)).map _
    | record fields ih =>
      rw [read_record, layout_record]
      refine (Reads.sequence ?_).map _
      rw [List.forall₂_map_left_iff, List.forall₂_map_right_iff, List.forall₂_same]
      exact fun field hfield => ih field hfield (h.field hfield)
    | choice variants ih =>
      have hnodup : (variants.map Prod.fst).Nodup := of_decide_eq_true h.self
      rw [read_choice, layout_choice hnodup]
      refine Reads.byte.bind fun tag x _ _ => (readTagged_reads ?_ tag).mono (Nat.sub_le n x.length)
      exact fun v hv field hfield => ih v hv field hfield (h.variantField hv hfield)

lemma read_encode {f : Format} (h : f.Throughout hasDistinctTags defs) {v : Value} (hv : f.Admits defs v)
    (hfits : v.Fits) (rest : Bytes) : f.read defs (v.encode ++ rest) = .ok v rest :=
  (read_reads h v.encode.length).accepts ⟨hv, hfits, rfl⟩ (Nat.le_refl _) rest

lemma read_encode_self {f : Format} (h : f.Throughout hasDistinctTags defs) {v : Value} (hv : f.Admits defs v)
    (hfits : v.Fits) : f.read defs v.encode = .ok v [] := by
  have hread := read_encode h hv hfits []
  rwa [List.append_nil] at hread

lemma eq_of_isPrefix_encode {f : Format} (h : f.Throughout hasDistinctTags defs) {v w : Value}
    (hv : f.Admits defs v) (hvfits : v.Fits) (hw : f.Admits defs w) (hwfits : w.Fits)
    (hstarts : v.encode <+: w.encode) : v = w := by
  obtain ⟨rest, hrest⟩ := hstarts
  have hread := read_encode_self h hw hwfits
  rw [← hrest, read_encode h hv hvfits] at hread
  injection hread

lemma eq_encode_of_read {f : Format} (h : f.Throughout hasDistinctTags defs) {input rest : Bytes} {v : Value}
    (hok : f.read defs input = .ok v rest) : f.Admits defs v ∧ v.Fits ∧ input = v.encode ++ rest := by
  obtain ⟨bs, ⟨hv, hfits, rfl⟩, hinput⟩ := (read_reads h input.length).sound (Nat.le_refl _) hok
  exact ⟨hv, hfits, hinput⟩

lemma eq_encode_of_decode {f : Format} (h : f.Throughout hasDistinctTags defs) {input : Bytes} {v : Value}
    (hok : f.decode defs input = .ok v) : input = v.encode := by
  unfold decode Reader.whole at hok
  cases hread : f.read defs input with
  | error e rest =>
    rw [hread] at hok
    cases hok
  | ok w rest =>
    rw [hread] at hok
    cases rest with
    | cons b rest => cases hok
    | nil =>
      cases hok
      rw [(eq_encode_of_read h hread).2.2, List.append_nil]

end Format

/-! ## Counting the bytes -/

/-- A sink that only depends on the bytes it is given, not on how they come in pieces. -/
class LawfulSink (σ : Type) [Sink σ] : Prop where
  write_nil : ∀ out : σ, Sink.write out [] = out
  write_append : ∀ (out : σ) (x y : Bytes), Sink.write out (x ++ y) = Sink.write (Sink.write out x) y

instance : LawfulSink ByteCount where
  write_nil _ := rfl
  write_append out x y := by
    simp only [Sink.write, List.length_append, Nat.add_assoc]

namespace Value

variable {σ : Type} [Sink σ] [LawfulSink σ]

mutual

/-- Sending a value to a sink piece by piece is writing its bytes. -/
theorem emit_eq_write (out : σ) : (v : Value) → v.emit out = Sink.write out v.encode
  | .int _ _ => rfl
  | .bytes content => by rw [emit, encode, LawfulSink.write_append]
  | .vec items => by rw [emit, encode, LawfulSink.write_append, emitAll_eq_write _ items]
  | .tuple items => by rw [emit, encode, emitAll_eq_write _ items]
  | .variant tag fields => by
    rw [emit, encode, emitAll_eq_write _ fields, ← LawfulSink.write_append]
    rfl

theorem emitAll_eq_write (out : σ) : (items : List Value) → emitAll items out = Sink.write out (encodeAll items)
  | [] => (LawfulSink.write_nil out).symm
  | item :: items => by
    rw [emitAll, encodeAll, LawfulSink.write_append, emit_eq_write out item, emitAll_eq_write _ items]

end

lemma encodedLength_eq (v : Value) : v.encodedLength = v.encode.length := by
  rw [encodedLength, emit_eq_write]
  exact Nat.zero_add _

end Value

end Wire

/-! ## Programs -/

namespace Program

open Wire

/-- A program with no more scopes, and none of its scopes longer, than a reader accepts. -/
structure Fits (p : Program) : Prop where
  scopes : p.scopes.length ≤ Reader.maxLength
  code : ∀ code ∈ p.scopes, code.length ≤ Reader.maxLength

lemma contents?_map (codes : List Bytes) : contents? (codes.map .bytes) = some codes := by
  induction codes with
  | nil => rfl
  | cons code codes ih => rw [List.map_cons, contents?, ih, Option.map_some]

lemma ofValue?_toValue (p : Program) : ofValue? p.toValue = some p := by
  have hstart : UInt32.ofInt p.start.toNat = p.start := by
    apply UInt32.toNat_inj.mp
    rw [UInt32.ofInt, UInt32.toNat_ofNat']
    have hlt := p.start.toNat_lt
    omega
  rw [toValue, ofValue?, contents?_map, Option.map_some, hstart]

lemma toValue_injective : Function.Injective toValue := by
  intro p q h
  have hsome := congrArg ofValue? h
  rw [ofValue?_toValue, ofValue?_toValue] at hsome
  exact Option.some.inj hsome

lemma contains_start (p : Program) : IntType.u32.Contains p.start.toNat := by
  have hlt := p.start.toNat_lt
  simp only [IntType.Contains, IntType.u32, Bool.false_eq_true, if_false, IntType.modulus, Bytes.count]
  omega

lemma admits_toValue (p : Program) : format.Admits [] p.toValue := by
  refine .record (.cons (.vec fun v hv => ?_) (.cons (.int p.contains_start) .nil))
  obtain ⟨code, -, rfl⟩ := List.mem_map.mp hv
  exact .bytes

lemma exists_map_bytes {defs : Definitions} {items : List Value} (h : ∀ v ∈ items, Format.bytes.Admits defs v) :
    ∃ codes : List Bytes, items = codes.map .bytes := by
  induction items with
  | nil => exact ⟨[], rfl⟩
  | cons v items ih =>
    obtain ⟨hv, hitems⟩ := List.forall_mem_cons.mp h
    obtain ⟨codes, rfl⟩ := ih hitems
    cases hv with
    | @bytes code => exact ⟨code :: codes, rfl⟩

lemma exists_toValue {v : Value} (h : format.Admits [] v) : ∃ p : Program, v = p.toValue := by
  cases h with
  | record heach =>
    obtain ⟨scopes, _, hscopes, hrest, rfl⟩ := List.forall₂_cons_left_iff.mp heach
    obtain ⟨start, _, hstart, hnone, rfl⟩ := List.forall₂_cons_left_iff.mp hrest
    obtain rfl := List.forall₂_nil_left_iff.mp hnone
    cases hscopes with
    | vec hitems =>
      obtain ⟨codes, rfl⟩ := exists_map_bytes hitems
      cases hstart with
      | @int _ n hn =>
        simp only [IntType.Contains, IntType.u32, Bool.false_eq_true, if_false, IntType.modulus,
          Bytes.count] at hn
        have hback : ((UInt32.ofInt n).toNat : Int) = n := by
          rw [UInt32.ofInt, UInt32.toNat_ofNat']
          omega
        refine ⟨⟨codes, UInt32.ofInt n⟩, ?_⟩
        rw [toValue, hback]

lemma fits_toValue_iff {p : Program} : p.toValue.Fits ↔ p.Fits := by
  constructor
  · intro h
    cases h with
    | tuple heach =>
      cases heach _ List.mem_cons_self with
      | vec hshort hcodes =>
        rw [List.length_map] at hshort
        refine ⟨hshort, fun code hcode => ?_⟩
        cases hcodes _ (List.mem_map_of_mem hcode) with
        | bytes hcode => exact hcode
  · intro h
    refine .tuple (List.forall_mem_cons.mpr ⟨.vec ?_ fun v hv => ?_, List.forall_mem_singleton.mpr .int⟩)
    · rw [List.length_map]
      exact h.scopes
    · obtain ⟨code, hcode, rfl⟩ := List.mem_map.mp hv
      exact .bytes (h.code code hcode)

lemma format_hasDistinctTags : format.Throughout Format.hasDistinctTags [] := by decide

lemma read_of_ok {input rest : Bytes} {v : Value} (h : format.read [] input = .ok v rest) :
    ∃ p : Program, v = p.toValue ∧ read input = .ok p rest := by
  obtain ⟨p, rfl⟩ := exists_toValue (Format.eq_encode_of_read format_hasDistinctTags h).1
  refine ⟨p, rfl, ?_⟩
  simp only [read, h, ofValue?_toValue]

lemma read_of_error {input rest : Bytes} {e : ReadError} (h : format.read [] input = .error e rest) :
    read input = .error e rest := by
  rw [read, h]

lemma read_eq_ok_iff {input rest : Bytes} {p : Program} :
    read input = .ok p rest ↔ format.read [] input = .ok p.toValue rest := by
  cases h : format.read [] input with
  | ok v left =>
    obtain ⟨q, rfl, hq⟩ := read_of_ok h
    rw [hq]
    constructor
    · intro hok
      cases hok
      rfl
    · intro hok
      injection hok with hv hleft
      rw [toValue_injective hv, hleft]
  | error e left =>
    rw [read_of_error h]
    exact ⟨nofun, nofun⟩

lemma read_encode {p : Program} (h : p.Fits) (rest : Bytes) : read (p.encode ++ rest) = .ok p rest :=
  read_eq_ok_iff.mpr
    (Format.read_encode format_hasDistinctTags p.admits_toValue (fits_toValue_iff.mpr h) rest)

lemma read_encode_self {p : Program} (h : p.Fits) : read p.encode = .ok p [] := by
  have hread := read_encode h []
  rwa [List.append_nil] at hread

lemma eq_encode_of_read {input rest : Bytes} {p : Program} (h : read input = .ok p rest) :
    p.Fits ∧ input = p.encode ++ rest := by
  obtain ⟨-, hfits, hinput⟩ := Format.eq_encode_of_read format_hasDistinctTags (read_eq_ok_iff.mp h)
  exact ⟨fits_toValue_iff.mp hfits, hinput⟩

end Program

namespace Wire

/-- A list of an empty shape, a point and an empty list. -/
def Sample.nested : Value :=
  .variant 7 [.vec [.variant 0 [], .variant 5 [.int .i16 (-2), .int .i16 7], .variant 7 [.vec []]]]

lemma Sample.nested_admitted : shape.Admits definitions nested := by
  have hempty : shape.Admits definitions (.variant 0 []) := .choice (.head _) .nil
  have hpoint : shape.Admits definitions (.variant 5 [.int .i16 (-2), .int .i16 7]) :=
    .choice (.tail _ (.head _)) (.cons (.int (by decide)) (.cons (.int (by decide)) .nil))
  have hlist : ∀ items, (∀ v ∈ items, shape.Admits definitions v) →
      shape.Admits definitions (.variant 7 [.vec items]) :=
    fun items h => .choice (.tail _ (.tail _ (.tail _ (.head _)))) (.cons (.vecOf h) .nil)
  refine hlist _ ?_
  simp only [List.forall_mem_cons]
  exact ⟨hempty, hpoint, hlist [] nofun, nofun⟩

lemma Sample.nested_fits : nested.Fits := by
  refine .variant (List.forall_mem_singleton.mpr (.vec (by decide) ?_))
  simp only [List.forall_mem_cons]
  exact ⟨.variant nofun, .variant (List.forall_mem_cons.mpr ⟨.int, List.forall_mem_singleton.mpr .int⟩),
    .variant (List.forall_mem_singleton.mpr (.vec (Nat.zero_le _) nofun)), nofun⟩

end Wire

namespace Wire.Format

/-- Where the tags of every choice are distinct, reading a format and writing a value are inverse to each
other. Hence each value has one encoding, no encoding starts another one, and reading takes as many bytes as
the value's encoded length. The formats of the machine's own types and the sample formats are of this kind,
and programs are read and written in the same way. -/
theorem read_inverts_encode :
    (∀ (defs : Definitions) (f : Format), f.Throughout hasDistinctTags defs →
      (∀ v rest, f.Admits defs v → v.Fits → f.read defs (v.encode ++ rest) = .ok v rest) ∧
      (∀ input v rest, f.read defs input = .ok v rest →
        f.Admits defs v ∧ v.Fits ∧ input = v.encode ++ rest ∧
          input.length = v.encodedLength + rest.length) ∧
      (∀ v input input', f.decode defs input = .ok v → f.decode defs input' = .ok v → input = input') ∧
      ∀ v w, f.Admits defs v → v.Fits → f.Admits defs w → w.Fits → v.encode <+: w.encode → v = w) ∧
    (∀ f ∈ [register, scopeId, address, Sample.unit, Sample.pair, Sample.record, Sample.shape, Program.format],
      f.Throughout hasDistinctTags Sample.definitions) ∧
    (∀ (p : Program) rest, p.Fits → Program.read (p.encode ++ rest) = .ok p rest) ∧
    ∀ input (p : Program) rest, Program.read input = .ok p rest → p.Fits ∧ input = p.encode ++ rest := by
  refine ⟨fun defs f h => ⟨?_, ?_, ?_, ?_⟩, by decide, ?_, ?_⟩
  · exact fun v rest hv hfits => read_encode h hv hfits rest
  · intro input v rest hok
    obtain ⟨hv, hfits, hinput⟩ := eq_encode_of_read h hok
    refine ⟨hv, hfits, hinput, ?_⟩
    rw [hinput, List.length_append, v.encodedLength_eq]
  · intro v input input' hok hok'
    rw [eq_encode_of_decode h hok, eq_encode_of_decode h hok']
  · exact fun v w hv hvfits hw hwfits => eq_of_isPrefix_encode h hv hvfits hw hwfits
  · exact fun p rest hfits => Program.read_encode hfits rest
  · exact fun input p rest hok => Program.eq_encode_of_read hok

theorem nested_shape_reads_back :
    Sample.shape.Throughout hasDistinctTags Sample.definitions ∧
      Sample.shape.read Sample.definitions (Sample.nested.encode ++ [1, 2, 3]) = .ok Sample.nested [1, 2, 3] :=
  have htags : Sample.shape.Throughout hasDistinctTags Sample.definitions := by decide
  ⟨htags, (read_inverts_encode.1 Sample.definitions Sample.shape htags).1 Sample.nested [1, 2, 3]
    Sample.nested_admitted Sample.nested_fits⟩

end Wire.Format

end ScopeMachine
