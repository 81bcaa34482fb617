import ScopeMachine.Proofs.RoundTrip

/-!
# The container of a program

A container is accepted exactly if it is the magic number, a version that is not newer than the current one
and an encoded program that fits (`Program.ofBytes_accepts_exactly_containers`). Writing does not check that a
program fits: one that does not is refused when it is read back, at the first length that is too large.
-/

namespace ScopeMachine

open Wire

/-! ## Versions -/

lemma Version.isBefore_iff (v w : Version) : v.isBefore w = true ↔ v.toBytes < w.toBytes := by
  simp only [isBefore, toBytes, List.cons_lt_cons_iff, Bool.or_eq_true, Bool.and_eq_true, decide_eq_true_eq,
    beq_iff_eq, List.lt_irrefl, and_false, or_false]

lemma Version.isBefore_eq_false_iff (v w : Version) : v.isBefore w = false ↔ w.toBytes ≤ v.toBytes := by
  rw [← Bool.not_eq_true, isBefore_iff, List.not_lt]

/-! ## Lengths that are too large -/

lemma Wire.Reader.vector_of_long {α : Type} (item : Reader α) {n : Nat} (hlong : maxLength < n)
    (hn : n < 2 ^ 64) (rest : Bytes) : vector item (encodeLength n ++ rest) = .error .lengthOverflow rest := by
  have hlength := length_of_encodeLength hn rest
  rw [if_pos hlong] at hlength
  exact bind_of_error hlength _

namespace Program

open Reader (maxLength)

/-- All lengths are numbers of 64 bits, as lengths in memory are. -/
structure Addressable (p : Program) : Prop where
  scopes : p.scopes.length < 2 ^ 64
  code : ∀ code ∈ p.scopes, code.length < 2 ^ 64

lemma read_code_of_long {code : Bytes} (hlong : maxLength < code.length) (hcode : code.length < 2 ^ 64)
    (rest : Bytes) :
    ∃ left, Format.bytes.read [] ((Value.bytes code).encode ++ rest) = .error .lengthOverflow left := by
  rw [Format.read_bytes, Value.encode, List.append_assoc]
  exact ⟨_, Reader.map_of_error (Reader.vector_of_long _ hlong hcode _) _⟩

lemma read_code {code : Bytes} (hshort : code.length ≤ maxLength) (rest : Bytes) :
    Format.bytes.read [] ((Value.bytes code).encode ++ rest) = .ok (.bytes code) rest :=
  Format.read_encode (by decide) .bytes (.bytes hshort) rest

lemma read_codes_of_long {codes : List Bytes} (haddress : ∀ code ∈ codes, code.length < 2 ^ 64)
    (hlong : ∃ code ∈ codes, maxLength < code.length) (rest : Bytes) :
    ∃ left, Reader.sequence (List.replicate codes.length (Format.bytes.read []))
      (Value.encodeAll (codes.map .bytes) ++ rest) = .error .lengthOverflow left := by
  induction codes with
  | nil =>
    obtain ⟨code, hmem, -⟩ := hlong
    cases hmem
  | cons code codes ih =>
    rw [List.length_cons, List.replicate_succ, List.map_cons, Value.encodeAll, List.append_assoc,
      Reader.sequence]
    obtain ⟨hcode, hcodes⟩ := List.forall_mem_cons.mp haddress
    by_cases hfirst : maxLength < code.length
    · obtain ⟨left, hread⟩ := read_code_of_long hfirst hcode (Value.encodeAll (codes.map .bytes) ++ rest)
      exact ⟨left, bind_of_error hread _⟩
    · have hlater : ∃ code ∈ codes, maxLength < code.length := by
        obtain ⟨code', hmem, hlong'⟩ := hlong
        rcases List.mem_cons.mp hmem with rfl | hmem
        · exact absurd hlong' hfirst
        · exact ⟨code', hmem, hlong'⟩
      obtain ⟨left, hread⟩ := ih hcodes hlater
      rw [bind_of_ok (read_code (by omega) _)]
      exact ⟨left, Reader.map_of_error hread _⟩

lemma read_scopes_of_not_fits {p : Program} (haddress : p.Addressable) (hfits : ¬ p.Fits) (rest : Bytes) :
    ∃ left, (Format.vec .bytes).read [] ((Value.vec (p.scopes.map .bytes)).encode ++ rest) =
      .error .lengthOverflow left := by
  rw [Format.read_vec, Value.encode, List.length_map, List.append_assoc]
  by_cases hscopes : maxLength < p.scopes.length
  · exact ⟨_, Reader.map_of_error (Reader.vector_of_long _ hscopes haddress.scopes _) _⟩
  · have hlong : ∃ code ∈ p.scopes, maxLength < code.length := by
      by_contra hnone
      refine hfits ⟨by omega, fun code hcode => ?_⟩
      by_contra hlong
      exact hnone ⟨code, hcode, by omega⟩
    obtain ⟨left, hread⟩ := read_codes_of_long haddress.code hlong rest
    refine ⟨left, Reader.map_of_error ?_ _⟩
    rw [Reader.vector, bind_of_ok (Reader.length_eq_ok_iff.mpr ⟨by omega, rfl⟩)]
    exact hread

lemma read_encode_of_not_fits {p : Program} (haddress : p.Addressable) (hfits : ¬ p.Fits) :
    ∃ left, read p.encode = .error .lengthOverflow left := by
  obtain ⟨left, hread⟩ := read_scopes_of_not_fits haddress hfits (Value.encodeAll [.int .u32 p.start.toNat])
  refine ⟨left, read_of_error ?_⟩
  rw [format, Format.read_record]
  exact Reader.map_of_error (bind_of_error hread _) _

/-! ## What a container is -/

lemma readBody_eq_ok_iff_read (v : Version) (body : Bytes) (p : Program) :
    readBody (v.toBytes ++ body) = .ok p ↔ v.toBytes ≤ Version.current.toBytes ∧ read body = .ok p [] := by
  rw [← Version.isBefore_eq_false_iff]
  simp only [Version.toBytes, List.cons_append, List.nil_append, readBody]
  cases Version.current.isBefore v with
  | true => simp
  | false =>
    cases read body with
    | error e left => simp
    | ok q left => cases left <;> simp

lemma readBody_of_read_error {v : Version} (hv : v.toBytes ≤ Version.current.toBytes) {body left : Bytes}
    {e : ReadError} (h : read body = .error e left) :
    readBody (v.toBytes ++ body) = .error (.ofReadError e) := by
  have hold : Version.current.isBefore v = false := (Version.isBefore_eq_false_iff _ _).mpr hv
  simp only [Version.toBytes, List.cons_append, List.nil_append, readBody, hold, h, Bool.false_eq_true,
    if_false]

lemma readBody_eq_ok_iff {input : Bytes} {p : Program} :
    readBody input = .ok p ↔
      ∃ v : Version, v.toBytes ≤ Version.current.toBytes ∧ p.Fits ∧ input = v.toBytes ++ p.encode := by
  constructor
  · intro hok
    match input with
    | [] | [_] | [_, _] => cases hok
    | major :: minor :: patch :: body =>
      obtain ⟨hv, hread⟩ := (readBody_eq_ok_iff_read ⟨major, minor, patch⟩ body p).mp hok
      obtain ⟨hfits, hbody⟩ := eq_encode_of_read hread
      rw [List.append_nil] at hbody
      exact ⟨⟨major, minor, patch⟩, hv, hfits, by rw [hbody]; rfl⟩
  · rintro ⟨v, hv, hfits, rfl⟩
    exact (readBody_eq_ok_iff_read v p.encode p).mpr ⟨hv, read_encode_self hfits⟩

lemma ofBytes_magic (input : Bytes) : ofBytes (magic ++ input) = readBody input := by
  rw [ofBytes, Bytes.split?_eq, if_pos (by simp), List.take_left, List.drop_left]
  exact if_neg (not_not.mpr rfl)

lemma exists_eq_magic_append {b : Bytes} {p : Program} (hok : ofBytes b = .ok p) :
    ∃ input, b = magic ++ input := by
  refine ⟨b.drop magic.length, ?_⟩
  rw [ofBytes, Bytes.split?_eq] at hok
  by_cases hlen : magic.length ≤ b.length
  · simp only [if_pos hlen] at hok
    by_cases hfront : b.take magic.length = magic
    · exact (List.take_append_drop magic.length b).symm.trans (by rw [hfront])
    · rw [if_pos hfront] at hok
      cases hok
  · simp only [if_neg hlen] at hok
    cases hok

lemma ofBytes_eq_ok_iff {b : Bytes} {p : Program} :
    ofBytes b = .ok p ↔
      ∃ v : Version, v.toBytes ≤ Version.current.toBytes ∧ p.Fits ∧ b = magic ++ v.toBytes ++ p.encode := by
  constructor
  · intro hok
    obtain ⟨input, rfl⟩ := exists_eq_magic_append hok
    rw [ofBytes_magic] at hok
    obtain ⟨v, hv, hfits, rfl⟩ := readBody_eq_ok_iff.mp hok
    exact ⟨v, hv, hfits, (List.append_assoc _ _ _).symm⟩
  · rintro ⟨v, hv, hfits, rfl⟩
    rw [List.append_assoc, ofBytes_magic]
    exact readBody_eq_ok_iff.mpr ⟨v, hv, hfits, rfl⟩

lemma ofBytes_toBytes {p : Program} (hfits : p.Fits) : ofBytes p.toBytes = .ok p :=
  ofBytes_eq_ok_iff.mpr ⟨Version.current, List.le_refl _, hfits, rfl⟩

lemma ofBytes_toBytes_of_not_fits {p : Program} (haddress : p.Addressable) (hfits : ¬ p.Fits) :
    ofBytes p.toBytes = .error (.decoding "length prefix too large") := by
  obtain ⟨left, hread⟩ := read_encode_of_not_fits haddress hfits
  rw [toBytes, List.append_assoc, ofBytes_magic, readBody_of_read_error (List.le_refl _) hread]
  rfl

lemma eq_of_isPrefix_encode {p q : Program} (hp : p.Fits) (hq : q.Fits) (h : p.encode <+: q.encode) : p = q := by
  apply toValue_injective
  exact Format.eq_of_isPrefix_encode format_hasDistinctTags p.admits_toValue (fits_toValue_iff.mpr hp)
    q.admits_toValue (fits_toValue_iff.mpr hq) h

lemma isPrefix_of_container {v w : Version} {x y : Bytes}
    (h : magic ++ v.toBytes ++ x <+: magic ++ w.toBytes ++ y) : v = w ∧ x <+: y := by
  obtain ⟨major, minor, patch⟩ := v
  obtain ⟨major', minor', patch'⟩ := w
  simp only [Version.toBytes, List.append_assoc, List.prefix_append_right_inj, List.cons_append,
    List.nil_append, List.cons_prefix_cons] at h
  obtain ⟨rfl, rfl, rfl, hrest⟩ := h
  exact ⟨rfl, hrest⟩

lemma eq_toBytes_of_ofBytes {p q : Program} (hp : p.Fits) {b : Bytes}
    (hcomparable : b <+: p.toBytes ∨ p.toBytes <+: b) (hok : ofBytes b = .ok q) : b = p.toBytes := by
  obtain ⟨v, -, hq, rfl⟩ := ofBytes_eq_ok_iff.mp hok
  rcases hcomparable with h | h
  · obtain ⟨rfl, hstart⟩ := isPrefix_of_container h
    rw [eq_of_isPrefix_encode hq hp hstart, toBytes]
  · obtain ⟨rfl, hstart⟩ := isPrefix_of_container h
    rw [eq_of_isPrefix_encode hp hq hstart, toBytes]

/-- A container is the magic number, a version up to the current one and an encoded program that fits, and
nothing else is accepted. So writing an accepted program changes no more than the version, programs are read
back exactly if they fit, and neither a part of a container nor a container with more bytes behind it is
accepted. -/
theorem ofBytes_accepts_exactly_containers :
    (∀ (b : Bytes) (p : Program), ofBytes b = .ok p ↔
      ∃ v : Version, v.toBytes ≤ [0, 3, 0] ∧ p.Fits ∧ b = magic ++ v.toBytes ++ p.encode) ∧
    (∀ (b : Bytes) (p : Program), ofBytes b = .ok p → p.toBytes = b.take 4 ++ [0, 3, 0] ++ b.drop 7) ∧
    (∀ p : Program, p.Fits → ofBytes p.toBytes = .ok p) ∧
    (∀ p : Program, p.Addressable → ¬ p.Fits →
      ofBytes p.toBytes = .error (.decoding "length prefix too large")) ∧
    ∀ p : Program, p.Fits → ∀ b, b <+: p.toBytes ∨ p.toBytes <+: b → b ≠ p.toBytes →
      ∃ fault, ofBytes b = .error fault := by
  refine ⟨fun b p => ofBytes_eq_ok_iff, ?_, fun p => ofBytes_toBytes, fun p => ofBytes_toBytes_of_not_fits, ?_⟩
  · intro b p hok
    obtain ⟨v, -, -, rfl⟩ := ofBytes_eq_ok_iff.mp hok
    rfl
  · intro p hp b hcomparable hne
    cases hb : ofBytes b with
    | error fault => exact ⟨fault, rfl⟩
    | ok q => exact absurd (eq_toBytes_of_ofBytes hp hcomparable hb) hne

/-- One scope more than a reader accepts. -/
def oversized : Program := ⟨List.replicate (maxLength + 1) [], 0⟩

theorem oversized_refused :
    oversized.Addressable ∧ ¬ oversized.Fits ∧
      ofBytes oversized.toBytes = .error (.decoding "length prefix too large") := by
  have hlen : oversized.scopes.length = maxLength + 1 := List.length_replicate
  have haddress : oversized.Addressable := by
    refine ⟨by rw [hlen]; decide, fun code hcode => ?_⟩
    rw [List.eq_of_mem_replicate hcode]
    decide
  have hfits : ¬ oversized.Fits := by
    intro h
    have hle := h.scopes
    omega
  exact ⟨haddress, hfits, ofBytes_accepts_exactly_containers.2.2.2.1 oversized haddress hfits⟩

end Program

end ScopeMachine
