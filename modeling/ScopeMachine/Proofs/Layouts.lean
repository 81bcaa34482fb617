import ScopeMachine.Proofs.Readers

/-!
# Layouts

A layout says which byte strings stand for a value. Layouts are put together as readers are, and
`Reader.Reads` says that a reader fits a layout: it takes the bytes of a value off the front of any input
that starts with them, and it takes nothing else. The law is stated up to a number of bytes, so that it can
be proved of a recursive format by induction on that number.
-/

namespace ScopeMachine.Wire

variable {α β : Type}

/-- Which byte strings stand for a value. -/
abbrev Layout (α : Type) := α → Bytes → Prop

namespace Layout

/-- One value, without bytes. -/
def nothing (a : α) : Layout α := fun b bs => b = a ∧ bs = []

def map (f : α → β) (L : Layout α) : Layout β := fun b bs => ∃ a, L a bs ∧ b = f a

/-- A value, and behind it one whose layout depends on it. The second one counts. -/
def andThen (L : Layout α) (K : α → Layout β) : Layout β :=
  fun b bs => ∃ a x y, L a x ∧ K a b y ∧ bs = x ++ y

def sequence : List (Layout α) → Layout (List α)
  | [] => nothing []
  | L :: Ls => L.andThen fun a => (sequence Ls).map (a :: ·)

def byte : Layout UInt8 := fun b bs => bs = [b]

def int (type : IntType) : Layout Int := fun n bs => type.Contains n ∧ bs = type.encode n

def length : Layout Nat := fun n bs => n ≤ Reader.maxLength ∧ bs = encodeLength n

/-- A length, and as many items. -/
def vector (item : Layout α) : Layout (List α) :=
  length.andThen fun n => sequence (List.replicate n item)

lemma map_eq_andThen (f : α → β) (L : Layout α) : L.map f = L.andThen fun a => nothing (f a) := by
  funext b bs
  apply propext
  constructor
  · rintro ⟨a, ha, rfl⟩
    exact ⟨a, bs, [], ha, ⟨rfl, rfl⟩, (List.append_nil bs).symm⟩
  · rintro ⟨a, x, y, ha, ⟨rfl, rfl⟩, rfl⟩
    rw [List.append_nil]
    exact ⟨a, ha, rfl⟩

lemma sequence_nil_iff {as : List α} {bs : Bytes} : sequence [] as bs ↔ as = [] ∧ bs = [] := Iff.rfl

lemma sequence_cons_iff {L : Layout α} {Ls : List (Layout α)} {as : List α} {bs : Bytes} :
    sequence (L :: Ls) as bs ↔
      ∃ a rest x y, L a x ∧ sequence Ls rest y ∧ as = a :: rest ∧ bs = x ++ y := by
  constructor
  · rintro ⟨a, x, y, ha, ⟨rest, hrest, rfl⟩, rfl⟩
    exact ⟨a, rest, x, y, ha, hrest, rfl, rfl⟩
  · rintro ⟨a, rest, x, y, ha, hrest, rfl, rfl⟩
    exact ⟨a, x, y, ha, ⟨rest, hrest, rfl⟩, rfl⟩

lemma sequence_byte_iff {n : Nat} {content bs : Bytes} :
    sequence (List.replicate n byte) content bs ↔ content.length = n ∧ bs = content := by
  induction n generalizing content bs with
  | zero =>
    rw [List.replicate_zero, sequence_nil_iff, List.length_eq_zero_iff]
    exact and_congr_right fun hnil => by rw [hnil]
  | succ n ih =>
    rw [List.replicate_succ, sequence_cons_iff]
    constructor
    · rintro ⟨b, rest, x, y, rfl, hrest, rfl, rfl⟩
      obtain ⟨rfl, rfl⟩ := ih.mp hrest
      exact ⟨rfl, rfl⟩
    · rintro ⟨hlen, rfl⟩
      cases bs with
      | nil => cases hlen
      | cons b rest => exact ⟨b, rest, [b], rest, rfl, ih.mpr ⟨Nat.succ.inj hlen, rfl⟩, rfl, rfl⟩

end Layout

/-! ## Readers that fit a layout -/

namespace Reader

/-- Up to `n` bytes the reader takes exactly the bytes that stand for a value. -/
structure Reads (n : Nat) (r : Reader α) (L : Layout α) : Prop where
  accepts : ∀ {a : α} {bs : Bytes}, L a bs → bs.length ≤ n → ∀ rest, r (bs ++ rest) = .ok a rest
  sound : ∀ {input rest : Bytes} {a : α}, input.length ≤ n → r input = .ok a rest →
    ∃ bs, L a bs ∧ input = bs ++ rest

namespace Reads

variable {n : Nat}

lemma mono {m : Nat} {r : Reader α} {L : Layout α} (h : Reads n r L) (hle : m ≤ n) : Reads m r L where
  accepts hL hlen := h.accepts hL (hlen.trans hle)
  sound hlen := h.sound (hlen.trans hle)

lemma pure (a : α) : Reads n (pure a) (.nothing a) where
  accepts := by
    rintro b bs ⟨rfl, rfl⟩ - rest
    rfl
  sound := by
    intro input rest b _ hok
    cases hok
    exact ⟨[], ⟨rfl, rfl⟩, rfl⟩

lemma throw {L : Layout α} (h : ∀ a bs, ¬ L a bs) (e : ReadError) : Reads n (throw e) L where
  accepts hL := absurd hL (h _ _)
  sound _ hok := nomatch hok

lemma bind {r : Reader α} {L : Layout α} {s : α → Reader β} {K : α → Layout β} (h : Reads n r L)
    (hs : ∀ a x, L a x → x.length ≤ n → Reads (n - x.length) (s a) (K a)) :
    Reads n (r >>= s) (L.andThen K) where
  accepts := by
    rintro b bs ⟨a, x, y, hx, hy, rfl⟩ hlen rest
    rw [List.length_append] at hlen
    rw [List.append_assoc, bind_of_ok (h.accepts hx (by omega) _)]
    exact (hs a x hx (by omega)).accepts hy (by omega) rest
  sound := by
    intro input rest b hlen hok
    obtain ⟨a, left, hr, hb⟩ := bind_eq_ok_iff.mp hok
    obtain ⟨x, hx, rfl⟩ := h.sound hlen hr
    rw [List.length_append] at hlen
    obtain ⟨y, hy, rfl⟩ := (hs a x hx (by omega)).sound (by omega) hb
    exact ⟨x ++ y, ⟨a, x, y, hx, hy, rfl⟩, (List.append_assoc x y rest).symm⟩

lemma map {r : Reader α} {L : Layout α} (h : Reads n r L) (f : α → β) : Reads n (f <$> r) (L.map f) := by
  rw [map_eq_pure_bind, Layout.map_eq_andThen]
  exact h.bind fun a _ _ _ => pure (f a)

lemma sequence {rs : List (Reader α)} {Ls : List (Layout α)} (h : List.Forall₂ (Reads n) rs Ls) :
    Reads n (sequence rs) (.sequence Ls) := by
  induction h with
  | nil => exact pure []
  | cons hr _ ih => exact hr.bind fun a x _ _ => (ih.map (a :: ·)).mono (Nat.sub_le n x.length)

lemma byte : Reads n byte .byte where
  accepts := by
    rintro b bs rfl - rest
    rfl
  sound := by
    intro input rest b _ hok
    cases input with
    | nil => cases hok
    | cons c input => cases hok; exact ⟨[b], rfl, rfl⟩

lemma int (type : IntType) : Reads n (int type) (.int type) where
  accepts := by
    rintro k bs ⟨hk, rfl⟩ - rest
    have hlen : (type.encode k).length = type.width := type.length_encode k
    rw [int_of_le (by rw [List.length_append]; omega), List.take_left' hlen, List.drop_left' hlen,
      type.decode_encode k hk]
  sound := by
    intro input rest k _ hok
    by_cases hlen : type.width ≤ input.length
    · have htake : (input.take type.width).length = type.width := List.length_take_of_le hlen
      rw [int_of_le hlen] at hok
      cases hok
      refine ⟨input.take type.width, ⟨type.contains_decode htake, (type.encode_decode htake).symm⟩, ?_⟩
      exact (List.take_append_drop type.width input).symm
    · rw [int_of_lt (by omega)] at hok
      cases hok

lemma length : Reads n length .length where
  accepts := by
    rintro k bs ⟨hk, rfl⟩ - rest
    exact length_eq_ok_iff.mpr ⟨hk, rfl⟩
  sound := by
    intro input rest k _ hok
    obtain ⟨hk, rfl⟩ := length_eq_ok_iff.mp hok
    exact ⟨encodeLength k, ⟨hk, rfl⟩, rfl⟩

lemma vector {item : Reader α} {L : Layout α} (h : ∀ m, m + 8 ≤ n → Reads m item L) :
    Reads n (vector item) (.vector L) := by
  refine length.bind ?_
  rintro k x ⟨-, rfl⟩ hlen
  rw [length_encodeLength] at hlen ⊢
  exact sequence (forall₂_replicate (h (n - 8) (by omega)) k)

end Reads

end Reader

end ScopeMachine.Wire
