import ScopeMachine.Bytes

/-!
# Values on the wire

`Value` is what can be written: integers of a fixed width, vectors and byte strings behind a length,
tuples without one, and tagged variants. `Value.encode` is the byte string of a value; it needs no
description of the value's format.
-/

namespace ScopeMachine.Wire

/-- A fixed-width integer type. -/
structure IntType where
  /-- How many bytes a value takes. -/
  width : Nat
  /-- Whether the values are read in two's complement. -/
  signed : Bool
deriving DecidableEq, Repr

namespace IntType

def u8 : IntType := ⟨1, false⟩
def u16 : IntType := ⟨2, false⟩
def u32 : IntType := ⟨4, false⟩
def u64 : IntType := ⟨8, false⟩
def i8 : IntType := ⟨1, true⟩
def i16 : IntType := ⟨2, true⟩
def i32 : IntType := ⟨4, true⟩
def i64 : IntType := ⟨8, true⟩

/-- The number of different values. -/
def modulus (t : IntType) : Nat := Bytes.count t.width

def Contains (t : IntType) (n : Int) : Prop :=
  if t.signed then -(t.modulus : Int) ≤ 2 * n ∧ 2 * n < t.modulus else 0 ≤ n ∧ n < t.modulus

instance (t : IntType) (n : Int) : Decidable (t.Contains n) := by
  unfold Contains; infer_instance

/-- The bytes of an integer, least significant first, in two's complement. -/
def encode (t : IntType) (n : Int) : Bytes := Bytes.ofNat t.width (n.emod t.modulus).toNat

/-- The integer that the bytes of the type stand for. -/
def decode (t : IntType) (bs : Bytes) : Int :=
  let n := Bytes.toNat bs
  if t.signed && decide (t.modulus ≤ 2 * n) then (n : Int) - t.modulus else n

@[simp] theorem length_encode (t : IntType) (n : Int) : (t.encode n).length = t.width := by
  simp [encode]

theorem decode_encode (t : IntType) (n : Int) (h : t.Contains n) : t.decode (t.encode n) = n := by
  have hpos : 0 < t.modulus := Bytes.count_pos t.width
  have hlt : (n % (t.modulus : Int)).toNat < t.modulus := by
    have := Int.emod_lt_of_pos n (Int.natCast_pos.mpr hpos)
    omega
  have hnat : Bytes.toNat (t.encode n) = (n % (t.modulus : Int)).toNat := by
    rw [encode, Bytes.toNat_ofNat]
    exact Nat.mod_eq_of_lt hlt
  rw [decode]
  simp only [hnat]
  unfold Contains at h
  by_cases hs : t.signed = true
  · simp only [hs, if_true, Bool.true_and, decide_eq_true_eq] at h ⊢
    by_cases hneg : n < 0
    · have hmod : n % (t.modulus : Int) = n + t.modulus := by
        rw [← Int.add_emod_right, Int.emod_eq_of_lt] <;> omega
      rw [hmod, if_pos (by omega)]
      omega
    · rw [Int.emod_eq_of_lt (by omega) (by omega), if_neg (by omega)]
      omega
  · simp only [hs, Bool.false_eq_true, if_false, Bool.false_and] at h ⊢
    rw [Int.emod_eq_of_lt h.1 h.2]
    omega

end IntType

/-- A value with its layout. -/
inductive Value where
  /-- An integer of a fixed width. -/
  | int (type : IntType) (n : Int)
  /-- A byte string behind its length. -/
  | bytes (content : Bytes)
  /-- A vector behind its length. -/
  | vec (items : List Value)
  /-- Fields or array elements, one after the other. -/
  | tuple (items : List Value)
  /-- A one-byte tag and the fields that belong to it. -/
  | variant (tag : UInt8) (fields : List Value)
deriving Repr

/-- The layout of a length: an unsigned integer of eight bytes. -/
def encodeLength (n : Nat) : Bytes := Bytes.ofNat 8 n

namespace Value

mutual

def encode : Value → Bytes
  | .int type n => type.encode n
  | .bytes content => encodeLength content.length ++ content
  | .vec items => encodeLength items.length ++ encodeAll items
  | .tuple items => encodeAll items
  | .variant tag fields => tag :: encodeAll fields

/-- The bytes of several values, one after the other. -/
def encodeAll : List Value → Bytes
  | [] => []
  | item :: items => encode item ++ encodeAll items

end

end Value

end ScopeMachine.Wire
