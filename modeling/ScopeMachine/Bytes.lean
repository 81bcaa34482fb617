/-!
# Byte strings

A byte string is a list of bytes. Numbers are laid out in it with the least significant byte first:
`Bytes.ofNat` writes a fixed number of bytes, `Bytes.toNat` reads all of them, and the two are inverse
up to the width (`toNat_ofNat`, `ofNat_toNat`). As hexadecimal text each byte is two lower-case digits, the
high half first; upper-case digits are read as well.
-/

namespace ScopeMachine

abbrev Bytes := List UInt8

namespace Bytes

/-- The `width` low bytes of `n`, least significant first. -/
def ofNat : (width : Nat) → (n : Nat) → Bytes
  | 0, _ => []
  | width + 1, n => UInt8.ofNat n :: ofNat width (n / 256)

/-- The number whose bytes, least significant first, are the given ones. -/
def toNat : Bytes → Nat
  | [] => 0
  | b :: bs => b.toNat + 256 * toNat bs

@[simp] theorem length_ofNat (width n : Nat) : (ofNat width n).length = width := by
  induction width generalizing n with
  | zero => rfl
  | succ width ih => simp [ofNat, ih]

/-- How many byte strings have a given length. -/
def count : (length : Nat) → Nat
  | 0 => 1
  | length + 1 => 256 * count length

theorem count_pos (length : Nat) : 0 < count length := by
  induction length with
  | zero => exact Nat.one_pos
  | succ length ih => rw [count]; omega

theorem toNat_ofNat (width n : Nat) : toNat (ofNat width n) = n % count width := by
  induction width generalizing n with
  | zero => simp [ofNat, toNat, count, Nat.mod_one]
  | succ width ih =>
    have h : (UInt8.ofNat n).toNat = n % 256 := by simp
    rw [ofNat, toNat, ih, h, count, Nat.mod_mul]

theorem toNat_lt (bs : Bytes) : toNat bs < count bs.length := by
  induction bs with
  | nil => simp [toNat, count]
  | cons b bs ih =>
    have hb : b.toNat < 256 := b.toNat_lt
    rw [toNat, List.length_cons, count]
    omega

theorem ofNat_toNat (bs : Bytes) : ofNat bs.length (toNat bs) = bs := by
  induction bs with
  | nil => rfl
  | cons b bs ih =>
    have hb : b.toNat < 256 := b.toNat_lt
    have hd : (b.toNat + 256 * toNat bs) / 256 = toNat bs := by omega
    have hm : UInt8.ofNat (b.toNat + 256 * toNat bs) = b := by
      apply UInt8.toNat_inj.mp
      simp only [UInt8.toNat_ofNat']
      omega
    rw [toNat, List.length_cons, ofNat, hd, hm, ih]

/-- Splits off exactly `n` bytes, if there are as many. -/
def split? : Nat → Bytes → Option (Bytes × Bytes)
  | 0, bs => some ([], bs)
  | _ + 1, [] => none
  | n + 1, b :: bs =>
    match split? n bs with
    | none => none
    | some (front, rest) => some (b :: front, rest)

theorem split?_eq (n : Nat) (bs : Bytes) :
    split? n bs = if n ≤ bs.length then some (bs.take n, bs.drop n) else none := by
  induction n generalizing bs with
  | zero => simp [split?]
  | succ n ih =>
    cases bs with
    | nil => simp [split?]
    | cons b bs =>
      rw [split?, ih]
      by_cases h : n ≤ bs.length <;> simp [h]

/-! ## Hexadecimal text -/

/-- The digits of a byte string, two for each byte. -/
def toHex (bytes : Bytes) : String :=
  String.ofList (bytes.flatMap fun b => [Nat.digitChar (b.toNat / 16), Nat.digitChar (b.toNat % 16)])

def hexDigit? (c : Char) : Option Nat :=
  if '0' ≤ c ∧ c ≤ '9' then some (c.toNat - '0'.toNat)
  else if 'a' ≤ c ∧ c ≤ 'f' then some (c.toNat - 'a'.toNat + 10)
  else if 'A' ≤ c ∧ c ≤ 'F' then some (c.toNat - 'A'.toNat + 10)
  else none

/-- The bytes that pairs of digits stand for, behind those in `read`. -/
def ofHexDigits? (read : Array UInt8) : List Char → Option Bytes
  | [] => some read.toList
  | [_] => none
  | high :: low :: rest =>
    match hexDigit? high, hexDigit? low with
    | some h, some l => ofHexDigits? (read.push (UInt8.ofNat (16 * h + l))) rest
    | _, _ => none

def ofHex? (text : String) : Option Bytes := ofHexDigits? #[] text.toList

end Bytes

end ScopeMachine
