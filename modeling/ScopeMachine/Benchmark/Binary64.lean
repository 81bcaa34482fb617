/-!
# Binary floating-point quotients

Positive numbers with a significand of 53 bits, as the report computes its averages with them. A
quotient is the representable number nearest to the exact one, and of two nearest ones the one with
an even significand. The range of exponents is not bounded, which makes no difference for quotients
of 64-bit numbers.
-/

namespace ScopeMachine.Benchmark

/-- The quotient rounded to the nearest whole number, with a half going to the even neighbour. -/
def roundDiv (num den : Nat) : Nat :=
  let q := num / den
  let twice := 2 * (num % den)
  if twice < den then q
  else if den < twice then q + 1
  else if q % 2 = 0 then q
  else q + 1

/-- The number `significand * 2 ^ exponent`. -/
structure Binary64 where
  significand : Nat
  exponent : Int
deriving DecidableEq, Repr

namespace Binary64

/-- The number of bits of a significand. -/
def precision : Nat := 53

/-- The two terms of a ratio multiplied by a power of two. -/
def scale (num den : Nat) (exponent : Int) : Nat × Nat :=
  if 0 ≤ exponent then (num <<< exponent.toNat, den) else (num, den <<< (-exponent).toNat)

/-- The nearest representable number to a ratio. -/
def ofRatio (num den : Nat) : Binary64 :=
  if num = 0 ∨ den = 0 then ⟨0, 0⟩
  else
    let guess : Int := num.log2 - den.log2 - (precision - 1 : Nat)
    let (n, d) := scale num den (-guess)
    let exponent := if n / d < 1 <<< (precision - 1) then guess - 1 else guess
    let (n, d) := scale num den (-exponent)
    ⟨roundDiv n d, exponent⟩

def ofNat (n : Nat) : Binary64 := ofRatio n 1

def toRatio (x : Binary64) : Nat × Nat := scale x.significand 1 x.exponent

def div (x y : Binary64) : Binary64 :=
  let (a, b) := x.toRatio
  let (c, d) := y.toRatio
  ofRatio (a * d) (b * c)

/-- The number with a fixed number of decimal places. -/
def toFixed (x : Binary64) (places : Nat) : String :=
  let (num, den) := x.toRatio
  let digits := (toString (roundDiv (num * Nat.pow 10 places) den)).toList
  let digits := List.replicate (places + 1 - digits.length) '0' ++ digits
  let (whole, fraction) := digits.splitAt (digits.length - places)
  String.ofList whole ++ "." ++ String.ofList fraction

end Binary64

end ScopeMachine.Benchmark
