/-!
# Text

Texts without blank ends, and numbers and columns as messages and tables print them. The blank characters
are those with the Unicode property `White_Space`.
-/

namespace ScopeMachine.Text

/-! ## Blanks -/

/-- The blank characters, as ranges of code points with both ends included. -/
def blankRanges : List (Nat × Nat) :=
  [(0x09, 0x0D), (0x20, 0x20), (0x85, 0x85), (0xA0, 0xA0), (0x1680, 0x1680), (0x2000, 0x200A),
    (0x2028, 0x2029), (0x202F, 0x202F), (0x205F, 0x205F), (0x3000, 0x3000)]

def isBlank (c : Char) : Bool := blankRanges.any fun (low, high) => low ≤ c.toNat && c.toNat ≤ high

/-- A text without the blank characters at its ends. -/
def trim (text : List Char) : List Char :=
  ((text.dropWhile isBlank).reverse.dropWhile isBlank).reverse

theorem isBlank_of_isDigit {c : Char} (h : c.isDigit = true) : isBlank c = false := by
  simp only [Char.isDigit, Bool.and_eq_true, decide_eq_true_eq, ge_iff_le, UInt32.le_iff_toNat_le] at h
  have hlow : 48 ≤ c.toNat := h.1
  have hhigh : c.toNat ≤ 57 := h.2
  simp [isBlank, blankRanges]
  omega

/-! ## Numbers and columns -/

/-- Puts copies of `fill` before a text until it is `width` characters long. -/
def padLeft (width : Nat) (text : String) (fill : Char) : String :=
  String.ofList (List.replicate (width - text.length) fill) ++ text

/-- Puts copies of `fill` after a text until it is `width` characters long. -/
def padRight (width : Nat) (text : String) (fill : Char) : String :=
  text ++ String.ofList (List.replicate (width - text.length) fill)

def alignRight (width : Nat) (text : String) : String := padLeft width text ' '

def alignLeft (width : Nat) (text : String) : String := padRight width text ' '

/-- A number in decimal with at least `digits` digits. -/
def decimal (digits : Nat) (n : Nat) : String := padLeft digits (toString n) '0'

/-- A number in hexadecimal behind `0x`, with at least `digits` digits. -/
def hex (digits : Nat) (n : Nat) : String :=
  "0x" ++ padLeft digits (String.ofList (Nat.toDigits 16 n)) '0'

/-- A byte as fault messages show it. -/
def hexByte (b : UInt8) : String := hex 2 b.toNat

end ScopeMachine.Text
