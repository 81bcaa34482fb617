import ScopeMachine.Codegen.Message
import ScopeMachine.Text

/-!
# Specifications of placeholders

How a placeholder lays its argument out: alignment with a fill character, an explicit sign, a base
prefixed to the digits, zeros before them, and a width. The order in the text is
`[[fill]align][+][#][0][width][x]`.
-/

namespace ScopeMachine.Codegen

/-- A value that a message shows. -/
inductive Shown where
  | number (n : Int)
  | text (content : String)
deriving DecidableEq, Repr

inductive Alignment where
  | left
  | center
  | right
deriving DecidableEq, Repr

/-- A specification. -/
structure Layout where
  fill : Char
  alignment : Option Alignment
  /-- Positive numbers carry a sign. -/
  sign : Bool
  /-- Hexadecimal numbers are marked. -/
  alternate : Bool
  /-- Zeros fill the width, behind sign and mark. -/
  zeros : Bool
  width : Nat
  /-- Numbers are hexadecimal. -/
  hexadecimal : Bool
deriving DecidableEq, Repr

namespace Layout

def alignment? : Char → Option Alignment
  | '<' => some .left
  | '^' => some .center
  | '>' => some .right
  | _ => none

/-- Takes fill and alignment off a specification. -/
def takeAlignment : List Char → (Char × Option Alignment) × List Char
  | fill :: c :: rest =>
    match alignment? c, alignment? fill with
    | some a, _ => ((fill, some a), rest)
    | none, some a => ((' ', some a), c :: rest)
    | none, none => ((' ', none), fill :: c :: rest)
  | [c] =>
    match alignment? c with
    | some a => ((' ', some a), [])
    | none => ((' ', none), [c])
  | [] => ((' ', none), [])

/-- Takes a mark off a specification if it is there. -/
def takeMark (mark : Char) : List Char → Bool × List Char
  | c :: rest => if c = mark then (true, rest) else (false, c :: rest)
  | [] => (false, [])

def parse (spec : List Char) : Layout :=
  let ((fill, alignment), rest) := takeAlignment spec
  let (sign, rest) := takeMark '+' rest
  let (alternate, rest) := takeMark '#' rest
  let (zeros, rest) := takeMark '0' rest
  let digits := rest.takeWhile Char.isDigit
  { fill := fill
    alignment := alignment
    sign := sign
    alternate := alternate
    zeros := zeros
    width := digits.foldl (fun n c => 10 * n + (c.toNat - '0'.toNat)) 0
    hexadecimal := rest.dropWhile Char.isDigit == ['x'] }

/-- Fills a text up to the width, on the side that the alignment leaves free. -/
def fit (layout : Layout) (preset : Alignment) (text : String) : String :=
  let missing := layout.width - text.length
  let filling (n : Nat) : String := String.ofList (List.replicate n layout.fill)
  match layout.alignment.getD preset with
  | .left => text ++ filling missing
  | .center => filling (missing / 2) ++ text ++ filling (missing - missing / 2)
  | .right => filling missing ++ text

/-- What stands before the digits of a number. -/
def lead (layout : Layout) (n : Int) : String :=
  (if n < 0 then "-" else if layout.sign then "+" else "") ++
    (if layout.hexadecimal && layout.alternate then "0x" else "")

def apply (layout : Layout) : Shown → String
  | .text content => layout.fit .left content
  | .number n =>
    let lead := layout.lead n
    let digits := String.ofList (Nat.toDigits (if layout.hexadecimal then 16 else 10) n.natAbs)
    if layout.zeros then lead ++ Text.padLeft (layout.width - lead.length) digits '0'
    else layout.fit .right (lead ++ digits)

end Layout

namespace Message

/-- A value under the specification of a placeholder. -/
def layOut (value : Shown) (spec : List Char) : List Char := ((Layout.parse spec).apply value).toList

end Message

end ScopeMachine.Codegen
