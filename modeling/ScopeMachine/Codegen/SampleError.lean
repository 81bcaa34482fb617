import ScopeMachine.Codegen.ErrorImpl
import ScopeMachine.Codegen.Layout

/-!
# A worked error type

An error enum with one variant of each shape. A value displays the message of its variant, with the
arguments that the generated arm binds.
-/

namespace ScopeMachine.Codegen

inductive SampleError where
  | plain
  | tuple (a : UInt16) (b : String)
  | partly (a : UInt8) (b : Int32)
  | named (a : Int32) (b : UInt8)
deriving DecidableEq, Repr

namespace SampleError

def variant : SampleError → Variant
  | .plain =>
    { name := "Plain", fields := .unit, discriminant := none
      attributes := [⟨some "error", .literal "plain \x7b\x7bbraces\x7d\x7d"⟩, ⟨some "kind", .identifier "Runtime"⟩] }
  | .tuple .. =>
    { name := "Tuple", fields := .tuple 2, discriminant := none
      attributes := [⟨some "error", .literal "tuple \x7b1\x7d then \x7b0:#06x\x7d"⟩,
        ⟨some "kind", .identifier "OutOfRange"⟩] }
  | .partly .. =>
    { name := "Partial", fields := .tuple 2, discriminant := none
      attributes := [⟨some "error", .literal "only \x7b1:>4\x7d|"⟩, ⟨some "kind", .identifier "Size"⟩] }
  | .named .. =>
    { name := "Named", fields := .named ["a", "b"], discriminant := none
      attributes := [⟨some "error", .literal "named \x7ba:+\x7d hides the rest"⟩,
        ⟨some "kind", .identifier "Capacity"⟩] }

/-- The values of the fields in order. -/
def values : SampleError → List Shown
  | .plain => []
  | .tuple a b => [.number a.toNat, .text b]
  | .partly a b => [.number a.toNat, .number b.toInt]
  | .named a b => [.number a.toInt, .number b.toNat]

/-- The arguments that are bound when the format string of a variant is displayed, and that string. -/
def bound (fields : Fields) (text : List Char) (values : List Shown) :
    List (List Char × Shown) × List Char :=
  match fields with
  | .unit => ([], text)
  | .named names => ((names.map String.toList).zip values, text)
  | .tuple count =>
    let (format, used) := Message.ofTuple text count
    (used.filterMap fun i => values[i]?.map (Message.binding i, ·), format)

def message (e : SampleError) : Option String :=
  match ErrorImpl.messageOf e.variant with
  | .error _ => none
  | .ok text =>
    let (args, format) := bound e.variant.fields text e.values
    (Message.render Message.layOut args format).map String.ofList

def kind (e : SampleError) : Option String :=
  match ErrorImpl.kindOf e.variant with
  | .error _ => none
  | .ok kind => kind

end SampleError

end ScopeMachine.Codegen
