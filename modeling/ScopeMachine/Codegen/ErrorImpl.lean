import ScopeMachine.Codegen.Message

/-!
# Generated error types

The implementations that make an enum an error type: each variant displays its message, and if every
variant declares a kind, a function gives it.
-/

namespace ScopeMachine.Codegen

namespace ErrorImpl

open Tokens

def messageOf (v : Variant) : Except DeriveError (List Char) :=
  match v.attribute? "error" with
  | none => .error (.missingMessage v.name)
  | some ⟨_, .literal text⟩ => .ok text.toList
  | some _ => .error .invalidMessage

/-- The kind that a variant declares, if any. -/
def kindOf (v : Variant) : Except DeriveError (Option String) :=
  match v.attribute? "kind" with
  | none => .ok none
  | some ⟨_, .identifier name⟩ => .ok (some name)
  | some _ => .error .invalidKind

/-- The call that writes a message with the named arguments. -/
def writeCall (format : String) (names : List String) : Tokens :=
  ["write", "!"] ++ parenthesized (["f", ",", format, ","] ++
    commaSeparated (names.map fun name => [name, "=", name]))

/-- The arm that displays a variant. Only the fields that the message refers to are bound. -/
def displayArm (v : Variant) (text : List Char) : Tokens :=
  match v.fields with
  | .unit =>
    ownVariant v.name ++ ["=>", "write", "!"] ++ parenthesized ["f", ",", literal text] ++ [","]
  | .named names =>
    let used := names.filter fun name => Message.references text name.toList
    ownVariant v.name ++ braced ((used.flatMap fun name => [name, ","]) ++ [".."]) ++ ["=>"] ++
      writeCall (literal text) used ++ [","]
  | .tuple count =>
    let (format, used) := Message.ofTuple text count
    let patterns := (List.range count).map fun i =>
      if used.contains i then [String.ofList (Message.binding i)] else ["_"]
    ownVariant v.name ++ parenthesized (commaSeparated patterns) ++ ["=>"] ++
      writeCall (newLiteral format) (used.map fun i => String.ofList (Message.binding i)) ++ [","]

/-- The pattern of a variant whatever its fields are. -/
def anyFields (v : Variant) : Tokens :=
  match v.fields with
  | .unit => ownVariant v.name
  | .named _ => ownVariant v.name ++ braced [".."]
  | .tuple _ => ownVariant v.name ++ parenthesized [".."]

def kindPath (parts : List String) : Tokens :=
  cratePath (["virtual_machine", "errors", "ErrorKind"] ++ parts)

def kindArm (v : Variant) (kind : String) : Tokens :=
  anyFields v ++ ["=>"] ++ kindPath [kind] ++ [","]

/-- The arms of one variant: the one that displays it, and the one for its kind if it has one. -/
def arms (v : Variant) : Except DeriveError (Tokens × Option Tokens) :=
  match messageOf v with
  | .error e => .error e
  | .ok text =>
    match kindOf v with
    | .error e => .error e
    | .ok kind => .ok (displayArm v text, kind.map (kindArm v))

/-- The arms of variants in order, up to the first that has none. -/
def allArms : List Variant → Except DeriveError (List (Tokens × Option Tokens))
  | [] => .ok []
  | v :: vs =>
    match arms v with
    | .error e => .error e
    | .ok head =>
      match allArms vs with
      | .error e => .error e
      | .ok tail => .ok (head :: tail)

def displayFunction (displayArms : Tokens) : Tokens :=
  ["fn", "fmt"] ++
    parenthesized (["&", "self", ",", "f", ":", "&", "mut"] ++ absolute ["std", "fmt", "Formatter"] ++
      ["<", "'_", ">"]) ++
    ["->"] ++ absolute ["std", "fmt", "Result"] ++
    braced (["match", "self"] ++ braced displayArms)

def kindFunction (kindArms : Tokens) : Tokens :=
  ["#", "[", "doc", "=", "r\" Returns the category this error belongs to.\"", "]", "pub", "fn", "kind"] ++
    parenthesized ["&", "self"] ++ ["->"] ++ kindPath [] ++
    braced (["match", "self"] ++ braced kindArms)

/-- The code generated for the arms of an item. -/
def implementations (item : Item) (all : List (Tokens × Option Tokens)) : Except DeriveError Tokens :=
  let kindArms := all.filterMap (·.2)
  let display := item.implementation (absolute ["std", "fmt", "Display"] ++ ["for"])
      (displayFunction (all.flatMap (·.1))) ++
    item.implementation (absolute ["std", "error", "Error"] ++ ["for"]) []
  if kindArms.isEmpty then .ok display
  else if kindArms.length ≠ all.length then .error .incompleteKinds
  else .ok (display ++ item.implementation [] (kindFunction kindArms.flatten))

def derive (item : Item) : Except DeriveError Tokens :=
  match item.body with
  | .enum variants =>
    match allArms variants with
    | .error e => .error e
    | .ok all => implementations item all
  | _ => .error .errorOfNonEnum

end ErrorImpl

end ScopeMachine.Codegen
