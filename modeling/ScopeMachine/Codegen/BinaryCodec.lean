import ScopeMachine.Codegen.Discriminant

/-!
# Generated codecs

The implementations that write and read an item: the fields of a struct in order, and for an enum the
tag of the variant before its fields.
-/

namespace ScopeMachine.Codegen

namespace BinaryCodec

open Tokens

/-- A name of the encoding module. -/
def codecPath (parts : List String) : Tokens := cratePath (["types", "encoding"] ++ parts)

def encodeCall (value : Tokens) : Tokens :=
  codecPath ["Encode", "encode"] ++ parenthesized (value ++ [",", "out"])

def encodeStatement (value : Tokens) : Tokens := encodeCall value ++ [";"]

/-- The expression that reads a value or returns early. -/
def decodeCall : Tokens := codecPath ["Decode", "decode"] ++ parenthesized ["input"] ++ ["?"]

/-- A constructor applied to fields that are read in order. -/
def decodeFields (constructor : Tokens) : Fields → Tokens
  | .unit => constructor
  | .tuple count => constructor ++ parenthesized (commaSeparated (List.replicate count decodeCall))
  | .named names =>
    constructor ++ braced (names.flatMap fun name => [name, ":"] ++ decodeCall ++ [","])

def okResult (value : Tokens) : Tokens := ["Ok"] ++ parenthesized value

/-- The names of the first `count` positions. -/
def positions (count : Nat) : List String := (List.range count).map toString

/-- The variables for the fields of a tuple variant. -/
def bindings (count : Nat) : List String := (List.range count).map fun i => "f" ++ toString i

def encodeStruct : Fields → Tokens
  | .unit => ["let", "_", "=", "out", ";"]
  | .tuple count => (positions count).flatMap fun i => encodeStatement ["&", "self", ".", i]
  | .named names => names.flatMap fun name => encodeStatement ["&", "self", ".", name]

def decodeStruct (fields : Fields) : Tokens :=
  match fields with
  | .unit => ["let", "_", "=", "input", ";"] ++ okResult ["Self"]
  | _ => okResult (decodeFields ["Self"] fields)

def tagLiteral (tag : UInt8) : String := toString tag.toNat ++ "u8"

def encodeArm (v : Variant) (tag : UInt8) : Tokens :=
  let writeTag := ["&", tagLiteral tag]
  let block (names : List String) : Tokens :=
    braced (encodeStatement writeTag ++ names.flatMap fun name => encodeStatement [name])
  match v.fields with
  | .unit => ownVariant v.name ++ ["=>"] ++ encodeCall writeTag ++ [","]
  | .tuple count =>
    let names := bindings count
    ownVariant v.name ++ parenthesized (commaSeparated (names.map ([·]))) ++ ["=>"] ++ block names
  | .named names =>
    ownVariant v.name ++ braced (commaSeparated (names.map ([·]))) ++ ["=>"] ++ block names

def decodeArm (v : Variant) (tag : UInt8) : Tokens :=
  [tagLiteral tag, "=>"] ++ okResult (decodeFields (ownVariant v.name) v.fields) ++ [","]

def encodeEnum (tagged : List (Variant × UInt8)) : Tokens :=
  ["match", "self"] ++ braced (tagged.flatMap fun (v, tag) => encodeArm v tag)

def decodeEnum (tagged : List (Variant × UInt8)) : Tokens :=
  ["let", "tag", ":", "u8", "="] ++ decodeCall ++ [";", "match", "tag"] ++
    braced ((tagged.flatMap fun (v, tag) => decodeArm v tag) ++
      ["_", "=>", "Err"] ++ parenthesized (codecPath ["DecodeError", "InvalidValue"]) ++ [","])

def bodies : Body → Except DeriveError (Tokens × Tokens)
  | .struct fields => .ok (encodeStruct fields, decodeStruct fields)
  | .enum variants =>
    match Discriminant.assign variants with
    | .error e => .error e
    | .ok tags => .ok (encodeEnum (variants.zip tags), decodeEnum (variants.zip tags))
  | .union => .error .codecOfUnion

def encodeFunction (body : Tokens) : Tokens :=
  ["fn", "encode", "<", "S", ":"] ++ codecPath ["EncodeSink"] ++ [">"] ++
    parenthesized ["&", "self", ",", "out", ":", "&", "mut", "S"] ++ braced body

def decodeFunction (body : Tokens) : Tokens :=
  ["fn", "decode"] ++ parenthesized ["input", ":", "&", "mut", "&", "[", "u8", "]"] ++ ["->"] ++
    absolute ["std", "result", "Result"] ++ ["<", "Self", ","] ++ codecPath ["DecodeError"] ++ [">"] ++
    braced body

def derive (item : Item) : Except DeriveError Tokens :=
  match bodies item.body with
  | .error e => .error e
  | .ok (encodeBody, decodeBody) =>
    .ok (item.implementation (codecPath ["Encode"] ++ ["for"]) (encodeFunction encodeBody) ++
      item.implementation (codecPath ["Decode"] ++ ["for"]) (decodeFunction decodeBody))

end BinaryCodec

end ScopeMachine.Codegen
