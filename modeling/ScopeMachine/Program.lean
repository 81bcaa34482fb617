import ScopeMachine.ScopeTable
import ScopeMachine.Wire.Format
import ScopeMachine.Wire.Sink

/-!
# Programs

A program is the code of several scopes and the number of the one to start with. Its container is a
magic number, a version and the encoded program. `Program.install` puts a program into a scope table,
and `Program.snapshot` takes one out of it.
-/

namespace ScopeMachine

open Wire

structure Version where
  major : UInt8
  minor : UInt8
  patch : UInt8
deriving DecidableEq, Repr

namespace Version

/-- The version that is written. Older ones can be read. -/
def current : Version := ⟨0, 3, 0⟩

def toBytes (v : Version) : Bytes := [v.major, v.minor, v.patch]

/-- Whether the first version is older than the second. -/
def isBefore (v w : Version) : Bool :=
  v.major < w.major ||
    (v.major == w.major && (v.minor < w.minor || (v.minor == w.minor && v.patch < w.patch)))

def text (v : Version) : String := s!"{v.major}.{v.minor}.{v.patch}"

end Version

/-- The code of some scopes and the number of the start scope. -/
structure Program where
  scopes : List Bytes
  start : UInt32
deriving DecidableEq, Repr

namespace Program

/-- The layout of a program: its scopes, then the number of the start scope. -/
def format : Format := .record [.vec .bytes, .int .u32]

def toValue (p : Program) : Value :=
  .tuple [.vec (p.scopes.map .bytes), .int .u32 p.start.toNat]

/-- The byte strings that a list of values consists of. -/
def contents? : List Value → Option (List Bytes)
  | [] => some []
  | .bytes content :: items => (contents? items).map (content :: ·)
  | _ :: _ => none

/-- The program that a value of the format stands for. -/
def ofValue? : Value → Option Program
  | .tuple [.vec items, .int _ start] =>
    (contents? items).map fun scopes => ⟨scopes, UInt32.ofInt start⟩
  | _ => none

/-- The encoded program, without the header of the container. -/
def encode (p : Program) : Bytes := p.toValue.encode

def read : Reader Program := fun input =>
  match format.read [] input with
  | .error e rest => .error e rest
  | .ok value rest =>
    match ofValue? value with
    | some p => .ok p rest
    | none => .error .invalidValue rest

def magic : Bytes := [0x53, 0x56, 0x4D, 0x50]

def toBytes (p : Program) : Bytes := magic ++ Version.current.toBytes ++ p.encode

/-- Reads the version and the program of a container. -/
def readBody (input : Bytes) : Except Fault Program :=
  match input with
  | major :: minor :: patch :: body =>
    let version : Version := ⟨major, minor, patch⟩
    if Version.current.isBefore version then
      .error (.decoding ("unsupported version " ++ version.text))
    else
      match read body with
      | .error e _ => .error (.ofReadError e)
      | .ok p [] => .ok p
      | .ok _ (_ :: _) => .error (.decoding "trailing bytes")
  | _ => .error (.ofReadError .unexpectedEnd)

def ofBytes (input : Bytes) : Except Fault Program :=
  match Bytes.split? magic.length input with
  | none => .error (.decoding "truncated")
  | some (front, rest) =>
    if front ≠ magic then .error (.decoding "bad magic") else readBody rest

/-- A program with one more scope, and the id of that scope. -/
def addScope (p : Program) (code : Bytes) : ScopeId × Program :=
  (⟨UInt32.ofNat p.scopes.length⟩, { p with scopes := p.scopes ++ [code] })

variable {σ : Type}

/-- Creates a scope for each piece of code and gives their ids. -/
def installScopes : List Bytes → TableM σ (List ScopeId)
  | [], table => .ok [] table
  | code :: codes, table =>
    match ScopeTable.addScope code table with
    | .error fault table => .error fault table
    | .ok id table =>
      match installScopes codes table with
      | .error fault table => .error fault table
      | .ok ids table => .ok (id :: ids) table

/-- Puts the scopes of a program into a table, after those that are there, and gives the id of the
start scope. -/
def install (p : Program) : TableM σ ScopeId := fun table =>
  if p.scopes.length ≤ p.start.toNat then .error (.unknownScope ⟨p.start⟩) table
  else
    match installScopes p.scopes table with
    | .error fault table => .error fault table
    | .ok ids table => .ok (ids.getD p.start.toNat .invalid) table

/-- The program that the internal scopes of a table make up. -/
def snapshot (table : ScopeTable σ) (start : ScopeId) : Program :=
  ⟨table.internal.toList.map (·.code), start.raw⟩

end Program

end ScopeMachine
