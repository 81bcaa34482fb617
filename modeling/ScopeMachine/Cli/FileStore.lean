import ScopeMachine.Bytes

/-!
# Files

The files that a command sees, by their location, and what goes wrong with them. A path is followed step by
step, so that two paths to one place have the same location.
-/

namespace ScopeMachine.Cli

/-! ## Locations -/

/-- A directory that is there without being looked for. -/
inductive Anchor where
  /-- The working directory, or the one so many levels above it. -/
  | working (levelsUp : Nat)
  | root
deriving DecidableEq, Repr

structure Location where
  anchor : Anchor
  /-- The names that lead there from the anchor, last one first. -/
  names : List String
deriving DecidableEq, Repr

namespace Location

/-- Where a path begins. -/
def start (path : String) : Location :=
  if path.toList.head? == some '/' then ⟨.root, []⟩ else ⟨.working 0, []⟩

/-- The names between the slashes of a path. -/
def steps (path : String) : List String := path.splitOn "/"

/-- The directory that a place lies in. The root lies in itself. -/
def up : Location → Location
  | ⟨anchor, _ :: names⟩ => ⟨anchor, names⟩
  | ⟨.working levelsUp, []⟩ => ⟨.working (levelsUp + 1), []⟩
  | ⟨.root, []⟩ => ⟨.root, []⟩

/-- The place one step further. -/
def step (here : Location) (name : String) : Location :=
  if name == "" || name == "." then here
  else if name == ".." then here.up
  else ⟨here.anchor, name :: here.names⟩

/-- The places that steps lead through, the last one included. -/
def visited (here : Location) : List String → List Location
  | [] => []
  | name :: names => here.step name :: visited (here.step name) names

/-- The place that a path leads to if all it passes through is there. -/
def ofPath (path : String) : Location := (steps path).foldl step (start path)

/-- A path that leads to a place. -/
def path : Location → String
  | ⟨.root, names⟩ => "/" ++ "/".intercalate names.reverse
  | ⟨.working levelsUp, names⟩ =>
    "/".intercalate ("." :: List.replicate levelsUp ".." ++ names.reverse)

end Location

/-! ## Files -/

/-- What can be at a location. -/
inductive Entry where
  | file (content : Bytes)
  | directory
  /-- A device that reads as an empty file and drops what is written. -/
  | null
deriving DecidableEq, Repr

inductive FileError where
  | notFound
  | notDirectory
  | isDirectory
  | nameTooLong
deriving DecidableEq, Repr

namespace FileError

def message : FileError → String
  | .notFound => "No such file or directory (os error 2)"
  | .notDirectory => "Not a directory (os error 20)"
  | .isDirectory => "Is a directory (os error 21)"
  | .nameTooLong => "File name too long (os error 36)"

end FileError

/-- Files and directories by their location. The anchors are directories and need no entry. -/
structure FileStore where
  entries : List (Location × Entry)
deriving DecidableEq, Repr

namespace FileStore

/-- What is at a location. -/
def entry? (store : FileStore) (place : Location) : Option Entry :=
  if place.names.isEmpty then some .directory else store.entries.lookup place

/-- Puts an entry in place of what was at a location. -/
def put (store : FileStore) (place : Location) (entry : Entry) : FileStore :=
  ⟨(place, entry) :: store.entries.filter fun (other, _) => other != place⟩

/-- A file system with nothing but the null device and a directory for temporary files. -/
def bare : FileStore :=
  ⟨[(.ofPath "/dev", .directory), (.ofPath "/dev/null", .null), (.ofPath "/tmp", .directory)]⟩

/-- Adds a file and the directories on its path. -/
def addFile (store : FileStore) (path : String) (content : Bytes) : FileStore :=
  let directories := (Location.start path).visited (Location.steps path)
  (directories.foldl (·.put · .directory) store).put (.ofPath path) (.file content)

/-- A working directory with the given files. -/
def ofFiles (files : List (String × Bytes)) : FileStore :=
  files.foldl (fun store (path, content) => store.addFile path content) bare

/-- The most bytes that a name has. -/
def nameLimit : Nat := 255

/-- The most bytes that a path has. -/
def pathLimit : Nat := 4095

/-- The place one step further, from a place that must be a directory. -/
def advance (store : FileStore) (here : Location) (name : String) : Except FileError Location :=
  match store.entry? here with
  | none => .error .notFound
  | some .directory =>
    if name.utf8ByteSize ≤ nameLimit then .ok (here.step name) else .error .nameTooLong
  | some _ => .error .notDirectory

/-- The place that steps lead to. There need not be anything at the last one. -/
def walk (store : FileStore) (here : Location) : List String → Except FileError Location
  | [] => .ok here
  | name :: names =>
    match store.advance here name with
    | .error e => .error e
    | .ok next => store.walk next names

/-- The place that a path leads to, where the path has the given steps. -/
def locate (store : FileStore) (path : String) (steps : List String) : Except FileError Location :=
  if path == "" then .error .notFound
  else if path.utf8ByteSize ≤ pathLimit then store.walk (.start path) steps
  else .error .nameTooLong

def read (store : FileStore) (path : String) : Except FileError Bytes :=
  match store.locate path (Location.steps path) with
  | .error e => .error e
  | .ok place =>
    match store.entry? place with
    | some (.file content) => .ok content
    | some .null => .ok []
    | some .directory => .error .isDirectory
    | none => .error .notFound

/-- Writes a file, in place of an earlier one. The directory that it lies in must exist, and its path
must not end with a slash. -/
def write (store : FileStore) (path : String) (content : Bytes) : Except FileError FileStore :=
  let steps := Location.steps path
  match store.locate path (steps.reverse.dropWhile (· == "")).reverse with
  | .error e => .error e
  | .ok place =>
    if steps.getLast? == some "" then .error .isDirectory
    else
      match store.entry? place with
      | some .directory => .error .isDirectory
      | some .null => .ok store
      | some (.file _) | none => .ok (store.put place (.file content))

end FileStore

end ScopeMachine.Cli
