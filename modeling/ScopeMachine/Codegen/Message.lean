import ScopeMachine.Codegen.Item

/-!
# Messages with placeholders

The message of an error variant is a format string. It refers to the fields of the variant, by name or
by position, in placeholders `{name}` and `{name:spec}`. `Message.references` says whether a field is
referred to, and `Message.ofTuple` gives positions the names of variables. What a format string stands
for is `Message.render`.
-/

namespace ScopeMachine.Codegen

namespace Message

def occursIn (pattern : List Char) : List Char → Bool
  | [] => pattern.isEmpty
  | c :: rest => pattern.isPrefixOf (c :: rest) || occursIn pattern rest

/-- Replaces the occurrences of a text from left to right, after the first `skip` characters are
left out. -/
def replaceFrom (pattern new : List Char) : (skip : Nat) → List Char → List Char
  | _, [] => []
  | skip + 1, _ :: rest => replaceFrom pattern new skip rest
  | 0, c :: rest =>
    if pattern.isPrefixOf (c :: rest) then new ++ replaceFrom pattern new (pattern.length - 1) rest
    else c :: replaceFrom pattern new 0 rest

/-- Replaces the occurrences of a text that is not empty. -/
def replaceAll (pattern new text : List Char) : List Char := replaceFrom pattern new 0 text

/-- The placeholder of a name without a specification. -/
def plainHole (name : List Char) : List Char := ['\x7b'] ++ name ++ ['\x7d']

/-- The beginning of a placeholder of a name with a specification. -/
def specHole (name : List Char) : List Char := ['\x7b'] ++ name ++ [':']

/-- Whether a message refers to an argument. -/
def references (text name : List Char) : Bool :=
  occursIn (plainHole name) text || occursIn (specHole name) text

/-- Gives an argument another name. -/
def rename (old new text : List Char) : List Char :=
  replaceAll (specHole old) (specHole new) (replaceAll (plainHole old) (plainHole new) text)

/-- The position of a field as messages write it. -/
def position (i : Nat) : List Char := (toString i).toList

/-- The variable for the field at a position. -/
def binding (i : Nat) : List Char := 'f' :: position i

/-- Replaces the positions of the listed fields by variables, one after the other. -/
def nameFields (text : List Char) : List Nat → List Char
  | [] => text
  | i :: rest => nameFields (rename (position i) (binding i) text) rest

/-- The positions below `count` that a message refers to. -/
def usedPositions (text : List Char) (count : Nat) : List Nat :=
  (List.range count).filter fun i => references text (position i)

/-- The format string for a tuple variant, and the positions of the fields it needs. -/
def ofTuple (text : List Char) (count : Nat) : List Char × List Nat :=
  let used := usedPositions text count
  (nameFields text used, used)

inductive Piece where
  | literal (c : Char)
  | hole (name spec : List Char)
deriving DecidableEq, Repr

/-- Where a format string is being read. -/
inductive Place where
  | text
  /-- In a placeholder, after a part of its name, last character first. -/
  | name (read : List Char)
  /-- In a placeholder, after its name and a part of its specification, last character first. -/
  | spec (name read : List Char)

/-- The parts of a format string. Doubled braces stand for themselves. -/
def parseFrom : Place → List Char → Option (List Piece)
  | .text, [] => some []
  | .text, '\x7b' :: '\x7b' :: rest => (parseFrom .text rest).map (.literal '\x7b' :: ·)
  | .text, '\x7d' :: '\x7d' :: rest => (parseFrom .text rest).map (.literal '\x7d' :: ·)
  | .text, '\x7b' :: rest => parseFrom (.name []) rest
  | .text, '\x7d' :: _ => none
  | .text, c :: rest => (parseFrom .text rest).map (.literal c :: ·)
  | .name _, [] => none
  | .name read, '\x7d' :: rest => (parseFrom .text rest).map (.hole read.reverse [] :: ·)
  | .name read, ':' :: rest => parseFrom (.spec read.reverse []) rest
  | .name _, '\x7b' :: _ => none
  | .name read, c :: rest => parseFrom (.name (c :: read)) rest
  | .spec _ _, [] => none
  | .spec name read, '\x7d' :: rest => (parseFrom .text rest).map (.hole name read.reverse :: ·)
  | .spec _ _, '\x7b' :: _ => none
  | .spec name read, c :: rest => parseFrom (.spec name (c :: read)) rest

def parse (text : List Char) : Option (List Piece) := parseFrom .text text

/-- The text of parts, with `display` for an argument under a specification. -/
def renderPieces {α : Type} (display : α → List Char → List Char) (args : List (List Char × α)) :
    List Piece → Option (List Char)
  | [] => some []
  | .literal c :: pieces => (renderPieces display args pieces).map (c :: ·)
  | .hole name spec :: pieces =>
    match args.lookup name with
    | none => none
    | some a => (renderPieces display args pieces).map (display a spec ++ ·)

/-- The text of a format string with named arguments. -/
def render {α : Type} (display : α → List Char → List Char) (args : List (List Char × α))
    (text : List Char) : Option (List Char) :=
  match parse text with
  | none => none
  | some pieces => renderPieces display args pieces

end Message

end ScopeMachine.Codegen
