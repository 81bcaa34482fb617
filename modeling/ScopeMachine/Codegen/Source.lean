import ScopeMachine.Codegen.Code
import ScopeMachine.Text

/-!
# Source text

The code that a source text holds. Blanks and comments separate elements and leave no trace, but for the
comments that are documentation: these are attributes.

Outside literals and comments, source text holds no characters beyond ASCII but blanks and those of
identifiers, so whatever is no blank there belongs to an identifier.
-/

namespace ScopeMachine.Codegen.Source

/-- The blanks of source text: the blank characters and the two marks for the direction of writing. -/
def isSpace (c : Char) : Bool := Text.isBlank c || c == '\u200e' || c == '\u200f'

/-- The characters of identifiers and numbers. -/
def isWordChar (c : Char) : Bool := c.isAlphanum || c == '_' || (128 ≤ c.toNat && !isSpace c)

/-- The characters that a word can begin with. -/
def isWordStart (c : Char) : Bool := isWordChar c && !c.isDigit

/-- A token, last character first, and the text behind it. -/
abbrev Scanned := List Char × List Char

/-- The rest of a block comment up to its end, which is left out. `depth` further ones are open. -/
def scanBlock : (depth : Nat) → (read : List Char) → List Char → Scanned
  | depth, read, '/' :: '*' :: rest => scanBlock (depth + 1) ('*' :: '/' :: read) rest
  | 0, read, '*' :: '/' :: rest => (read, rest)
  | depth + 1, read, '*' :: '/' :: rest => scanBlock depth ('/' :: '*' :: read) rest
  | depth, read, c :: rest => scanBlock depth (c :: read) rest
  | _, read, [] => (read, [])

/-- The rest of a line, without its end. -/
def scanLine (text : List Char) : Scanned :=
  let line := (text.takeWhile (· != '\n')).reverse
  match text.dropWhile (· != '\n') with
  | [] => (line, [])
  | rest => (if line.head? == some '\r' then line.tail else line, rest)

/-- An attribute that holds documentation, of what follows it or of what it stands in. -/
def documentation (inner : Bool) (text : List Char) : Code :=
  [.mark '#' false] ++ (if inner then [.mark '!' false] else []) ++
    [.opening .square, .name "doc", .mark '=' false, .literal (Tokens.newLiteral text.reverse),
      .closing .square]

/-- Documentation with the text behind it. -/
def documented (inner : Bool) (scanned : Scanned) : Code × List Char :=
  (documentation inner scanned.1, scanned.2)

/-- A line comment from behind its slashes. It is documentation if it begins with an exclamation mark,
or with one more slash and not two. -/
def scanLineComment : List Char → Code × List Char
  | '!' :: rest => documented true (scanLine rest)
  | '/' :: '/' :: rest => ([], (scanLine rest).2)
  | '/' :: rest => documented false (scanLine rest)
  | rest => ([], (scanLine rest).2)

/-- A block comment from behind its opening. It is documentation if it begins with an exclamation mark,
or with one more star and not two. -/
def scanBlockComment : List Char → Code × List Char
  | '!' :: rest => documented true (scanBlock 0 [] rest)
  | '*' :: '/' :: rest => ([], rest)
  | '*' :: '*' :: rest => ([], (scanBlock 0 [] ('*' :: '*' :: rest)).2)
  | '*' :: rest => documented false (scanBlock 0 [] rest)
  | rest => ([], (scanBlock 0 [] rest).2)

/-- The longest run of word characters, behind those in `read`. -/
def scanRun (read text : List Char) : Scanned :=
  ((text.takeWhile isWordChar).reverse ++ read, text.dropWhile isWordChar)

/-- A literal with the suffix that may follow it. -/
def withSuffix (scanned : Scanned) : Scanned :=
  if scanned.2.head?.any isWordStart then scanRun scanned.1 scanned.2 else scanned

/-- The rest of a literal up to its closing quote. A character behind a backslash closes nothing. -/
def scanQuoted (quote : Char) (read : List Char) : List Char → Scanned
  | [] => (read, [])
  | '\\' :: c :: rest => scanQuoted quote (c :: '\\' :: read) rest
  | c :: rest => if c == quote then (c :: read, rest) else scanQuoted quote (c :: read) rest

/-- The rest of a raw string up to a quote with as many hashes behind it as it began with. -/
def scanRaw (hashes read : List Char) : List Char → Scanned
  | [] => (read, [])
  | c :: rest =>
    if c == '"' && hashes.isPrefixOf rest then (hashes ++ c :: read, rest.drop hashes.length)
    else scanRaw hashes (c :: read) rest

def asName (scanned : Scanned) : Lexeme × List Char :=
  (.name (String.ofList scanned.1.reverse), scanned.2)

def asLiteral (scanned : Scanned) : Lexeme × List Char :=
  (.literal (String.ofList scanned.1.reverse), scanned.2)

def asLifetime (scanned : Scanned) : Lexeme × List Char :=
  (.lifetime (String.ofList scanned.1.reverse), scanned.2)

/-- What follows a word that can begin a raw string or a raw identifier. -/
def scanHashed (read text : List Char) : Lexeme × List Char :=
  let hashes := text.takeWhile (· == '#')
  match text.dropWhile (· == '#') with
  | '"' :: rest => asLiteral (withSuffix (scanRaw hashes ('"' :: hashes ++ read) rest))
  | rest => if hashes.length == 1 then asName (scanRun (hashes ++ read) rest) else asName (read, text)

/-- An identifier, or a literal that begins with a letter. -/
def scanWord (text : List Char) : Lexeme × List Char :=
  match scanRun [] text with
  | (['r'], rest) => scanHashed ['r'] rest
  | (['r', 'b'], rest) => scanHashed ['r', 'b'] rest
  | (['r', 'c'], rest) => scanHashed ['r', 'c'] rest
  | (['b'], '"' :: rest) => asLiteral (withSuffix (scanQuoted '"' ['"', 'b'] rest))
  | (['c'], '"' :: rest) => asLiteral (withSuffix (scanQuoted '"' ['"', 'c'] rest))
  | (['b'], '\'' :: rest) => asLiteral (withSuffix (scanQuoted '\'' ['\'', 'b'] rest))
  | scanned => asName scanned

/-- The fraction of a decimal number, if one follows its digits. -/
def scanFraction : Scanned → Scanned
  | (read, '.' :: rest) =>
    let whole := read.all fun c => c.isDigit || c == '_'
    if whole && !rest.head?.any (fun c => c == '.' || isWordStart c) then scanRun ('.' :: read) rest
    else (read, '.' :: rest)
  | scanned => scanned

/-- The signed exponent of a decimal number, if one follows. -/
def scanExponent : Scanned → Scanned
  | (e :: read, sign :: rest) =>
    if (e == 'e' || e == 'E') && (sign == '+' || sign == '-') &&
        (rest.dropWhile (· == '_')).head?.any Char.isDigit &&
        read.all fun d => d.isDigit || d == '_' || d == '.' then
      scanRun (sign :: e :: read) rest
    else (e :: read, sign :: rest)
  | scanned => scanned

def scanNumber (text : List Char) : Scanned := scanExponent (scanFraction (scanRun [] text))

/-- What follows an apostrophe: the rest of a character literal or of a lifetime. -/
def scanApostrophe : List Char → Lexeme × List Char
  | '\\' :: rest => asLiteral (withSuffix (scanQuoted '\'' ['\''] ('\\' :: rest)))
  | c :: '\'' :: rest => asLiteral (withSuffix (['\'', c, '\''], rest))
  | 'r' :: '#' :: rest => asLifetime (scanRun ['#', 'r', '\''] rest)
  | rest => asLifetime (scanRun ['\''] rest)

def marks : List Char := "~!@#$%^&*-=+|;:,<.>/?'".toList

/-- Whether a text begins with punctuation, and not with a comment. -/
def startsWithMark : List Char → Bool
  | '/' :: '/' :: _ => false
  | '/' :: '*' :: _ => false
  | c :: _ => marks.contains c
  | [] => false

/-- The bracket that a character opens. -/
def opening? : Char → Option Bracket
  | '(' => some .parenthesis
  | '[' => some .square
  | '\x7b' => some .brace
  | _ => none

/-- The bracket that a character closes. -/
def closing? : Char → Option Bracket
  | ')' => some .parenthesis
  | ']' => some .square
  | '\x7d' => some .brace
  | _ => none

/-- The element that begins with a character. -/
def scan (c : Char) (rest : List Char) : Lexeme × List Char :=
  if c.isDigit then asLiteral (scanNumber (c :: rest))
  else if isWordChar c then scanWord (c :: rest)
  else if c == '"' then asLiteral (withSuffix (scanQuoted '"' ['"'] rest))
  else if c == '\'' then scanApostrophe rest
  else
    match opening? c, closing? c with
    | some bracket, _ => (.opening bracket, rest)
    | none, some bracket => (.closing bracket, rest)
    | none, none => (.mark c (startsWithMark rest), rest)

/-- The code of a text, read in at most `limit` steps. -/
def codeWithin : (limit : Nat) → List Char → Code
  | 0, _ => []
  | _ + 1, [] => []
  | limit + 1, '/' :: '/' :: rest =>
    let (code, rest) := scanLineComment rest
    code ++ codeWithin limit rest
  | limit + 1, '/' :: '*' :: rest =>
    let (code, rest) := scanBlockComment rest
    code ++ codeWithin limit rest
  | limit + 1, c :: rest =>
    if isSpace c then codeWithin limit rest
    else
      let (lexeme, rest) := scan c rest
      lexeme :: codeWithin limit rest

/-- The code of a text. Each step takes at least one character, so the length of the text bounds their
number. -/
def code (text : String) : Code := codeWithin text.length text.toList

/-! ## Integer literals

Digits of a base, underscores between them, and a suffix that does not matter here. -/

namespace Integer

/-- The value of a digit in a base up to sixteen. -/
def digit? (base : Nat) (c : Char) : Option Nat :=
  let value? :=
    if '0' ≤ c ∧ c ≤ '9' then some (c.toNat - '0'.toNat)
    else if 'a' ≤ c ∧ c ≤ 'f' then some (c.toNat - 'a'.toNat + 10)
    else if 'A' ≤ c ∧ c ≤ 'F' then some (c.toNat - 'A'.toNat + 10)
    else none
  value?.filter (· < base)

/-- The number of a run of digits and underscores, and the text behind it. There must be a digit. -/
def scanDigits (base : Nat) : (value : Option Nat) → List Char → Option (Nat × List Char)
  | value, [] => value.map (·, [])
  | value, c :: rest =>
    if c = '_' then scanDigits base value rest
    else
      match digit? base c with
      | some d => scanDigits base (some (base * value.getD 0 + d)) rest
      | none => value.map (·, c :: rest)

/-- Whether the text behind a decimal number makes it a floating-point literal. -/
def isFraction : List Char → Bool
  | '.' :: _ => true
  | e :: rest =>
    (e == 'e' || e == 'E') &&
      match rest.dropWhile (· == '_') with
      | c :: _ => c.isDigit || c == '+' || c == '-'
      | [] => false
  | [] => false

/-- Whether a text may follow the digits of an integer literal: nothing, or an identifier. -/
def isSuffix (text : List Char) : Bool :=
  text.all isWordChar && text.head?.all fun c => !c.isDigit

/-- The value of an integer literal with the given base. -/
def valueIn (base : Nat) (text : List Char) : Option Nat :=
  match scanDigits base none text with
  | none => none
  | some (n, suffix) =>
    if base = 10 ∧ isFraction suffix = true then none
    else if isSuffix suffix then some n
    else none

/-- The value of an integer literal. -/
def value? : List Char → Option Nat
  | '0' :: 'x' :: rest => valueIn 16 rest
  | '0' :: 'o' :: rest => valueIn 8 rest
  | '0' :: 'b' :: rest => valueIn 2 rest
  | c :: rest => if c.isDigit then valueIn 10 (c :: rest) else none
  | [] => none

end Integer

end ScopeMachine.Codegen.Source
