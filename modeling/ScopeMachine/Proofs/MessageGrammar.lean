import Mathlib.Data.List.Infix
import ScopeMachine.Codegen.Message
import ScopeMachine.Text

/-!
# The grammar of messages

Messages that are made of characters, doubled braces and placeholders (`Message.Written`), and what `Message.references`
finds in them. It looks for the beginning of a placeholder anywhere in the text, so besides the placeholders it finds the
braces that a message displays: behind a doubled brace, `name` and a colon or a closing brace look like a placeholder
(`Message.references_iff`).
-/

namespace ScopeMachine.Codegen.Message

/-! ## The grammar -/

def IsNameChar (c : Char) : Prop := c ≠ '\x7b' ∧ c ≠ '\x7d' ∧ c ≠ ':' ∧ Text.isBlank c = false

/-- The name or the position of an argument. -/
def IsName (name : List Char) : Prop := name ≠ [] ∧ ∀ c ∈ name, IsNameChar c

inductive Written : List Char → List Piece → Prop where
  | nil : Written [] []
  | openBrace {rest : List Char} {pieces : List Piece} (tail : Written rest pieces) :
      Written ('\x7b' :: '\x7b' :: rest) (.literal '\x7b' :: pieces)
  | closeBrace {rest : List Char} {pieces : List Piece} (tail : Written rest pieces) :
      Written ('\x7d' :: '\x7d' :: rest) (.literal '\x7d' :: pieces)
  | char {c : Char} {rest : List Char} {pieces : List Piece} (notOpen : c ≠ '\x7b') (notClose : c ≠ '\x7d')
      (tail : Written rest pieces) : Written (c :: rest) (.literal c :: pieces)
  | plain {name rest : List Char} {pieces : List Piece} (isName : IsName name) (tail : Written rest pieces) :
      Written ('\x7b' :: (name ++ '\x7d' :: rest)) (.hole name [] :: pieces)
  | formatted {name spec rest : List Char} {pieces : List Piece} (isName : IsName name)
      (noBraces : ∀ c ∈ spec, c ≠ '\x7b' ∧ c ≠ '\x7d') (tail : Written rest pieces) :
      Written ('\x7b' :: (name ++ ':' :: (spec ++ '\x7d' :: rest))) (.hole name spec :: pieces)

/-! ## Reading -/

lemma parseFrom_name {name : List Char} (h : ∀ c ∈ name, IsNameChar c) (read rest : List Char) :
    parseFrom (.name read) (name ++ rest) = parseFrom (.name (name.reverse ++ read)) rest := by
  induction name generalizing read with
  | nil => rfl
  | cons c name ih =>
    obtain ⟨hopen, hclose, hcolon, -⟩ := h c List.mem_cons_self
    have hname : ∀ c ∈ name, IsNameChar c := fun c hc => h c (List.mem_cons_of_mem _ hc)
    rw [List.cons_append, parseFrom, ih hname, List.reverse_cons, List.append_assoc]
    · rfl
    · exact hclose
    · exact hcolon
    · exact hopen

lemma parseFrom_spec {spec : List Char} (h : ∀ c ∈ spec, c ≠ '\x7b' ∧ c ≠ '\x7d') (name read rest : List Char) :
    parseFrom (.spec name read) (spec ++ rest) = parseFrom (.spec name (spec.reverse ++ read)) rest := by
  induction spec generalizing read with
  | nil => rfl
  | cons c spec ih =>
    obtain ⟨hopen, hclose⟩ := h c List.mem_cons_self
    have hspec : ∀ c ∈ spec, c ≠ '\x7b' ∧ c ≠ '\x7d' := fun c hc => h c (List.mem_cons_of_mem _ hc)
    rw [List.cons_append, parseFrom, ih hspec, List.reverse_cons, List.append_assoc]
    · rfl
    · exact hclose
    · exact hopen

lemma parseFrom_hole {name : List Char} (h : IsName name) (rest : List Char) :
    parseFrom .text ('\x7b' :: (name ++ rest)) = parseFrom (.name name.reverse) rest := by
  have hread : parseFrom (.name []) (name ++ rest) = parseFrom (.name name.reverse) rest := by
    rw [parseFrom_name h.2, List.append_nil]
  obtain ⟨c, name, rfl⟩ := List.exists_cons_of_ne_nil h.1
  rw [← hread, List.cons_append, parseFrom]
  rintro tail heq
  exact (h.2 c List.mem_cons_self).1 (List.cons.inj heq).1

lemma parse_of_written {text : List Char} {pieces : List Piece} (h : Written text pieces) :
    parse text = some pieces := by
  rw [parse]
  induction h with
  | nil => rfl
  | openBrace tail ih => rw [parseFrom, ih]; rfl
  | closeBrace tail ih => rw [parseFrom, ih]; rfl
  | char notOpen notClose tail ih =>
    rw [parseFrom, ih]
    · rfl
    · exact fun _ hopen _ => notOpen hopen
    · exact fun _ hclose _ => notClose hclose
    · exact notOpen
    · exact notClose
  | plain isName tail ih =>
    rw [parseFrom_hole isName, parseFrom, ih, List.reverse_reverse]
    rfl
  | formatted isName noBraces tail ih =>
    rw [parseFrom_hole isName, parseFrom, parseFrom_spec noBraces, parseFrom, ih]
    simp

/-! ## References -/

/-- The text goes on as it does behind the brace of a placeholder with the name. -/
def Opens (name text : List Char) : Prop := name ++ ['\x7d'] <+: text ∨ name ++ [':'] <+: text

/-- The displayed text goes on as it does behind the brace of a placeholder with the name. -/
def DisplaysName (name : List Char) (pieces : List Piece) : Prop :=
  (name ++ ['\x7d']).map .literal <+: pieces ∨ (name ++ [':']).map .literal <+: pieces

/-- The displayed text has the beginning of a placeholder with the name in it. -/
def Displays (name : List Char) (pieces : List Piece) : Prop :=
  (plainHole name).map .literal <:+: pieces ∨ (specHole name).map .literal <:+: pieces

lemma references_nil (name : List Char) : references [] name = false := rfl

lemma references_cons (c : Char) (rest name : List Char) :
    references (c :: rest) name = true ↔ c = '\x7b' ∧ Opens name rest ∨ references rest name = true := by
  simp only [references, occursIn, plainHole, specHole, Opens, List.cons_append,
    List.isPrefixOf_cons_cons, Bool.or_eq_true, Bool.and_eq_true, beq_iff_eq, List.isPrefixOf_iff_prefix]
  tauto

lemma references_append {front : List Char} (h : '\x7b' ∉ front) (rest name : List Char) :
    references (front ++ rest) name = true ↔ references rest name = true := by
  induction front with
  | nil => rfl
  | cons c front ih =>
    have hc : c ≠ '\x7b' := (List.ne_of_not_mem_cons h).symm
    rw [List.cons_append, references_cons, ih (List.not_mem_of_not_mem_cons h)]
    simp [hc]

lemma displays_nil (name : List Char) : ¬ Displays name [] := by
  simp [Displays, plainHole, specHole]

lemma displays_literal (name : List Char) (c : Char) (pieces : List Piece) :
    Displays name (.literal c :: pieces) ↔ c = '\x7b' ∧ DisplaysName name pieces ∨ Displays name pieces := by
  simp only [Displays, DisplaysName, plainHole, specHole, List.cons_append, List.map_cons,
    List.infix_cons_iff, List.cons_prefix_cons, Piece.literal.injEq]
  rw [eq_comm (a := c)]
  tauto

lemma displays_hole (name hole spec : List Char) (pieces : List Piece) :
    Displays name (.hole hole spec :: pieces) ↔ Displays name pieces := by
  simp [Displays, plainHole, specHole, List.infix_cons_iff, List.cons_prefix_cons]

/-- A name without braces can only be displayed. The stop may be a closing brace, which in a text is the first half of a
doubled one. -/
lemma Written.prefix_iff {text : List Char} {pieces : List Piece} (h : Written text pieces) {name : List Char}
    (hname : ∀ c ∈ name, c ≠ '\x7b' ∧ c ≠ '\x7d') {stop : Char} (hstop : stop ≠ '\x7b') :
    name ++ [stop] <+: text ↔ (name ++ [stop]).map .literal <+: pieces := by
  induction name generalizing text pieces with
  | nil =>
    cases h with
    | nil => simp
    | openBrace tail | closeBrace tail | char notOpen notClose tail => simp [List.cons_prefix_cons]
    | plain isName tail | formatted isName noBraces tail => simp [List.cons_prefix_cons, hstop]
  | cons c name ih =>
    obtain ⟨hopen, hclose⟩ := hname c List.mem_cons_self
    have hrest : ∀ c ∈ name, c ≠ '\x7b' ∧ c ≠ '\x7d' := fun c hc => hname c (List.mem_cons_of_mem _ hc)
    cases h with
    | nil => simp
    | openBrace tail | plain isName tail | formatted isName noBraces tail => simp [List.cons_prefix_cons, hopen]
    | closeBrace tail => simp [List.cons_prefix_cons, hclose]
    | char notOpen notClose tail =>
      have hih := ih tail hrest
      simp only [List.cons_append, List.map_cons, List.cons_prefix_cons, Piece.literal.injEq] at hih ⊢
      rw [hih]

lemma Written.opens_iff {text : List Char} {pieces : List Piece} (h : Written text pieces) {name : List Char}
    (hname : IsName name) : Opens name text ↔ DisplaysName name pieces := by
  have hchars : ∀ c ∈ name, c ≠ '\x7b' ∧ c ≠ '\x7d' := fun c hc => ⟨(hname.2 c hc).1, (hname.2 c hc).2.1⟩
  rw [Opens, DisplaysName, h.prefix_iff hchars (by decide), h.prefix_iff hchars (by decide)]

lemma concat_prefix_append_iff {α : Type} {xs ys : List α} {x y : α} (hx : x ∉ ys) (hy : y ∉ xs) (rest : List α) :
    xs ++ [x] <+: ys ++ y :: rest ↔ xs = ys ∧ x = y := by
  induction xs generalizing ys with
  | nil =>
    cases ys with
    | nil => simp [List.cons_prefix_cons]
    | cons b ys => simp [List.cons_prefix_cons, ne_of_mem_of_not_mem List.mem_cons_self hx |>.symm]
  | cons a xs ih =>
    have ha : a ≠ y := (List.ne_of_not_mem_cons hy).symm
    have hxs : y ∉ xs := List.not_mem_of_not_mem_cons hy
    cases ys with
    | nil => simp [List.cons_prefix_cons, ha]
    | cons b ys =>
      rw [List.cons_append, List.cons_append, List.cons_prefix_cons, ih (List.not_mem_of_not_mem_cons hx) hxs,
        List.cons.injEq, and_assoc]

lemma opens_append {name hole : List Char} (hname : IsName name) (hhole : IsName hole) {stop : Char}
    (hstop : stop = '\x7d' ∨ stop = ':') (rest : List Char) : Opens name (hole ++ stop :: rest) ↔ name = hole := by
  have hclose {name : List Char} (h : IsName name) : '\x7d' ∉ name := fun hmem => (h.2 _ hmem).2.1 rfl
  have hcolon {name : List Char} (h : IsName name) : ':' ∉ name := fun hmem => (h.2 _ hmem).2.2.1 rfl
  have hname' : stop ∉ name := by
    rcases hstop with rfl | rfl
    · exact hclose hname
    · exact hcolon hname
  rw [Opens, concat_prefix_append_iff (hclose hhole) hname', concat_prefix_append_iff (hcolon hhole) hname']
  rcases hstop with rfl | rfl <;> simp

lemma not_opens_brace {name : List Char} (hname : IsName name) (rest : List Char) : ¬ Opens name ('\x7b' :: rest) := by
  obtain ⟨c, name, rfl⟩ := List.exists_cons_of_ne_nil hname.1
  have hc := (hname.2 c List.mem_cons_self).1
  simp [Opens, List.cons_prefix_cons, hc]

lemma IsName.brace_notMem {name : List Char} (h : IsName name) : '\x7b' ∉ name := fun hmem => (h.2 _ hmem).1 rfl

/-- A message refers to a name exactly if it has a placeholder with the name, or if it displays the beginning of one. -/
lemma references_iff {text : List Char} {pieces : List Piece} (h : Written text pieces) {name : List Char}
    (hname : IsName name) :
    references text name = true ↔ (∃ spec, .hole name spec ∈ pieces) ∨ Displays name pieces := by
  induction h with
  | nil => simp [references_nil, displays_nil]
  | openBrace tail ih =>
    rw [references_cons, references_cons, ih, displays_literal, tail.opens_iff hname]
    simp [not_opens_brace hname]
    tauto
  | closeBrace tail ih => simp [references_cons, displays_literal, ih]
  | char notOpen notClose tail ih => simp [references_cons, displays_literal, ih, notOpen]
  | @plain hole rest pieces isName tail ih =>
    have hfront : '\x7b' ∉ hole ++ ['\x7d'] := by simp [isName.brace_notMem]
    have hskip := references_append hfront rest name
    rw [List.append_assoc, List.singleton_append] at hskip
    rw [references_cons, hskip, ih, opens_append hname isName (.inl rfl), displays_hole]
    simp [exists_or, or_assoc]
  | @formatted hole spec rest pieces isName noBraces tail ih =>
    have hfront : '\x7b' ∉ hole ++ ':' :: (spec ++ ['\x7d']) := by
      have hspec : '\x7b' ∉ spec := fun hmem => (noBraces _ hmem).1 rfl
      simp [isName.brace_notMem, hspec]
    have hskip := references_append hfront rest name
    rw [List.append_assoc, List.cons_append, List.append_assoc, List.singleton_append] at hskip
    rw [references_cons, hskip, ih, opens_append hname isName (.inr rfl), displays_hole]
    simp [exists_or, or_assoc]

end ScopeMachine.Codegen.Message
