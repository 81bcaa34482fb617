import ScopeMachine.Codegen.ErrorImpl
import ScopeMachine.Proofs.MessageGrammar

/-!
# What derived messages show

The format string of a tuple variant is its message with the letter of variables put behind each brace that a used
position follows, all at once (`Message.nameFields_eq_mark`), although the positions are replaced one after the other. So
its parts are those of the message, with the placeholders renamed and with a letter more wherever the message displays
the beginning of a placeholder (`Message.written_mark`). The text that is shown is the message's own exactly if it
displays none (`Message.derived_message_shows_text_iff`).
-/

namespace ScopeMachine.Codegen.Message

/-! ## Positions -/

lemma position_eq_toDigits (i : Nat) : position i = Nat.toDigits 10 i := by
  rw [position, Nat.toString_eq_repr, Nat.toList_repr]

lemma position_injective : Function.Injective position := by
  intro i j h
  rw [position_eq_toDigits, position_eq_toDigits] at h
  rw [← Nat.ofDigitChars_toDigits (b := 10) (n := i) (by decide) (by decide), h,
    Nat.ofDigitChars_toDigits (by decide) (by decide)]

lemma isDigit_of_mem_position {i : Nat} {c : Char} (h : c ∈ position i) : c.isDigit = true := by
  rw [position_eq_toDigits] at h
  exact Nat.isDigit_of_mem_toDigits (by decide) (by decide) h

lemma isNameChar_of_isDigit {c : Char} (h : c.isDigit = true) : IsNameChar c := by
  refine ⟨?_, ?_, ?_, Text.isBlank_of_isDigit h⟩ <;> rintro rfl <;> revert h <;> decide

lemma isName_position (i : Nat) : IsName (position i) := by
  refine ⟨?_, fun c hc => isNameChar_of_isDigit (isDigit_of_mem_position hc)⟩
  rw [position_eq_toDigits]
  exact Nat.toDigits_ne_nil

/-! ## Renaming all positions at once -/

/-- Puts the letter of variables behind each brace that one of the texts follows. -/
def mark (ends : List (List Char)) : List Char → List Char
  | [] => []
  | c :: rest =>
    if c = '\x7b' ∧ ends.any (·.isPrefixOf rest) = true then c :: 'f' :: mark ends rest
    else c :: mark ends rest

/-- The texts that are replaced behind the brace of a placeholder for a field. -/
def fieldEnds (i : Nat) : List (List Char) := [position i ++ ['\x7d'], position i ++ [':']]

lemma any_fieldEnds_iff {used : List Nat} {rest : List Char} :
    (used.flatMap fieldEnds).any (·.isPrefixOf rest) = true ↔ ∃ i ∈ used, Opens (position i) rest := by
  simp only [List.any_flatMap, List.any_eq_true, fieldEnds, List.mem_cons, List.not_mem_nil, or_false,
    exists_eq_or_imp, exists_eq_left, List.isPrefixOf_iff_prefix, Opens]

lemma mark_nil (text : List Char) : mark [] text = text := by
  induction text with
  | nil => rfl
  | cons c rest ih => simp [mark, ih]

lemma mark_append {front : List Char} (h : '\x7b' ∉ front) (ends : List (List Char)) (rest : List Char) :
    mark ends (front ++ rest) = front ++ mark ends rest := by
  induction front with
  | nil => rfl
  | cons c front ih =>
    have hc : c ≠ '\x7b' := (List.ne_of_not_mem_cons h).symm
    rw [List.cons_append, mark, if_neg (fun hmark => hc hmark.1), ih (List.not_mem_of_not_mem_cons h)]
    rfl

lemma isPrefixOf_mark {p : List Char} (h : '\x7b' ∉ p) (ends : List (List Char)) (rest : List Char) :
    p.isPrefixOf (mark ends rest) = p.isPrefixOf rest := by
  induction p generalizing rest with
  | nil => rw [List.isPrefixOf_nil_left, List.isPrefixOf_nil_left]
  | cons a p ih =>
    have ha : a ≠ '\x7b' := (List.ne_of_not_mem_cons h).symm
    cases rest with
    | nil => rfl
    | cons c rest =>
      by_cases hc : c = '\x7b'
      · have hne : (a == c) = false := by simp [hc, ha]
        rw [mark]
        split <;> simp [List.isPrefixOf_cons_cons, hne]
      · rw [mark, if_neg (fun hmark => hc hmark.1), List.isPrefixOf_cons_cons, List.isPrefixOf_cons_cons,
          ih (List.not_mem_of_not_mem_cons h)]

lemma replaceFrom_eq_drop (pattern new : List Char) (skip : Nat) (text : List Char) :
    replaceFrom pattern new skip text = replaceFrom pattern new 0 (text.drop skip) := by
  induction text generalizing skip with
  | nil => cases skip <;> rfl
  | cons c rest ih =>
    cases skip with
    | zero => rfl
    | succ skip => rw [replaceFrom, ih, List.drop_succ_cons]

lemma replaceAll_eq_mark {p : List Char} (h : '\x7b' ∉ p) (text : List Char) :
    replaceAll ('\x7b' :: p) ('\x7b' :: 'f' :: p) text = mark [p] text := by
  unfold replaceAll
  -- the induction is on the length, since a replaced text is skipped as a whole
  induction hlength : text.length using Nat.strong_induction_on generalizing text with
  | h n ih =>
    cases text with
    | nil => rfl
    | cons c rest =>
      have hpattern : ('\x7b' :: p).isPrefixOf (c :: rest) = true ↔ c = '\x7b' ∧ p.isPrefixOf rest = true := by
        rw [List.isPrefixOf_cons_cons, Bool.and_eq_true, beq_iff_eq, eq_comm]
      have hmark : (c = '\x7b' ∧ [p].any (·.isPrefixOf rest) = true) ↔ c = '\x7b' ∧ p.isPrefixOf rest = true := by
        simp only [List.any_cons, List.any_nil, Bool.or_false]
      by_cases hfound : c = '\x7b' ∧ p.isPrefixOf rest = true
      · rw [replaceFrom, if_pos (hpattern.2 hfound), mark, if_pos (hmark.2 hfound)]
        obtain ⟨rfl, hprefix⟩ := hfound
        obtain ⟨tail, rfl⟩ := List.isPrefixOf_iff_prefix.1 hprefix
        have htail := ih tail.length (by simp at hlength; omega) tail rfl
        rw [replaceFrom_eq_drop, List.length_cons, Nat.add_sub_cancel, List.drop_left, htail, mark_append h]
        rfl
      · have hrest := ih rest.length (by simp at hlength; omega) rest rfl
        rw [replaceFrom, if_neg (fun hp => hfound (hpattern.1 hp)), mark, if_neg (fun hm => hfound (hmark.1 hm)), hrest]

lemma mark_mark {ends' : List (List Char)} (h : ∀ p ∈ ends', '\x7b' ∉ p ∧ p ≠ [] ∧ p.head? ≠ some 'f')
    (ends : List (List Char)) (text : List Char) : mark ends' (mark ends text) = mark (ends ++ ends') text := by
  have hsame (rest : List Char) :
      ends'.any (·.isPrefixOf (mark ends rest)) = ends'.any (·.isPrefixOf rest) := by
    rw [Bool.eq_iff_iff, List.any_eq_true, List.any_eq_true]
    refine exists_congr fun p => and_congr_right fun hp => ?_
    rw [isPrefixOf_mark (h p hp).1]
  have hletter (rest : List Char) : ends'.any (·.isPrefixOf ('f' :: rest)) = false := by
    rw [List.any_eq_false]
    intro p hp
    obtain ⟨-, hne, hhead⟩ := h p hp
    obtain ⟨a, p, rfl⟩ := List.exists_cons_of_ne_nil hne
    have ha : a ≠ 'f' := by simpa using hhead
    simp [List.isPrefixOf_cons_cons, ha]
  induction text with
  | nil => rfl
  | cons c rest ih =>
    by_cases hc : c = '\x7b'
    · by_cases hends : ends.any (·.isPrefixOf rest) = true
      · simp [mark, hc, hends, hletter, ih]
      · simp [mark, hc, hends, hsame, ih]
    · simp [mark, hc, ih]

lemma fieldEnds_spec (i : Nat) : ∀ p ∈ fieldEnds i, '\x7b' ∉ p ∧ p ≠ [] ∧ p.head? ≠ some 'f' := by
  have hbrace : '\x7b' ∉ position i := (isName_position i).brace_notMem
  have hhead (stop : Char) : (position i ++ [stop]).head? ≠ some 'f' := by
    obtain ⟨c, rest, hposition⟩ := List.exists_cons_of_ne_nil (isName_position i).1
    rw [hposition, List.cons_append, List.head?_cons]
    rintro ⟨rfl⟩
    exact absurd (isDigit_of_mem_position (hposition ▸ List.mem_cons_self : 'f' ∈ position i)) (by decide)
  intro p hp
  rcases List.mem_pair.1 hp with rfl | rfl
  · exact ⟨by simp [hbrace], by simp, hhead _⟩
  · exact ⟨by simp [hbrace], by simp, hhead _⟩

lemma rename_eq_mark (i : Nat) (text : List Char) : rename (position i) (binding i) text = mark (fieldEnds i) text := by
  have hends := fieldEnds_spec i
  have hcolon : ∀ p ∈ [position i ++ [':']], '\x7b' ∉ p ∧ p ≠ [] ∧ p.head? ≠ some 'f' := by
    intro p hp
    exact hends p (List.mem_cons_of_mem _ hp)
  have hplain := replaceAll_eq_mark (hends _ List.mem_cons_self).1 text
  have hspec := replaceAll_eq_mark (hcolon _ List.mem_cons_self).1 (mark [position i ++ ['\x7d']] text)
  rw [mark_mark hcolon] at hspec
  rw [← hplain] at hspec
  exact hspec

/-- Replacing positions one after the other comes to marking them all at once. -/
lemma nameFields_eq_mark (text : List Char) (used : List Nat) :
    nameFields text used = mark (used.flatMap fieldEnds) text := by
  induction used generalizing text with
  | nil => exact (mark_nil text).symm
  | cons i used ih =>
    have hrest : ∀ p ∈ used.flatMap fieldEnds, '\x7b' ∉ p ∧ p ≠ [] ∧ p.head? ≠ some 'f' := by
      intro p hp
      obtain ⟨j, -, hj⟩ := List.mem_flatMap.1 hp
      exact fieldEnds_spec j p hj
    rw [nameFields, ih, rename_eq_mark, mark_mark hrest, List.flatMap_cons]

/-! ## The parts of the format string -/

instance (name : List Char) (pieces : List Piece) : Decidable (DisplaysName name pieces) :=
  inferInstanceAs (Decidable (_ ∨ _))

/-- The name of a placeholder after the used positions were replaced. -/
def markName (used : List Nat) (name : List Char) : List Char :=
  if ∃ i ∈ used, position i = name then 'f' :: name else name

/-- Parts after the used positions were replaced. The letter also gets behind braces that are displayed. -/
def markPieces (used : List Nat) : List Piece → List Piece
  | [] => []
  | .literal c :: pieces =>
    if c = '\x7b' ∧ ∃ i ∈ used, DisplaysName (position i) pieces then
      .literal c :: .literal 'f' :: markPieces used pieces
    else .literal c :: markPieces used pieces
  | .hole name spec :: pieces => .hole (markName used name) spec :: markPieces used pieces

lemma isName_markName {name : List Char} (h : IsName name) (used : List Nat) : IsName (markName used name) := by
  unfold markName
  split
  · refine ⟨by simp, List.forall_mem_cons.2 ⟨?_, h.2⟩⟩
    unfold IsNameChar
    decide
  · exact h

lemma mark_hole {name : List Char} (h : IsName name) {stop : Char} (hstop : stop = '\x7d' ∨ stop = ':')
    (used : List Nat) (rest : List Char) :
    mark (used.flatMap fieldEnds) ('\x7b' :: (name ++ stop :: rest)) =
      '\x7b' :: (markName used name ++ mark (used.flatMap fieldEnds) (stop :: rest)) := by
  have hopens : (used.flatMap fieldEnds).any (·.isPrefixOf (name ++ stop :: rest)) = true ↔
      ∃ i ∈ used, position i = name := by
    rw [any_fieldEnds_iff]
    refine exists_congr fun i => and_congr_right fun _ => ?_
    exact opens_append (isName_position i) h hstop rest
  rw [mark, mark_append h.brace_notMem, markName]
  by_cases hused : ∃ i ∈ used, position i = name
  · rw [if_pos ⟨rfl, hopens.2 hused⟩, if_pos hused]
    rfl
  · rw [if_neg (fun hmark => hused (hopens.1 hmark.2)), if_neg hused]

lemma written_mark {text : List Char} {pieces : List Piece} (h : Written text pieces) (used : List Nat) :
    Written (mark (used.flatMap fieldEnds) text) (markPieces used pieces) := by
  induction h with
  | nil => exact .nil
  | @openBrace rest pieces tail ih =>
    have hfirst : ¬ (used.flatMap fieldEnds).any (·.isPrefixOf ('\x7b' :: rest)) = true := by
      rw [any_fieldEnds_iff]
      rintro ⟨i, -, hopens⟩
      exact not_opens_brace (isName_position i) rest hopens
    have hsecond : (used.flatMap fieldEnds).any (·.isPrefixOf rest) = true ↔
        ∃ i ∈ used, DisplaysName (position i) pieces := by
      rw [any_fieldEnds_iff]
      exact exists_congr fun i => and_congr_right fun _ => tail.opens_iff (isName_position i)
    rw [mark, if_neg (fun hmark => hfirst hmark.2), mark, markPieces]
    by_cases hdisplays : ∃ i ∈ used, DisplaysName (position i) pieces
    · rw [if_pos ⟨rfl, hsecond.2 hdisplays⟩, if_pos ⟨rfl, hdisplays⟩]
      exact .openBrace (.char (by decide) (by decide) ih)
    · rw [if_neg (fun hmark => hdisplays (hsecond.1 hmark.2)), if_neg (fun hmark => hdisplays hmark.2)]
      exact .openBrace ih
  | closeBrace tail ih => simpa [mark, markPieces] using Written.closeBrace ih
  | char notOpen notClose tail ih => simpa [mark, markPieces, notOpen] using Written.char notOpen notClose ih
  | @plain name rest pieces isName tail ih =>
    have hfront : '\x7b' ∉ ['\x7d'] := by decide
    have hstop : mark (used.flatMap fieldEnds) ('\x7d' :: rest) = '\x7d' :: mark (used.flatMap fieldEnds) rest :=
      mark_append hfront (used.flatMap fieldEnds) rest
    rw [mark_hole isName (.inl rfl), hstop]
    exact .plain (isName_markName isName used) ih
  | @formatted name spec rest pieces isName noBraces tail ih =>
    have hfront : '\x7b' ∉ ':' :: (spec ++ ['\x7d']) := by
      have hspec : '\x7b' ∉ spec := fun hmem => (noBraces _ hmem).1 rfl
      simp [hspec]
    have hstop : mark (used.flatMap fieldEnds) (':' :: (spec ++ '\x7d' :: rest)) =
        ':' :: (spec ++ '\x7d' :: mark (used.flatMap fieldEnds) rest) := by
      simpa using mark_append hfront (used.flatMap fieldEnds) rest
    rw [mark_hole isName (.inr rfl), hstop]
    exact .formatted (isName_markName isName used) noBraces ih

/-! ## Rendering -/

/-- Specifications that refer to no other argument: no width or precision is taken from one. -/
def IsOwn (spec : List Char) : Prop := '$' ∉ spec ∧ ¬ ['.', '*'] <:+: spec

def positionalArguments {α : Type} (count : Nat) (values : Nat → α) : List (List Char × α) :=
  (List.range count).map fun i => (position i, values i)

def boundArguments {α : Type} (used : List Nat) (values : Nat → α) : List (List Char × α) :=
  used.map fun i => (binding i, values i)

lemma lookup_map {α : Type} {key : Nat → List Char} (hkey : Function.Injective key) (values : Nat → α)
    {indices : List Nat} {i : Nat} (h : i ∈ indices) :
    (indices.map fun j => (key j, values j)).lookup (key i) = some (values i) := by
  induction indices with
  | nil => cases h
  | cons j indices ih =>
    by_cases hij : i = j
    · simp [hij]
    · have hne : (key i == key j) = false := by simpa using fun heq => hij (hkey heq)
      have hmem : i ∈ indices := (List.mem_cons.1 h).resolve_left hij
      simp [List.lookup_cons, hne, ih hmem]

lemma binding_injective : Function.Injective binding := fun _ _ h => position_injective (List.cons.inj h).2

section Rendering

variable {α : Type} {args args' : List (List Char × α)} {values : Nat → α} {used : List Nat}
  {display display' : α → List Char → List Char}

lemma renderPieces_markPieces (hargs : ∀ i ∈ used, args.lookup (position i) = some (values i))
    (hargs' : ∀ i ∈ used, args'.lookup (binding i) = some (values i))
    (hdisplay : ∀ a spec, IsOwn spec → display a spec = display' a spec) {pieces : List Piece}
    (hholes : ∀ name spec, .hole name spec ∈ pieces → (∃ i ∈ used, position i = name) ∧ IsOwn spec)
    (hclear : ∀ i ∈ used, ¬ Displays (position i) pieces) :
    ∃ shown, renderPieces display args pieces = some shown ∧
      renderPieces display' args' (markPieces used pieces) = some shown := by
  induction pieces with
  | nil => exact ⟨[], rfl, rfl⟩
  | cons piece pieces ih =>
    have hholes' : ∀ name spec, .hole name spec ∈ pieces → (∃ i ∈ used, position i = name) ∧ IsOwn spec :=
      fun name spec h => hholes name spec (List.mem_cons_of_mem _ h)
    cases piece with
    | literal c =>
      have hclear' : ∀ i ∈ used, ¬ Displays (position i) pieces := fun i hi h =>
        hclear i hi ((displays_literal _ _ _).2 (.inr h))
      have hkeep : ¬ (c = '\x7b' ∧ ∃ i ∈ used, DisplaysName (position i) pieces) := by
        rintro ⟨hc, i, hi, h⟩
        exact hclear i hi ((displays_literal _ _ _).2 (.inl ⟨hc, h⟩))
      obtain ⟨shown, hshown, hshown'⟩ := ih hholes' hclear'
      refine ⟨c :: shown, ?_, ?_⟩
      · rw [renderPieces, hshown]
        rfl
      · rw [markPieces, if_neg hkeep, renderPieces, hshown']
        rfl
    | hole name spec =>
      have hclear' : ∀ i ∈ used, ¬ Displays (position i) pieces := fun i hi h =>
        hclear i hi ((displays_hole _ _ _ _).2 h)
      obtain ⟨⟨i, hi, rfl⟩, hspec⟩ := hholes name spec List.mem_cons_self
      have hname : markName used (position i) = binding i := if_pos ⟨i, hi, rfl⟩
      obtain ⟨shown, hshown, hshown'⟩ := ih hholes' hclear'
      refine ⟨display (values i) spec ++ shown, ?_, ?_⟩
      · simp [renderPieces, hargs i hi, hshown]
      · simp [markPieces, renderPieces, hname, hargs' i hi, hshown', hdisplay _ _ hspec]

end Rendering

/-- The text of parts without that of the placeholders. -/
def literals (pieces : List Piece) : List Char :=
  pieces.filterMap fun
    | .literal c => some c
    | .hole _ _ => none

lemma eq_literals_of_renderPieces {α : Type} {args : List (List Char × α)} {pieces : List Piece} {shown : List Char}
    (h : renderPieces (fun _ _ => []) args pieces = some shown) : shown = literals pieces := by
  induction pieces generalizing shown with
  | nil =>
    cases h
    rfl
  | cons piece pieces ih =>
    cases piece with
    | literal c =>
      rw [renderPieces, Option.map_eq_some_iff] at h
      obtain ⟨shown, hshown, rfl⟩ := h
      rw [ih hshown]
      rfl
    | hole name spec =>
      rw [renderPieces] at h
      cases hlookup : args.lookup name with
      | none => simp [hlookup] at h
      | some a =>
        have hrest : renderPieces (fun _ _ => []) args pieces = some shown := by simpa [hlookup] using h
        rw [ih hrest]
        rfl

lemma length_literals_le (used : List Nat) (pieces : List Piece) :
    (literals pieces).length ≤ (literals (markPieces used pieces)).length := by
  induction pieces with
  | nil => exact Nat.le_refl _
  | cons piece pieces ih =>
    cases piece with
    | literal c =>
      rw [markPieces]
      split
      · exact Nat.le_succ_of_le (Nat.succ_le_succ ih)
      · exact Nat.succ_le_succ ih
    | hole name spec => exact ih

lemma length_literals_lt {used : List Nat} {pieces : List Piece} {i : Nat} (hi : i ∈ used)
    (h : Displays (position i) pieces) : (literals pieces).length < (literals (markPieces used pieces)).length := by
  induction pieces with
  | nil => exact absurd h (displays_nil _)
  | cons piece pieces ih =>
    cases piece with
    | literal c =>
      rw [markPieces]
      by_cases hmark : c = '\x7b' ∧ ∃ i ∈ used, DisplaysName (position i) pieces
      · rw [if_pos hmark]
        exact Nat.succ_lt_succ (Nat.lt_succ_of_le (length_literals_le used pieces))
      · rw [if_neg hmark]
        rcases (displays_literal _ _ _).1 h with hhere | hlater
        · exact absurd ⟨hhere.1, i, hi, hhere.2⟩ hmark
        · exact Nat.succ_lt_succ (ih hlater)
    | hole name spec => exact ih ((displays_hole _ _ _ _).1 h)

/-! ## Messages of tuple variants -/

lemma mem_usedPositions_iff {text : List Char} {count i : Nat} :
    i ∈ usedPositions text count ↔ i < count ∧ references text (position i) = true := by
  simp [usedPositions]

lemma render_of_written {α : Type} (display : α → List Char → List Char) (args : List (List Char × α))
    {text : List Char} {pieces : List Piece} (h : Written text pieces) :
    render display args text = renderPieces display args pieces := by
  rw [render, parse_of_written h]

/-- The placeholders of a message are positions of fields, with specifications of their own. -/
def IsPositional (count : Nat) (pieces : List Piece) : Prop :=
  ∀ name spec, .hole name spec ∈ pieces → (∃ i < count, position i = name) ∧ IsOwn spec

/-- Whatever the fields are and however they are displayed, the derived format string and arguments show the text of the
message with the fields as arguments in their order. How a field is displayed may depend on the other arguments, but not
under a specification of its own. -/
def ShowsMessage (text : List Char) (count : Nat) : Prop :=
  ∀ (α : Type) (values : Nat → α) (display display' : α → List Char → List Char),
    (∀ a spec, IsOwn spec → display a spec = display' a spec) →
      ∃ shown, render display (positionalArguments count values) text = some shown ∧
        render display' (boundArguments (ofTuple text count).2 values) (ofTuple text count).1 = some shown

lemma render_ofTuple {α : Type} (display : α → List Char → List Char) (values : Nat → α) {text : List Char}
    {pieces : List Piece} (h : Written text pieces) (count : Nat) :
    render display (boundArguments (ofTuple text count).2 values) (ofTuple text count).1 =
      renderPieces display (boundArguments (usedPositions text count) values)
        (markPieces (usedPositions text count) pieces) := by
  simp only [ofTuple, nameFields_eq_mark]
  exact render_of_written display _ (written_mark h _)

lemma showsMessage_iff {text : List Char} {pieces : List Piece} (h : Written text pieces) {count : Nat}
    (hpositional : IsPositional count pieces) :
    ShowsMessage text count ↔ ∀ i < count, ¬ Displays (position i) pieces := by
  have hrefers {i : Nat} := references_iff h (isName_position i)
  constructor
  · intro hshows i hi hdisplays
    have hused : i ∈ usedPositions text count := mem_usedPositions_iff.2 ⟨hi, hrefers.2 (.inr hdisplays)⟩
    -- fields that show nothing leave only the displayed characters, and the format string has one more of them
    obtain ⟨shown, hshown, hshown'⟩ := hshows Unit (fun _ => ()) (fun _ _ => []) (fun _ _ => []) fun _ _ _ => rfl
    rw [render_of_written _ _ h] at hshown
    rw [render_ofTuple _ _ h] at hshown'
    have hliterals := (eq_literals_of_renderPieces hshown).symm.trans (eq_literals_of_renderPieces hshown')
    exact absurd (congrArg List.length hliterals) (Nat.ne_of_lt (length_literals_lt hused hdisplays))
  · intro hclear α values display display' hdisplay
    have hcount {i : Nat} (hi : i ∈ usedPositions text count) : i < count := (mem_usedPositions_iff.1 hi).1
    have hargs : ∀ i ∈ usedPositions text count,
        (positionalArguments count values).lookup (position i) = some (values i) := fun i hi =>
      lookup_map position_injective values (List.mem_range.2 (hcount hi))
    have hargs' : ∀ i ∈ usedPositions text count,
        (boundArguments (usedPositions text count) values).lookup (binding i) = some (values i) := fun i hi =>
      lookup_map binding_injective values hi
    rw [render_of_written _ _ h, render_ofTuple _ _ h]
    refine renderPieces_markPieces hargs hargs' hdisplay (fun name spec hmem => ?_) fun i hi => hclear i (hcount hi)
    obtain ⟨⟨i, hi, rfl⟩, hspec⟩ := hpositional name spec hmem
    exact ⟨⟨i, mem_usedPositions_iff.2 ⟨hi, hrefers.2 (.inl ⟨spec, hmem⟩)⟩, rfl⟩, hspec⟩

instance (name : List Char) (pieces : List Piece) : Decidable (Displays name pieces) :=
  inferInstanceAs (Decidable (_ ∨ _))

/-- In a message, a name is referred to exactly if it has a placeholder or if the beginning of one is displayed. The arm
of a tuple variant binds the fields that are referred to and writes the format string with them. It shows the text of the
message, with the fields as arguments in their order, exactly if the message displays no placeholder of a field, and then
the fields that are bound are those that have one. -/
theorem derived_message_shows_text_iff {text : List Char} {pieces : List Piece} (h : Written text pieces) :
    (∀ name, IsName name →
      (references text name = true ↔ (∃ spec, .hole name spec ∈ pieces) ∨ Displays name pieces)) ∧
    ∀ count, IsPositional count pieces →
      (∀ v : Variant, v.fields = .tuple count → ErrorImpl.displayArm v text =
        Tokens.ownVariant v.name ++
          Tokens.parenthesized (Tokens.commaSeparated ((List.range count).map fun i =>
            if i ∈ (ofTuple text count).2 then [String.ofList (binding i)] else ["_"])) ++
          ["=>"] ++ ErrorImpl.writeCall (Tokens.newLiteral (ofTuple text count).1)
            ((ofTuple text count).2.map fun i => String.ofList (binding i)) ++ [","]) ∧
      (ShowsMessage text count ↔ ∀ i < count, ¬ Displays (position i) pieces) ∧
      ((∀ i < count, ¬ Displays (position i) pieces) →
        ∀ i, i ∈ (ofTuple text count).2 ↔ i < count ∧ ∃ spec, .hole (position i) spec ∈ pieces) := by
  refine ⟨fun name hname => references_iff h hname, fun count hpositional => ⟨fun v hv => ?_,
    showsMessage_iff h hpositional, fun hclear i => ?_⟩⟩
  · simp only [ErrorImpl.displayArm, hv, List.contains_iff_mem]
  · refine mem_usedPositions_iff.trans (and_congr_right fun hi => ?_)
    rw [references_iff h (isName_position i)]
    exact or_iff_left (hclear i hi)

/-- A message with doubled braces that mentions its two fields in the other order. -/
def swapped : List Char := "\x7b1:>4\x7d \x7b\x7bx\x7d\x7d \x7b0\x7d".toList

def swappedPieces : List Piece :=
  [.hole ['1'] ['>', '4'], .literal ' ', .literal '\x7b', .literal 'x', .literal '\x7d', .literal ' ', .hole ['0'] []]

theorem swapped_fields_shown :
    Written swapped swappedPieces ∧ IsPositional 2 swappedPieces ∧ ShowsMessage swapped 2 := by
  have hname {c : Char} (h : c.isDigit = true) : IsName [c] :=
    ⟨List.cons_ne_nil _ _, by simpa using isNameChar_of_isDigit h⟩
  have hwritten : Written swapped swappedPieces := by
    have htext : swapped = '\x7b' :: (['1'] ++ ':' :: (['>', '4'] ++ '\x7d' :: ' ' :: '\x7b' :: '\x7b' :: 'x' ::
        '\x7d' :: '\x7d' :: ' ' :: '\x7b' :: (['0'] ++ ['\x7d']))) := by decide
    rw [htext]
    refine .formatted (hname (by decide)) (by simp) ?_
    refine .char (by decide) (by decide) (.openBrace (.char (by decide) (by decide) (.closeBrace ?_)))
    exact .char (by decide) (by decide) (.plain (hname (by decide)) .nil)
  have hpositional : IsPositional 2 swappedPieces := by
    intro name spec hmem
    simp only [swappedPieces, List.mem_cons, Piece.hole.injEq, reduceCtorEq, false_or, List.not_mem_nil, or_false] at hmem
    rcases hmem with ⟨rfl, rfl⟩ | ⟨rfl, rfl⟩
    · exact ⟨⟨1, by decide, rfl⟩, by decide, by decide⟩
    · exact ⟨⟨0, by decide, rfl⟩, by decide, by decide⟩
  obtain ⟨-, harm⟩ := derived_message_shows_text_iff hwritten
  exact ⟨hwritten, hpositional, (harm 2 hpositional).2.1.2 (by decide +kernel)⟩

/-- A message that displays the placeholder of its field, and also has it. -/
def displaying : List Char := "\x7b\x7b0\x7d\x7d = \x7b0\x7d".toList

/-- The field is shown, but its displayed placeholder has become that of a variable; and a message that only displays a
placeholder is taken to refer to it. -/
theorem displayed_placeholder_renamed :
    render (fun (a : List Char) _ => a) (positionalArguments 1 fun _ => ['5']) displaying =
      some "\x7b0\x7d = 5".toList ∧
    render (fun (a : List Char) _ => a) (boundArguments (ofTuple displaying 1).2 fun _ => ['5']) (ofTuple displaying 1).1 =
      some "\x7bf0\x7d = 5".toList ∧
    parse "\x7b\x7b0\x7d\x7d".toList = some [.literal '\x7b', .literal '0', .literal '\x7d'] ∧
    references "\x7b\x7b0\x7d\x7d".toList (position 0) = true := by
  decide +kernel

end ScopeMachine.Codegen.Message
