import Mathlib.Data.List.Forall2
import Mathlib.Data.String.Basic
import ScopeMachine.Log.Calendar
import ScopeMachine.Proofs.GregorianCalendar

/-!
# The order of timestamps

Before the year 10000, timestamps are ordered as texts in the way in which their moments are ordered in time
(`Log.Instant.timestamps_sort_chronologically`). A timestamp is a sequence of numbers of fixed widths with separators
behind them, so such texts are compared number by number (`Text.render_lt_iff`), and the numbers of a moment carry
over from milliseconds to years without a gap.
-/

namespace ScopeMachine

namespace Text

lemma eq_iff_of_lt_iff {α β : Type} [LinearOrder α] [LinearOrder β] {x y : α} {a b : β} (h : x < y ↔ a < b)
    (h' : y < x ↔ b < a) : x = y ↔ a = b := by
  rw [eq_iff_le_not_lt, eq_iff_le_not_lt, ← not_lt, ← not_lt, h, h']

/-! ## Numbers of a fixed width -/

lemma toList_decimal (width n : Nat) :
    (decimal width n).toList =
      List.replicate (width - (Nat.toDigits 10 n).length) '0' ++ Nat.toDigits 10 n := by
  simp [decimal, padLeft, ← String.length_toList]

lemma length_decimal {width n : Nat} (hwidth : 0 < width) (h : n < 10 ^ width) :
    (decimal width n).toList.length = width := by
  have hle : (Nat.toDigits 10 n).length ≤ width := (Nat.length_toDigits_le_iff (by decide) hwidth).mpr h
  rw [toList_decimal, List.length_append, List.length_replicate]
  omega

lemma decimal_one {n : Nat} (h : n < 10) : (decimal 1 n).toList = [n.digitChar] := by
  rw [toList_decimal, Nat.toDigits_of_lt_base h]
  rfl

lemma decimal_succ {width : Nat} (hwidth : 0 < width) (n : Nat) :
    (decimal (width + 1) n).toList = (decimal width (n / 10)).toList ++ [(n % 10).digitChar] := by
  rw [toList_decimal, toList_decimal, Nat.toDigits_eq_if (by decide)]
  split_ifs with h
  · have hdiv : n / 10 = 0 := by omega
    have hmod : n % 10 = n := by omega
    obtain ⟨k, rfl⟩ : ∃ k, width = k + 1 := ⟨width - 1, by omega⟩
    rw [hdiv, hmod, Nat.toDigits_zero]
    simp [List.replicate_succ']
  · have hlength : width + 1 - ((Nat.toDigits 10 (n / 10)).length + 1) =
        width - (Nat.toDigits 10 (n / 10)).length := by omega
    rw [List.length_append, List.length_singleton, hlength, List.append_assoc]

lemma digitChar_lt_iff {m n : Nat} (hm : m < 10) (hn : n < 10) : m.digitChar < n.digitChar ↔ m < n := by
  have hm' := Nat.toNat_digitChar_of_lt_ten hm
  have hn' := Nat.toNat_digitChar_of_lt_ten hn
  rw [Char.lt_def, UInt32.lt_iff_toNat_lt]
  change m.digitChar.toNat < n.digitChar.toNat ↔ m < n
  omega

lemma append_lt_append_iff {α : Type} [LT α] {l l' r r' : List α} (h : l.length = l'.length) :
    l ++ r < l' ++ r' ↔ l < l' ∨ l = l' ∧ r < r' := by
  induction l generalizing l' with
  | nil =>
    have hnil : l' = [] := List.length_eq_zero_iff.mp h.symm
    simp [hnil]
  | cons a l ih =>
    cases l' with
    | nil => cases h
    | cons b l' =>
      have hlength : l.length = l'.length := Nat.succ.inj h
      simp only [List.cons_append, List.cons_lt_cons_iff, ih hlength, List.cons.injEq]
      tauto

lemma decimal_lt_iff {width m n : Nat} (hwidth : 0 < width) (hm : m < 10 ^ width) (hn : n < 10 ^ width) :
    (decimal width m).toList < (decimal width n).toList ↔ m < n := by
  induction width, hwidth using Nat.le_induction generalizing m n with
  | base =>
    rw [decimal_one hm, decimal_one hn]
    simp [List.cons_lt_cons_iff, digitChar_lt_iff hm hn]
  | succ width hwidth ih =>
    rw [Nat.pow_succ] at hm hn
    have hm' : m / 10 < 10 ^ width := by omega
    have hn' : n / 10 < 10 ^ width := by omega
    have hlast : (m % 10).digitChar < (n % 10).digitChar ↔ m % 10 < n % 10 :=
      digitChar_lt_iff (Nat.mod_lt _ (by decide)) (Nat.mod_lt _ (by decide))
    have hfront := eq_iff_of_lt_iff (ih hm' hn') (ih hn' hm')
    rw [decimal_succ hwidth, decimal_succ hwidth,
      append_lt_append_iff ((length_decimal hwidth hm').trans (length_decimal hwidth hn').symm), ih hm' hn', hfront]
    simp only [List.cons_lt_cons_iff, hlast, lt_irrefl, and_false, or_false]
    omega

/-! ## Numbers with separators -/

/-- Numbers of given widths, with a separator behind each. -/
def render : List (Nat × Char) → List Nat → List Char
  | (width, separator) :: layout, n :: numbers => (decimal width n).toList ++ separator :: render layout numbers
  | _, _ => []

/-- Each of the numbers has at most as many digits as the layout has room for. -/
def Fits (layout : List (Nat × Char)) (numbers : List Nat) : Prop :=
  List.Forall₂ (fun field n => 0 < field.1 ∧ n < 10 ^ field.1) layout numbers

lemma length_render {layout : List (Nat × Char)} {numbers : List Nat} (h : Fits layout numbers) :
    (render layout numbers).length = (layout.map fun field => field.1 + 1).sum := by
  induction h with
  | nil => rfl
  | @cons field n layout numbers hfield _ ih =>
    have hlength := length_decimal hfield.1 hfield.2
    simp only [render, List.length_append, List.length_cons, List.map_cons, List.sum_cons, hlength, ih]
    omega

lemma render_lt_iff {layout : List (Nat × Char)} {numbers numbers' : List Nat} (h : Fits layout numbers)
    (h' : Fits layout numbers') : render layout numbers < render layout numbers' ↔ numbers < numbers' := by
  induction h generalizing numbers' with
  | nil =>
    cases h' with
    | nil => simp [render]
  | @cons field n layout numbers hfield _ ih =>
    cases h' with
    | @cons _ n' _ numbers' hfield' hrest' =>
      have hlength := length_decimal hfield.1 hfield.2
      have hlength' := length_decimal hfield'.1 hfield'.2
      have hlt := decimal_lt_iff hfield.1 hfield.2 hfield'.2
      have heq := eq_iff_of_lt_iff hlt (decimal_lt_iff hfield.1 hfield'.2 hfield.2)
      simp only [render]
      rw [append_lt_append_iff (hlength.trans hlength'.symm), hlt, heq, List.cons_lt_cons_iff,
        List.cons_lt_cons_iff, ih hrest']
      simp

end Text

namespace Log

/-! ## What a timestamp shows -/

/-- A date and a time of day. -/
structure Reading where
  date : Date
  hour : Nat
  minute : Nat
  second : Nat
  milli : Nat

namespace Reading

/-- Every number is in its range, and the year has four digits. -/
structure InRange (r : Reading) : Prop where
  year_lt : r.date.year < 10000
  isValid : r.date.IsValid
  hour_lt : r.hour < 24
  minute_lt : r.minute < 60
  second_lt : r.second < 60
  milli_lt : r.milli < 1000

/-- The reading in the form `YYYY-MM-DD HH:MM:SS.mmm `. -/
def text (r : Reading) : String :=
  Text.decimal 4 r.date.year ++ "-" ++ Text.decimal 2 r.date.month ++ "-" ++ Text.decimal 2 r.date.day ++ " " ++
    Text.decimal 2 r.hour ++ ":" ++ Text.decimal 2 r.minute ++ ":" ++ Text.decimal 2 r.second ++ "." ++
    Text.decimal 3 r.milli ++ " "

def layout : List (Nat × Char) := [(4, '-'), (2, '-'), (2, ' '), (2, ':'), (2, ':'), (2, '.'), (3, ' ')]

def numbers (r : Reading) : List Nat := r.date.numbers ++ [r.hour, r.minute, r.second, r.milli]

lemma toList_text (r : Reading) : r.text.toList = Text.render layout r.numbers := by
  simp [text, layout, numbers, Date.numbers, Text.render]

lemma InRange.fits {r : Reading} (h : r.InRange) : Text.Fits layout r.numbers := by
  have hyear := h.year_lt
  have hmonth := h.isValid.month_le
  have hday : r.date.day ≤ 31 := h.isValid.day_le.trans (daysInMonth_le _ _)
  have hhour := h.hour_lt
  have hminute := h.minute_lt
  have hsecond := h.second_lt
  have hmilli := h.milli_lt
  simp only [Text.Fits, layout, numbers, Date.numbers, List.cons_append, List.nil_append, List.forall₂_cons,
    List.forall₂_nil_right_iff, and_true]
  omega

lemma text_lt_iff {r r' : Reading} (h : r.InRange) (h' : r'.InRange) :
    r.text < r'.text ↔ r.numbers < r'.numbers := by
  rw [String.lt_iff_toList_lt, toList_text, toList_text, Text.render_lt_iff h.fits h'.fits]

end Reading

namespace Instant

/-- The milliseconds since the beginning of 1970. -/
def millis (t : Instant) : Nat := t.seconds * 1000 + t.nanoseconds / 1000000

def reading (t : Instant) : Reading where
  date := (Calendar.dateOfDays (t.seconds / 86400)).shown
  hour := t.seconds / 3600 % 24
  minute := t.seconds / 60 % 60
  second := t.seconds % 60
  milli := t.nanoseconds / 1000000

lemma timestamp_eq (t : Instant) : t.timestamp = t.reading.text := rfl

/-- A moment before the year 10000, as a clock shows it. -/
structure IsBeforeYear10000 (t : Instant) : Prop where
  nanoseconds_lt : t.nanoseconds < 1000000000
  year_lt : (Calendar.dateOfDays (t.seconds / 86400)).year < 10000

namespace IsBeforeYear10000

variable {t t' : Instant}

lemma date_eq (h : t.IsBeforeYear10000) : t.reading.date = Calendar.dateOfDays (t.seconds / 86400) := by
  have hyear := h.year_lt
  exact Date.shown_of_lt (by omega)

lemma inRange (h : t.IsBeforeYear10000) : t.reading.InRange := by
  have hnano := h.nanoseconds_lt
  refine ⟨?_, ?_, ?_, ?_, ?_, ?_⟩
  · rw [h.date_eq]
    exact h.year_lt
  · rw [h.date_eq]
    exact Calendar.dateOfDays_isValid _
  all_goals
    simp only [reading]
    omega

lemma numbers_lt (h : t.IsBeforeYear10000) (h' : t'.IsBeforeYear10000) (hlt : t.millis < t'.millis) :
    t.reading.numbers < t'.reading.numbers := by
  have hnano := h.nanoseconds_lt
  have hnano' := h'.nanoseconds_lt
  unfold millis at hlt
  unfold Reading.numbers
  rw [h.date_eq, h'.date_eq]
  rcases lt_trichotomy (t.seconds / 86400) (t'.seconds / 86400) with hday | hday | hday
  · have hdate := Calendar.numbers_strictMono hday
    exact (Text.append_lt_append_iff (by simp [Date.numbers])).mpr (.inl hdate)
  · rw [hday]
    apply List.append_left_lt
    simp only [reading, List.cons_lt_cons_iff]
    omega
  · omega

lemma timestamp_lt (h : t.IsBeforeYear10000) (h' : t'.IsBeforeYear10000) (hlt : t.millis < t'.millis) :
    t.timestamp < t'.timestamp := by
  rw [timestamp_eq, timestamp_eq, Reading.text_lt_iff h.inRange h'.inRange]
  exact h.numbers_lt h' hlt

lemma timestamp_congr (h : t.IsBeforeYear10000) (h' : t'.IsBeforeYear10000) (heq : t.millis = t'.millis) :
    t.timestamp = t'.timestamp := by
  have hnano := h.nanoseconds_lt
  have hnano' := h'.nanoseconds_lt
  unfold millis at heq
  have hseconds : t.seconds = t'.seconds := by omega
  have hmilli : t.nanoseconds / 1000000 = t'.nanoseconds / 1000000 := by omega
  rw [timestamp_eq, timestamp_eq, reading, reading, hseconds, hmilli]

lemma timestamp_lt_iff (h : t.IsBeforeYear10000) (h' : t'.IsBeforeYear10000) :
    t.timestamp < t'.timestamp ↔ t.millis < t'.millis := by
  constructor
  · intro hlt
    rcases lt_trichotomy t.millis t'.millis with hless | heq | hmore
    · exact hless
    · rw [h.timestamp_congr h' heq] at hlt
      exact absurd hlt (lt_irrefl _)
    · exact absurd hlt (lt_asymm (h'.timestamp_lt h hmore))
  · exact h.timestamp_lt h'

lemma length_timestamp (h : t.IsBeforeYear10000) : t.timestamp.length = 24 := by
  rw [timestamp_eq, ← String.length_toList, Reading.toList_text, Text.length_render h.inRange.fits]
  rfl

end IsBeforeYear10000

/-- Before the year 10000, timestamps are ordered as texts like the milliseconds that they show. They are equal only
for the same millisecond, have the form `YYYY-MM-DD HH:MM:SS.mmm ` with every number in its range, and have 24
characters. -/
theorem timestamps_sort_chronologically {t t' : Instant} (h : t.IsBeforeYear10000) (h' : t'.IsBeforeYear10000) :
    (t.timestamp < t'.timestamp ↔ t.millis < t'.millis) ∧
    (t.timestamp = t'.timestamp ↔ t.millis = t'.millis) ∧
    t.timestamp = t.reading.text ∧ t.reading.InRange ∧ t.timestamp.length = 24 := by
  have hlt := h.timestamp_lt_iff h'
  have hgt := h'.timestamp_lt_iff h
  exact ⟨hlt, Text.eq_iff_of_lt_iff hlt hgt, t.timestamp_eq, h.inRange, h.length_timestamp⟩

/-- The last millisecond of a leap day. -/
def leapDayEnd : Instant := ⟨1709251199, 999999999⟩

theorem leapDayEnd_sorts_before_march :
    leapDayEnd.IsBeforeYear10000 ∧ IsBeforeYear10000 ⟨1709251200, 0⟩ ∧
      leapDayEnd.timestamp < timestamp ⟨1709251200, 0⟩ ∧ leapDayEnd.timestamp.length = 24 := by
  have h : leapDayEnd.IsBeforeYear10000 := ⟨by decide, by decide⟩
  have h' : IsBeforeYear10000 ⟨1709251200, 0⟩ := ⟨by decide, by decide⟩
  have hsort := timestamps_sort_chronologically h h'
  exact ⟨h, h', hsort.1.mpr (by decide), hsort.2.2.2.2⟩

end Instant

end Log

end ScopeMachine
