import Mathlib.Data.List.Lex
import Mathlib.Tactic.IntervalCases
import ScopeMachine.Log.Calendar

/-!
# The calendar, day by day

`Date.next` is the next day of the Gregorian calendar. The date of a day count is the date that is reached from
1970-01-01 by as many steps (`Calendar.dateOfDays_steps_through_calendar`).

The proof counts days in years that begin in March (`MarchDate`). Such a date has a number, the days since the first
of March of the year 0, and stepping to the next day adds one to it. The closed formulas for the year and the month
undo the number.
-/

namespace ScopeMachine.Log

/-! ## The calendar -/

def IsLeapYear (year : Nat) : Prop := (4 ∣ year ∧ ¬ 100 ∣ year) ∨ 400 ∣ year

instance : DecidablePred IsLeapYear := fun _ => inferInstanceAs (Decidable (_ ∨ _))

def daysInMonth (year month : Nat) : Nat :=
  match month with
  | 2 => if IsLeapYear year then 29 else 28
  | 4 | 6 | 9 | 11 => 30
  | _ => 31

lemma daysInMonth_le (year month : Nat) : daysInMonth year month ≤ 31 := by
  unfold daysInMonth
  split
  · split_ifs <;> decide
  all_goals decide

namespace Date

structure IsValid (date : Date) : Prop where
  month_pos : 1 ≤ date.month
  month_le : date.month ≤ 12
  day_pos : 1 ≤ date.day
  day_le : date.day ≤ daysInMonth date.year date.month

def next (date : Date) : Date :=
  if date.day < daysInMonth date.year date.month then ⟨date.year, date.month, date.day + 1⟩
  else if date.month < 12 then ⟨date.year, date.month + 1, 1⟩
  else ⟨date.year + 1, 1, 1⟩

/-- The numbers of a date, in the order in which dates are compared. -/
def numbers (date : Date) : List Nat := [date.year, date.month, date.day]

lemma shown_of_lt {date : Date} (h : date.year < 2 ^ 32) : date.shown = date := by
  have hyear : date.year % UInt32.size = date.year := Nat.mod_eq_of_lt h
  rw [shown, hyear]

lemma numbers_lt_next (date : Date) : date.numbers < date.next.numbers := by
  unfold next
  split_ifs with hday hmonth <;> simp [numbers, List.cons_lt_cons_iff]

end Date

namespace Calendar

/-! ## Years that begin in March -/

/-- The calendar year of a month of the March year, where March is 0. -/
def calendarYear (year month : Nat) : Nat := if month < 10 then year else year + 1

def marchMonthLength (year month : Nat) : Nat := daysInMonth (calendarYear year month) (monthNumber month)

def marchYearLength (year : Nat) : Nat := if IsLeapYear (year + 1) then 366 else 365

/-- The days from the first of March of the year 0 to that of another year. -/
def marchYearStart (year : Nat) : Nat := 365 * year + year / 4 - year / 100 + year / 400

lemma marchMonthLength_pos (year month : Nat) : 0 < marchMonthLength year month := by
  unfold marchMonthLength daysInMonth
  split
  · split_ifs <;> decide
  all_goals decide

lemma marchMonthLength_february (year : Nat) :
    marchMonthLength year 11 = if IsLeapYear (year + 1) then 29 else 28 := rfl

lemma monthStart_succ (year : Nat) {month : Nat} (h : month < 11) :
    monthStart (month + 1) = monthStart month + marchMonthLength year month := by
  unfold marchMonthLength
  interval_cases month <;> rfl

lemma marchYearLength_eq (year : Nat) : marchYearLength year = monthStart 11 + marchMonthLength year 11 := by
  rw [marchYearLength, marchMonthLength_february]
  split_ifs <;> rfl

lemma monthStart_add_lt {year month day : Nat} (hmonth : month < 12) (hday : day < marchMonthLength year month) :
    monthStart month + day < marchYearLength year := by
  have hstart : monthStart month + marchMonthLength year month ≤ monthStart 11 + marchMonthLength year 11 := by
    by_cases hlast : month = 11
    · rw [hlast]
    · rw [← monthStart_succ year (by omega)]
      unfold monthStart
      omega
  rw [marchYearLength_eq]
  omega

lemma marchYearStart_succ (year : Nat) :
    marchYearStart (year + 1) = marchYearStart year + marchYearLength year := by
  have hcentury : 100 ∣ year + 1 → 4 ∣ year + 1 := fun h => dvd_trans (by decide) h
  have hera : 400 ∣ year + 1 → 100 ∣ year + 1 := fun h => dvd_trans (by decide) h
  unfold marchYearStart marchYearLength IsLeapYear
  rw [Nat.succ_div, Nat.succ_div, Nat.succ_div]
  by_cases h4 : 4 ∣ year + 1
  · by_cases h100 : 100 ∣ year + 1
    · by_cases h400 : 400 ∣ year + 1
      · simp only [h4, h100, h400, ↓reduceIte, not_true_eq_false, and_false, or_true]
        omega
      · simp only [h4, h100, h400, ↓reduceIte, add_zero, not_true_eq_false, and_false, or_self]
        omega
    · have h400 : ¬ 400 ∣ year + 1 := fun h => h100 (hera h)
      simp only [h4, h100, h400, ↓reduceIte, add_zero, not_false_eq_true, and_self, or_false]
      omega
  · have h100 : ¬ 100 ∣ year + 1 := fun h => h4 (hcentury h)
    have h400 : ¬ 400 ∣ year + 1 := fun h => h100 (hera h)
    simp only [h4, h100, h400, ↓reduceIte, add_zero, not_false_eq_true, and_true, or_self]
    omega

lemma marchYearStart_mono : Monotone marchYearStart := by
  apply monotone_nat_of_le_succ
  intro year
  rw [marchYearStart_succ]
  omega

/-! ## Eras -/

lemma marchYearStart_era (era : Nat) {year : Nat} (hyear : year < 400) :
    marchYearStart (400 * era + year) = eraDays * era + yearStart year := by
  have h4 : (400 * era + year) / 4 = 100 * era + year / 4 := by omega
  have h100 : (400 * era + year) / 100 = 4 * era + year / 100 := by omega
  have h400 : (400 * era + year) / 400 = era := by omega
  unfold marchYearStart yearStart eraDays
  rw [h4, h100, h400]
  omega

lemma marchYearLength_era (era year : Nat) : marchYearLength (400 * era + year) = marchYearLength year := by
  have hleap : IsLeapYear (400 * era + year + 1) ↔ IsLeapYear (year + 1) := by
    unfold IsLeapYear
    omega
  unfold marchYearLength
  simp only [hleap]

lemma yearStart_add_lt {year day : Nat} (hyear : year < 400) (hday : day < marchYearLength year) :
    yearStart year + day < eraDays := by
  have hstart : marchYearStart year = yearStart year := by
    simpa using marchYearStart_era 0 hyear
  have hle : marchYearStart (year + 1) ≤ marchYearStart 400 := marchYearStart_mono hyear
  have hera : marchYearStart 400 = eraDays := rfl
  rw [marchYearStart_succ, hera] at hle
  omega

/-- All centuries of an era have 36524 days, but the last one has a day more. -/
lemma century_of_day {century day : Nat} (hcentury : century < 4)
    (hday : day < 36524 ∨ day = 36524 ∧ century = 3) :
    (36524 * century + day) / 36524 = century + (36524 * century + day) / 146096 := by
  rcases hday with hlt | ⟨rfl, rfl⟩
  · have hdiv : (36524 * century + day) / 36524 = century := by omega
    have hzero : (36524 * century + day) / 146096 = 0 := by omega
    rw [hdiv, hzero, Nat.add_zero]
  · rfl

/-- The year of a day whose year is split into centuries, cycles of four years and years. -/
lemma yearOfEra_of_cycles {c q r day : Nat} (hc : c < 4) (hq : q < 25) (hr : r < 4)
    (hday : day < 365 ∨ day = 365 ∧ r = 3 ∧ (q < 24 ∨ c = 3)) :
    yearOfEra (36524 * c + (1461 * q + 365 * r + day)) = 100 * c + 4 * q + r := by
  have hin : 1461 * q + 365 * r + day < 36524 ∨ 1461 * q + 365 * r + day = 36524 ∧ c = 3 := by omega
  have hcentury := century_of_day hc hin
  have hquad : (36524 * c + (1461 * q + 365 * r + day)) / 1460 =
      25 * c + q + (24 * c + q + 365 * r + day) / 1460 := by omega
  -- the leap days that `day / 1460` counts too early are made up for within the year
  have hbound : (24 * c + q + 365 * r + day) / 1460 ≤ day ∧
      day < 365 + (24 * c + q + 365 * r + day) / 1460 := by
    clear hin hcentury hquad
    omega
  unfold yearOfEra
  rw [hcentury, hquad]
  generalize (24 * c + q + 365 * r + day) / 1460 = early at hbound
  generalize (36524 * c + (1461 * q + 365 * r + day)) / 146096 = last
  clear hin hcentury hquad hday
  obtain ⟨hle, hlt⟩ := hbound
  have hnum : 36524 * c + (1461 * q + 365 * r + day) - (25 * c + q + early) + (c + last) - last =
      (day - early) + 365 * (100 * c + 4 * q + r) := by omega
  rw [hnum, Nat.add_mul_div_left _ _ (by decide), Nat.div_eq_of_lt (by omega), Nat.zero_add]

lemma yearOfEra_yearStart_add {year day : Nat} (hyear : year < 400) (hday : day < marchYearLength year) :
    yearOfEra (yearStart year + day) = year := by
  obtain ⟨c, q, r, hc, hq, hr, rfl⟩ : ∃ c q r, c < 4 ∧ q < 25 ∧ r < 4 ∧ year = 100 * c + 4 * q + r :=
    ⟨year / 100, year % 100 / 4, year % 4, by omega, by omega, by omega, by omega⟩
  have hstart : yearStart (100 * c + 4 * q + r) = 36524 * c + (1461 * q + 365 * r) := by
    have h4 : (100 * c + 4 * q + r) / 4 = 25 * c + q := by omega
    have h100 : (100 * c + 4 * q + r) / 100 = c := by omega
    unfold yearStart
    rw [h4, h100]
    omega
  have hleap : day < 365 ∨ day = 365 ∧ r = 3 ∧ (q < 24 ∨ c = 3) := by
    rw [marchYearLength] at hday
    by_cases hleap : IsLeapYear (100 * c + 4 * q + r + 1)
    · rw [if_pos hleap] at hday
      unfold IsLeapYear at hleap
      omega
    · rw [if_neg hleap] at hday
      omega
  have hyear := yearOfEra_of_cycles hc hq hr hleap
  rwa [hstart, Nat.add_assoc]

/-! ## Dates with years that begin in March -/

/-- A date of the calendar whose years begin in March. Months and days are counted from 0. -/
structure MarchDate where
  year : Nat
  month : Nat
  day : Nat
  month_lt : month < 12
  day_lt : day < marchMonthLength year month

namespace MarchDate

variable (p : MarchDate)

def dayOfYear : Nat := monthStart p.month + p.day

/-- The days since the first of March of the year 0. -/
def number : Nat := marchYearStart p.year + p.dayOfYear

def toDate : Date := ⟨calendarYear p.year p.month, monthNumber p.month, p.day + 1⟩

lemma dayOfYear_lt : p.dayOfYear < marchYearLength p.year := monthStart_add_lt p.month_lt p.day_lt

lemma monthOfYear_dayOfYear : monthOfYear p.dayOfYear = p.month := by
  have hlength : monthStart p.month + p.day < (153 * (p.month + 1) + 2) / 5 := by
    have hmonth := p.month_lt
    have hday := p.day_lt
    by_cases hlast : p.month = 11
    · rw [hlast] at hday ⊢
      have hfebruary : marchMonthLength p.year 11 ≤ 29 := by
        rw [marchMonthLength_february]
        split_ifs <;> decide
      simp only [monthStart]
      omega
    · have hnext := monthStart_succ p.year (show p.month < 11 by omega)
      rw [monthStart] at hnext
      omega
  unfold monthOfYear dayOfYear
  unfold monthStart at hlength ⊢
  omega

lemma isValid_toDate : p.toDate.IsValid := by
  have hmonth := p.month_lt
  have hday := p.day_lt
  refine ⟨?_, ?_, ?_, hday⟩
  · simp only [toDate, monthNumber]
    split_ifs <;> omega
  · simp only [toDate, monthNumber]
    split_ifs <;> omega
  · simp only [toDate]
    omega

lemma exists_next : ∃ q : MarchDate, q.number = p.number + 1 ∧ q.toDate = p.toDate.next := by
  have hmonth := p.month_lt
  have hday := p.day_lt
  by_cases hnext : p.day + 1 < marchMonthLength p.year p.month
  · refine ⟨⟨p.year, p.month, p.day + 1, hmonth, hnext⟩, rfl, ?_⟩
    have hin : p.toDate.day < daysInMonth p.toDate.year p.toDate.month := hnext
    rw [Date.next, if_pos hin]
    rfl
  · have hend : ¬ p.toDate.day < daysInMonth p.toDate.year p.toDate.month := hnext
    rw [Date.next, if_neg hend]
    by_cases hlast : p.month = 11
    · -- the last day of February
      refine ⟨⟨p.year + 1, 0, 0, by omega, marchMonthLength_pos _ _⟩, ?_, ?_⟩
      · have hyear := marchYearLength_eq p.year
        simp only [number, dayOfYear, marchYearStart_succ, hlast] at hday hnext ⊢
        simp only [show monthStart 0 = 0 from rfl]
        omega
      · simp [toDate, hlast, calendarYear, monthNumber]
    · refine ⟨⟨p.year, p.month + 1, 0, by omega, marchMonthLength_pos _ _⟩, ?_, ?_⟩
      · have hstart := monthStart_succ p.year (show p.month < 11 by omega)
        simp only [number, dayOfYear, hstart]
        omega
      · simp only [toDate, calendarYear, monthNumber]
        split_ifs <;> simp only [Date.mk.injEq, true_and, and_true] <;> omega

end MarchDate

lemma exists_number_eq (n : Nat) : ∃ p : MarchDate, p.number = n := by
  induction n with
  | zero => exact ⟨⟨0, 0, 0, by decide, by decide⟩, rfl⟩
  | succ n ih =>
    obtain ⟨p, rfl⟩ := ih
    obtain ⟨q, hq, -⟩ := p.exists_next
    exact ⟨q, hq⟩

/-! ## The date of a day count -/

def dayOfEra (days : Nat) : Nat := (days + epochOffset) % eraDays

def dayOfYear (days : Nat) : Nat := dayOfEra days - yearStart (yearOfEra (dayOfEra days))

lemma dateOfDays_eq (days : Nat) :
    dateOfDays days =
      { year := if monthNumber (monthOfYear (dayOfYear days)) ≤ 2
          then yearOfEra (dayOfEra days) + (days + epochOffset) / eraDays * 400 + 1
          else yearOfEra (dayOfEra days) + (days + epochOffset) / eraDays * 400
        month := monthNumber (monthOfYear (dayOfYear days))
        day := dayOfYear days - monthStart (monthOfYear (dayOfYear days)) + 1 } := rfl

section Parts

variable {days : Nat} {p : MarchDate} (h : p.number = days + epochOffset)

include h

lemma era_and_dayOfEra : (days + epochOffset) / eraDays = p.year / 400 ∧
    dayOfEra days = yearStart (p.year % 400) + p.dayOfYear ∧
    yearOfEra (dayOfEra days) = p.year % 400 := by
  have hyear : p.year % 400 < 400 := Nat.mod_lt _ (by decide)
  have hstart : marchYearStart p.year = eraDays * (p.year / 400) + yearStart (p.year % 400) := by
    have hsplit := marchYearStart_era (p.year / 400) hyear
    rwa [Nat.div_add_mod] at hsplit
  have hlength : marchYearLength p.year = marchYearLength (p.year % 400) := by
    have hsplit := marchYearLength_era (p.year / 400) (p.year % 400)
    rwa [Nat.div_add_mod] at hsplit
  have hday : p.dayOfYear < marchYearLength (p.year % 400) := hlength ▸ p.dayOfYear_lt
  have hera := yearStart_add_lt hyear hday
  have hnumber : days + epochOffset =
      (yearStart (p.year % 400) + p.dayOfYear) + eraDays * (p.year / 400) := by
    rw [← h, MarchDate.number, hstart]
    omega
  have hdiv : (days + epochOffset) / eraDays = p.year / 400 := by
    rw [hnumber, Nat.add_mul_div_left _ _ (by decide), Nat.div_eq_of_lt hera, Nat.zero_add]
  have hmod : dayOfEra days = yearStart (p.year % 400) + p.dayOfYear := by
    rw [dayOfEra, hnumber, Nat.add_mul_mod_self_left, Nat.mod_eq_of_lt hera]
  refine ⟨hdiv, hmod, ?_⟩
  rw [hmod, yearOfEra_yearStart_add hyear hday]

lemma dayOfYear_eq : dayOfYear days = p.dayOfYear := by
  obtain ⟨-, hday, hyear⟩ := era_and_dayOfEra h
  rw [dayOfYear, hyear, hday]
  omega

lemma month_eq : monthOfYear (dayOfYear days) = p.month := by
  rw [dayOfYear_eq h, p.monthOfYear_dayOfYear]

lemma dateOfDays_of_number : dateOfDays days = p.toDate := by
  obtain ⟨hera, -, hyear⟩ := era_and_dayOfEra h
  have hmonth := p.month_lt
  have hday : p.dayOfYear - monthStart p.month = p.day := by
    unfold MarchDate.dayOfYear
    omega
  rw [dateOfDays_eq, month_eq h, dayOfYear_eq h, hday, hyear, hera]
  simp only [MarchDate.toDate, calendarYear, monthNumber, Date.mk.injEq, and_true]
  split_ifs <;> omega

end Parts

lemma dateOfDays_succ (days : Nat) : dateOfDays (days + 1) = (dateOfDays days).next := by
  obtain ⟨p, hp⟩ := exists_number_eq (days + epochOffset)
  obtain ⟨q, hq, hnext⟩ := p.exists_next
  have hnumber : q.number = days + 1 + epochOffset := by omega
  rw [dateOfDays_of_number hnumber, hnext, dateOfDays_of_number hp]

lemma dateOfDays_zero : dateOfDays 0 = ⟨1970, 1, 1⟩ := by decide

lemma dateOfDays_isValid (days : Nat) : (dateOfDays days).IsValid := by
  obtain ⟨p, hp⟩ := exists_number_eq (days + epochOffset)
  rw [dateOfDays_of_number hp]
  exact p.isValid_toDate

lemma dateOfDays_eq_iterate (days : Nat) : dateOfDays days = Date.next^[days] ⟨1970, 1, 1⟩ := by
  induction days with
  | zero => exact dateOfDays_zero
  | succ days ih => rw [dateOfDays_succ, ih, Function.iterate_succ_apply']

lemma numbers_strictMono : StrictMono fun days => (dateOfDays days).numbers := by
  apply strictMono_nat_of_lt_succ
  intro days
  rw [dateOfDays_succ]
  exact Date.numbers_lt_next _

/-- What is subtracted for the date of a day count is never more than what it is subtracted from. -/
structure SubtractsWithin (days : Nat) : Prop where
  cycles : dayOfEra days / 1460 ≤ dayOfEra days
  lastDay : dayOfEra days / 146096 ≤ dayOfEra days - dayOfEra days / 1460 + dayOfEra days / 36524
  centuries : yearOfEra (dayOfEra days) / 100 ≤ 365 * yearOfEra (dayOfEra days) + yearOfEra (dayOfEra days) / 4
  yearStart_le : yearStart (yearOfEra (dayOfEra days)) ≤ dayOfEra days
  monthStart_le : monthStart (monthOfYear (dayOfYear days)) ≤ dayOfYear days
  month : ¬ monthOfYear (dayOfYear days) < 10 → 9 ≤ monthOfYear (dayOfYear days)

lemma subtractsWithin (days : Nat) : SubtractsWithin days := by
  obtain ⟨p, hp⟩ := exists_number_eq (days + epochOffset)
  obtain ⟨-, hday, hyear⟩ := era_and_dayOfEra hp
  refine ⟨by omega, by omega, by omega, ?_, ?_, by omega⟩
  · rw [hyear, hday]
    omega
  · rw [month_eq hp, dayOfYear_eq hp]
    exact Nat.le_add_right _ _

/-- The date of a day count is the one that is reached from 1970-01-01 by as many steps to the next calendar day. It
is valid, no two days have the same date, and nothing that is subtracted for it is too large. As long as the calendar
year is below 2^32, the date is shown as it is. -/
theorem dateOfDays_steps_through_calendar :
    (∀ days, dateOfDays days = Date.next^[days] ⟨1970, 1, 1⟩) ∧
    (∀ days, (Date.next^[days] ⟨1970, 1, 1⟩).year < 2 ^ 32 →
      (dateOfDays days).shown = Date.next^[days] ⟨1970, 1, 1⟩) ∧
    (∀ days, (dateOfDays days).IsValid) ∧
    dateOfDays 0 = ⟨1970, 1, 1⟩ ∧
    (∀ days, dateOfDays (days + 1) = (dateOfDays days).next) ∧
    Function.Injective dateOfDays ∧
    ∀ days, SubtractsWithin days := by
  refine ⟨dateOfDays_eq_iterate, ?_, dateOfDays_isValid, dateOfDays_zero, dateOfDays_succ, ?_, subtractsWithin⟩
  · intro days hyear
    rw [dateOfDays_eq_iterate]
    exact Date.shown_of_lt hyear
  · intro days days' h
    exact numbers_strictMono.injective (congrArg Date.numbers h)

-- the leap days of a year divisible by 4 and of one divisible by 400, and the end of February of a century year
example : dateOfDays 19782 = ⟨2024, 2, 29⟩ ∧ dateOfDays 11016 = ⟨2000, 2, 29⟩ ∧
    (dateOfDays 47540).next = ⟨2100, 3, 1⟩ := by decide

end Calendar

end ScopeMachine.Log
