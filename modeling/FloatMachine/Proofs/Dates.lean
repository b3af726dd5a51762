import FloatMachine.Calendar
import Mathlib.Logic.Function.Iterate
import Mathlib.Order.Monotone.Basic
import Mathlib.Tactic.IntervalCases

/-! The dates found for day numbers are those of the Gregorian calendar: counting the days of all
months and years in front of a date leads back to the number, so that the date of the next number
is the next date. The computation needs no numbers beyond 32 and 64 bits. -/

namespace FloatMachine.Date

/-! ## The Gregorian calendar -/

def IsLeap (year : Nat) : Prop := year % 4 = 0 ∧ year % 100 ≠ 0 ∨ year % 400 = 0

instance (year : Nat) : Decidable (IsLeap year) := inferInstanceAs (Decidable (_ ∨ _))

def yearLength (year : Nat) : Nat := if IsLeap year then 366 else 365

def monthLength (year month : Nat) : Nat :=
  if month = 2 then if IsLeap year then 29 else 28
  else if month = 4 ∨ month = 6 ∨ month = 9 ∨ month = 11 then 30
  else 31

/-- The date is one of the calendar. -/
structure Valid (date : Date) : Prop where
  month_pos : 1 ≤ date.month
  month_le : date.month ≤ 12
  day_pos : 1 ≤ date.day
  day_le : date.day ≤ monthLength date.year date.month

/-- The day after a date. -/
def next (date : Date) : Date :=
  if date.day < monthLength date.year date.month then ⟨date.year, date.month, date.day + 1⟩
  else if date.month < 12 then ⟨date.year, date.month + 1, 1⟩
  else ⟨date.year + 1, 1, 1⟩

def epoch : Date := ⟨1970, 1, 1⟩

/-! ## Counting days -/

/-- The number of days of all years in front of a year. -/
def yearStart : Nat → Nat
  | 0 => 0
  | year + 1 => yearStart year + yearLength year

/-- The number of days of all months of a year in front of a month; months count from one. -/
def monthStart (year : Nat) : Nat → Nat
  | 0 => 0
  | 1 => 0
  | month + 2 => monthStart year (month + 1) + monthLength year (month + 1)

/-- The number of days up to a date, the date included. -/
def number (date : Date) : Nat :=
  yearStart date.year + monthStart date.year date.month + date.day

theorem monthStart_succ {month : Nat} (h : 1 ≤ month) (year : Nat) :
    monthStart year (month + 1) = monthStart year month + monthLength year month := by
  obtain ⟨month, rfl⟩ := Nat.exists_eq_add_of_le' h
  rfl

theorem monthStart_mono (year : Nat) : Monotone (monthStart year) := by
  refine monotone_nat_of_le_succ fun month => ?_
  cases month with
  | zero => exact Nat.le_refl 0
  | succ month => exact Nat.le_add_right _ _

theorem yearStart_mono : Monotone yearStart :=
  monotone_nat_of_le_succ fun _ => Nat.le_add_right _ _

theorem monthStart_thirteen (year : Nat) : monthStart year 13 = yearLength year := by
  simp only [monthStart, monthLength, yearLength]
  by_cases h : IsLeap year <;> simp [h]

theorem monthStart_three (year : Nat) :
    monthStart year 3 = if IsLeap year then 60 else 59 := by
  simp only [monthStart, monthLength]
  by_cases h : IsLeap year <;> simp [h]

/-- From March on, the lengths 31, 30, 31, 30, 31 come again and again, 153 days in five months. -/
theorem monthLength_march {shifted : Nat} (h : shifted ≤ 9) (year : Nat) :
    (153 * shifted + 2) / 5 + monthLength year (shifted + 3) = (153 * (shifted + 1) + 2) / 5 := by
  interval_cases shifted <;> rfl

theorem monthStart_march {shifted : Nat} (h : shifted ≤ 9) (year : Nat) :
    monthStart year (shifted + 3) = monthStart year 3 + (153 * shifted + 2) / 5 := by
  induction shifted with
  | zero => rfl
  | succ shifted ih =>
      rw [← monthLength_march (Nat.le_of_succ_le h) year, ← Nat.add_assoc,
        ← ih (Nat.le_of_succ_le h)]
      rfl

theorem yearLength_eq (year : Nat) : yearLength year = monthStart year 3 + 306 := by
  rw [yearLength, monthStart_three]
  split <;> rfl

/-- The number of leap years up to a year. -/
def leapYears (year : Nat) : Nat := year / 4 - year / 100 + year / 400

theorem leapYears_succ (year : Nat) :
    leapYears (year + 1) = leapYears year + if IsLeap (year + 1) then 1 else 0 := by
  have hle : year / 100 ≤ year / 4 := by omega
  simp only [leapYears, Nat.succ_div, Nat.dvd_iff_mod_eq_zero]
  -- Multiples of 400 are multiples of 100, and these are multiples of 4.
  by_cases h400 : (year + 1) % 400 = 0
  · have h100 : (year + 1) % 100 = 0 := by omega
    have h4 : (year + 1) % 4 = 0 := by omega
    have hleap : IsLeap (year + 1) := .inr h400
    rw [if_pos h4, if_pos h100, if_pos h400, if_pos hleap]
    omega
  · by_cases h100 : (year + 1) % 100 = 0
    · have h4 : (year + 1) % 4 = 0 := by omega
      have hleap : ¬IsLeap (year + 1) := fun h => h.elim (fun h => h.2 h100) h400
      rw [if_pos h4, if_pos h100, if_neg h400, if_neg hleap]
      omega
    · by_cases h4 : (year + 1) % 4 = 0
      · have hleap : IsLeap (year + 1) := .inl ⟨h4, h100⟩
        rw [if_pos h4, if_neg h100, if_neg h400, if_pos hleap]
        omega
      · have hleap : ¬IsLeap (year + 1) := fun h => h.elim (fun h => h4 h.1) h400
        rw [if_neg h4, if_neg h100, if_neg h400, if_neg hleap]
        rfl

theorem marchStart_eq (year : Nat) :
    yearStart year + monthStart year 3 = 365 * year + leapYears year + 60 := by
  induction year with
  | zero => decide
  | succ year ih =>
      rw [yearStart, yearLength_eq, leapYears_succ, monthStart_three (year + 1)]
      split <;> omega

/-! ## The order of dates -/

/-- The earlier of two dates has the smaller year or, in the same year, the smaller month or, in the
same month, the smaller day. -/
def Before (a b : Date) : Prop :=
  a.year < b.year ∨ a.year = b.year ∧ (a.month < b.month ∨ a.month = b.month ∧ a.day < b.day)

theorem Before.trichotomy (a b : Date) : a.Before b ∨ a = b ∨ b.Before a := by
  cases a
  cases b
  simp only [Before, Date.mk.injEq]
  omega

theorem Valid.le_monthStart {date : Date} (h : date.Valid) :
    monthStart date.year date.month + date.day ≤ monthStart date.year (date.month + 1) := by
  rw [monthStart_succ h.month_pos]
  exact Nat.add_le_add_left h.day_le _

theorem number_lt_of_before {a b : Date} (ha : a.Valid) (hb : b.Valid) (h : a.Before b) :
    a.number < b.number := by
  have hday := ha.le_monthStart
  have hpos := hb.day_pos
  rcases h with hyear | ⟨hyear, hmonth | ⟨hmonth, hlt⟩⟩
  · have hmonths : monthStart a.year (a.month + 1) ≤ yearLength a.year := by
      rw [← monthStart_thirteen]
      exact monthStart_mono a.year (Nat.succ_le_succ ha.month_le)
    have hyears : yearStart a.year + yearLength a.year ≤ yearStart b.year := yearStart_mono hyear
    simp only [number]
    omega
  · have hmonths : monthStart a.year (a.month + 1) ≤ monthStart a.year b.month :=
      monthStart_mono a.year hmonth
    simp only [number, ← hyear]
    omega
  · simp only [number, hyear, hmonth]
    omega

theorem eq_of_number_eq {a b : Date} (ha : a.Valid) (hb : b.Valid) (h : a.number = b.number) :
    a = b := by
  rcases Before.trichotomy a b with hlt | heq | hlt
  · exact absurd h (Nat.ne_of_lt (number_lt_of_before ha hb hlt))
  · exact heq
  · exact absurd h (Nat.ne_of_gt (number_lt_of_before hb ha hlt))

theorem before_iff {a b : Date} (ha : a.Valid) (hb : b.Valid) :
    a.Before b ↔ a.number < b.number := by
  refine ⟨number_lt_of_before ha hb, fun hlt => ?_⟩
  rcases Before.trichotomy a b with h | rfl | h
  · exact h
  · exact absurd hlt (Nat.lt_irrefl _)
  · exact absurd hlt (Nat.lt_asymm (number_lt_of_before hb ha h))

theorem one_le_monthLength (year month : Nat) : 1 ≤ monthLength year month := by
  simp only [monthLength]
  split <;> split <;> decide

theorem monthLength_le (year month : Nat) : monthLength year month ≤ 31 := by
  simp only [monthLength]
  split <;> split <;> decide

theorem Valid.next {date : Date} (h : date.Valid) : date.next.Valid := by
  rw [Date.next]
  split
  · exact ⟨h.month_pos, h.month_le, Nat.succ_pos _, by assumption⟩
  · split
    · exact ⟨Nat.succ_pos _, by assumption, Nat.le_refl 1, one_le_monthLength _ _⟩
    · exact ⟨Nat.le_refl 1, Nat.le_add_left 1 11, Nat.le_refl 1, one_le_monthLength _ _⟩

theorem Valid.number_next {date : Date} (h : date.Valid) : date.next.number = date.number + 1 := by
  have hday := h.day_le
  have hmonth := monthStart_succ h.month_pos date.year
  rw [Date.next]
  split
  · rfl
  · split
    · simp only [number]
      omega
    · have htwelve : date.month = 12 := by
        have := h.month_le
        omega
      have hyear : monthStart date.year (date.month + 1) = yearLength date.year := by
        rw [htwelve, monthStart_thirteen]
      change yearStart date.year + yearLength date.year + 0 + 1 = _
      simp only [number]
      omega

/-! ## Places in an era -/

/-- A day of an era: the full centuries, the full spans of four years in its century and the full
years in its span that lie behind it, and its number in its year. Years end with their leap day,
which the last year of a century does not have, the last one of the era excepted. -/
structure EraDay where
  century : Nat
  span : Nat
  yearOfSpan : Nat
  day : Nat
  century_le : century ≤ 3
  span_le : span ≤ 24
  yearOfSpan_le : yearOfSpan ≤ 3
  day_le : day ≤ 365
  leap : day = 365 → yearOfSpan = 3 ∧ (span = 24 → century = 3)

namespace EraDay

def year (place : EraDay) : Nat := 100 * place.century + 4 * place.span + place.yearOfSpan

def dayOfCentury (place : EraDay) : Nat :=
  1461 * place.span + 365 * place.yearOfSpan + place.day

def dayOfEra (place : EraDay) : Nat := 36524 * place.century + place.dayOfCentury

theorem exists_of_lt {n : Nat} (h : n < daysPerEra) : ∃ place : EraDay, place.dayOfEra = n := by
  rw [daysPerEra] at h
  -- The last century of an era and the last year of a span are one day longer than the others.
  obtain ⟨century, rest, hcentury, hrest, hlast, rfl⟩ : ∃ century rest, century ≤ 3 ∧
      rest ≤ 36524 ∧ (rest = 36524 → century = 3) ∧ n = 36524 * century + rest := by
    by_cases hn : n = 146096
    · exact ⟨3, 36524, by omega⟩
    · exact ⟨n / 36524, n % 36524, by omega⟩
  obtain ⟨yearOfSpan, day, hyear, hday, hleap, heq⟩ : ∃ yearOfSpan day, yearOfSpan ≤ 3 ∧
      day ≤ 365 ∧ (day = 365 → yearOfSpan = 3) ∧ rest % 1461 = 365 * yearOfSpan + day := by
    by_cases hn : rest % 1461 = 1460
    · exact ⟨3, 365, by omega⟩
    · exact ⟨rest % 1461 / 365, rest % 1461 % 365, by omega⟩
  refine ⟨⟨century, rest / 1461, yearOfSpan, day, hcentury, by omega, hyear, hday, by omega⟩, ?_⟩
  simp only [dayOfEra, dayOfCentury]
  omega

theorem dayOfCentury_le (place : EraDay) : place.dayOfCentury ≤ 36524 := by
  obtain ⟨century, span, yearOfSpan, day, _, _, _, _, _⟩ := place
  simp only [dayOfCentury]
  omega

theorem century_of_dayOfCentury (place : EraDay) (h : place.dayOfCentury = 36524) :
    place.century = 3 := by
  obtain ⟨century, span, yearOfSpan, day, _, _, _, _, _⟩ := place
  simp only [dayOfCentury] at h ⊢
  omega

theorem dayOfEra_lt (place : EraDay) : place.dayOfEra < daysPerEra := by
  have hrest := place.dayOfCentury_le
  have hcentury := place.century_le
  rw [dayOfEra, daysPerEra]
  omega

/-- The divisor is one day short of a span. What is missing adds up to less than a year, so that the
quotient counts the spans behind the place, and on its last days the current span as well. -/
theorem dayOfEra_div_span (place : EraDay) :
    place.dayOfEra / 1460 =
      25 * place.century + place.span + if 1460 ≤ 24 * place.century + place.span +
        365 * place.yearOfSpan + place.day then 1 else 0 := by
  have hcentury := place.century_le
  have hspan := place.span_le
  have hyear := place.yearOfSpan_le
  have hday := place.day_le
  have heq : place.dayOfEra = 1460 * (25 * place.century + place.span) +
      (24 * place.century + place.span + 365 * place.yearOfSpan + place.day) := by
    simp only [dayOfEra, dayOfCentury]
    omega
  rw [heq, Nat.mul_add_div (by decide)]
  split <;> omega

theorem year_eq (place : EraDay) :
    (place.dayOfEra - place.dayOfEra / 1460 + place.dayOfEra / 36524 -
      place.dayOfEra / 146096) / 365 = place.year := by
  have hlast : place.dayOfEra / 36524 - place.dayOfEra / 146096 = place.century := by
    have hrest := place.dayOfCentury_le
    have hcentury := place.century_of_dayOfCentury
    have hle := place.century_le
    rw [dayOfEra]
    by_cases h : place.dayOfCentury = 36524
    · rw [h, hcentury h]
    · omega
  have hspans := place.dayOfEra_div_span
  obtain ⟨century, span, yearOfSpan, day, _, _, _, _, hleap⟩ := place
  simp only [dayOfEra, dayOfCentury, year] at *
  -- A leap day counts the current span, and the first day of a year never does.
  split at hspans <;> omega

theorem dayOfYear_eq (place : EraDay) :
    365 * place.year + place.year / 4 - place.year / 100 + place.day = place.dayOfEra := by
  obtain ⟨century, span, yearOfSpan, day, _, _, _, _, _⟩ := place
  have hfour : (100 * century + 4 * span + yearOfSpan) / 4 = 25 * century + span := by omega
  have hhundred : (100 * century + 4 * span + yearOfSpan) / 100 = century := by omega
  simp only [dayOfEra, dayOfCentury, year, hfour, hhundred]
  omega

/-- The leap day belongs to a leap year, for it stands in February of the next one. -/
theorem isLeap (place : EraDay) (era : Nat) (h : place.day = 365) :
    IsLeap (era * 400 + place.year + 1) := by
  obtain ⟨hyear, hcentury⟩ := place.leap h
  have hspan := place.span_le
  rw [year, hyear]
  by_cases hlast : place.span = 24
  · rw [hlast, hcentury hlast]
    exact .inr (by omega)
  · exact .inl (by omega)

theorem leapYears_eq (place : EraDay) (era : Nat) :
    leapYears (era * 400 + place.year) = era * 97 + (place.year / 4 - place.year / 100) := by
  have hlt : place.year < 400 := by
    obtain ⟨century, span, yearOfSpan, day, _, _, _, _, _⟩ := place
    simp only [year]
    omega
  rw [leapYears]
  omega

end EraDay

/-! ## The date of a day number -/

/-- The date of a day of a year that begins on the first of March. -/
def ofMarch (year dayOfYear : Nat) : Date :=
  let shiftedMonth := (5 * dayOfYear + 2) / 153
  let day := dayOfYear - (153 * shiftedMonth + 2) / 5 + 1
  let month := if shiftedMonth < 10 then shiftedMonth + 3 else shiftedMonth - 9
  ⟨if month ≤ 2 then year + 1 else year, month, day⟩

/-- From March to December the year is the same, and January and February are those of the next. -/
theorem ofMarch_cases {dayOfYear : Nat} (h : dayOfYear ≤ 365) (year : Nat) :
    (∃ shifted day, shifted ≤ 9 ∧ dayOfYear = (153 * shifted + 2) / 5 + day ∧
      day < monthLength year (shifted + 3) ∧
      ofMarch year dayOfYear = ⟨year, shifted + 3, day + 1⟩) ∨
    (∃ day, dayOfYear = 306 + day ∧ day < 31 ∧ ofMarch year dayOfYear = ⟨year + 1, 1, day + 1⟩) ∨
    (∃ day, dayOfYear = 337 + day ∧ ofMarch year dayOfYear = ⟨year + 1, 2, day + 1⟩) := by
  obtain ⟨shifted, hshifted⟩ : ∃ shifted, (5 * dayOfYear + 2) / 153 = shifted := ⟨_, rfl⟩
  have hstart : (153 * shifted + 2) / 5 ≤ dayOfYear := by omega
  have hend : dayOfYear < (153 * (shifted + 1) + 2) / 5 := by omega
  by_cases hten : shifted < 10
  · refine .inl ⟨shifted, dayOfYear - (153 * shifted + 2) / 5, by omega, by omega, ?_, ?_⟩
    · have := monthLength_march (Nat.le_of_lt_succ hten) year
      omega
    · simp [ofMarch, hshifted, hten]
  · have hcases : shifted = 10 ∨ shifted = 11 := by omega
    rcases hcases with rfl | rfl
    · exact .inr (.inl ⟨dayOfYear - 306, by omega, by omega, by simp [ofMarch, hshifted]⟩)
    · exact .inr (.inr ⟨dayOfYear - 337, by omega, by simp [ofMarch, hshifted]⟩)

theorem valid_ofMarch {year dayOfYear : Nat} (h : dayOfYear ≤ 365)
    (hleap : dayOfYear = 365 → IsLeap (year + 1)) : (ofMarch year dayOfYear).Valid := by
  rcases ofMarch_cases h year with ⟨shifted, day, hle, -, hday, heq⟩ | ⟨day, -, hday, heq⟩ |
    ⟨day, rfl, heq⟩
  · rw [heq]
    exact ⟨Nat.le_add_left 1 _, Nat.add_le_add_right hle 3, Nat.le_add_left 1 _, hday⟩
  · rw [heq]
    exact ⟨Nat.le_refl 1, Nat.le_add_left 1 _, Nat.le_add_left 1 _, hday⟩
  · rw [heq]
    refine ⟨Nat.le_add_left 1 _, Nat.le_add_left 2 _, Nat.le_add_left 1 _, ?_⟩
    simp only [monthLength, if_true]
    split
    · omega
    · rename_i hcommon
      have : 337 + day ≠ 365 := fun hlast => hcommon (hleap hlast)
      omega

theorem number_ofMarch {dayOfYear : Nat} (h : dayOfYear ≤ 365) (year : Nat) :
    (ofMarch year dayOfYear).number = yearStart year + monthStart year 3 + dayOfYear + 1 := by
  have hyear : yearStart (year + 1) = yearStart year + (monthStart year 3 + 306) := by
    rw [yearStart, yearLength_eq]
  rcases ofMarch_cases h year with ⟨shifted, day, hle, rfl, -, heq⟩ | ⟨day, rfl, -, heq⟩ |
    ⟨day, rfl, heq⟩
  · simp only [heq, number, monthStart_march hle]
    omega
  · simp only [heq, number, hyear, monthStart]
    omega
  · have hfebruary : monthStart (year + 1) 2 = 31 := rfl
    simp only [heq, number, hyear, hfebruary]
    omega

theorem ofDays_eq (days : Nat) : ∃ (era : Nat) (place : EraDay),
    days + epochOffset = daysPerEra * era + place.dayOfEra ∧
      ofDays days = ofMarch (era * 400 + place.year) place.day := by
  obtain ⟨place, hplace⟩ := EraDay.exists_of_lt
    (Nat.mod_lt (days + epochOffset) (show 0 < daysPerEra by decide))
  refine ⟨(days + epochOffset) / daysPerEra, place, ?_, ?_⟩
  · rw [hplace, Nat.div_add_mod]
  · have hday : place.dayOfEra - (365 * place.year + place.year / 4 - place.year / 100) =
        place.day := by
      have := place.dayOfYear_eq
      omega
    simp only [ofDays, ← hplace, place.year_eq, hday, ofMarch]

theorem valid_ofDays (days : Nat) : (ofDays days).Valid := by
  obtain ⟨era, place, -, heq⟩ := ofDays_eq days
  rw [heq]
  exact valid_ofMarch place.day_le (place.isLeap era)

theorem number_newYear (year : Nat) :
    number ⟨year, 1, 1⟩ + monthStart year 3 = 365 * year + leapYears year + 61 := by
  have hmarch := marchStart_eq year
  have hjanuary : monthStart year 1 = 0 := rfl
  simp only [number, hjanuary]
  omega

theorem number_epoch : epoch.number = 719529 := by
  have hnumber := number_newYear 1970
  have hmonths : monthStart 1970 3 = 59 := by decide
  have hleap : leapYears 1970 = 477 := by decide
  rw [hmonths, hleap] at hnumber
  exact Nat.add_right_cancel hnumber

/-- Counting the days up to the date of a day number leads back to the number. -/
theorem number_ofDays (days : Nat) : (ofDays days).number = epoch.number + days := by
  obtain ⟨era, place, hplace, heq⟩ := ofDays_eq days
  have hday := place.dayOfYear_eq
  rw [heq, number_ofMarch place.day_le, marchStart_eq, place.leapYears_eq, number_epoch]
  simp only [epochOffset, daysPerEra] at hplace
  omega

theorem ofDays_zero : ofDays 0 = epoch := by
  decide

theorem ofDays_succ (days : Nat) : ofDays (days + 1) = (ofDays days).next := by
  have hvalid := valid_ofDays days
  refine eq_of_number_eq (valid_ofDays _) hvalid.next ?_
  rw [hvalid.number_next, number_ofDays, number_ofDays, Nat.add_assoc]

theorem ofDays_eq_iterate (days : Nat) : ofDays days = Nat.iterate next days epoch := by
  induction days with
  | zero => exact ofDays_zero
  | succ days ih => rw [ofDays_succ, ih, Function.iterate_succ_apply']

/-! ## Numbers of limited width -/

/-- The result of an operation on unsigned numbers of 32 bits, unless it is too large. -/
def word (n : Nat) : Option Nat := if n < Nat.pow 2 32 then some n else none

/-- The result of an operation on signed numbers of 64 bits, unless it is too large. -/
def long (n : Nat) : Option Nat := if n < Nat.pow 2 63 then some n else none

/-- The difference of unsigned numbers, unless it is negative. -/
def minus (a b : Nat) : Option Nat := if b ≤ a then some (a - b) else none

def yearOfEra? (dayOfEra : Nat) : Option Nat := do
  let common ← minus dayOfEra (dayOfEra / 1460)
  let common ← word (common + dayOfEra / 36524)
  let common ← minus common (dayOfEra / 146096)
  return common / 365

def dayOfYear? (dayOfEra yearOfEra : Nat) : Option Nat := do
  let start ← word (365 * yearOfEra)
  let start ← word (start + yearOfEra / 4)
  let start ← minus start (yearOfEra / 100)
  minus dayOfEra start

def monthAndDay? (dayOfYear : Nat) : Option (Nat × Nat) := do
  let scaled ← word (5 * dayOfYear)
  let scaled ← word (scaled + 2)
  let shiftedMonth := scaled / 153
  let start ← word (153 * shiftedMonth)
  let start ← word (start + 2)
  let day ← minus dayOfYear (start / 5)
  let day ← word (day + 1)
  let month ← if shiftedMonth < 10 then word (shiftedMonth + 3) else minus shiftedMonth 9
  return (month, day)

/-- The date of a day counted from the start of an era. Days and months are unsigned numbers of 32
bits, and so is the year in the end: its higher bits are lost. -/
def ofShifted? (shifted : Nat) : Option Date := do
  let dayOfEra := shifted % daysPerEra
  let yearOfEra ← yearOfEra? dayOfEra
  let eras ← long (shifted / daysPerEra * 400)
  let year ← long (eras + yearOfEra)
  let dayOfYear ← dayOfYear? dayOfEra yearOfEra
  let (month, day) ← monthAndDay? dayOfYear
  let year ← if month ≤ 2 then long (year + 1) else some year
  return ⟨year % Nat.pow 2 32, month, day⟩

/-- The date of a day number as it is found with numbers of limited width, unless an intermediate
result does not fit. -/
def ofDays? (days : Nat) : Option Date := do
  let shifted ← long (days + epochOffset)
  ofShifted? shifted

theorem word_of_lt {n : Nat} (h : n < 4294967296) : word n = some n := if_pos h

theorem long_of_lt {n : Nat} (h : n < 9223372036854775808) : long n = some n := if_pos h

theorem minus_of_le {a b : Nat} (h : b ≤ a) : minus a b = some (a - b) := if_pos h

namespace EraDay

theorem yearOfEra?_eq (place : EraDay) : yearOfEra? place.dayOfEra = some place.year := by
  have hlt : place.dayOfEra < 146097 := place.dayOfEra_lt
  rw [yearOfEra?, minus_of_le (Nat.div_le_self _ _)]
  simp only [Option.bind_eq_bind, Option.bind_some]
  rw [word_of_lt (by omega), Option.bind_some, minus_of_le (by omega), Option.bind_some,
    place.year_eq]
  rfl

theorem dayOfYear?_eq (place : EraDay) :
    dayOfYear? place.dayOfEra place.year = some place.day := by
  have hlt : place.dayOfEra < 146097 := place.dayOfEra_lt
  have hday := place.dayOfYear_eq
  rw [dayOfYear?, word_of_lt (by omega)]
  simp only [Option.bind_eq_bind, Option.bind_some]
  rw [word_of_lt (by omega), Option.bind_some, minus_of_le (by omega), Option.bind_some,
    minus_of_le (by omega)]
  congr 1
  omega

end EraDay

theorem monthAndDay?_eq {dayOfYear : Nat} (h : dayOfYear ≤ 365) (year : Nat) :
    monthAndDay? dayOfYear =
      some ((ofMarch year dayOfYear).month, (ofMarch year dayOfYear).day) := by
  rw [monthAndDay?, word_of_lt (by omega)]
  simp only [Option.bind_eq_bind, Option.bind_some]
  rw [word_of_lt (by omega), Option.bind_some, word_of_lt (by omega), Option.bind_some,
    word_of_lt (by omega), Option.bind_some, minus_of_le (by omega), Option.bind_some,
    word_of_lt (by omega), Option.bind_some]
  by_cases hten : (5 * dayOfYear + 2) / 153 < 10
  · rw [if_pos hten, word_of_lt (by omega), Option.bind_some, ofMarch, if_pos hten]
    rfl
  · rw [if_neg hten, minus_of_le (by omega), Option.bind_some, ofMarch, if_neg hten]
    rfl

theorem year_ofMarch (year dayOfYear : Nat) :
    (ofMarch year dayOfYear).year =
      if (ofMarch year dayOfYear).month ≤ 2 then year + 1 else year := rfl

theorem ofShifted?_eq {shifted era : Nat} {place : EraDay}
    (hplace : shifted = daysPerEra * era + place.dayOfEra)
    (hlong : shifted < 9223372036854775808) :
    ofShifted? shifted = some ⟨(ofMarch (era * 400 + place.year) place.day).year % Nat.pow 2 32,
      (ofMarch (era * 400 + place.year) place.day).month,
      (ofMarch (era * 400 + place.year) place.day).day⟩ := by
  have hera : shifted / daysPerEra = era := by
    rw [hplace, Nat.mul_add_div (by decide), Nat.div_eq_of_lt place.dayOfEra_lt, Nat.add_zero]
  have hday : shifted % daysPerEra = place.dayOfEra := by
    rw [hplace, Nat.mul_add_mod, Nat.mod_eq_of_lt place.dayOfEra_lt]
  have hyear : era * 400 + place.year + 1 < 9223372036854775808 := by
    have := place.dayOfYear_eq
    rw [daysPerEra] at hplace
    omega
  have hlast : era * 400 + place.year < 9223372036854775808 := Nat.lt_of_succ_lt hyear
  have heras : era * 400 < 9223372036854775808 := Nat.lt_of_le_of_lt (Nat.le_add_right _ _) hlast
  simp only [ofShifted?, Option.bind_eq_bind, Option.bind_some, hera, hday, place.yearOfEra?_eq]
  rw [long_of_lt heras, Option.bind_some, long_of_lt hlast, Option.bind_some,
    place.dayOfYear?_eq, Option.bind_some,
    monthAndDay?_eq place.day_le (era * 400 + place.year), Option.bind_some, year_ofMarch]
  by_cases hmonth : (ofMarch (era * 400 + place.year) place.day).month ≤ 2
  · simp only [hmonth, if_true]
    rw [long_of_lt hyear, Option.bind_some]
    rfl
  · simp only [hmonth, if_false]
    rfl

/-- For all numbers of days that a clock of 64 bits can show in seconds, nothing overflows. -/
theorem ofDays?_eq {days : Nat} (h : days ≤ (Nat.pow 2 64 - 1) / 86400) :
    ofDays? days =
      some ⟨(ofDays days).year % Nat.pow 2 32, (ofDays days).month, (ofDays days).day⟩ := by
  have hlimit : (Nat.pow 2 64 - 1) / 86400 = 213503982334601 := rfl
  have hlong : days + epochOffset < 9223372036854775808 := by
    have : epochOffset = 719468 := rfl
    omega
  obtain ⟨era, place, hplace, heq⟩ := ofDays_eq days
  rw [ofDays?, long_of_lt hlong, heq, Option.bind_eq_bind, Option.bind_some,
    ofShifted?_eq hplace hlong]

/-- What is found for a day number: a date of the calendar, as many days after 1970-01-01 as the
number says, by counting and by going from day to day. Limited width costs it the higher bits of
the year and nothing else. -/
structure DateSpec (days : Nat) (date : Date) (found : Option Date) : Prop where
  valid : date.Valid
  number_eq : date.number = epoch.number + days
  eq_iterate : date = Nat.iterate next days epoch
  found_eq : found = some ⟨date.year % Nat.pow 2 32, date.month, date.day⟩

/-- Every day number that a clock of 64 bits can show in seconds has its date in the Gregorian
calendar, and no step on the way to it overflows. -/
theorem dates_follow_calendar (days : Nat) (h : days ≤ (Nat.pow 2 64 - 1) / 86400) :
    DateSpec days (ofDays days) (ofDays? days) :=
  ⟨valid_ofDays days, number_ofDays days, ofDays_eq_iterate days, ofDays?_eq h⟩

/-- The last day of such a clock is beyond the years of 32 bits. -/
theorem dates_follow_calendar_of_last_day :
    213503982334601 ≤ (Nat.pow 2 64 - 1) / 86400 ∧
      DateSpec 213503982334601 (ofDays 213503982334601) (ofDays? 213503982334601) :=
  ⟨by decide, dates_follow_calendar 213503982334601 (by decide)⟩

end FloatMachine.Date
