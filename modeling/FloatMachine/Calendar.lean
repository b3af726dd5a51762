import FloatMachine.Text.Padded

/-!
# Dates and times

Days are numbered from 1970-01-01, and days of the Gregorian calendar are found from the number by
counting 400-year eras that start on the first of March, so that a leap day ends its year.
-/

namespace FloatMachine

/-- A day of the Gregorian calendar; months and days count from one. -/
structure Date where
  year : Nat
  month : Nat
  day : Nat
deriving DecidableEq

namespace Date

/-- The number of days of a 400-year era. -/
def daysPerEra : Nat := 146097

/-- The number of days from 0000-03-01, the start of an era, to 1970-01-01. -/
def epochOffset : Nat := 719468

/-- The date a number of days after 1970-01-01. -/
def ofDays (days : Nat) : Date :=
  let era := (days + epochOffset) / daysPerEra
  let dayOfEra := (days + epochOffset) % daysPerEra
  let yearOfEra := (dayOfEra - dayOfEra / 1460 + dayOfEra / 36524 - dayOfEra / 146096) / 365
  let dayOfYear := dayOfEra - (365 * yearOfEra + yearOfEra / 4 - yearOfEra / 100)
  let shiftedMonth := (5 * dayOfYear + 2) / 153
  let day := dayOfYear - (153 * shiftedMonth + 2) / 5 + 1
  let month := if shiftedMonth < 10 then shiftedMonth + 3 else shiftedMonth - 9
  let year := era * 400 + yearOfEra
  ⟨if month ≤ 2 then year + 1 else year, month, day⟩

end Date

/-- A point in time, as the time passed since 1970-01-01 00:00:00. -/
structure Instant where
  seconds : Nat
  nanoseconds : Nat
deriving DecidableEq

namespace Instant

/-- The point in time a clock shows. A clock set before 1970 counts as showing its first moment. -/
def ofClock (seconds : Int) (nanoseconds : Nat) : Instant :=
  if seconds < 0 then ⟨0, 0⟩ else ⟨seconds.toNat, nanoseconds⟩

/-- The text `YYYY-MM-DD HH:MM:SS.mmm`. Years are shown as 32-bit numbers. -/
def timestamp (instant : Instant) : String :=
  let date := Date.ofDays (instant.seconds / 86400)
  Text.decimal 4 (date.year % Nat.pow 2 32) ++ "-" ++ Text.decimal 2 date.month ++ "-"
    ++ Text.decimal 2 date.day ++ " " ++ Text.decimal 2 (instant.seconds / 3600 % 24) ++ ":"
    ++ Text.decimal 2 (instant.seconds / 60 % 60) ++ ":" ++ Text.decimal 2 (instant.seconds % 60)
    ++ "." ++ Text.decimal 3 (instant.nanoseconds / 1000000)

end Instant

end FloatMachine
