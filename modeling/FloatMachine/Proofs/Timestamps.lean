import FloatMachine.Proofs.Dates

/-! Log lines begin with a timestamp so that sorting them as texts sorts them by time. A timestamp
is a row of numbers, each in a column of its own, with the longest spans of time in front. -/

namespace FloatMachine

/-! ## Numbers in columns -/

namespace Text

theorem toList_decimal (width n : Nat) :
    (decimal width n).toList =
      List.replicate (width - (Nat.toDigits 10 n).length) '0' ++ Nat.toDigits 10 n := by
  simp [decimal, padLeft]

theorem length_decimal {width n : Nat} (hpos : 0 < width) (h : n < Nat.pow 10 width) :
    (decimal width n).toList.length = width := by
  have hle : (Nat.toDigits 10 n).length ≤ width :=
    (Nat.length_toDigits_le_iff (by decide) hpos).mpr h
  rw [toList_decimal, List.length_append, List.length_replicate]
  omega

theorem toList_decimal_succ {width : Nat} (hpos : 0 < width) (n : Nat) :
    (decimal (width + 1) n).toList = (decimal width (n / 10)).toList ++ [(n % 10).digitChar] := by
  rw [toList_decimal, toList_decimal, Nat.toDigits_eq_if (by decide)]
  by_cases h : n < 10
  · have hzero : Nat.toDigits 10 0 = ['0'] := rfl
    obtain ⟨width, rfl⟩ := Nat.exists_eq_add_of_le' hpos
    rw [if_pos h, Nat.div_eq_of_lt h, Nat.mod_eq_of_lt h, hzero]
    simp [List.replicate_succ']
  · rw [if_neg h]
    simp

theorem digitChar_lt {a b : Nat} (h : a < b) (hb : b < 10) : a.digitChar < b.digitChar := by
  rw [Char.lt_def, UInt32.lt_iff_toNat_lt]
  change a.digitChar.toNat < b.digitChar.toNat
  rw [Nat.toNat_digitChar_of_lt_ten (Nat.lt_trans h hb), Nat.toNat_digitChar_of_lt_ten hb]
  exact Nat.add_lt_add_left h 48

theorem append_lt_append {a b : List Char} (hlength : a.length = b.length) (h : a < b)
    (x y : List Char) : a ++ x < b ++ y := by
  induction a generalizing b with
  | nil =>
      cases b with
      | nil => exact absurd h (List.lt_irrefl _)
      | cons => simp at hlength
  | cons c a ih =>
      cases b with
      | nil => simp at hlength
      | cons d b =>
          rw [List.cons_append, List.cons_append, List.cons_lt_cons_iff]
          rcases List.cons_lt_cons_iff.mp h with hlt | ⟨rfl, hlt⟩
          · exact .inl hlt
          · exact .inr ⟨rfl, ih (Nat.succ.inj hlength) hlt⟩

/-- In columns of the same width, the texts of numbers are in the order of the numbers. -/
theorem decimal_lt {width a b : Nat} (hpos : 0 < width) (h : a < b)
    (hb : b < Nat.pow 10 width) : (decimal width a).toList < (decimal width b).toList := by
  induction width, hpos using Nat.le_induction generalizing a b with
  | base =>
      have hb : b < 10 := hb
      rw [toList_decimal, toList_decimal, Nat.toDigits_of_lt_base hb,
        Nat.toDigits_of_lt_base (Nat.lt_trans h hb)]
      exact List.cons_lt_cons_iff.mpr (.inl (digitChar_lt h hb))
  | succ width hpos ih =>
      have hb : b < Nat.pow 10 width * 10 := hb
      have hfront : b / 10 < Nat.pow 10 width := (Nat.div_lt_iff_lt_mul (by decide)).mpr hb
      rw [toList_decimal_succ hpos, toList_decimal_succ hpos]
      rcases Nat.lt_or_ge (a / 10) (b / 10) with hlt | hge
      · refine append_lt_append ?_ (ih hlt hfront) _ _
        rw [length_decimal hpos hfront, length_decimal hpos (Nat.lt_trans hlt hfront)]
      · have heq : a / 10 = b / 10 := by omega
        have hlast : a % 10 < b % 10 := by omega
        rw [heq]
        refine List.append_left_lt (List.cons_lt_cons_iff.mpr (.inl (digitChar_lt hlast ?_)))
        exact Nat.mod_lt b (by decide)

end Text

/-- A column of a row of numbers: what stands in front of it, and its width. -/
structure Column where
  mark : List Char
  width : Nat
  width_pos : 0 < width

namespace Column

/-- The numbers of a row, one in each column. -/
def writeAll : List Column → List Nat → List Char
  | column :: columns, n :: row =>
    column.mark ++ ((Text.decimal column.width n).toList ++ writeAll columns row)
  | _, _ => []

/-- A row has one number for each column, which the column is wide enough for. -/
def Fit (columns : List Column) (row : List Nat) : Prop :=
  List.Forall₂ (fun column n => n < Nat.pow 10 column.width) columns row

theorem length_writeAll {columns : List Column} {row : List Nat} (h : Fit columns row) :
    (writeAll columns row).length =
      (columns.map fun column => column.mark.length + column.width).sum := by
  induction h with
  | nil => rfl
  | @cons column n _ _ hn _ ih =>
      simp only [writeAll, List.length_append, Text.length_decimal column.width_pos hn, ih,
        List.map_cons, List.sum_cons, Nat.add_assoc]

/-- Texts of rows are in the order of the first number in which the rows differ. -/
theorem writeAll_lt {columns : List Column} {a b : List Nat} (ha : Fit columns a)
    (hb : Fit columns b) (h : a < b) : writeAll columns a < writeAll columns b := by
  induction ha generalizing b with
  | nil =>
      cases hb
      exact absurd h (List.lt_irrefl _)
  | @cons column m _ _ hm _ ih =>
      cases hb with
      | @cons _ n _ _ hn hb =>
          refine List.append_left_lt ?_
          rcases List.cons_lt_cons_iff.mp h with hlt | ⟨rfl, hlt⟩
          · refine Text.append_lt_append ?_ (Text.decimal_lt column.width_pos hlt hn) _ _
            rw [Text.length_decimal column.width_pos hm, Text.length_decimal column.width_pos hn]
          · exact List.append_left_lt (ih hb hlt)

end Column

/-! ## Moments -/

namespace Instant

/-- The time since 1970-01-01 00:00:00 in full milliseconds. -/
def milliseconds (instant : Instant) : Nat :=
  instant.seconds * 1000 + instant.nanoseconds / 1000000

/-- The moment is earlier than the first one of a day. -/
def IsBefore (instant : Instant) (date : Date) : Prop :=
  instant.seconds < 86400 * (date.number - Date.epoch.number)

/-- The numbers of a timestamp. -/
def row (instant : Instant) : List Nat :=
  let date := Date.ofDays (instant.seconds / 86400)
  [date.year, date.month, date.day, instant.seconds / 3600 % 24, instant.seconds / 60 % 60,
    instant.seconds % 60, instant.nanoseconds / 1000000]

/-- The columns of a timestamp. -/
def columns : List Column :=
  [⟨[], 4, by decide⟩, ⟨['-'], 2, by decide⟩, ⟨['-'], 2, by decide⟩, ⟨[' '], 2, by decide⟩,
    ⟨[':'], 2, by decide⟩, ⟨[':'], 2, by decide⟩, ⟨['.'], 3, by decide⟩]

/-- A moment of the years with four digits; its nanoseconds are less than a second. -/
structure Regular (instant : Instant) : Prop where
  isBefore : instant.IsBefore ⟨10000, 1, 1⟩
  nanoseconds_lt : instant.nanoseconds < 1000000000

theorem isBefore_iff {instant : Instant} :
    instant.IsBefore ⟨10000, 1, 1⟩ ↔ instant.seconds < 253402300800 := by
  have hnumber := Date.number_newYear 10000
  have hmonths : Date.monthStart 10000 3 = 60 := by decide
  have hleap : Date.leapYears 10000 = 2425 := by decide
  have hepoch := Date.number_epoch
  rw [IsBefore]
  omega

theorem Regular.year_lt {instant : Instant} (h : instant.Regular) :
    (Date.ofDays (instant.seconds / 86400)).year < 10000 := by
  have hlast : Date.Valid ⟨10000, 1, 1⟩ := ⟨by decide, by decide, by decide, by decide⟩
  have hdays : instant.seconds / 86400 < Date.number ⟨10000, 1, 1⟩ - Date.epoch.number :=
    Nat.div_lt_of_lt_mul h.isBefore
  have hbefore := (Date.before_iff (Date.valid_ofDays (instant.seconds / 86400)) hlast).mpr (by
    rw [Date.number_ofDays]
    omega)
  simp only [Date.Before] at hbefore
  have hvalid := Date.valid_ofDays (instant.seconds / 86400)
  have hmonth := hvalid.month_pos
  have hday := hvalid.day_pos
  omega

theorem Regular.fit {instant : Instant} (h : instant.Regular) :
    Column.Fit columns instant.row := by
  have hvalid := Date.valid_ofDays (instant.seconds / 86400)
  have hmonth : (Date.ofDays (instant.seconds / 86400)).month < 100 :=
    Nat.lt_of_le_of_lt hvalid.month_le (by decide)
  have hday : (Date.ofDays (instant.seconds / 86400)).day < 100 :=
    Nat.lt_of_le_of_lt (hvalid.day_le.trans (Date.monthLength_le _ _)) (by decide)
  have hhour : instant.seconds / 3600 % 24 < 100 := by omega
  have hminute : instant.seconds / 60 % 60 < 100 := by omega
  have hsecond : instant.seconds % 60 < 100 := by omega
  have hmillisecond : instant.nanoseconds / 1000000 < 1000 :=
    Nat.div_lt_of_lt_mul h.nanoseconds_lt
  exact .cons h.year_lt (.cons hmonth (.cons hday (.cons hhour (.cons hminute
    (.cons hsecond (.cons hmillisecond .nil))))))

theorem toList_columns (year month day hour minute second millisecond : Nat) :
    (Text.decimal 4 year ++ "-" ++ Text.decimal 2 month ++ "-" ++ Text.decimal 2 day ++ " "
      ++ Text.decimal 2 hour ++ ":" ++ Text.decimal 2 minute ++ ":" ++ Text.decimal 2 second
      ++ "." ++ Text.decimal 3 millisecond).toList =
      Column.writeAll columns [year, month, day, hour, minute, second, millisecond] := by
  have hdash : "-".toList = ['-'] := String.toList_ofList
  have hblank : " ".toList = [' '] := String.toList_ofList
  have hcolon : ":".toList = [':'] := String.toList_ofList
  have hdot : ".".toList = ['.'] := String.toList_ofList
  simp only [String.toList_append, hdash, hblank, hcolon, hdot, Column.writeAll, columns,
    List.append_assoc, List.nil_append, List.append_nil]

theorem Regular.toList_timestamp {instant : Instant} (h : instant.Regular) :
    instant.timestamp.toList = Column.writeAll columns instant.row := by
  have hyear : (Date.ofDays (instant.seconds / 86400)).year % Nat.pow 2 32 =
      (Date.ofDays (instant.seconds / 86400)).year :=
    Nat.mod_eq_of_lt (Nat.lt_trans h.year_lt (by decide))
  rw [timestamp, hyear]
  exact toList_columns _ _ _ _ _ _ _

/-! ## Rows in the order of time -/

theorem seconds_eq (seconds : Nat) :
    seconds = 86400 * (seconds / 86400) + 3600 * (seconds / 3600 % 24) +
      60 * (seconds / 60 % 60) + seconds % 60 := by
  have hhours : seconds / 60 / 60 = seconds / 3600 := Nat.div_div_eq_div_mul seconds 60 60
  have hdays : seconds / 3600 / 24 = seconds / 86400 := Nat.div_div_eq_div_mul seconds 3600 24
  omega

theorem Regular.millisecond_lt {instant : Instant} (h : instant.Regular) :
    instant.nanoseconds / 1000000 < 1000 :=
  Nat.div_lt_of_lt_mul h.nanoseconds_lt

theorem row_lt {a b : Instant} (hb : b.Regular) (h : a.milliseconds < b.milliseconds) :
    a.row < b.row := by
  have hmillisecond := hb.millisecond_lt
  rw [milliseconds, milliseconds] at h
  have hle : a.seconds / 86400 ≤ b.seconds / 86400 := Nat.div_le_div_right (by omega)
  simp only [row, List.cons_lt_cons_iff]
  rcases Nat.lt_or_eq_of_le hle with hlt | heq
  · have hbefore : (Date.ofDays (a.seconds / 86400)).Before (Date.ofDays (b.seconds / 86400)) := by
      rw [Date.before_iff (Date.valid_ofDays _) (Date.valid_ofDays _), Date.number_ofDays,
        Date.number_ofDays]
      exact Nat.add_lt_add_left hlt _
    rcases hbefore with hyear | ⟨hyear, hmonth | ⟨hmonth, hday⟩⟩
    · exact .inl hyear
    · exact .inr ⟨hyear, .inl hmonth⟩
    · exact .inr ⟨hyear, .inr ⟨hmonth, .inl hday⟩⟩
  · refine .inr ⟨by rw [heq], .inr ⟨by rw [heq], .inr ⟨by rw [heq], ?_⟩⟩⟩
    have ha := seconds_eq a.seconds
    have hb := seconds_eq b.seconds
    have hminute : b.seconds / 60 % 60 < 60 := Nat.mod_lt _ (by decide)
    have hsecond : b.seconds % 60 < 60 := Nat.mod_lt _ (by decide)
    rw [heq] at ha
    -- From here on, only the sums and the sizes of the summands count.
    generalize a.seconds / 3600 % 24 = hours, a.seconds / 60 % 60 = minutes,
      a.seconds % 60 = seconds at *
    generalize b.seconds / 3600 % 24 = hours', b.seconds / 60 % 60 = minutes',
      b.seconds % 60 = seconds' at *
    omega

theorem row_eq {a b : Instant} (ha : a.Regular) (hb : b.Regular)
    (h : a.milliseconds = b.milliseconds) : a.row = b.row := by
  have hmillisecond := ha.millisecond_lt
  have hmillisecond' := hb.millisecond_lt
  rw [milliseconds, milliseconds] at h
  have hseconds : a.seconds = b.seconds := by omega
  have hrest : a.nanoseconds / 1000000 = b.nanoseconds / 1000000 := by omega
  rw [row, row, hseconds, hrest]

theorem timestamp_lt {a b : Instant} (ha : a.Regular) (hb : b.Regular)
    (h : a.milliseconds < b.milliseconds) : a.timestamp < b.timestamp := by
  rw [String.lt_iff, ha.toList_timestamp, hb.toList_timestamp]
  exact Column.writeAll_lt ha.fit hb.fit (row_lt hb h)

theorem timestamp_eq {a b : Instant} (ha : a.Regular) (hb : b.Regular)
    (h : a.milliseconds = b.milliseconds) : a.timestamp = b.timestamp := by
  rw [← String.toList_inj, ha.toList_timestamp, hb.toList_timestamp, row_eq ha hb h]

theorem Regular.length_timestamp {instant : Instant} (h : instant.Regular) :
    instant.timestamp.length = 23 := by
  rw [← String.length_toList, h.toList_timestamp, Column.length_writeAll h.fit]
  rfl

/-- Timestamps as texts stand to each other as the times do that they show, to the millisecond. -/
structure TimestampSpec (a b : Instant) : Prop where
  lt_iff : a.timestamp < b.timestamp ↔ a.milliseconds < b.milliseconds
  eq_iff : a.timestamp = b.timestamp ↔ a.milliseconds = b.milliseconds
  length_eq : a.timestamp.length = 23 ∧ b.timestamp.length = 23

/-- Sorting the timestamps of the years up to 9999 sorts the moments. -/
theorem timestamps_sort (a b : Instant) (ha : a.Regular) (hb : b.Regular) :
    TimestampSpec a b := by
  have hirrefl := String.lt_irrefl a.timestamp
  -- One of three cases holds for the times, and the texts exclude the other two.
  rcases Nat.lt_trichotomy a.milliseconds b.milliseconds with h | h | h
  · have htext := timestamp_lt ha hb h
    refine ⟨iff_of_true htext h, iff_of_false ?_ (Nat.ne_of_lt h),
      ha.length_timestamp, hb.length_timestamp⟩
    intro heq
    rw [← heq] at htext
    exact hirrefl htext
  · have htext := timestamp_eq ha hb h
    refine ⟨iff_of_false ?_ (Nat.not_lt_of_ge (Nat.le_of_eq h.symm)), iff_of_true htext h,
      ha.length_timestamp, hb.length_timestamp⟩
    rw [← htext]
    exact hirrefl
  · have htext := timestamp_lt hb ha h
    refine ⟨iff_of_false (String.lt_asymm htext) (Nat.lt_asymm h),
      iff_of_false ?_ (Nat.ne_of_gt h), ha.length_timestamp, hb.length_timestamp⟩
    intro heq
    rw [heq] at htext
    exact String.lt_irrefl _ htext

/-- The last moments of a leap day and of the year 9999. -/
theorem timestamps_sort_of_last_moments :
    Regular ⟨951868799, 999999999⟩ ∧ Regular ⟨253402300799, 999999999⟩ ∧
      TimestampSpec ⟨951868799, 999999999⟩ ⟨253402300799, 999999999⟩ := by
  have ha : Regular ⟨951868799, 999999999⟩ := ⟨isBefore_iff.mpr (by decide), by decide⟩
  have hb : Regular ⟨253402300799, 999999999⟩ := ⟨isBefore_iff.mpr (by decide), by decide⟩
  exact ⟨ha, hb, timestamps_sort _ _ ha hb⟩

end Instant

end FloatMachine
