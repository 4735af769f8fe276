import NodeQuery.Proofs.Timestamp.Term

/-! The passing of time. A moment is counted in days, in seconds of the day and in nanoseconds of
the second, where a leap second goes on with the second before it. Timestamps, whose fields are
compared from the year down, are in the order of their moments. -/

namespace NodeQuery.Timestamp

open Finset

/-- The days from the first one of year 0 to the first one of a year. -/
def daysBeforeYear (year : Int) : Int :=
  365 * year + (year + 3) / 4 - (year + 99) / 100 + (year + 399) / 400

/-- The days of a year before the first one of a month. -/
def daysBeforeMonth (year : Int) (month : Nat) : Nat :=
  ∑ earlier ∈ Ico 1 month, daysInMonth year earlier

/-- The days from the first one of year 0. -/
def dayNumber (timestamp : Timestamp) : Int :=
  daysBeforeYear timestamp.year + daysBeforeMonth timestamp.year timestamp.month + timestamp.day - 1

/-- The last second of a minute is still under way in a leap second. -/
def secondOfDay (timestamp : Timestamp) : Nat :=
  3600 * timestamp.hour + 60 * timestamp.minute + min timestamp.second 59

def nanosecondOfSecond (timestamp : Timestamp) : Nat :=
  timestamp.nanosecond + if timestamp.second = 60 then nanosecondsPerSecond else 0

def moment (timestamp : Timestamp) : Int ×ₗ Nat ×ₗ Nat :=
  toLex (timestamp.dayNumber, toLex (timestamp.secondOfDay, timestamp.nanosecondOfSecond))

theorem daysBeforeMonth_succ (year : Int) {month : Nat} (positive : 1 ≤ month) :
    daysBeforeMonth year (month + 1) = daysBeforeMonth year month + daysInMonth year month :=
  sum_Ico_succ_top positive _

theorem daysBeforeMonth_mono (year : Int) {earlier later : Nat} (order : earlier ≤ later) :
    daysBeforeMonth year earlier ≤ daysBeforeMonth year later :=
  sum_le_sum_of_subset (Ico_subset_Ico_right order)

/-- The twelve months make up the year. -/
theorem daysBeforeYear_succ (year : Int) :
    daysBeforeYear (year + 1) = daysBeforeYear year + daysBeforeMonth year 13 := by
  have months : daysBeforeMonth year 13 = if isLeapYear year then 366 else 365 := by
    simp only [daysBeforeMonth, daysInMonth]
    cases isLeapYear year <;> decide
  rw [months]
  simp only [isLeapYear, daysBeforeYear, Bool.and_eq_true, Bool.or_eq_true, beq_iff_eq, bne_iff_ne]
  split <;> omega

theorem daysBeforeYear_mono : Monotone daysBeforeYear :=
  monotone_int_of_le_succ fun year => by
    rw [daysBeforeYear_succ]
    omega

/-- A date lies before the next month, and so does the next month before the next year. -/
theorem dayNumber_lt_of_month {timestamp : Timestamp} {month : Nat}
    (later : timestamp.month < month) :
    timestamp.dayNumber < daysBeforeYear timestamp.year + daysBeforeMonth timestamp.year month := by
  have next := daysBeforeMonth_succ timestamp.year timestamp.month_bounds.1
  have upTo : daysBeforeMonth timestamp.year (timestamp.month + 1) ≤
      daysBeforeMonth timestamp.year month := daysBeforeMonth_mono _ later
  have day := timestamp.day_bounds.2
  unfold dayNumber
  omega

theorem le_dayNumber (timestamp : Timestamp) :
    daysBeforeYear timestamp.year + daysBeforeMonth timestamp.year timestamp.month ≤
      timestamp.dayNumber := by
  have day := timestamp.day_bounds.1
  unfold dayNumber
  omega

/-- Later dates have greater numbers. -/
theorem dayNumber_lt {left right : Timestamp}
    (earlier : left.year < right.year ∨ left.year = right.year ∧
      (left.month < right.month ∨ left.month = right.month ∧ left.day < right.day)) :
    left.dayNumber < right.dayNumber := by
  rcases earlier with year | ⟨year, month | ⟨month, day⟩⟩
  · have passed : left.dayNumber < daysBeforeYear (left.year + 1) := by
      rw [daysBeforeYear_succ]
      exact dayNumber_lt_of_month (Nat.lt_succ_of_le left.month_bounds.2)
    have upTo := daysBeforeYear_mono (Int.add_one_le_of_lt year)
    have reached := right.le_dayNumber
    omega
  · have passed := dayNumber_lt_of_month month
    have reached := right.le_dayNumber
    rw [← year] at reached
    omega
  · unfold dayNumber
    rw [year, month]
    omega

/-- Later times of a day have more seconds, or in the same second more nanoseconds. -/
theorem clock_lt {left right : Timestamp}
    (earlier : left.hour < right.hour ∨ left.hour = right.hour ∧
      (left.minute < right.minute ∨ left.minute = right.minute ∧
      (left.second < right.second ∨ left.second = right.second ∧
      left.nanosecond < right.nanosecond))) :
    left.secondOfDay < right.secondOfDay ∨ left.secondOfDay = right.secondOfDay ∧
      left.nanosecondOfSecond < right.nanosecondOfSecond := by
  have := left.time_bounds
  have := right.time_bounds
  unfold secondOfDay nanosecondOfSecond
  split <;> split <;> omega

theorem moment_lt_of_lt {left right : Timestamp} (earlier : compare left right = .lt) :
    left.moment < right.moment := by
  simp only [moment, Prod.Lex.toLex_lt_toLex]
  rcases compare_eq_lt_iff.mp earlier with year | ⟨year, month | ⟨month, day | ⟨day, clock⟩⟩⟩
  · exact .inl (dayNumber_lt (.inl year))
  · exact .inl (dayNumber_lt (.inr ⟨year, .inl month⟩))
  · exact .inl (dayNumber_lt (.inr ⟨year, .inr ⟨month, day⟩⟩))
  · refine .inr ⟨?_, clock_lt clock⟩
    unfold dayNumber
    rw [year, month, day]

/-- Timestamps are compared as their moments are. -/
theorem compare_moment (left right : Timestamp) :
    compare left.moment right.moment = compare left right := by
  cases order : compare left right with
  | lt => exact compare_lt_iff_lt.mpr (moment_lt_of_lt order)
  | eq => rw [Std.LawfulEqOrd.eq_of_compare order, Std.compare_self]
  | gt =>
    rw [Std.OrientedCmp.gt_iff_lt] at order
    exact compare_gt_iff_gt.mpr (moment_lt_of_lt order)

end NodeQuery.Timestamp
