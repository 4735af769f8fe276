/-!
Points in civil time without a zone: a date of the Gregorian calendar extended in both directions,
and a time of day to the nanosecond. Second 60 is a leap second, which any minute may have.
Timestamps are ordered by their fields from the year down, so that a leap second stands after
second 59 and before the next minute.
-/

namespace NodeQuery

def isLeapYear (year : Int) : Bool := year % 4 == 0 && (year % 100 != 0 || year % 400 == 0)

def daysInMonth (year : Int) (month : Nat) : Nat :=
  if month = 2 then (if isLeapYear year then 29 else 28)
  else if month = 4 ∨ month = 6 ∨ month = 9 ∨ month = 11 then 30
  else 31

def firstYear : Int := -262143

def lastYear : Int := 262142

def nanosecondsPerSecond : Nat := 1000000000

/-- A date and a time of day. A leap second is second 60 of its minute. Leap seconds off the end of
a minute, where the nanoseconds of an earlier second run on past a billion, are left out: no text of
a date names one. -/
structure Timestamp where
  year : Int
  month : Nat
  day : Nat
  hour : Nat
  minute : Nat
  second : Nat
  nanosecond : Nat
  year_bounds : firstYear ≤ year ∧ year ≤ lastYear
  month_bounds : 1 ≤ month ∧ month ≤ 12
  day_bounds : 1 ≤ day ∧ day ≤ daysInMonth year month
  time_bounds : hour < 24 ∧ minute < 60 ∧ second ≤ 60 ∧ nanosecond < nanosecondsPerSecond
  deriving Repr, DecidableEq

namespace Timestamp

/-- The timestamp with these fields, if there is one. -/
def ofFields? (year : Int) (month day hour minute second nanosecond : Nat) : Option Timestamp :=
  if date : (firstYear ≤ year ∧ year ≤ lastYear) ∧ (1 ≤ month ∧ month ≤ 12) ∧
      (1 ≤ day ∧ day ≤ daysInMonth year month) then
    if time : hour < 24 ∧ minute < 60 ∧ second ≤ 60 ∧ nanosecond < nanosecondsPerSecond then
      some ⟨year, month, day, hour, minute, second, nanosecond, date.1, date.2.1, date.2.2, time⟩
    else none
  else none

def order : Timestamp → Timestamp → Ordering :=
  compareLex (compareOn (·.year)) <| compareLex (compareOn (·.month)) <|
    compareLex (compareOn (·.day)) <| compareLex (compareOn (·.hour)) <|
      compareLex (compareOn (·.minute)) <| compareLex (compareOn (·.second)) <|
        compareOn (·.nanosecond)

instance : Ord Timestamp := ⟨order⟩

instance : Std.TransOrd Timestamp := inferInstanceAs (Std.TransCmp (compareLex _ _))

end Timestamp

end NodeQuery
