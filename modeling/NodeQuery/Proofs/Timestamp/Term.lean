import NodeQuery.Proofs.Text.Digits
import NodeQuery.Timestamp.Text

/-! The index terms of timestamps. All fields have a fixed width and stand from the year down, and
the offset keeps the year positive and below seven digits, so terms are ordered as time is. -/

namespace NodeQuery.Timestamp

open Text

theorem compare_eq_lt_iff {left right : Timestamp} : compare left right = .lt ↔
    left.year < right.year ∨ left.year = right.year ∧
    (left.month < right.month ∨ left.month = right.month ∧
    (left.day < right.day ∨ left.day = right.day ∧
    (left.hour < right.hour ∨ left.hour = right.hour ∧
    (left.minute < right.minute ∨ left.minute = right.minute ∧
    (left.second < right.second ∨ left.second = right.second ∧
    left.nanosecond < right.nanosecond))))) := by
  change order left right = .lt ↔ _
  simp only [order, compareLex, compareOn, Ordering.then_eq_lt, compare_lt_iff_lt,
    compare_eq_iff_eq]

instance : Std.LawfulEqOrd Timestamp where
  eq_of_compare {left right} same := by
    change order left right = .eq at same
    simp only [order, compareLex, compareOn, Ordering.then_eq_eq, compare_eq_iff_eq] at same
    obtain ⟨year, month, day, hour, minute, second, nanosecond⟩ := same
    cases left
    cases right
    simp_all

theorem day_lt_hundred (timestamp : Timestamp) : timestamp.day < 100 := by
  have atMost : daysInMonth timestamp.year timestamp.month ≤ 31 := by
    unfold daysInMonth
    split
    · split <;> decide
    · split <;> decide
  have := timestamp.day_bounds.2
  omega

theorem yearTerm_lt_million (timestamp : Timestamp) :
    (timestamp.year + termYearOffset).toNat < 10 ^ 6 := by
  have := timestamp.year_bounds
  simp only [firstYear, lastYear, termYearOffset] at *
  omega

theorem yearTerm_lt_iff {left right : Timestamp} :
    (left.year + termYearOffset).toNat < (right.year + termYearOffset).toNat ↔
      left.year < right.year := by
  have := left.year_bounds
  have := right.year_bounds
  simp only [firstYear, lastYear, termYearOffset] at *
  omega

theorem yearTerm_eq_iff {left right : Timestamp} :
    (left.year + termYearOffset).toNat = (right.year + termYearOffset).toNat ↔
      left.year = right.year := by
  have := left.year_bounds
  have := right.year_bounds
  simp only [firstYear, lastYear, termYearOffset] at *
  omega

theorem ofList_mark_lt {mark : Char} {left right : List Char} :
    String.ofList (mark :: left) < String.ofList (mark :: right) ↔
      String.ofList left < String.ofList right := by
  rw [ofList_cons_lt]
  simp only [lt_irrefl, true_and, false_or]

theorem term_lt_iff {left right : Timestamp} :
    left.term < right.term ↔ compare left right = .lt := by
  have fits (timestamp : Timestamp) : timestamp.month < 10 ^ 2 ∧ timestamp.day < 10 ^ 2 ∧
      timestamp.hour < 10 ^ 2 ∧ timestamp.minute < 10 ^ 2 ∧ timestamp.second < 10 ^ 2 ∧
      timestamp.nanosecond < 10 ^ 9 := by
    have := timestamp.month_bounds
    have := timestamp.day_lt_hundred
    have := timestamp.time_bounds
    simp only [nanosecondsPerSecond] at this
    omega
  obtain ⟨month, day, hour, minute, second, nanosecond⟩ := fits left
  obtain ⟨month', day', hour', minute', second', nanosecond'⟩ := fits right
  have lastDigits : String.ofList (fixedDigits 9 left.nanosecond ++ []) <
      String.ofList (fixedDigits 9 right.nanosecond ++ []) ↔ _ :=
    ofList_fixedDigits_lt nanosecond nanosecond'
  simp only [List.append_nil, lt_irrefl, and_false, or_false] at lastDigits
  rw [compare_eq_lt_iff, term, term]
  simp only [monthDayDigits, clockDigits, List.append_assoc, List.cons_append]
  rw [ofList_fixedDigits_lt left.yearTerm_lt_million right.yearTerm_lt_million, yearTerm_lt_iff,
    yearTerm_eq_iff, ofList_mark_lt, ofList_fixedDigits_lt month month', ofList_mark_lt,
    ofList_fixedDigits_lt day day', ofList_mark_lt, ofList_fixedDigits_lt hour hour',
    ofList_mark_lt, ofList_fixedDigits_lt minute minute', ofList_mark_lt,
    ofList_fixedDigits_lt second second', ofList_mark_lt, lastDigits]

/-- Terms are compared as their timestamps are. -/
theorem compare_term (left right : Timestamp) :
    compare left.term right.term = compare left right := by
  cases order : compare left right with
  | lt => exact compare_lt_iff_lt.mpr (term_lt_iff.mpr order)
  | eq => rw [Std.LawfulEqOrd.eq_of_compare order, Std.compare_self]
  | gt =>
    rw [Std.OrientedCmp.gt_iff_lt] at order
    exact compare_gt_iff_gt.mpr (term_lt_iff.mpr order)

end NodeQuery.Timestamp
