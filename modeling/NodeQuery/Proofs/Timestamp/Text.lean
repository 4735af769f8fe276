import NodeQuery.Proofs.Text.Numerals
import NodeQuery.Proofs.Timestamp.Term

/-! Timestamps read back from their text form. A year up to 9999 is written without a plus sign, so
the text consists of characters that may stand in a query. -/

namespace NodeQuery.Timestamp

open Text

theorem isWhiteSpace_digitChar : ∀ digit < 10, isWhiteSpace (digitChar digit) = false := by decide

theorem digitChar_ne_sign : ∀ digit < 10, digitChar digit ≠ '-' ∧ digitChar digit ≠ '+' := by
  decide

theorem skipWhiteSpace_cons {char : Char} (solid : isWhiteSpace char = false)
    (rest : List Char) : skipWhiteSpace (char :: rest) = char :: rest := by
  simp [skipWhiteSpace, solid]

theorem skipWhiteSpace_digits {digits : List Char} (nonempty : digits ≠ [])
    (inside : ∀ char ∈ digits, isDigit char = true) (rest : List Char) :
    skipWhiteSpace (digits ++ rest) = digits ++ rest := by
  cases digits with
  | nil => exact absurd rfl nonempty
  | cons char digits =>
    obtain ⟨digit, small, rfl⟩ := exists_digitChar (inside char List.mem_cons_self)
    exact skipWhiteSpace_cons (isWhiteSpace_digitChar digit small) _

theorem expectMark_cons {mark : Char} (solid : isWhiteSpace mark = false) (rest : List Char) :
    expectMark mark (mark :: rest) = some rest := by
  simp [expectMark, skipWhiteSpace_cons solid]

theorem leadingPair_append {number : Nat} (fits : number < 10 ^ 2) (rest : List Char) :
    leadingPair (fixedDigits 2 number ++ rest) = some (number, rest) := by
  have length := length_fixedDigits 2 number
  have nonempty : fixedDigits 2 number ≠ [] := List.ne_nil_of_length_eq_add_one length
  have inside : ∀ char ∈ fixedDigits 2 number, isDigit char = true :=
    fun _ => isDigit_of_mem_fixedDigits
  rw [leadingPair, skipWhiteSpace_digits nonempty inside,
    leadingNumber_append nonempty inside length.le (.inl length), decimalValue_fixedDigits,
    Nat.mod_eq_of_lt fits]

theorem leadingYear_append {year : Int} (atMost : year ≤ 9999) {rest : List Char}
    (stops : Stops isDigit rest) : leadingYear (yearDigits year ++ rest) = some (year, rest) := by
  unfold yearDigits
  by_cases before : year < 0
  · -- After the sign, all digits up to the mark are taken.
    have inside : ∀ char ∈ paddedDigits 4 year.natAbs, isDigit char = true :=
      fun _ => isDigit_of_mem_paddedDigits
    have read : leadingNumber (paddedDigits 4 year.natAbs ++ rest).length
        (paddedDigits 4 year.natAbs ++ rest) = some (year.natAbs, rest) := by
      rw [leadingNumber_append (paddedDigits_ne_nil 4 year.natAbs) inside
        (by rw [List.length_append]; omega) (.inr stops), decimalValue_paddedDigits]
    rw [if_neg (by omega), if_pos before, List.cons_append, leadingYear,
      skipWhiteSpace_cons (by decide)]
    simp only [read, Option.map_some]
    rw [show -(year.natAbs : Int) = year by omega]
  · -- Without a sign, four digits are taken at most, and there are four.
    have length := length_fixedDigits 4 year.natAbs
    have nonempty : fixedDigits 4 year.natAbs ≠ [] := List.ne_nil_of_length_eq_add_one length
    have inside : ∀ char ∈ fixedDigits 4 year.natAbs, isDigit char = true :=
      fun _ => isDigit_of_mem_fixedDigits
    have read : leadingNumber 4 (fixedDigits 4 year.natAbs ++ rest) = some (year.natAbs, rest) := by
      rw [leadingNumber_append nonempty inside length.le (.inl length), decimalValue_fixedDigits,
        Nat.mod_eq_of_lt (by omega)]
    rw [if_pos (by omega), leadingYear, skipWhiteSpace_digits nonempty inside]
    generalize fixedDigits 4 year.natAbs = digits at *
    cases digits with
    | nil => exact absurd rfl nonempty
    | cons char digits =>
      obtain ⟨digit, small, rfl⟩ := exists_digitChar (inside char List.mem_cons_self)
      obtain ⟨notMinus, notPlus⟩ := digitChar_ne_sign digit small
      simp only [List.cons_append] at read ⊢
      split
      · next same => exact absurd (List.cons.inj same).1 notMinus
      · next same => exact absurd (List.cons.inj same).1 notPlus
      · rw [read, Option.map_some, show (year.natAbs : Int) = year by omega]

/-- A fraction of fewer than nine digits counts as if zeros followed. -/
theorem leadingFraction_fixedDigits {places number : Nat} (some : 0 < places) (atMost : places ≤ 9)
    (fits : number < 10 ^ places) :
    leadingFraction ('.' :: fixedDigits places number) =
      .some (number * 10 ^ (9 - places), []) := by
  have length := length_fixedDigits places number
  have inside : ∀ char ∈ fixedDigits places number, isDigit char = true :=
    fun _ => isDigit_of_mem_fixedDigits
  have value := decimalValue_fixedDigits places number
  rw [Nat.mod_eq_of_lt fits] at value
  have taken := takeWhile_of_stops inside (stops_nil isDigit)
  have dropped := dropWhile_of_stops inside (stops_nil isDigit)
  rw [List.append_nil] at taken dropped
  rw [leadingFraction, taken, dropped]
  generalize fixedDigits places number = digits at *
  cases digits with
  | nil => rw [← length] at some; exact absurd some (Nat.lt_irrefl 0)
  | cons char digits =>
    simp only
    rw [List.take_append, List.take_of_length_le (length.trans_le atMost), List.take_replicate,
      length, Nat.min_eq_left (Nat.sub_le 9 places), decimalValue_append, value,
      decimalValue_replicate_zero, List.length_replicate, Nat.add_zero]

theorem leadingFraction_fractionDigits {nanosecond : Nat}
    (fits : nanosecond < nanosecondsPerSecond) :
    leadingFraction (fractionDigits nanosecond) = some (nanosecond, []) := by
  unfold nanosecondsPerSecond at fits
  unfold fractionDigits
  split
  · next none =>
    rw [none]
    rfl
  · split
    · rw [leadingFraction_fixedDigits (by decide) (by decide) (by omega)]
      congr 2
      omega
    · split
      · rw [leadingFraction_fixedDigits (by decide) (by decide) (by omega)]
        congr 2
        omega
      · rw [leadingFraction_fixedDigits (by decide) (by decide) (by omega)]
        congr 2
        omega

theorem ofFields?_fields (timestamp : Timestamp) :
    ofFields? timestamp.year timestamp.month timestamp.day timestamp.hour timestamp.minute
      timestamp.second timestamp.nanosecond = some timestamp := by
  rw [ofFields?, dif_pos ⟨timestamp.year_bounds, timestamp.month_bounds, timestamp.day_bounds⟩,
    dif_pos timestamp.time_bounds]

/-- A timestamp is read back from its text form. -/
theorem ofDateTime?_charsWith {timestamp : Timestamp} (atMost : timestamp.year ≤ 9999) :
    ofDateTime? (timestamp.charsWith 'T') = some timestamp := by
  obtain ⟨hour, minute, second, nanosecond⟩ := timestamp.time_bounds
  have month : timestamp.month < 100 := by have := timestamp.month_bounds; omega
  have day := timestamp.day_lt_hundred
  have mark (char : Char) (rest : List Char) (plain : isDigit char = false) :
      Stops isDigit (char :: rest) := stops_cons.mpr plain
  have date (rest : List Char) : leadingDate (yearDigits timestamp.year ++
      ('-' :: (fixedDigits 2 timestamp.month ++ '-' :: (fixedDigits 2 timestamp.day ++ rest)))) =
        some ((timestamp.year, timestamp.month, timestamp.day), rest) := by
    simp only [leadingDate, leadingYear_append atMost (mark '-' _ (by decide)), Option.bind_eq_bind,
      Option.bind_some, expectMark_cons (show isWhiteSpace '-' = false by decide),
      leadingPair_append month, leadingPair_append day, Option.pure_def]
  simp only [charsWith, monthDayDigits, clockDigits, List.append_assoc, List.cons_append,
    ofDateTime?, date, Option.bind_eq_bind, Option.bind_some,
    expectMark_cons (show isWhiteSpace 'T' = false by decide),
    expectMark_cons (show isWhiteSpace ':' = false by decide),
    leadingPair_append (hour.trans (by decide)),
    leadingPair_append (minute.trans (by decide)), leadingPair_append (second.trans_lt (by decide)),
    leadingFraction_fractionDigits nanosecond]
  exact (if_pos rfl).trans timestamp.ofFields?_fields

theorem year_of_ofFields? {year : Int} {month day hour minute second nanosecond : Nat}
    {timestamp : Timestamp}
    (given : ofFields? year month day hour minute second nanosecond = some timestamp) :
    timestamp.year = year := by
  unfold ofFields? at given
  split at given
  · split at given
    · cases given
      rfl
    · cases given
  · cases given

/-- A year beyond four digits is written after a plus sign. -/
theorem year_le_of_leadingYear {text rest : List Char} {year : Int} (unsigned : '+' ∉ text)
    (read : leadingYear text = some (year, rest)) : year ≤ 9999 := by
  unfold leadingYear at read
  split at read
  · obtain ⟨⟨number, after⟩, -, same⟩ := Option.map_eq_some_iff.mp read
    cases same
    omega
  · next after skipped =>
    have member : '+' ∈ skipWhiteSpace text := by
      rw [skipped]
      exact List.mem_cons_self
    exact absurd ((List.dropWhile_sublist _).mem member) unsigned
  · obtain ⟨⟨number, after⟩, found, same⟩ := Option.map_eq_some_iff.mp read
    cases same
    have bounded := lt_of_leadingNumber found
    omega

theorem year_le_of_leadingDate {text rest : List Char} {date : Int × Nat × Nat}
    (unsigned : '+' ∉ text) (read : leadingDate text = some (date, rest)) : date.1 ≤ 9999 := by
  simp only [leadingDate, Option.bind_eq_bind, Option.pure_def, Option.bind_eq_some_iff,
    Option.some.injEq, Prod.exists, Prod.mk.injEq] at read
  obtain ⟨year, after, begun, _, _, _, _, _, _, _, _, _, _, rfl, _⟩ := read
  exact year_le_of_leadingYear unsigned begun

/-- A text without a plus sign stands for a timestamp whose text has none either. -/
theorem year_le_of_text {text : List Char} {timestamp : Timestamp} (unsigned : '+' ∉ text)
    (read : (ofDateTime? text <|> ofDate? text) = some timestamp) : timestamp.year ≤ 9999 := by
  rcases (Option.orElse_eq_some _ _ _).mp read with moment | ⟨-, day⟩
  · simp only [ofDateTime?, Option.bind_eq_bind, Option.bind_eq_some_iff, Prod.exists,
      Option.ite_none_right_eq_some] at moment
    obtain ⟨year, _, _, _, date, _, _, _, _, _, _, _, _, _, _, _, _, _, _, _, _, _, _, _,
      given⟩ := moment
    rw [year_of_ofFields? given]
    exact year_le_of_leadingDate unsigned date
  · simp only [ofDate?, Option.bind_eq_bind, Option.bind_eq_some_iff, Prod.exists,
      Option.ite_none_right_eq_some] at day
    obtain ⟨year, _, _, _, date, _, given⟩ := day
    rw [year_of_ofFields? given]
    exact year_le_of_leadingDate unsigned date

end NodeQuery.Timestamp
