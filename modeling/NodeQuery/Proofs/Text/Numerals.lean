import NodeQuery.Proofs.Text.Digits
import NodeQuery.Proofs.Text.Reader

/-! Numbers read back from what they are written as. The digits at the front of a text are taken
whole, and their value is the number as far as it fits the digits. -/

namespace NodeQuery.Text

/-! Decimal digits. -/

theorem exists_digitChar {char : Char} (digit : isDigit char = true) :
    ∃ value < 10, char = digitChar value := by
  simp only [isDigit, Bool.and_eq_true, decide_eq_true_eq, Char.le_def, UInt32.le_iff_toNat_le]
    at digit
  obtain ⟨least, most⟩ := digit
  change 48 ≤ char.toNat at least
  change char.toNat ≤ 57 at most
  refine ⟨char.toNat - 48, by omega, ?_⟩
  rw [digitChar, show '0'.toNat + (char.toNat - 48) = char.toNat by
    change 48 + _ = _
    omega, Char.ofNat_toNat]

theorem decimalDigits_ne_nil (number : Nat) : decimalDigits number ≠ [] := by
  unfold decimalDigits
  split <;> simp

theorem decimalValue_append (left right : List Char) :
    decimalValue (left ++ right) = decimalValue left * 10 ^ right.length + decimalValue right := by
  induction right using List.reverseRecOn with
  | nil => simp [decimalValue]
  | append_singleton right digit ih =>
    rw [← List.append_assoc, decimalValue_append_digit, decimalValue_append_digit, ih,
      List.length_append, List.length_singleton, pow_succ]
    ring

theorem decimalValue_replicate_zero (count : Nat) :
    decimalValue (List.replicate count '0') = 0 := by
  induction count with
  | zero => rfl
  | succ count ih =>
    rw [List.replicate_succ', decimalValue_append_digit, ih]
    rfl

theorem decimalValue_paddedDigits (width number : Nat) :
    decimalValue (paddedDigits width number) = number := by
  rw [paddedDigits, decimalValue_append, decimalValue_replicate_zero, Nat.zero_mul, Nat.zero_add,
    decimalValue_decimalDigits]

theorem isDigit_of_mem_paddedDigits {width number : Nat} {char : Char}
    (member : char ∈ paddedDigits width number) : isDigit char = true := by
  rcases List.mem_append.mp member with zero | digit
  · rw [List.eq_of_mem_replicate zero]
    rfl
  · exact isDigit_of_mem_decimalDigits digit

theorem paddedDigits_ne_nil (width number : Nat) : paddedDigits width number ≠ [] :=
  List.append_ne_nil_of_right_ne_nil _ (decimalDigits_ne_nil number)

theorem length_fixedDigits (width number : Nat) : (fixedDigits width number).length = width := by
  induction width generalizing number with
  | zero => rfl
  | succ width ih => simp [fixedDigits, ih]

theorem decimalValue_fixedDigits (width number : Nat) :
    decimalValue (fixedDigits width number) = number % 10 ^ width := by
  induction width generalizing number with
  | zero => simp [fixedDigits, decimalValue, Nat.mod_one]
  | succ width ih =>
    rw [fixedDigits, decimalValue_append_digit, ih,
      digitValue_digitChar _ (Nat.mod_lt _ (by decide)), pow_succ, Nat.mul_comm (10 ^ width),
      Nat.mod_mul, Nat.add_comm]

theorem isDigit_of_mem_fixedDigits {width number : Nat} {char : Char}
    (member : char ∈ fixedDigits width number) : isDigit char = true := by
  induction width generalizing number with
  | zero => cases member
  | succ width ih =>
    rcases List.mem_append.mp member with earlier | last
    · exact ih earlier
    · rw [List.mem_singleton.mp last]
      exact isDigit_digitChar _ (Nat.mod_lt _ (by decide))

theorem stops_take {accepts : Char → Bool} {rest : List Char} (stops : Stops accepts rest)
    (count : Nat) : Stops accepts (rest.take count) := by
  intro char first
  rw [List.head?_take] at first
  split at first
  · cases first
  · exact stops char first

/-- Digits are taken whole where the number ends with them or no more of them are wanted. -/
theorem leadingNumber_append {most : Nat} {digits rest : List Char} (nonempty : digits ≠ [])
    (inside : ∀ char ∈ digits, isDigit char = true) (fits : digits.length ≤ most)
    (ended : digits.length = most ∨ Stops isDigit rest) :
    leadingNumber most (digits ++ rest) = some (decimalValue digits, rest) := by
  have stops : Stops isDigit (rest.take (most - digits.length)) := by
    rcases ended with full | stops
    · rw [full, Nat.sub_self]
      exact stops_nil isDigit
    · exact stops_take stops _
  unfold leadingNumber
  rw [List.take_append, List.take_of_length_le fits, takeWhile_of_stops inside stops]
  cases digits with
  | nil => exact absurd rfl nonempty
  | cons digit digits => simp

/-! Hexadecimal digits. -/

theorem decimalValue_lt {digits : List Char} (inside : ∀ char ∈ digits, isDigit char = true) :
    decimalValue digits < 10 ^ digits.length := by
  induction digits using List.reverseRecOn with
  | nil => decide
  | append_singleton digits char ih =>
    obtain ⟨others, last⟩ := List.forall_mem_append.mp inside
    obtain ⟨digit, small, rfl⟩ := exists_digitChar (last char List.mem_cons_self)
    have front := ih others
    rw [decimalValue_append_digit, digitValue_digitChar digit small, List.length_append,
      List.length_singleton, Nat.pow_succ]
    omega

theorem lt_of_leadingNumber {most number : Nat} {text rest : List Char}
    (read : leadingNumber most text = some (number, rest)) : number < 10 ^ most := by
  have taken : ((text.take most).takeWhile isDigit).length ≤ most :=
    (List.takeWhile_prefix _).length_le.trans (List.length_take_le most text)
  have bounded : decimalValue ((text.take most).takeWhile isDigit) < 10 ^ most :=
    (decimalValue_lt fun _ => List.mem_takeWhile_imp).trans_le
      (Nat.pow_le_pow_right (by decide) taken)
  unfold leadingNumber at read
  split at read
  · cases read
  · next digits found =>
    cases read
    exact bounded

theorem hexValue?_hexDigit : ∀ digit < 16, hexValue? (hexDigit digit) = some digit := by decide

theorem hexNumber?_append (value : Nat) (left right : List Char) :
    hexNumber? value (left ++ right) = (hexNumber? value left).bind (hexNumber? · right) := by
  induction left generalizing value with
  | nil => rfl
  | cons char left ih =>
    simp only [List.cons_append, hexNumber?, Option.bind_assoc, ih]

theorem length_hexDigits (width number : Nat) : (hexDigits width number).length = width := by
  induction width generalizing number with
  | zero => rfl
  | succ width ih => simp [hexDigits, ih]

theorem hexNumber?_hexDigits (width number : Nat) :
    hexNumber? 0 (hexDigits width number) = some (number % 16 ^ width) := by
  induction width generalizing number with
  | zero => simp [hexDigits, hexNumber?, Nat.mod_one]
  | succ width ih =>
    rw [hexDigits, hexNumber?_append, ih, Option.bind_some, hexNumber?,
      hexValue?_hexDigit _ (Nat.mod_lt _ (by decide)), Option.bind_some, hexNumber?, pow_succ,
      Nat.mul_comm (16 ^ width), Nat.mod_mul, Nat.add_comm]

theorem exists_hexDigit_of_mem {width number : Nat} {char : Char}
    (member : char ∈ hexDigits width number) : ∃ digit < 16, char = hexDigit digit := by
  induction width generalizing number with
  | zero => cases member
  | succ width ih =>
    rcases List.mem_append.mp member with earlier | last
    · exact ih earlier
    · exact ⟨number % 16, Nat.mod_lt _ (by decide), List.mem_singleton.mp last⟩

end NodeQuery.Text

namespace NodeQuery.Uuid

open Text

theorem unhyphenated?_hyphenated {sizes : List Nat} {digits : List Char}
    (total : digits.length = sizes.sum) :
    unhyphenated? sizes (hyphenated sizes digits) = some digits := by
  fun_induction hyphenated sizes digits with
  | case1 digits =>
    rw [List.length_eq_zero_iff.mp total]
    rfl
  | case2 size digits =>
    rw [List.sum_singleton] at total
    simp [unhyphenated?, total]
  | case3 size sizes digits several ih =>
    rw [List.sum_cons] at total
    have front : (digits.take size).length = size := by
      rw [List.length_take]
      omega
    have later := ih (by rw [List.length_drop]; omega)
    rw [unhyphenated?, List.drop_left' front, List.take_left' front]
    · simp only [later, Option.map_some, List.take_append_drop]
    · exact several

theorem length_hyphenated {sizes : List Nat} {digits : List Char} (some : sizes ≠ [])
    (total : digits.length = sizes.sum) :
    (hyphenated sizes digits).length + 1 = sizes.sum + sizes.length := by
  fun_induction hyphenated sizes digits with
  | case1 digits => exact absurd rfl some
  | case2 size digits => simpa using total
  | case3 size sizes digits several ih =>
    rw [List.sum_cons] at total
    have later := ih (by rintro rfl; exact several rfl) (by rw [List.length_drop]; omega)
    simp only [List.length_append, List.length_take, List.length_cons, List.sum_cons] at later ⊢
    omega

theorem length_chars (uuid : Uuid) : uuid.chars.length = 36 := by
  have sizes : groupSizes ≠ [] := List.cons_ne_nil _ _
  exact Nat.succ.inj (length_hyphenated sizes (length_hexDigits 32 uuid.bits.toNat))

theorem ofHyphenated?_chars (uuid : Uuid) : ofHyphenated? uuid.chars = some uuid := by
  have fits : uuid.bits.toNat % 16 ^ 32 = uuid.bits.toNat := Nat.mod_eq_of_lt uuid.bits.isLt
  rw [ofHyphenated?, chars, unhyphenated?_hyphenated (length_hexDigits 32 uuid.bits.toNat),
    Option.bind_some, ofDigits?, if_pos (length_hexDigits 32 uuid.bits.toNat),
    hexNumber?_hexDigits, fits, Option.map_some, ofNat, BitVec.ofNat_toNat, BitVec.setWidth_eq]

theorem ofText?_chars (uuid : Uuid) : ofText? uuid.chars = some uuid := by
  have notBare : ofDigits? uuid.chars = none := by
    rw [ofDigits?, length_chars, if_neg (by decide)]
  simp [ofText?, notBare, ofHyphenated?_chars]

theorem mem_chars {uuid : Uuid} {char : Char} (member : char ∈ uuid.chars) :
    char = '-' ∨ ∃ digit < 16, char = hexDigit digit := by
  by_cases hyphen : char = '-'
  · exact .inl hyphen
  · have kept : char ∈ uuid.chars.filter (· ≠ '-') :=
      List.mem_filter.mpr ⟨member, decide_eq_true hyphen⟩
    rw [chars, filter_hyphenated] at kept
    exact .inr (exists_hexDigit_of_mem (List.mem_filter.mp kept).1)

end NodeQuery.Uuid
