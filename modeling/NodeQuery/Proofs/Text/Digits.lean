import NodeQuery.Proofs.Text.Order
import NodeQuery.Uuid
import NodeQuery.Text.Decimal

/-! What numbers are written as. The value of the digits of a number is the number, so different
numbers are written differently; and numbers with the same number of digits are ordered as their
digits are. -/

namespace NodeQuery.Text

theorem digitChar_lt_iff : ∀ left < 10, ∀ right < 10,
    (digitChar left < digitChar right ↔ left < right) := by decide

theorem digitChar_inj : ∀ left < 10, ∀ right < 10,
    (digitChar left = digitChar right ↔ left = right) := by decide

theorem digitValue_digitChar : ∀ digit < 10, digitValue (digitChar digit) = digit := by decide

theorem isDigit_digitChar : ∀ digit < 10, isDigit (digitChar digit) = true := by decide

theorem hexDigit_inj : ∀ left < 16, ∀ right < 16,
    (hexDigit left = hexDigit right ↔ left = right) := by decide

theorem hexDigit_ne_hyphen : ∀ digit < 16, hexDigit digit ≠ '-' := by decide

theorem decimalValue_append_digit (digits : List Char) (digit : Char) :
    decimalValue (digits ++ [digit]) = 10 * decimalValue digits + digitValue digit := by
  simp [decimalValue, List.foldl_append]

theorem decimalValue_decimalDigits (number : Nat) :
    decimalValue (decimalDigits number) = number := by
  induction number using Nat.strong_induction_on with
  | _ number ih =>
    unfold decimalDigits
    split
    · next small =>
      rw [← List.nil_append [digitChar number], decimalValue_append_digit,
        digitValue_digitChar number small]
      simp [decimalValue]
    · rw [decimalValue_append_digit, ih (number / 10) (by omega),
        digitValue_digitChar _ (Nat.mod_lt _ (by decide))]
      omega

theorem isDigit_of_mem_decimalDigits {number : Nat} {char : Char}
    (member : char ∈ decimalDigits number) : isDigit char = true := by
  induction number using Nat.strong_induction_on with
  | _ number ih =>
    unfold decimalDigits at member
    split at member
    · next small =>
      rw [List.mem_singleton.mp member]
      exact isDigit_digitChar number small
    · rcases List.mem_append.mp member with earlier | last
      · exact ih (number / 10) (by omega) earlier
      · rw [List.mem_singleton.mp last]
        exact isDigit_digitChar _ (Nat.mod_lt _ (by decide))

theorem naturalText_injective : Function.Injective naturalText := by
  intro left right same
  rw [naturalText, naturalText, String.ofList_inj] at same
  rw [← decimalValue_decimalDigits left, same, decimalValue_decimalDigits]

theorem minus_append_ne_naturalText (text : String) (number : Nat) :
    "-" ++ text ≠ naturalText number := by
  intro same
  have member : '-' ∈ decimalDigits number := by
    have chars := congrArg String.toList same
    unfold naturalText at chars
    rw [String.toList_ofList] at chars
    rw [← chars, String.toList_append]
    exact List.mem_append_left _ (by decide)
  exact absurd (isDigit_of_mem_decimalDigits member) (by decide)

theorem integerText_injective : Function.Injective integerText := by
  intro left right same
  unfold integerText at same
  split at same
  · split at same
    · have absolute := naturalText_injective (String.append_right_inj _ |>.mp same)
      omega
    · exact absurd same (minus_append_ne_naturalText _ _)
  · split at same
    · exact absurd same.symm (minus_append_ne_naturalText _ _)
    · have absolute := naturalText_injective same
      omega

/-- In front of a text, as many digits as the number needs decide the order. -/
theorem ofList_fixedDigits_lt {width left right : Nat} {lefts rights : List Char}
    (leftFits : left < 10 ^ width) (rightFits : right < 10 ^ width) :
    String.ofList (fixedDigits width left ++ lefts) <
        String.ofList (fixedDigits width right ++ rights) ↔
      left < right ∨ left = right ∧ String.ofList lefts < String.ofList rights := by
  induction width generalizing left right lefts rights with
  | zero =>
    have none : left = 0 ∧ right = 0 := by omega
    simp [fixedDigits, none]
  | succ width ih =>
    rw [pow_succ] at leftFits rightFits
    simp only [fixedDigits, List.append_assoc, List.singleton_append]
    rw [ih (by omega) (by omega), ofList_cons_lt,
      digitChar_lt_iff _ (Nat.mod_lt _ (by decide)) _ (Nat.mod_lt _ (by decide)),
      digitChar_inj _ (Nat.mod_lt _ (by decide)) _ (Nat.mod_lt _ (by decide))]
    constructor
    · intro given
      rcases given with less | ⟨same, less | ⟨last, rest⟩⟩
      · exact .inl (by omega)
      · exact .inl (by omega)
      · exact .inr ⟨by omega, rest⟩
    · intro given
      rcases given with less | ⟨rfl, rest⟩
      · omega
      · exact .inr ⟨rfl, .inr ⟨rfl, rest⟩⟩

theorem hexDigits_inj {width left right : Nat} (leftFits : left < 16 ^ width)
    (rightFits : right < 16 ^ width) (same : hexDigits width left = hexDigits width right) :
    left = right := by
  induction width generalizing left right with
  | zero => omega
  | succ width ih =>
    rw [pow_succ] at leftFits rightFits
    obtain ⟨front, last⟩ := List.append_inj' same rfl
    have quotients := ih (by omega) (by omega) front
    have digits := (hexDigit_inj _ (Nat.mod_lt _ (by decide)) _ (Nat.mod_lt _ (by decide))).mp
      (List.singleton_inj.mp last)
    omega

theorem hyphen_notMem_hexDigits (width number : Nat) : '-' ∉ hexDigits width number := by
  induction width generalizing number with
  | zero => exact List.not_mem_nil
  | succ width ih =>
    intro member
    rcases List.mem_append.mp member with earlier | last
    · exact ih _ earlier
    · exact hexDigit_ne_hyphen _ (Nat.mod_lt _ (by decide)) (List.mem_singleton.mp last).symm

end NodeQuery.Text

namespace NodeQuery.Uuid

open Text

theorem filter_hyphenated (sizes : List Nat) (digits : List Char) :
    (hyphenated sizes digits).filter (· ≠ '-') = digits.filter (· ≠ '-') := by
  fun_induction hyphenated sizes digits with
  | case1 digits => rfl
  | case2 size digits => rfl
  | case3 size sizes digits _ ih =>
    rw [List.filter_append, List.filter_cons_of_neg (by simp), ih, ← List.filter_append,
      List.take_append_drop]

theorem text_injective : Function.Injective text := by
  intro left right same
  rw [text, text, String.ofList_inj] at same
  have digits (uuid : Uuid) : uuid.chars.filter (· ≠ '-') = hexDigits 32 uuid.bits.toNat := by
    unfold chars
    rw [filter_hyphenated, List.filter_eq_self]
    intro char member
    rw [decide_eq_true_eq]
    intro same
    subst same
    exact hyphen_notMem_hexDigits _ _ member
  have fits (uuid : Uuid) : uuid.bits.toNat < 16 ^ 32 := uuid.bits.isLt
  exact eq_of_toNat_eq (hexDigits_inj (fits left) (fits right)
    (by rw [← digits, same, digits]))

end NodeQuery.Uuid
