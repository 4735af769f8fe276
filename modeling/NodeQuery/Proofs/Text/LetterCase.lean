import Mathlib
import NodeQuery.Text.Alphanumeric
import NodeQuery.Text.LetterCase

/-! Lower-case forms. A lower-case form is final, and a shift leads from any character to an
alphanumeric one that is not upper case. The tables are checked run by run: every shifted run lies
in a block of alphabetic characters, and apart from all upper-case and all shifted ones. -/

namespace NodeQuery.Text

namespace CodeRun

variable {run block other : CodeRun} {code : Nat}

theorem covers_iff : run.covers code = true ↔
    run.first ≤ code ∧ code ≤ run.last ∧ (code - run.first) % run.step = 0 := by
  simp [covers, and_assoc]

/-! The relations between runs are Boolean and compare numbers by the operations that the kernel has
built in, since they are decided for every pair of runs. -/

/-- All codes of the run belong to a block of neighbours. -/
def within (run block : CodeRun) : Bool :=
  Nat.ble block.first run.first && Nat.ble run.last block.last && Nat.beq block.step 1

/-- All codes have the same parity. -/
def alternates (run : CodeRun) : Bool := Nat.beq run.step 2 || Nat.beq run.first run.last

/-- One run lies below the other, or their codes have different parities. -/
def apart (run other : CodeRun) : Bool :=
  Nat.blt run.last other.first || Nat.blt other.last run.first ||
    run.alternates && other.alternates && !Nat.beq (run.first % 2) (other.first % 2)

theorem covers_of_within (inside : run.within block = true) (covers : run.covers code = true) :
    block.covers code = true := by
  simp only [within, Bool.and_eq_true, Nat.ble_eq, Nat.beq_eq] at inside
  obtain ⟨⟨lower, upper⟩, dense⟩ := inside
  obtain ⟨above, below, -⟩ := covers_iff.mp covers
  exact covers_iff.mpr ⟨by omega, by omega, by rw [dense, Nat.mod_one]⟩

theorem mod_two_of_alternates (even : run.alternates = true) (covers : run.covers code = true) :
    code % 2 = run.first % 2 := by
  simp only [alternates, Bool.or_eq_true, Nat.beq_eq] at even
  obtain ⟨above, below, stepped⟩ := covers_iff.mp covers
  rcases even with two | single
  · rw [two] at stepped
    omega
  · rw [show code = run.first by omega]

theorem not_covers_of_apart (disjoint : run.apart other = true) (covers : run.covers code = true) :
    other.covers code = false := by
  simp only [apart, Bool.or_eq_true, Bool.and_eq_true, Nat.blt_eq, Bool.not_eq_true'] at disjoint
  by_contra coversToo
  rw [Bool.not_eq_false] at coversToo
  obtain ⟨above, below, -⟩ := covers_iff.mp covers
  obtain ⟨aboveToo, belowToo, -⟩ := covers_iff.mp coversToo
  rcases disjoint with (lower | higher) | ⟨⟨even, evenToo⟩, differ⟩
  · omega
  · omega
  · exact Nat.ne_of_beq_eq_false differ ((mod_two_of_alternates even covers).symm.trans
      (mod_two_of_alternates evenToo coversToo))

end CodeRun

variable {runs : List CodeRun} {code : Nat}

theorem exists_covers_of_covered (found : covered runs code = true) :
    ∃ run ∈ runs, run.covers code = true := by
  induction runs with
  | nil => cases found
  | cons run rest ih =>
    unfold covered at found
    split at found
    · cases found
    · rcases Bool.or_eq_true_iff.mp found with here | later
      · exact ⟨run, List.mem_cons_self, here⟩
      · obtain ⟨other, listed, covers⟩ := ih later
        exact ⟨other, List.mem_cons_of_mem _ listed, covers⟩

/-- The search through ascending runs does not end too early. -/
theorem covered_of_mem {run : CodeRun}
    (ascending : runs.Pairwise fun earlier later => earlier.first ≤ later.first)
    (listed : run ∈ runs) (covers : run.covers code = true) : covered runs code = true := by
  obtain ⟨above, -⟩ := CodeRun.covers_iff.mp covers
  induction runs with
  | nil => cases listed
  | cons other rest ih =>
    obtain ⟨before, ascendingRest⟩ := List.pairwise_cons.mp ascending
    unfold covered
    rcases List.mem_cons.mp listed with rfl | later
    · rw [if_neg (by omega), covers, Bool.true_or]
    · have started := before run later
      rw [if_neg (by omega), ih ascendingRest later, Bool.or_true]

theorem ascending_alphabeticRuns :
    alphabeticRuns.Pairwise fun earlier later => earlier.first ≤ later.first := by
  have : IsTrans CodeRun fun earlier later => earlier.first ≤ later.first := ⟨fun _ _ _ => le_trans⟩
  exact List.isChain_iff_pairwise.mp (by decide +kernel)

namespace CaseShift

/-- Where a run is shifted to. -/
def image (shift : CaseShift) : CodeRun :=
  ⟨(shift.run.first + shift.offset).toNat, (shift.run.last + shift.offset).toNat, shift.run.step⟩

/-- The image consists of characters that are alphabetic, not upper case and not shifted. -/
structure Lowers (shift : CaseShift) : Prop where
  valid : shift.image.last < 0xD800 ∨ 0xDFFF < shift.image.first ∧ shift.image.last < 0x110000
  alphabetic : ∃ block ∈ alphabeticRuns, shift.image.within block = true
  notUppercase : ∀ run ∈ uppercaseRuns, shift.image.apart run = true
  notShifted : ∀ other ∈ lowercaseShifts, shift.image.apart other.run = true

def lowers (shift : CaseShift) : Bool :=
  (Nat.blt shift.image.last 0xD800 ||
    Nat.blt 0xDFFF shift.image.first && Nat.blt shift.image.last 0x110000) &&
  alphabeticRuns.any shift.image.within && uppercaseRuns.all shift.image.apart &&
  lowercaseShifts.all fun other => shift.image.apart other.run

theorem all_lowers : lowercaseShifts.all lowers = true := by
  decide +kernel

theorem all_natural : ∀ shift ∈ lowercaseShifts, 0 ≤ shift.run.first + shift.offset := by
  decide +kernel

variable {shift : CaseShift} {code : Nat}

theorem lowers_of_mem (listed : shift ∈ lowercaseShifts) : shift.Lowers := by
  have checked := List.all_eq_true.mp all_lowers shift listed
  simp only [lowers, Bool.and_eq_true, Bool.or_eq_true, Nat.blt_eq, List.any_eq_true,
    List.all_eq_true] at checked
  obtain ⟨⟨⟨valid, alphabetic⟩, notUppercase⟩, notShifted⟩ := checked
  exact ⟨valid, alphabetic, notUppercase, notShifted⟩

theorem covers_image (listed : shift ∈ lowercaseShifts) (covers : shift.run.covers code = true) :
    shift.image.covers (code + shift.offset).toNat = true := by
  have natural := all_natural shift listed
  obtain ⟨above, below, stepped⟩ := CodeRun.covers_iff.mp covers
  simp only [CodeRun.covers_iff, image]
  refine ⟨by omega, by omega, ?_⟩
  rw [← stepped]
  congr 1
  omega

theorem isValidChar_of_image (listed : shift ∈ lowercaseShifts)
    (covers : shift.image.covers code = true) : code.isValidChar := by
  obtain ⟨above, below, -⟩ := CodeRun.covers_iff.mp covers
  rcases (lowers_of_mem listed).valid with low | ⟨high, bounded⟩
  · exact .inl (by omega)
  · exact .inr ⟨by omega, by omega⟩

variable {char : Char}

theorem isAlphabetic_of_image (listed : shift ∈ lowercaseShifts)
    (covers : shift.image.covers char.toNat = true) : isAlphabetic char = true := by
  obtain ⟨block, inTable, inside⟩ := (lowers_of_mem listed).alphabetic
  exact covered_of_mem ascending_alphabeticRuns inTable (CodeRun.covers_of_within inside covers)

theorem isUppercase_of_image (listed : shift ∈ lowercaseShifts)
    (covers : shift.image.covers char.toNat = true) : isUppercase char = false := by
  by_contra upper
  rw [Bool.not_eq_false] at upper
  obtain ⟨run, inTable, coversToo⟩ := exists_covers_of_covered upper
  have apart := (lowers_of_mem listed).notUppercase run inTable
  rw [CodeRun.not_covers_of_apart apart covers] at coversToo
  cases coversToo

theorem toLowercase_of_image (listed : shift ∈ lowercaseShifts)
    (covers : shift.image.covers char.toNat = true) : toLowercase char = [char] := by
  have plain : char ≠ '\u0130' := by
    rintro rfl
    have dotted : isUppercase '\u0130' = true := by decide +kernel
    rw [isUppercase_of_image listed covers] at dotted
    cases dotted
  have notShifted : lowercaseShifts.find? (·.run.covers char.toNat) = none := by
    rw [List.find?_eq_none]
    intro other inTable
    have apart := (lowers_of_mem listed).notShifted other inTable
    rw [CodeRun.not_covers_of_apart apart covers]
    exact Bool.false_ne_true
  unfold toLowercase
  rw [if_neg plain, notShifted]

end CaseShift

variable {char lower : Char}

/-- A character is shifted, or its own lower-case form, or the exception. -/
theorem cases_of_mem_toLowercase (member : lower ∈ toLowercase char) :
    (∃ shift ∈ lowercaseShifts, shift.image.covers lower.toNat = true) ∨
      toLowercase char = [char] ∧ lower = char ∨
      char = '\u0130' ∧ (lower = 'i' ∨ lower = '\u0307') := by
  unfold toLowercase at member ⊢
  split at member
  · next dotted => exact .inr (.inr ⟨dotted, by simpa using member⟩)
  · next plain =>
    rw [if_neg plain]
    split at member
    · next shift found =>
      have listed := List.mem_of_find?_eq_some found
      have chosen : shift.run.covers char.toNat = true := by
        simpa using List.find?_some found
      have covers := CaseShift.covers_image listed chosen
      have code : lower.toNat = (char.toNat + shift.offset).toNat := by
        rw [List.mem_singleton.mp member, Char.toNat_ofNat,
          if_pos (CaseShift.isValidChar_of_image listed covers)]
      exact .inl ⟨shift, listed, code ▸ covers⟩
    · exact .inr (.inl ⟨rfl, List.mem_singleton.mp member⟩)

/-- A lower-case form has no other lower-case form. -/
theorem toLowercase_of_mem (member : lower ∈ toLowercase char) : toLowercase lower = [lower] := by
  rcases cases_of_mem_toLowercase member with ⟨shift, listed, covers⟩ | ⟨own, rfl⟩ | ⟨-, rfl | rfl⟩
  · exact CaseShift.toLowercase_of_image listed covers
  · exact own
  · decide +kernel
  · decide +kernel

theorem isAlphanumeric_of_mem_toLowercase (plain : char ≠ '\u0130')
    (member : lower ∈ toLowercase char) (alphanumeric : isAlphanumeric char = true) :
    isAlphanumeric lower = true := by
  rcases cases_of_mem_toLowercase member with ⟨shift, listed, covers⟩ | ⟨-, rfl⟩ | ⟨dotted, -⟩
  · unfold isAlphanumeric
    rw [CaseShift.isAlphabetic_of_image listed covers, Bool.true_or]
  · exact alphanumeric
  · exact absurd dotted plain

/-- Only a capital without a lower-case form stays upper case. -/
theorem isUppercase_of_mem_toLowercase (member : lower ∈ toLowercase char)
    (upper : isUppercase lower = true) : toLowercase char = [char] ∧ lower = char := by
  rcases cases_of_mem_toLowercase member with ⟨shift, listed, covers⟩ | own | ⟨-, rfl | rfl⟩
  · rw [CaseShift.isUppercase_of_image listed covers] at upper
    cases upper
  · exact own
  · exact absurd upper (by decide +kernel)
  · exact absurd upper (by decide +kernel)

end NodeQuery.Text
