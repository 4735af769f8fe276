import NodeQuery.Proofs.Text.Pieces

/-! Words as texts. A word is the lower-cased form of a piece that is not cut further. Taken as a
text of its own it may be cut again, since lower-casing can put in a character that is not
alphanumeric, and can leave a capital behind a letter that it made small. -/

namespace NodeQuery.Text

variable {letters : List Char}

theorem mem_completed {pending : List Char} {word : String} :
    word ∈ completed pending ↔ isWord pending = true ∧ word = String.ofList pending := by
  unfold completed
  split <;> simp [*]

/-- What is not cut makes one word, if it makes a word at all. -/
theorem words_of_unbroken (unbroken : Unbroken letters) :
    words (String.ofList letters) = completed (letters.flatMap toLowercase) := by
  rw [words_eq_pieceWords, String.toList_ofList, pieceWords_of_unbroken unbroken]

theorem flatMap_toLowercase_of_fixed (fixed : ∀ letter ∈ letters, toLowercase letter = [letter]) :
    letters.flatMap toLowercase = letters :=
  (List.flatMap_congr fixed).trans (List.flatMap_singleton' letters)

section

variable {text word : String}

theorem toLowercase_of_mem_word (member : word ∈ words text) :
    ∀ letter ∈ word.toList, toLowercase letter = [letter] := by
  obtain ⟨origin, -, -, made⟩ := exists_piece_of_mem_words member
  obtain ⟨-, rfl⟩ := mem_completed.mp made
  rw [String.toList_ofList]
  intro letter inside
  obtain ⟨char, -, lower⟩ := List.mem_flatMap.mp inside
  exact toLowercase_of_mem lower

/-- Every word is the only word of some text. -/
theorem exists_words_eq_singleton (member : word ∈ words text) :
    ∃ origin : String, words origin = [word] := by
  obtain ⟨origin, -, unbroken, made⟩ := exists_piece_of_mem_words member
  obtain ⟨isWord, rfl⟩ := mem_completed.mp made
  refine ⟨String.ofList origin, ?_⟩
  rw [words_of_unbroken unbroken, completed, if_pos isWord]

/-- A word that is not cut is its own only word. -/
theorem words_self_of_unbroken (member : word ∈ words text) (unbroken : Unbroken word.toList) :
    words word = [word] := by
  obtain ⟨origin, -, -, made⟩ := exists_piece_of_mem_words member
  obtain ⟨isWord, same⟩ := mem_completed.mp made
  have letters : word.toList = origin.flatMap toLowercase := by rw [same, String.toList_ofList]
  rw [← String.ofList_toList (s := word), words_of_unbroken unbroken,
    flatMap_toLowercase_of_fixed (toLowercase_of_mem_word member), completed, letters,
    if_pos isWord]

/-- A word that is among its own words is not cut. -/
theorem unbroken_of_mem_words_self (member : word ∈ words text) (again : word ∈ words word) :
    Unbroken word.toList := by
  obtain ⟨origin, inside, unbroken, made⟩ := exists_piece_of_mem_words again
  obtain ⟨-, same⟩ := mem_completed.mp made
  have fixed : ∀ letter ∈ origin, toLowercase letter = [letter] :=
    fun letter listed => toLowercase_of_mem_word member letter (inside.subset listed)
  rw [flatMap_toLowercase_of_fixed fixed] at same
  rwa [same, String.toList_ofList]

/-- The bold capital B has no lower-case form. -/
example : words "A𝐁c" = ["a𝐁c"] ∧ ¬Unbroken "a𝐁c".toList := by
  decide +kernel

/-- Words are not cut if every capital has a lower-case form of one character. -/
theorem unbroken_of_plain (member : word ∈ words text)
    (plain : ∀ char ∈ text.toList, char ≠ '\u0130' ∧
      (isUppercase char = true → toLowercase char ≠ [char])) : Unbroken word.toList := by
  obtain ⟨origin, inside, unbroken, made⟩ := exists_piece_of_mem_words member
  obtain ⟨-, rfl⟩ := mem_completed.mp made
  rw [String.toList_ofList]
  have small : ∀ lower ∈ origin.flatMap toLowercase, isUppercase lower = false := by
    intro lower listed
    obtain ⟨char, piece, form⟩ := List.mem_flatMap.mp listed
    by_contra upper
    rw [Bool.not_eq_false] at upper
    obtain ⟨own, rfl⟩ := isUppercase_of_mem_toLowercase form upper
    exact (plain lower (inside.subset piece)).2 upper own
  refine ⟨List.all_eq_true.mpr fun lower listed => ?_, ?_⟩
  · obtain ⟨char, piece, form⟩ := List.mem_flatMap.mp listed
    exact isAlphanumeric_of_mem_toLowercase (plain char (inside.subset piece)).1 form
      (List.all_eq_true.mp unbroken.1 char piece)
  · rw [List.isChain_iff_getElem]
    intro index bound _
    exact small _ (List.getElem_mem _)

end

end NodeQuery.Text
