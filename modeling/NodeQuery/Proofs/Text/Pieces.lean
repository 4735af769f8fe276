import NodeQuery.Proofs.Text.LetterCase
import NodeQuery.Text.Words

/-! The words of a text by what they are. The runs of alphanumeric characters are cut before every
capital that follows a small letter, and each piece makes the word of its lower-case letters.
Nothing is carried over a cut, so a text can be taken apart wherever there is one. -/

namespace NodeQuery.Text

/-- Every character that is not alphanumeric separates words. -/
def isMark (char : Char) : Bool := !isAlphanumeric char

/-- The runs of alphanumeric characters, each as long as it can be. -/
def runs (text : List Char) : List (List Char) :=
  (text.splitOnP isMark).filter fun run => !run.isEmpty

/-- The run is not cut between two neighbours, unless a capital follows a small letter. -/
def joins (before after : Char) : Bool := !(isLowercase before && isUppercase after)

def pieces (run : List Char) : List (List Char) := run.splitBy joins

/-- The word that a piece makes, unless it is too short or too common. -/
def wordOf? (piece : List Char) : Option String :=
  let word := String.ofList (piece.flatMap toLowercase)
  if word.length < 2 ∨ word ∈ stopwords then none else some word

/-- The words of all pieces of a text. -/
def pieceWords (text : List Char) : List String := ((runs text).flatMap pieces).filterMap wordOf?

/-- Nothing is cut here: all characters are alphanumeric, and none is upper case after a lower-case
one. -/
def Unbroken (letters : List Char) : Prop :=
  letters.all isAlphanumeric = true ∧
    letters.IsChain fun before after => isLowercase before = true → isUppercase after = false

instance (letters : List Char) : Decidable (Unbroken letters) :=
  inferInstanceAs (Decidable (_ ∧ _))

variable {letters piece : List Char} {letter : Char}

theorem unbroken_nil : Unbroken [] := ⟨rfl, .nil⟩

theorem unbroken_singleton (alphanumeric : isAlphanumeric letter = true) : Unbroken [letter] :=
  ⟨List.all_eq_true.mpr (List.forall_mem_singleton.mpr alphanumeric), .singleton letter⟩

theorem unbroken_append_singleton (unbroken : Unbroken letters)
    (alphanumeric : isAlphanumeric letter = true)
    (fits : letters.getLast?.any isLowercase = true → isUppercase letter = false) :
    Unbroken (letters ++ [letter]) := by
  obtain ⟨alphanumerics, chain⟩ := unbroken
  refine ⟨?_, List.isChain_append.mpr ⟨chain, .singleton letter, ?_⟩⟩
  · rw [List.all_append, alphanumerics, List.all_cons, alphanumeric, List.all_nil]
    rfl
  · intro before last after first lower
    cases first
    rw [Option.mem_def.mp last] at fits
    exact fits lower

theorem isMark_eq_false_iff {char : Char} : isMark char = false ↔ isAlphanumeric char = true := by
  rw [isMark, Bool.not_eq_false']

theorem joins_eq_true_iff {before after : Char} :
    joins before after = true ↔ (isLowercase before = true → isUppercase after = false) := by
  rw [joins, Bool.not_eq_true', Bool.and_eq_false_imp]

theorem isMark_of_unbroken (unbroken : Unbroken piece) : ∀ char ∈ piece, isMark char = false :=
  fun char member => isMark_eq_false_iff.mpr (List.all_eq_true.mp unbroken.1 char member)

theorem completed_eq (piece : List Char) :
    completed (piece.flatMap toLowercase) = (wordOf? piece).toList := by
  have word : isWord (piece.flatMap toLowercase) = true ↔
      ¬((String.ofList (piece.flatMap toLowercase)).length < 2 ∨
        String.ofList (piece.flatMap toLowercase) ∈ stopwords) := by
    rw [isWord, Bool.and_eq_true, decide_eq_true_iff, Bool.not_eq_true', List.contains_eq_mem,
      decide_eq_false_iff_not, String.length_ofList, not_or, not_lt, minimumWordLength]
  unfold completed wordOf?
  by_cases made : isWord (piece.flatMap toLowercase) = true
  · rw [if_pos made, if_neg (word.mp made)]
    rfl
  · rw [if_neg made, if_pos (not_not.mp (mt word.mpr made))]
    rfl

/-- What stands on the two sides of a mark has no words in common. -/
theorem pieceWords_append_mark {mark : Char} (apart : isMark mark = true)
    (before after : List Char) :
    pieceWords (before ++ mark :: after) = pieceWords before ++ pieceWords after := by
  unfold pieceWords runs
  rw [List.splitOnP_append_cons before after apart, List.filter_append, List.flatMap_append,
    List.filterMap_append]

theorem runs_of_unbroken (unbroken : Unbroken piece) (nonempty : piece ≠ []) :
    runs piece = [piece] := by
  unfold runs
  rw [List.splitOnP_eq_singleton (isMark_of_unbroken unbroken)]
  simp [nonempty]

theorem pieces_of_unbroken (unbroken : Unbroken piece) (nonempty : piece ≠ []) :
    pieces piece = [piece] :=
  List.splitBy_of_isChain nonempty (unbroken.2.imp fun _ _ => joins_eq_true_iff.mpr)

theorem pieceWords_of_unbroken (unbroken : Unbroken piece) :
    pieceWords piece = completed (piece.flatMap toLowercase) := by
  rw [completed_eq]
  by_cases empty : piece = []
  · subst empty
    rfl
  · unfold pieceWords
    rw [runs_of_unbroken unbroken empty, List.flatMap_singleton,
      pieces_of_unbroken unbroken empty]
    exact List.filterMap_cons

/-- What is put in front of a text without a mark lengthens its first run. -/
theorem exists_splitOnP_append (text : List Char) :
    ∃ first others, ∀ front : List Char, (∀ char ∈ front, isMark char = false) →
      (front ++ text).splitOnP isMark = (front ++ first) :: others := by
  obtain ⟨first, others, split⟩ := List.exists_cons_of_ne_nil (List.splitOnP_ne_nil isMark text)
  refine ⟨first, others, fun front inside => ?_⟩
  induction front with
  | nil => exact split
  | cons char front ih =>
    rw [List.forall_mem_cons] at inside
    rw [List.cons_append, List.splitOnP_cons_eq_if_modifyHead, inside.1, ih inside.2]
    rfl

/-- A capital after a small letter begins words of its own. -/
theorem pieceWords_append_capital (unbroken : Unbroken piece) {capital : Char}
    (alphanumeric : isAlphanumeric capital = true) (upper : isUppercase capital = true)
    (lower : piece.getLast?.any isLowercase = true) (rest : List Char) :
    pieceWords (piece ++ capital :: rest) = pieceWords piece ++ pieceWords (capital :: rest) := by
  have nonempty : piece ≠ [] := by
    rintro rfl
    cases lower
  have inside := isMark_of_unbroken unbroken
  have capitalInside : isMark capital = false := isMark_eq_false_iff.mpr alphanumeric
  have parted : ∀ last ∈ piece.getLast?, joins last capital = false := by
    intro last final
    rw [Option.mem_def.mp final] at lower
    rw [joins, upper, show isLowercase last = true from lower]
    rfl
  obtain ⟨first, others, split⟩ := exists_splitOnP_append rest
  have without := split [capital] (List.forall_mem_singleton.mpr capitalInside)
  have within := split (piece ++ [capital]) (List.forall_mem_append.mpr
    ⟨inside, List.forall_mem_singleton.mpr capitalInside⟩)
  rw [List.append_assoc, List.singleton_append, List.append_assoc, List.singleton_append] at within
  rw [List.singleton_append, List.singleton_append] at without
  have cut : pieces (piece ++ capital :: first) = pieces piece ++ pieces (capital :: first) :=
    List.splitBy_append_cons first parted
  unfold pieceWords
  rw [runs_of_unbroken unbroken nonempty]
  unfold runs
  rw [within, without]
  simp [cut]

/-- The scan holds the piece under way, and its words are those of this piece and the rest. -/
theorem wordsFrom_eq (unbroken : Unbroken piece) (rest : List Char) :
    wordsFrom (piece.flatMap toLowercase) (piece.getLast?.any isLowercase) rest =
      pieceWords (piece ++ rest) := by
  induction rest generalizing piece with
  | nil => rw [wordsFrom, List.append_nil, pieceWords_of_unbroken unbroken]
  | cons char rest ih =>
    unfold wordsFrom
    split
    · next mark =>
      rw [pieceWords_append_mark mark, pieceWords_of_unbroken unbroken]
      exact congrArg _ (ih unbroken_nil)
    · next alphanumeric =>
      rw [Bool.not_eq_true', Bool.not_eq_false] at alphanumeric
      split
      · next capital =>
        obtain ⟨upper, lower⟩ := Bool.and_eq_true_iff.mp capital
        rw [pieceWords_append_capital unbroken alphanumeric upper lower,
          pieceWords_of_unbroken unbroken, ← List.flatMap_singleton toLowercase char]
        exact congrArg _ (ih (unbroken_singleton alphanumeric))
      · next uncut =>
        have fits : piece.getLast?.any isLowercase = true → isUppercase char = false := by
          intro after
          rw [after, Bool.and_true] at uncut
          exact Bool.eq_false_iff.mpr uncut
        have last : (piece ++ [char]).getLast?.any isLowercase = isLowercase char := by
          rw [List.getLast?_concat]
          rfl
        rw [← List.flatMap_singleton toLowercase char, ← List.flatMap_append, ← last,
          ih (unbroken_append_singleton unbroken alphanumeric fits), List.append_assoc,
          List.singleton_append]

theorem words_eq_pieceWords (text : String) : words text = pieceWords text.toList :=
  wordsFrom_eq unbroken_nil text.toList

/-! Where the pieces lie. -/

/-- What is cut out between marks holds none, and the first part stands at the front. -/
theorem parts_of_splitOnP {text first : List Char} {others : List (List Char)}
    (split : text.splitOnP isMark = first :: others) :
    first <+: text ∧ (∀ part ∈ others, part <:+: text) ∧
      ∀ part ∈ first :: others, ∀ char ∈ part, isMark char = false := by
  induction text generalizing first others with
  | nil =>
    cases split
    simp
  | cons char text ih =>
    obtain ⟨next, later, splitRest⟩ :=
      List.exists_cons_of_ne_nil (List.splitOnP_ne_nil isMark text)
    obtain ⟨front, inside, unmarked⟩ := ih splitRest
    have shifted : ∀ part, part <:+: text → part <:+: char :: text :=
      fun _ within => within.trans (List.suffix_cons char text).isInfix
    rw [List.splitOnP_cons_eq_if_modifyHead, splitRest] at split
    split at split
    · cases split
      refine ⟨List.nil_prefix, List.forall_mem_cons.mpr ⟨shifted next front.isInfix, ?_⟩,
        List.forall_mem_cons.mpr ⟨List.forall_mem_nil _, unmarked⟩⟩
      exact fun part member => shifted part (inside part member)
    · next plain =>
      cases split
      rw [List.forall_mem_cons] at unmarked
      refine ⟨List.cons_prefix_cons.mpr ⟨rfl, front⟩,
        fun part member => shifted part (inside part member),
        List.forall_mem_cons.mpr ⟨List.forall_mem_cons.mpr ⟨?_, unmarked.1⟩, unmarked.2⟩⟩
      exact Bool.eq_false_iff.mpr plain

theorem of_mem_runs {text run : List Char} (member : run ∈ runs text) :
    run <:+: text ∧ ∀ char ∈ run, isMark char = false := by
  obtain ⟨first, others, split⟩ := List.exists_cons_of_ne_nil (List.splitOnP_ne_nil isMark text)
  obtain ⟨front, inside, unmarked⟩ := parts_of_splitOnP split
  have listed := List.mem_of_mem_filter member
  rw [split] at listed
  refine ⟨?_, unmarked run listed⟩
  rcases List.mem_cons.mp listed with rfl | later
  · exact front.isInfix
  · exact inside run later

theorem unbroken_of_mem_pieces {run : List Char} (unmarked : ∀ char ∈ run, isMark char = false)
    (member : piece ∈ pieces run) : piece <:+: run ∧ Unbroken piece := by
  have inside : piece <:+: run := by
    rw [← List.flatten_splitBy joins run]
    exact List.infix_of_mem_flatten member
  refine ⟨inside, List.all_eq_true.mpr fun char listed => ?_, ?_⟩
  · exact isMark_eq_false_iff.mp (unmarked char (inside.subset listed))
  · exact (List.isChain_of_mem_splitBy member).imp fun _ _ => joins_eq_true_iff.mp

/-- Every word of a text is the lower-case form of a piece of it that is not cut further. -/
theorem exists_piece_of_mem_words {text word : String} (member : word ∈ words text) :
    ∃ piece, piece <:+: text.toList ∧ Unbroken piece ∧
      word ∈ completed (piece.flatMap toLowercase) := by
  rw [words_eq_pieceWords] at member
  obtain ⟨piece, listed, made⟩ := List.mem_filterMap.mp member
  obtain ⟨run, found, cut⟩ := List.mem_flatMap.mp listed
  obtain ⟨runInside, unmarked⟩ := of_mem_runs found
  obtain ⟨inside, unbroken⟩ := unbroken_of_mem_pieces unmarked cut
  refine ⟨piece, inside.trans runInside, unbroken, ?_⟩
  rw [completed_eq, made]
  exact List.mem_singleton_self word

/-- The words of a text are those of its pieces, in their order; and a text can be taken apart at
every character that is not alphanumeric. -/
theorem words_of_pieces :
    (∀ text : String, words text = pieceWords text.toList) ∧
    ∀ mark, isAlphanumeric mark = false → ∀ before after : String,
      words (before ++ String.singleton mark ++ after) = words before ++ words after := by
  refine ⟨words_eq_pieceWords, fun mark apart before after => ?_⟩
  have separates : isMark mark = true := by
    rw [isMark, apart]
    rfl
  have laid : (before ++ String.singleton mark ++ after).toList =
      before.toList ++ mark :: after.toList := by
    simp
  calc words (before ++ String.singleton mark ++ after)
    _ = pieceWords (before.toList ++ mark :: after.toList) := by rw [words_eq_pieceWords, laid]
    _ = pieceWords before.toList ++ pieceWords after.toList :=
      pieceWords_append_mark separates before.toList after.toList
    _ = words before ++ words after := by rw [words_eq_pieceWords, words_eq_pieceWords]

/-- A separator leaves nothing behind for the capital that follows it. -/
theorem words_of_pieces_hyphen :
    isAlphanumeric '‐' = false ∧
    words ("prefLabel" ++ String.singleton '‐' ++ "ÉtéDansLaVille") =
      words "prefLabel" ++ words "ÉtéDansLaVille" :=
  have apart : isAlphanumeric '‐' = false := by decide +kernel
  ⟨apart, words_of_pieces.2 '‐' apart "prefLabel" "ÉtéDansLaVille"⟩

end NodeQuery.Text
