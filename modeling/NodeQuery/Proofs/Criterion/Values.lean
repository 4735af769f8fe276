import NodeQuery.Criterion.Reading
import NodeQuery.Proofs.Text.Ensures
import NodeQuery.Proofs.Timestamp.Text

/-! Values of criteria, each read back from what it is written as wherever a value can end. -/

namespace NodeQuery.Criterion.Reading

open Text Text.Reader

/-- Some characters, all of the class. -/
def consists (accepts : Char → Bool) (text : String) : Bool :=
  !text.toList.isEmpty && text.toList.all accepts

/-- A name that needs no quotes. -/
def isCode : String → Bool := consists isCodeChar

/-- A value that needs no quotes. -/
def isBare : String → Bool := consists isBareChar

theorem consists_iff {accepts : Char → Bool} {text : String} : consists accepts text = true ↔
    text.toList ≠ [] ∧ ∀ char ∈ text.toList, accepts char = true := by
  rw [consists, Bool.and_eq_true, Bool.not_eq_true', List.isEmpty_eq_false_iff, List.all_eq_true]

/-- Blanks and closing marks end a value. -/
def endMarks : List Char := [' ', '\t', '\r', '\n', ')', ']']

/-- A value can end before this text. -/
def Ends (rest : List Char) : Prop := ∀ char ∈ rest.head?, char ∈ endMarks

theorem ends_nil : Ends [] := fun _ none => nomatch none

theorem ends_cons {char : Char} {rest : List Char} : Ends (char :: rest) ↔ char ∈ endMarks := by
  simp [Ends]

theorem ends_toList_append {word : String} {char : Char} {chars : List Char}
    (begins : word.toList = char :: chars) (mark : char ∈ endMarks) (rest : List Char) :
    Ends (word.toList ++ rest) := by
  rw [begins]
  exact ends_cons.mpr mark

theorem ends_of_blank {gap : List Char} (nonempty : gap ≠ []) (blank : Blank gap)
    (later : List Char) : Ends (gap ++ later) := by
  cases gap with
  | nil => exact absurd rfl nonempty
  | cons char gap =>
    refine ends_cons.mpr ?_
    have isBlank := blank char List.mem_cons_self
    simp only [Text.isBlank, Bool.or_eq_true, beq_iff_eq] at isBlank
    rcases isBlank with ((rfl | rfl) | rfl) | rfl <;> decide

theorem Ends.stops {accepts : Char → Bool} {rest : List Char} (ends : Ends rest)
    (none : endMarks.all (!accepts ·) = true) : Stops accepts rest := by
  intro char first
  simpa using List.all_eq_true.mp none char (ends char first)

/-! Texts and numbers. -/

variable {rest : List Char}

theorem run_text_append {accepts : Char → Bool} {text : String} (fits : consists accepts text)
    (stops : Stops accepts rest) :
    map String.ofList (run accepts) (text.toList ++ rest) = .read text rest := by
  obtain ⟨nonempty, inside⟩ := consists_iff.mp fits
  rw [map_eq _ (run_append nonempty inside stops), String.ofList_toList]

theorem stops_mark {accepts : Char → Bool} {text : String} (fits : consists accepts text)
    {mark : Char} (outside : accepts mark = false) (rest : List Char) :
    Stops (· == mark) (text.toList ++ rest) := by
  obtain ⟨nonempty, inside⟩ := consists_iff.mp fits
  refine stops_append nonempty (fun char member => ?_) rest
  refine beq_eq_false_iff_ne.mpr fun same => ?_
  rw [← same, inside char member] at outside
  cases outside

theorem code_append {name : String} (fits : isCode name) (stops : Stops isCodeChar rest) :
    code (name.toList ++ rest) = .read name rest :=
  run_text_append fits stops

theorem bare_append {text : String} (fits : isBare text) (stops : Stops isBareChar rest) :
    bare (text.toList ++ rest) = .read text rest :=
  run_text_append fits stops

theorem yields_consists (accepts : Char → Bool) :
    Yields (map String.ofList (run accepts)) fun text => consists accepts text = true := by
  refine yields_map fun text => (yields_run accepts text).mono fun letters fits => ?_
  rw [consists_iff, String.toList_ofList]
  exact fits

theorem yields_code : Yields code fun name => isCode name = true := yields_consists isCodeChar

theorem yields_bare : Yields bare fun text => isBare text = true := yields_consists isBareChar

theorem encode_begins (text : String) :
    (Quoted.encode text).toList = '"' :: (Quoted.escape text.toList ++ ['"']) := by
  simp [Quoted.encode]

theorem quoted_append (text : String) (rest : List Char) :
    quoted ((Quoted.encode text).toList ++ rest) = .read text rest := by
  rw [encode_begins, List.cons_append, List.append_assoc, List.singleton_append, quoted,
    Quoted.unescape_escape]
  simp only [String.ofList_toList]

theorem quoted_misses {text : List Char} (stops : Stops (· == '"') text) : quoted.Misses text := by
  cases text with
  | nil => exact ⟨[], rfl⟩
  | cons char text =>
    have other := stops_cons.mp stops
    refine ⟨char :: text, ?_⟩
    unfold quoted
    split
    · next same =>
      rw [(List.cons.inj same).1] at other
      cases other
    · rfl

theorem chars_ne_nil (uuid : Uuid) : uuid.chars ≠ [] :=
  List.ne_nil_of_length_eq_add_one uuid.length_chars

theorem isUuidChar_hexDigit : ∀ digit < 16, isUuidChar (hexDigit digit) = true := by decide

theorem isUuidChar_of_mem_chars {uuid : Uuid} {char : Char} (member : char ∈ uuid.chars) :
    isUuidChar char = true := by
  obtain rfl | ⟨digit, small, rfl⟩ := Uuid.mem_chars member
  · rfl
  · exact isUuidChar_hexDigit digit small

theorem uuid_append (uuid : Uuid) (stops : Stops isUuidChar rest) :
    Reading.uuid (uuid.text.toList ++ rest) = .read uuid rest := by
  rw [Uuid.text, String.toList_ofList]
  exact mapIf_eq (run_append (chars_ne_nil uuid) (fun _ => isUuidChar_of_mem_chars) stops)
    uuid.ofText?_chars

theorem stops_uuid (uuid : Uuid) {accepts : Char → Bool} (hyphen : accepts '-' = false)
    (digits : ∀ digit < 16, accepts (hexDigit digit) = false) (rest : List Char) :
    Stops accepts (uuid.text.toList ++ rest) := by
  have inside (char : Char) (member : char ∈ uuid.chars) : accepts char = false := by
    obtain rfl | ⟨digit, small, rfl⟩ := Uuid.mem_chars member
    · exact hyphen
    · exact digits digit small
  rw [Uuid.text, String.toList_ofList]
  exact stops_append (chars_ne_nil uuid) inside rest

theorem natural_append (number : Nat) (stops : Stops isDigit rest) :
    natural (decimalDigits number ++ rest) = .read number rest := by
  have inside : ∀ char ∈ decimalDigits number, isDigit char = true :=
    fun _ => isDigit_of_mem_decimalDigits
  rw [natural, map_eq _ (run_append (decimalDigits_ne_nil number) inside stops),
    decimalValue_decimalDigits]

theorem int64?_toInt (number : Int64) : int64? number.toInt = some number := by
  rw [int64?, if_pos ⟨number.minValue_le_toInt, number.toInt_le⟩, Int64.ofInt_toInt]

theorem integer_append (number : Int64) (stops : Stops isDigit rest) :
    integer ((integerText number.toInt).toList ++ rest) = .read number rest := by
  refine mapIf_eq ?_ (int64?_toInt number)
  unfold integerText naturalText
  by_cases negative : number.toInt < 0
  · have value : -Int.ofNat number.toInt.natAbs = number.toInt := by
      rw [Int.ofNat_eq_natCast]
      omega
    have minus : "-".toList = ['-'] := rfl
    simp only [if_pos negative, String.toList_append, String.toList_ofList, minus,
      List.cons_append, List.nil_append, natural_append _ stops, Outcome.map, value]
  · have value : Int.ofNat number.toInt.natAbs = number.toInt := by
      rw [Int.ofNat_eq_natCast]
      omega
    have read := natural_append number.toInt.natAbs stops
    have inside : ∀ char ∈ decimalDigits number.toInt.natAbs, isDigit char = true :=
      fun _ => isDigit_of_mem_decimalDigits
    have nonempty := decimalDigits_ne_nil number.toInt.natAbs
    rw [if_neg negative, String.toList_ofList]
    generalize decimalDigits number.toInt.natAbs = digits at *
    cases digits with
    | nil => exact absurd rfl nonempty
    | cons char digits =>
      -- Digits do not begin with a minus sign, so the text is not taken for a negative number.
      split
      · next same =>
        rw [(List.cons.inj same).1] at inside
        exact absurd (inside '-' List.mem_cons_self) (by decide)
      · rw [read, Outcome.map, value]

/-! Points in time. -/

theorem isDateChar_digitChar : ∀ digit < 10, isDateChar (digitChar digit) = true := by decide

theorem isDateChar_of_isDigit {char : Char} (digit : isDigit char = true) :
    isDateChar char = true := by
  obtain ⟨value, small, rfl⟩ := exists_digitChar digit
  exact isDateChar_digitChar value small

theorem isDateChar_of_mem_charsWith {timestamp : Timestamp} (atMost : timestamp.year ≤ 9999) :
    ∀ char ∈ timestamp.charsWith 'T', isDateChar char = true := by
  have fixed (width number : Nat) : ∀ char ∈ fixedDigits width number, isDateChar char = true :=
    fun _ member => isDateChar_of_isDigit (isDigit_of_mem_fixedDigits member)
  have padded (width number : Nat) : ∀ char ∈ paddedDigits width number, isDateChar char = true :=
    fun _ member => isDateChar_of_isDigit (isDigit_of_mem_paddedDigits member)
  have marks : isDateChar '-' ∧ isDateChar ':' ∧ isDateChar '.' ∧ isDateChar 'T' := by decide
  have year : ∀ char ∈ Timestamp.yearDigits timestamp.year, isDateChar char = true := by
    unfold Timestamp.yearDigits
    split
    · exact fixed _ _
    · rw [if_pos (by omega)]
      exact List.forall_mem_cons.mpr ⟨marks.1, padded _ _⟩
  have fraction : ∀ char ∈ Timestamp.fractionDigits timestamp.nanosecond,
      isDateChar char = true := by
    unfold Timestamp.fractionDigits
    split_ifs
    · exact List.forall_mem_nil _
    all_goals exact List.forall_mem_cons.mpr ⟨marks.2.2.1, fixed _ _⟩
  simp only [Timestamp.charsWith, Timestamp.monthDayDigits, Timestamp.clockDigits,
    List.forall_mem_append, List.forall_mem_cons, marks, true_and]
  exact ⟨⟨⟨year, fixed _ _, fixed _ _⟩, ⟨fixed _ _, fixed _ _⟩, fixed _ _⟩, fraction⟩

theorem charsWith_ne_nil {timestamp : Timestamp} (atMost : timestamp.year ≤ 9999) :
    timestamp.charsWith 'T' ≠ [] := by
  intro none
  have read := Timestamp.ofDateTime?_charsWith atMost
  rw [none] at read
  cases read

theorem timestamp_append {timestamp : Timestamp} (atMost : timestamp.year ≤ 9999)
    (stops : Stops isDateChar rest) :
    Reading.timestamp (timestamp.text.toList ++ rest) = .read timestamp rest := by
  rw [Timestamp.text, String.toList_ofList]
  refine mapIf_eq
    (run_append (charsWith_ne_nil atMost) (isDateChar_of_mem_charsWith atMost) stops) ?_
  rw [Timestamp.ofDateTime?_charsWith atMost]
  rfl

/-! Intervals. -/

/-- Where it stands in an interval, the text is read as the value. -/
structure BoundReads {α : Type} (bound : Reader α) (text : String) (value : α) : Prop where
  begins : ∀ rest, Stops (fun char => isBlank char || char == '*') (text.toList ++ rest)
  reads : ∀ rest, Ends rest → bound (text.toList ++ rest) = .read value rest

section

variable {α : Type} {bound : Reader α} {boundText : α → String}

theorem openOr_append {value : Option α}
    (readable : ∀ given ∈ value, BoundReads bound (boundText given) given) (ends : Ends rest) :
    openOr bound (((value.map boundText).getD "*").toList ++ rest) = .read value rest := by
  cases value with
  | none => exact firstOf_cons_of_read _ (map_eq _ (literal_append "*" rest))
  | some given =>
    obtain ⟨begins, reads⟩ := readable given rfl
    have notOpen : (literal "*").Misses ((boundText given).toList ++ rest) :=
      literal_misses_of_stops rfl fun char first =>
        (Bool.or_eq_false_iff.mp (begins rest char first)).2
    exact (firstOf_cons_of_misses (map_misses _ notOpen) (List.cons_ne_nil _ _)).trans
      (map_eq some (reads rest ends))

/-- A bound does not begin with a blank. -/
theorem stops_isBlank_bound {value : Option α}
    (readable : ∀ given ∈ value, BoundReads bound (boundText given) given) (later : List Char) :
    Stops isBlank (((value.map boundText).getD "*").toList ++ later) := by
  cases value with
  | none => exact stops_toList_append (show "*".toList = _ from rfl) (by decide) later
  | some given =>
    intro char first
    exact (Bool.or_eq_false_iff.mp ((readable given rfl).begins later char first)).1

theorem opening_append (stops : Stops isBlank rest) :
    before (literal "[") blanks ("[".toList ++ rest) = .read () rest := by
  rw [before_eq blanks (literal_append "[" rest), blanks_of_stops stops]

theorem parting_append (stops : Stops isBlank rest) :
    before someBlanks (before (literal "TO") someBlanks) (" TO ".toList ++ rest) =
      .read () rest := by
  have space : Blank [' '] := List.forall_mem_singleton.mpr rfl
  exact spaced_append (List.cons_ne_nil _ _) space (stops_toList_append rfl (by decide))
    (List.cons_ne_nil _ _) space stops

theorem closing_append (rest : List Char) :
    before blanks (literal "]") ("]".toList ++ rest) = .read () rest := by
  rw [before_eq _ (blanks_of_stops (stops_toList_append rfl (by decide) rest)), literal_append]

theorem interval_append {during : Interval α}
    (lower : ∀ given ∈ during.lower, BoundReads bound (boundText given) given)
    (upper : ∀ given ∈ during.upper, BoundReads bound (boundText given) given)
    (rest : List Char) :
    interval bound ((during.text boundText).toList ++ rest) = .read during rest := by
  have written : (during.text boundText).toList ++ rest =
      "[".toList ++ (((during.lower.map boundText).getD "*").toList ++ (" TO ".toList ++
        (((during.upper.map boundText).getD "*").toList ++ ("]".toList ++ rest)))) := by
    simp only [Interval.text, String.toList_append, List.append_assoc]
  have space (later : List Char) : Ends (" TO ".toList ++ later) :=
    ends_toList_append rfl (by decide) later
  have bracket (later : List Char) : Ends ("]".toList ++ later) :=
    ends_toList_append rfl (by decide) later
  rw [written, interval, before_eq _ (opening_append (stops_isBlank_bound lower _))]
  simp only [openOr_append lower (space _), Outcome.andThen]
  rw [before_eq _ (parting_append (stops_isBlank_bound upper _))]
  simp only [openOr_append upper (bracket _)]
  exact map_eq _ (closing_append rest)

end

theorem quotedOrBare_append (text : String) (rest : List Char) :
    firstOf [quoted, bare] ((Quoted.encode text).toList ++ rest) = .read text rest :=
  firstOf_cons_of_read _ (quoted_append text rest)

theorem boundReads_quoted (text : String) :
    BoundReads (firstOf [quoted, bare]) (Quoted.encode text) text where
  begins := stops_toList_append (encode_begins text) (by decide)
  reads := fun rest _ => quotedOrBare_append text rest

theorem boundReads_timestamp {timestamp : Timestamp} (atMost : timestamp.year ≤ 9999) :
    BoundReads Reading.timestamp timestamp.text timestamp where
  begins := by
    rw [Timestamp.text, String.toList_ofList]
    refine stops_append (charsWith_ne_nil atMost) fun char member => ?_
    have dateChar := isDateChar_of_mem_charsWith atMost char member
    refine Bool.eq_false_iff.mpr fun mark => ?_
    simp only [isBlank, Bool.or_eq_true, beq_iff_eq] at mark
    rcases mark with (((rfl | rfl) | rfl) | rfl) | rfl <;> cases dateChar
  reads := fun rest ends => timestamp_append atMost (ends.stops (by decide))

end NodeQuery.Criterion.Reading
