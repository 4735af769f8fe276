import Mathlib
import NodeQuery.Text.Reader

/-! What readers make of a text. Reading in a row is described step by step, and a choice by the
alternatives that miss before one reads. -/

namespace NodeQuery.Text

/-- The text does not go on with a character of the class. -/
def Stops (accepts : Char → Bool) (rest : List Char) : Prop :=
  ∀ char ∈ rest.head?, accepts char = false

theorem stops_nil (accepts : Char → Bool) : Stops accepts [] :=
  fun _ none => nomatch none

theorem stops_cons {accepts : Char → Bool} {char : Char} {rest : List Char} :
    Stops accepts (char :: rest) ↔ accepts char = false := by
  simp [Stops]

theorem stops_append {accepts : Char → Bool} {letters : List Char} (nonempty : letters ≠ [])
    (outside : ∀ char ∈ letters, accepts char = false) (rest : List Char) :
    Stops accepts (letters ++ rest) := by
  cases letters with
  | nil => exact absurd rfl nonempty
  | cons char letters => exact stops_cons.mpr (outside char List.mem_cons_self)

theorem stops_toList_append {accepts : Char → Bool} {word : String} {char : Char}
    {chars : List Char} (begins : word.toList = char :: chars) (plain : accepts char = false)
    (rest : List Char) : Stops accepts (word.toList ++ rest) := by
  rw [begins]
  exact stops_cons.mpr plain

theorem takeWhile_of_stops {accepts : Char → Bool} {letters rest : List Char}
    (inside : ∀ char ∈ letters, accepts char = true) (stops : Stops accepts rest) :
    (letters ++ rest).takeWhile accepts = letters := by
  rw [List.takeWhile_append_of_pos inside]
  cases rest with
  | nil => simp
  | cons char rest => simp [stops char rfl]

theorem dropWhile_of_stops {accepts : Char → Bool} {letters rest : List Char}
    (inside : ∀ char ∈ letters, accepts char = true) (stops : Stops accepts rest) :
    (letters ++ rest).dropWhile accepts = rest := by
  rw [List.dropWhile_append_of_pos inside]
  cases rest with
  | nil => rfl
  | cons char rest => simp [stops char rfl]

/-- The text consists of blanks, if of anything. -/
def Blank (gap : List Char) : Prop := ∀ char ∈ gap, isBlank char = true

/-- The two texts differ in a place that both of them reach. -/
def differ : List Char → List Char → Bool
  | left :: lefts, right :: rights => left != right || differ lefts rights
  | _, _ => false

theorem not_isPrefix_of_differ {left right : List Char} (apart : differ left right = true)
    (rest : List Char) : ¬left <+: right ++ rest := by
  fun_induction differ left right with
  | case1 left lefts right rights ih =>
    rw [List.cons_append, List.cons_prefix_cons]
    rintro ⟨rfl, begins⟩
    simp only [bne_self_eq_false, Bool.false_or] at apart
    exact ih apart begins
  | case2 => cases apart

/-- A text falls in one way only into characters of a class and what follows them. -/
theorem eq_of_append_eq {accepts : Char → Bool} {left right lefts rights : List Char}
    (insideLeft : ∀ char ∈ left, accepts char = true) (stopsLeft : Stops accepts lefts)
    (insideRight : ∀ char ∈ right, accepts char = true) (stopsRight : Stops accepts rights)
    (same : left ++ lefts = right ++ rights) : left = right ∧ lefts = rights := by
  constructor
  · rw [← takeWhile_of_stops insideLeft stopsLeft, same, takeWhile_of_stops insideRight stopsRight]
  · rw [← dropWhile_of_stops insideLeft stopsLeft, same, dropWhile_of_stops insideRight stopsRight]

namespace Reader

variable {α β : Type} {text rest after : List Char} {value : α} {other : β}

/-- The reading fails in a way that leaves other readings to be tried. -/
def Misses (reader : Reader α) (text : List Char) : Prop :=
  ∃ place, reader text = .missed place

/-! Readings in a row. -/

theorem map_eq {reader : Reader α} (f : α → β) (done : reader text = .read value rest) :
    map f reader text = .read (f value) rest := by
  simp only [map, done, Outcome.map]

theorem before_eq {first : Reader α} (second : Reader β) (done : first text = .read value rest) :
    before first second text = second rest := by
  simp only [before, done, Outcome.andThen]

theorem followedBy_eq {first : Reader α} {second : Reader β} (done : first text = .read value rest)
    (ended : second rest = .read other after) :
    followedBy first second text = .read value after := by
  simp only [followedBy, done, ended, Outcome.andThen, Outcome.map]

theorem mapIf_eq {reader : Reader α} {f : α → Option β} (done : reader text = .read value rest)
    (fits : f value = some other) : mapIf f reader text = .read other rest := by
  simp only [mapIf, done, fits]

theorem optional_of_read {reader : Reader α} (done : reader text = .read value rest) :
    optional reader text = .read (some value) rest := by
  simp only [optional, done]

theorem optional_of_misses {reader : Reader α} (missed : reader.Misses text) :
    optional reader text = .read none text := by
  obtain ⟨place, missed⟩ := missed
  simp only [optional, missed]

theorem literal_append (expected : String) (rest : List Char) :
    literal expected (expected.toList ++ rest) = .read () rest := by
  simp only [literal, List.isPrefixOf?_eq_some_iff_append_eq.mpr rfl]

theorem run_append {accepts : Char → Bool} {letters : List Char} (some : letters ≠ [])
    (inside : ∀ char ∈ letters, accepts char = true) (stops : Stops accepts rest) :
    run accepts (letters ++ rest) = .read letters rest := by
  unfold run
  rw [takeWhile_of_stops inside stops, dropWhile_of_stops inside stops]
  cases letters with
  | nil => exact absurd rfl some
  | cons char letters => rfl

theorem blanks_append {gap : List Char} (blank : Blank gap) (stops : Stops isBlank rest) :
    blanks (gap ++ rest) = .read () rest := by
  simp only [blanks, dropWhile_of_stops blank stops]

theorem blanks_of_stops (stops : Stops isBlank text) : blanks text = .read () text :=
  blanks_append (List.forall_mem_nil _) stops

theorem someBlanks_append {gap : List Char} (some : gap ≠ []) (blank : Blank gap)
    (stops : Stops isBlank rest) : someBlanks (gap ++ rest) = .read () rest :=
  map_eq _ (run_append some blank stops)

/-- A word is read with the blanks that have to stand on both sides of it. -/
theorem spaced_append {word : String} {front back : List Char} (someBefore : front ≠ [])
    (blankBefore : Blank front) (solid : ∀ later, Stops isBlank (word.toList ++ later))
    (someAfter : back ≠ []) (blankAfter : Blank back) (stops : Stops isBlank rest) :
    before someBlanks (before (literal word) someBlanks)
      (front ++ (word.toList ++ (back ++ rest))) = .read () rest := by
  rw [before_eq _ (someBlanks_append someBefore blankBefore (solid _)),
    before_eq _ (literal_append word _), someBlanks_append someAfter blankAfter stops]

theorem notNext_of_stops {excluded : Char → Bool} (stops : Stops excluded text) :
    notNext excluded text = .read () text := by
  cases text with
  | nil => rfl
  | cons char text => simp [notNext, stops_cons.mp stops]

/-! Readings that miss. -/

theorem map_misses {reader : Reader α} (f : α → β) (missed : reader.Misses text) :
    (map f reader).Misses text := by
  obtain ⟨place, missed⟩ := missed
  exact ⟨place, by simp only [map, missed, Outcome.map]⟩

theorem before_misses {first : Reader α} (second : Reader β) (missed : first.Misses text) :
    (before first second).Misses text := by
  obtain ⟨place, missed⟩ := missed
  exact ⟨place, by simp only [before, missed, Outcome.andThen]⟩

theorem followedBy_misses {first : Reader α} (second : Reader β) (missed : first.Misses text) :
    (followedBy first second).Misses text := by
  obtain ⟨place, missed⟩ := missed
  exact ⟨place, by simp only [followedBy, missed, Outcome.andThen]⟩

theorem followedBy_misses_second {first : Reader α} {second : Reader β}
    (done : first text = .read value rest) (missed : second.Misses rest) :
    (followedBy first second).Misses text := by
  obtain ⟨place, missed⟩ := missed
  exact ⟨place, by simp only [followedBy, done, missed, Outcome.andThen, Outcome.map]⟩

theorem literal_misses_of_not_isPrefix {expected : String}
    (other : ¬expected.toList <+: text) : (literal expected).Misses text := by
  cases found : expected.toList.isPrefixOf? text with
  | none => exact ⟨text, by simp only [literal, found]⟩
  | some rest =>
    exact absurd ⟨rest, List.isPrefixOf?_eq_some_iff_append_eq.mp found⟩ other

theorem literal_misses {expected : String} {start : List Char}
    (apart : differ expected.toList start = true) (rest : List Char) :
    (literal expected).Misses (start ++ rest) :=
  literal_misses_of_not_isPrefix (not_isPrefix_of_differ apart rest)

theorem literal_misses_of_stops {expected : String} {char : Char} {chars : List Char}
    (begins : expected.toList = char :: chars) (stops : Stops (· == char) text) :
    (literal expected).Misses text := by
  refine literal_misses_of_not_isPrefix ?_
  rw [begins]
  rintro ⟨rest, rfl⟩
  simpa using stops_cons.mp stops

theorem run_misses {accepts : Char → Bool} (stops : Stops accepts text) :
    (run accepts).Misses text := by
  refine ⟨text, ?_⟩
  unfold run
  cases text with
  | nil => rfl
  | cons char text => simp [stops char rfl]

theorem mapIf_misses {reader : Reader α} (f : α → Option β) (missed : reader.Misses text) :
    (mapIf f reader).Misses text := by
  obtain ⟨place, missed⟩ := missed
  exact ⟨place, by simp only [mapIf, missed]⟩

/-- A run is converted as a whole, or not at all. -/
theorem mapIf_run_cases (f : List Char → Option β) (accepts : Char → Bool) (text : List Char) :
    (mapIf f (run accepts)).Misses text ∨
      ∃ value, mapIf f (run accepts) text = .read value (text.dropWhile accepts) := by
  cases taken : text.takeWhile accepts with
  | nil => exact .inl ⟨text, by simp only [mapIf, run, taken]⟩
  | cons char letters =>
    cases converted : f (char :: letters) with
    | none => exact .inl ⟨text, by simp only [mapIf, run, taken, converted]⟩
    | some value => exact .inr ⟨value, by simp only [mapIf, run, taken, converted]⟩

theorem notNext_misses {excluded : Char → Bool} {char : Char} (found : excluded char = true)
    (rest : List Char) : (notNext excluded).Misses (char :: rest) :=
  ⟨char :: rest, by simp only [notNext, found, if_true]⟩

/-! Choices. -/

theorem firstOf_cons_of_read {reader : Reader α} (others : List (Reader α))
    (done : reader text = .read value rest) :
    firstOf (reader :: others) text = .read value rest := by
  cases others with
  | nil => exact done
  | cons next others => simp only [firstOf, done, Outcome.orElse]

theorem firstOf_cons_of_misses {reader : Reader α} {others : List (Reader α)}
    (missed : reader.Misses text) (some : others ≠ []) :
    firstOf (reader :: others) text = firstOf others text := by
  obtain ⟨place, missed⟩ := missed
  cases others with
  | nil => exact absurd rfl some
  | cons next others => simp only [firstOf, missed, Outcome.orElse]

theorem firstOf_misses {readers : List (Reader α)}
    (each : ∀ reader ∈ readers, reader.Misses text) : (firstOf readers).Misses text := by
  induction readers with
  | nil => exact ⟨text, rfl⟩
  | cons reader others ih =>
    rw [List.forall_mem_cons] at each
    by_cases none : others = []
    · subst none
      exact each.1
    · obtain ⟨place, missed⟩ := ih each.2
      exact ⟨place, (firstOf_cons_of_misses each.1 none).trans missed⟩

/-- A choice reads as its first alternative does that does not miss. -/
theorem firstOf_eq {readers : List (Reader α)} (index : Nat) {reader : Reader α}
    (there : readers[index]? = some reader)
    (earlier : ∀ other ∈ readers.take index, other.Misses text)
    (done : reader text = .read value rest) : firstOf readers text = .read value rest := by
  induction readers generalizing index with
  | nil => cases there
  | cons first others ih =>
    cases index with
    | zero =>
      cases there
      exact firstOf_cons_of_read others done
    | succ index =>
      rw [List.take_succ_cons, List.forall_mem_cons] at earlier
      have some : others ≠ [] := by
        intro none
        subst none
        cases there
      rw [firstOf_cons_of_misses earlier.1 some]
      exact ih index there earlier.2

/-- The reader misses all texts that begin with none of the names. -/
def Keyed (names : List String) (reader : Reader α) : Prop :=
  ∀ text, (∀ name ∈ names, (literal name).Misses text) → reader.Misses text

theorem Keyed.map {names : List String} {reader : Reader α} (keyed : Keyed names reader)
    (f : α → β) : Keyed names (Reader.map f reader) :=
  fun text missed => map_misses f (keyed text missed)

theorem keyed_before (names : List String) (reader : Reader α) :
    Keyed names (before (firstOf (names.map literal)) reader) :=
  fun _ missed => before_misses reader (firstOf_misses (List.forall_mem_map.mpr missed))

theorem misses_of_keyed {keys : List (List String)} {readers : List (Reader α)}
    (keyed : List.Forall₂ Keyed keys readers)
    (missed : ∀ names ∈ keys, ∀ name ∈ names, (literal name).Misses text) :
    ∀ reader ∈ readers, reader.Misses text := by
  induction keyed with
  | nil => exact List.forall_mem_nil _
  | cons first _ ih =>
    rw [List.forall_mem_cons] at missed
    exact List.forall_mem_cons.mpr ⟨first _ missed.1, ih missed.2⟩

theorem misses_of_apart {keys : List (List String)} {readers : List (Reader α)}
    (keyed : List.Forall₂ Keyed keys readers) {start : List Char}
    (apart : keys.flatten.all (differ ·.toList start) = true) (text : List Char) :
    ∀ reader ∈ readers, reader.Misses (start ++ text) := by
  refine misses_of_keyed keyed fun names group name member => ?_
  exact literal_misses
    (List.all_eq_true.mp apart name (List.mem_flatten.mpr ⟨names, group, member⟩)) text

/-- Among alternatives that each begin with names of their own, a text chooses by what it begins
with. -/
theorem firstOf_of_keyed {keys : List (List String)} {readers : List (Reader α)}
    (keyed : List.Forall₂ Keyed keys readers) (index : Nat) {reader : Reader α}
    (there : readers[index]? = some reader) {start : List Char}
    (apart : (keys.take index).flatten.all (differ ·.toList start) = true)
    (done : reader (start ++ text) = .read value rest) :
    firstOf readers (start ++ text) = .read value rest :=
  firstOf_eq index there (misses_of_apart (List.forall₂_take index keyed) apart text) done

/-- One of several spellings is read, if no earlier one could be. -/
theorem spelling_append {spellings : List String} (index : Nat) {start : String}
    (there : spellings[index]? = some start)
    (apart : (spellings.take index).all (differ ·.toList start.toList) = true)
    (text : List Char) :
    firstOf (spellings.map literal) (start.toList ++ text) = .read () text := by
  refine firstOf_eq index (by rw [List.getElem?_map, there]; rfl) ?_ (literal_append start text)
  rw [← List.map_take]
  refine List.forall_mem_map.mpr fun other member => ?_
  exact literal_misses (List.all_eq_true.mp apart other member) text

/-! Whole texts. -/

/-- A text is read as a whole where only blanks stand around what is read. -/
theorem readAll_of_read {reader : Reader α} {text : String}
    {front body back : List Char} (laid : text.toList = front ++ (body ++ back))
    (blankFront : Blank front) (blankBack : Blank back) (solid : Stops isBlank (body ++ back))
    (done : reader (body ++ back) = .read value back) : reader.readAll text = .ok value := by
  have begun : before blanks reader text.toList = .read value back := by
    rw [laid, before_eq _ (blanks_append blankFront solid), done]
  have ended : blanks back = .read () [] := by
    simpa using blanks_append blankBack (stops_nil isBlank)
  have all : reader.whole text.toList = .read value [] := by
    simp only [whole, followedBy_eq begun ended, Outcome.andThen, List.isEmpty_nil, if_true]
  simp only [readAll, all]

end Reader

end NodeQuery.Text
