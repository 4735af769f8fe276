import NodeQuery.Proofs.Text.Digits
import NodeQuery.Proofs.Text.Numerals
import NodeQuery.Proofs.Text.Reader
import NodeQuery.Schema.TypeId

/-! The text form of type ids. No written form of a graph has a point in it, so a text is cut at its
first point in one way only, and the texts that are read are those of a graph, a point and a name.
The graph is printed in one of its forms, so different types never have the same text. -/

namespace NodeQuery

open Text Reader

namespace Uuid

theorem point_notMem_of_hexNumber? {digits : List Char} {value number : Nat}
    (read : hexNumber? value digits = some number) : '.' ∉ digits := by
  induction digits generalizing value with
  | nil => exact List.not_mem_nil
  | cons char digits ih =>
    obtain ⟨digit, given, rest⟩ := Option.bind_eq_some_iff.mp read
    refine List.not_mem_cons_of_ne_of_not_mem ?_ (ih rest)
    rintro rfl
    have none : hexValue? '.' = none := by decide
    rw [none] at given
    cases given

theorem point_notMem_of_ofDigits? {digits : List Char} {uuid : Uuid}
    (read : ofDigits? digits = some uuid) : '.' ∉ digits := by
  unfold ofDigits? at read
  split at read
  · obtain ⟨number, read, _⟩ := Option.map_eq_some_iff.mp read
    exact point_notMem_of_hexNumber? read
  · cases read

/-- Taking the hyphens away leaves all other characters. -/
theorem mem_of_unhyphenated? {sizes : List Nat} {text digits : List Char} {char : Char}
    (joined : unhyphenated? sizes text = some digits) (member : char ∈ text) :
    char = '-' ∨ char ∈ digits := by
  induction sizes generalizing text digits with
  | nil =>
    rw [unhyphenated?] at joined
    split at joined
    · next empty =>
      rw [List.isEmpty_iff.mp empty] at member
      cases member
    · cases joined
  | cons size sizes ih =>
    cases sizes with
    | nil =>
      rw [unhyphenated?] at joined
      split at joined
      · cases joined
        exact .inr member
      · cases joined
    | cons next sizes =>
      rw [unhyphenated?] at joined
      · split at joined
        · next rest later =>
          obtain ⟨others, read, rfl⟩ := Option.map_eq_some_iff.mp joined
          rw [← List.take_append_drop size text, later] at member
          rcases List.mem_append.mp member with front | back
          · exact .inr (List.mem_append_left _ front)
          · rcases List.mem_cons.mp back with rfl | back
            · exact .inl rfl
            · exact (ih read back).imp_right (List.mem_append_right _)
        · cases joined
      · simp

theorem point_notMem_of_ofHyphenated? {text : List Char} {uuid : Uuid}
    (read : ofHyphenated? text = some uuid) : '.' ∉ text := by
  obtain ⟨digits, joined, read⟩ := Option.bind_eq_some_iff.mp read
  intro member
  rcases mem_of_unhyphenated? joined member with hyphen | digit
  · cases hyphen
  · exact point_notMem_of_ofDigits? read digit

theorem point_notMem_of_ofBraced? {text : List Char} {uuid : Uuid}
    (read : ofBraced? text = some uuid) : '.' ∉ text := by
  unfold ofBraced? at read
  split at read
  · next rest =>
    split at read
    · next closed =>
      have whole := List.dropLast_append_getLast? _ closed
      rw [← whole]
      simpa using point_notMem_of_ofHyphenated? read
    · cases read
  · cases read

theorem point_notMem_of_ofUrn? {text : List Char} {uuid : Uuid}
    (read : ofUrn? text = some uuid) : '.' ∉ text := by
  unfold ofUrn? at read
  split at read
  · next spelled =>
    rw [← List.take_append_drop scheme.length text, List.mem_append, not_or]
    refine ⟨fun member => ?_, point_notMem_of_ofHyphenated? read⟩
    have lower : Char.toLower '.' ∈ scheme := by
      rw [← spelled]
      exact List.mem_map_of_mem member
    exact absurd lower (by decide)
  · cases read

/-- No written form has a point. -/
theorem point_notMem_of_ofText? {text : List Char} {uuid : Uuid}
    (read : ofText? text = some uuid) : '.' ∉ text := by
  simp only [ofText?, Option.orElse_eq_orElse, Option.orElse_eq_or, Option.or_eq_some_iff] at read
  rcases read with read | ⟨_, read | ⟨_, read | ⟨_, read⟩⟩⟩
  · exact point_notMem_of_ofDigits? read
  · exact point_notMem_of_ofHyphenated? read
  · exact point_notMem_of_ofBraced? read
  · exact point_notMem_of_ofUrn? read

end Uuid

namespace TypeId

/-- A name that can be told from the graph before it and from what might follow it. -/
def Plain (name : List Char) : Prop := name ≠ [] ∧ '.' ∉ name

theorem cut_at_point {graph : List Char} (name : List Char) (pointFree : '.' ∉ graph) :
    (graph ++ '.' :: name).takeWhile (· != '.') = graph ∧
      (graph ++ '.' :: name).dropWhile (· != '.') = '.' :: name := by
  have inside : ∀ char ∈ graph, (char != '.') = true := by
    intro char member
    rw [bne_iff_ne]
    rintro rfl
    exact pointFree member
  have stops : Stops (· != '.') ('.' :: name) := stops_cons.mpr rfl
  exact ⟨takeWhile_of_stops inside stops, dropWhile_of_stops inside stops⟩

theorem exists_cut_of_dropWhile {text name : List Char} {char : Char}
    (dropped : text.dropWhile (· != '.') = char :: name) :
    text = text.takeWhile (· != '.') ++ '.' :: name := by
  obtain rfl : char = '.' := by
    have first := List.head?_dropWhile_not (· != '.') text
    rw [dropped] at first
    simpa using first
  rw [← dropped, List.takeWhile_append_dropWhile]

/-- A text is read as a type id just if it is a graph in one of its written forms, a point, and a
plain name. -/
theorem read_eq_ok_iff {text : String} {id : TypeId} :
    read text = .ok id ↔ ∃ graph : List Char, text.toList = graph ++ '.' :: id.name.toList ∧
      Uuid.ofText? graph = some id.graph ∧ Plain id.name.toList := by
  unfold read
  constructor
  · intro given
    split at given
    · cases given
    · next char name dropped =>
      split at given
      · cases given
      · next plain =>
        split at given
        · next graph found =>
          cases given
          rw [Bool.or_eq_true, not_or, List.isEmpty_iff, List.contains_iff_mem] at plain
          rw [String.toList_ofList]
          exact ⟨_, exists_cut_of_dropWhile dropped, found, plain⟩
        · cases given
  · intro given
    obtain ⟨graph, written, found, plain⟩ := given
    obtain ⟨before, after⟩ := cut_at_point id.name.toList (Uuid.point_notMem_of_ofText? found)
    rw [← written] at before after
    have named : (id.name.toList.isEmpty || id.name.toList.contains '.') = false := by
      rw [Bool.or_eq_false_iff, List.isEmpty_eq_false_iff, ← Bool.not_eq_true,
        List.contains_iff_mem]
      exact plain
    simp only [after, before, named, found, Bool.false_eq_true, if_false, String.ofList_toList]

theorem toList_text (id : TypeId) : id.text.toList = id.graph.chars ++ '.' :: id.name.toList := by
  simp [text, Uuid.text]

/-- A type id is read back from its text just if its name is plain. -/
theorem read_text_iff {id : TypeId} : read id.text = .ok id ↔ Plain id.name.toList := by
  rw [read_eq_ok_iff]
  constructor
  · rintro ⟨_, _, _, plain⟩
    exact plain
  · exact fun plain => ⟨id.graph.chars, id.toList_text, id.graph.ofText?_chars, plain⟩

/-- Some text is read as this type id. -/
def Accepted (id : TypeId) : Prop := ∃ text : String, read text = .ok id

theorem read_text {id : TypeId} (accepted : id.Accepted) : read id.text = .ok id := by
  obtain ⟨text, given⟩ := accepted
  obtain ⟨_, _, _, plain⟩ := read_eq_ok_iff.mp given
  exact read_text_iff.mpr plain

/-- Types are told apart by their texts. -/
theorem eq_of_text_eq {left right : TypeId} (same : left.text = right.text) : left = right := by
  have written := congrArg String.toList same
  rw [toList_text, toList_text] at written
  obtain ⟨graphs, rest⟩ := List.append_inj written
    (left.graph.length_chars.trans right.graph.length_chars.symm)
  have graph : left.graph = right.graph := Uuid.text_injective (congrArg String.ofList graphs)
  have name : left.name = right.name := String.toList_injective (List.cons.inj rest).2
  cases left; cases right
  cases graph; cases name
  rfl

end TypeId

end NodeQuery
