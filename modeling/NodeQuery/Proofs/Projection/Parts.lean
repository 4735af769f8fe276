import NodeQuery.Projection.Reading
import NodeQuery.Proofs.Criterion.Values

/-! Parts of nodes read back from their texts. A group is told by its name up to the first point, so
a part that has lost its group is no part. -/

namespace NodeQuery

open Criterion.Reading (isCode)

/-- The name can be written, and so can the depth if there is one. -/
def Part.expressible : Part → Bool
  | .allProperties => true
  | .property name => isCode name
  | .allReferences => true
  | .reference name depth => isCode name && 0 < depth && depth ≤ largestDepth
  | .allReferrers => true
  | .referrer name depth => isCode name && 0 < depth && depth ≤ largestDepth

namespace Select.Reading

open Text Text.Reader
open Criterion.Reading (isCodeChar code consists_iff code_append stops_mark yields_code)

variable {rest : List Char}

/-! Where a select ends. -/

/-- A select ends before a comma or with the text. -/
def Ended (rest : List Char) : Prop := ∀ char ∈ rest.head?, char = ','

theorem ended_nil : Ended [] := fun _ none => nomatch none

theorem Ended.stops {accepts : Char → Bool} (ended : Ended rest) (none : accepts ',' = false) :
    Stops accepts rest := by
  intro char first
  rw [ended char first, none]

/-! Parts by their groups. -/

theorem point_not_code : isCodeChar '.' = false := by decide

/-- What follows the name of a group: an asterisk, or the name of an attribute, perhaps with a
depth. -/
def tailText : Part → String
  | .allProperties => "*"
  | .property name => name
  | .allReferences => "*"
  | .reference name depth => name ++ depthText depth
  | .allReferrers => "*"
  | .referrer name depth => name ++ depthText depth

def groupName : Part → String
  | .allProperties => "properties"
  | .property _ => "properties"
  | .allReferences => "references"
  | .reference _ _ => "references"
  | .allReferrers => "referrers"
  | .referrer _ _ => "referrers"

theorem isCode_groupName (part : Part) : isCode (groupName part) := by
  cases part <;>
    · rw [groupName]
      decide

theorem part_text (part : Part) :
    part.text.toList = (groupName part).toList ++ '.' :: (tailText part).toList := by
  cases part <;> simp [Part.text, groupName, tailText]

theorem depth_append {number : Nat} (fits : 0 < number ∧ number ≤ largestDepth)
    (ended : Ended rest) : depth ((depthText number).toList ++ rest) = .read number rest := by
  unfold depth depthText
  split
  · next default =>
    have noColon : (literal ":").Misses rest :=
      literal_misses_of_stops rfl (ended.stops (by decide))
    rw [default]
    exact map_eq _ (optional_of_misses (before_misses _ noColon))
  · have digits : run isDigit (decimalDigits number ++ rest) = .read (decimalDigits number) rest :=
      run_append (decimalDigits_ne_nil number) (fun _ => isDigit_of_mem_decimalDigits)
        (ended.stops (by decide))
    have converted : depth? (decimalDigits number) = some number := by
      rw [depth?, decimalValue_decimalDigits]
      exact if_pos fits
    have colon := literal_append ":" (decimalDigits number ++ rest)
    have written : (naturalText number).toList = decimalDigits number := String.toList_ofList
    rw [String.toList_append, written, List.append_assoc]
    exact map_eq _ (optional_of_read ((before_eq _ colon).trans (mapIf_eq digits converted)))

theorem stops_depthText (number : Nat) (ended : Ended rest) :
    Stops (fun char => isCodeChar char || char == '.') ((depthText number).toList ++ rest) := by
  unfold depthText
  split
  · exact ended.stops (by decide)
  · rw [String.toList_append, List.append_assoc]
    exact stops_toList_append rfl (by decide) _

theorem named_append {one : String → Nat → Part} {name : String} {number : Nat}
    (nameFits : isCode name) (fits : 0 < number ∧ number ≤ largestDepth) (ended : Ended rest) :
    named one (name.toList ++ ((depthText number).toList ++ rest)) =
      .read (one name number) rest := by
  have stops : Stops isCodeChar ((depthText number).toList ++ rest) := by
    intro char first
    exact (Bool.or_eq_false_iff.mp (stops_depthText number ended char first)).1
  simp only [named, code_append nameFits stops, Outcome.andThen]
  exact map_eq _ (depth_append fits ended)

/-- The names that the groups begin with. -/
def groupNames : List (List String) :=
  [["properties.", "props.", "p."], ["references.", "refs.", "r."], ["referrers.", "refrs."]]

theorem keyed_groups : List.Forall₂ Keyed groupNames groups :=
  .cons (keyed_before _ _) <| .cons (keyed_before _ _) <| .cons (keyed_before _ _) .nil

theorem part_of_group (index : Nat) {start : String} {others : List String} {all value : Part}
    {one : Reader Part} {text : List Char}
    (there : groups[index]? = some (group (start :: others) all one))
    (apart : (groupNames.take index).flatten.all (differ ·.toList start.toList) = true)
    (done : firstOf [map (fun _ => all) (literal "*"), one] text = .read value rest) :
    part (start.toList ++ text) = .read value rest := by
  refine firstOf_of_keyed keyed_groups index there apart ?_
  rw [group, before_eq _ (spelling_append 0 rfl rfl text), done]

theorem all_append {all : Part} (one : Reader Part) (rest : List Char) :
    firstOf [map (fun _ => all) (literal "*"), one] ("*".toList ++ rest) = .read all rest :=
  firstOf_cons_of_read _ (map_eq _ (literal_append "*" rest))

theorem one_append {all value : Part} {one : Reader Part} {name : String} {later : List Char}
    (nameFits : isCode name) (done : one (name.toList ++ later) = .read value rest) :
    firstOf [map (fun _ => all) (literal "*"), one] (name.toList ++ later) = .read value rest := by
  have noStar : (literal "*").Misses (name.toList ++ later) :=
    literal_misses_of_stops rfl (stops_mark nameFits (by decide) later)
  exact (firstOf_cons_of_misses (map_misses _ noStar) (List.cons_ne_nil _ _)).trans done

theorem expressible_named {name : String} {depth : Nat}
    (expressible : (isCode name && 0 < depth && depth ≤ largestDepth) = true) :
    isCode name ∧ 0 < depth ∧ depth ≤ largestDepth := by
  simpa only [Bool.and_eq_true, decide_eq_true_eq, and_assoc] using expressible

theorem part_append {selected : Part} (expressible : selected.expressible) (ended : Ended rest) :
    part (selected.text.toList ++ rest) = .read selected rest := by
  cases selected with
  | allProperties =>
    rw [Part.text, show "properties.*" = "properties." ++ "*" from rfl, String.toList_append,
      List.append_assoc]
    exact part_of_group 0 rfl (by decide) (all_append _ rest)
  | property name =>
    rw [Part.text, String.toList_append, List.append_assoc]
    exact part_of_group 0 rfl (by decide)
      (one_append expressible (map_eq _ (code_append expressible (ended.stops (by decide)))))
  | allReferences =>
    rw [Part.text, show "references.*" = "references." ++ "*" from rfl, String.toList_append,
      List.append_assoc]
    exact part_of_group 1 rfl (by decide) (all_append _ rest)
  | reference name depth =>
    obtain ⟨nameFits, fits⟩ := expressible_named expressible
    rw [Part.text, String.toList_append, String.toList_append, List.append_assoc, List.append_assoc]
    exact part_of_group 1 rfl (by decide) (one_append nameFits (named_append nameFits fits ended))
  | allReferrers =>
    rw [Part.text, show "referrers.*" = "referrers." ++ "*" from rfl, String.toList_append,
      List.append_assoc]
    exact part_of_group 2 rfl (by decide) (all_append _ rest)
  | referrer name depth =>
    obtain ⟨nameFits, fits⟩ := expressible_named expressible
    rw [Part.text, String.toList_append, String.toList_append, List.append_assoc, List.append_assoc]
    exact part_of_group 2 rfl (by decide) (one_append nameFits (named_append nameFits fits ended))

/-- Names of groups end with a point, and have no other. -/
theorem groupNames_pointed : ∀ names ∈ groupNames, ∀ word ∈ names,
    ∃ front : List Char, word.toList = front ++ ['.'] ∧ ∀ char ∈ front, isCodeChar char = true := by
  have pointed : groupNames.flatten.all (fun word => word.toList.getLast? == some '.' &&
      word.toList.dropLast.all isCodeChar) = true := by decide
  intro names group word member
  have fits := List.all_eq_true.mp pointed word (List.mem_flatten.mpr ⟨names, group, member⟩)
  rw [Bool.and_eq_true, beq_iff_eq, List.all_eq_true] at fits
  exact ⟨word.toList.dropLast, (List.dropLast_append_getLast? '.' fits.1).symm, fits.2⟩

/-- A name that no point follows is no name of a group. -/
theorem part_misses_name {name : String} (nameFits : isCode name) {later : List Char}
    (stops : Stops (fun char => isCodeChar char || char == '.') later) :
    part.Misses (name.toList ++ later) := by
  refine firstOf_misses (misses_of_keyed keyed_groups fun names group word member => ?_)
  obtain ⟨front, written, inside⟩ := groupNames_pointed names group word member
  refine literal_misses_of_not_isPrefix ?_
  rw [written]
  rintro ⟨rest, same⟩
  rw [List.append_assoc, List.singleton_append] at same
  have stopsCode : Stops isCodeChar later := fun char first =>
    (Bool.or_eq_false_iff.mp (stops char first)).1
  obtain ⟨_, rfl⟩ := eq_of_append_eq inside (stops_cons.mpr point_not_code)
    (consists_iff.mp nameFits).2 stopsCode same
  cases stops_cons.mp stops

/-- What follows the name of a group does not begin with the name of one. -/
theorem part_misses_tailText {selected : Part} (expressible : selected.expressible)
    (ended : Ended rest) : part.Misses ((tailText selected).toList ++ rest) := by
  have star : part.Misses ("*".toList ++ rest) :=
    firstOf_misses (misses_of_apart keyed_groups (by decide) rest)
  cases selected with
  | allProperties => exact star
  | property name => exact part_misses_name expressible (ended.stops (by decide))
  | allReferences => exact star
  | reference name depth =>
    rw [tailText, String.toList_append, List.append_assoc]
    exact part_misses_name (expressible_named expressible).1 (stops_depthText depth ended)
  | allReferrers => exact star
  | referrer name depth =>
    rw [tailText, String.toList_append, List.append_assoc]
    exact part_misses_name (expressible_named expressible).1 (stops_depthText depth ended)

/-! The parts that are read. -/

theorem yields_depth : Yields depth fun number => 0 < number ∧ number ≤ largestDepth := by
  have converted (digits : List Char) (_ : True) (number : Nat)
      (read : depth? digits = some number) : 0 < number ∧ number ≤ largestDepth := by
    simp only [depth?, Option.ite_none_right_eq_some, Option.some.injEq] at read
    obtain ⟨fits, rfl⟩ := read
    exact fits
  refine yields_map fun text => ?_
  have given := yields_optional (yields_before (literal ":")
    (yields_mapIf (yields_any (run isDigit)) converted))
  refine (given text).mono fun number fits => ?_
  cases number with
  | none => decide
  | some number => exact fits number rfl

theorem yields_group {spellings : List String} {all : Part} {one : Reader Part}
    (allFits : all.expressible) (oneFits : Yields one fun part => part.expressible = true) :
    Yields (group spellings all one) fun part => part.expressible = true := by
  refine yields_before _ (yields_firstOf (List.forall_mem_cons.mpr
    ⟨yields_map fun text => ?_, List.forall_mem_singleton.mpr oneFits⟩))
  exact (yields_any _ text).mono fun _ _ => allFits

theorem yields_named {one : String → Nat → Part} (expressible : ∀ name depth,
      (one name depth).expressible = (isCode name && 0 < depth && depth ≤ largestDepth)) :
    Yields (named one) fun part => part.expressible = true := by
  intro text
  refine (yields_code text).andThen fun name nameFits rest => ?_
  refine .map ((yields_depth rest).mono fun depth fits => ?_)
  rw [expressible, nameFits, decide_eq_true fits.1, decide_eq_true fits.2]
  rfl

theorem yields_part : Yields part fun part => part.expressible = true :=
  yields_firstOf <| List.forall_mem_cons.mpr ⟨yields_group rfl (yields_map yields_code),
    List.forall_mem_cons.mpr ⟨yields_group rfl (yields_named fun _ _ => rfl),
      List.forall_mem_singleton.mpr (yields_group rfl (yields_named fun _ _ => rfl))⟩⟩

end Select.Reading

end NodeQuery
