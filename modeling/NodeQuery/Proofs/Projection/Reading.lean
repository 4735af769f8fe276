import NodeQuery.Proofs.Projection.Parts
import NodeQuery.Proofs.Text.Joined

/-! Selects read back from their texts. Names, fields, groups and qualifiers share one alphabet, so
what decides between them is the first point: a word that goes on to it is no keyword. -/

namespace NodeQuery

open Criterion.Reading (isCode)

def Qualifier.expressible : Qualifier → Bool
  | .any => true
  | .typeNamed name => isCode name
  | .typeInGraph _ name => isCode name

namespace Select

open Text Text.Reader

/-- The fields of nodes under the names they are written with. -/
def writtenFields : List String :=
  ["code", "uri", "number", "createdBy", "createdDate", "lastModifiedBy", "lastModifiedDate"]

/-- The select can be written so that it is read back. -/
def expressible : Select → Bool
  | .everything => true
  | .nodeId => true
  | .nodeType => true
  | .field name => writtenFields.contains name
  | .scoped select => select.qualifier.expressible && select.part.expressible

theorem expressible_qualifiedBy {qualifier : Qualifier} {select : Select}
    (qualifierFits : qualifier.expressible = true) (selectFits : select.expressible = true) :
    (select.qualifiedBy qualifier).expressible = true := by
  match select, selectFits with
  | .everything, fits | .nodeId, fits | .nodeType, fits | .field _, fits => exact fits
  | .scoped select, fits =>
    rw [expressible, Bool.and_eq_true] at fits
    rw [qualifiedBy, expressible, qualifierFits, fits.2]
    rfl

/-- The selects with commas between them. -/
def listText (selects : List Select) : String := ",".intercalate (selects.map text)

namespace Reading

open Criterion.Reading (isCodeChar isUuidChar code consists_iff code_append stops_mark stops_uuid
  yields_code)

variable {rest : List Char}

/-! Keywords. -/

theorem keyword_append (name : String) (ended : Ended rest) :
    keyword name (name.toList ++ rest) = .read () rest :=
  followedBy_eq (literal_append name rest) (notNext_of_stops (ended.stops (by decide)))

theorem keyword_misses_of_literal {name : String} {text : List Char}
    (missed : (literal name).Misses text) : (keyword name).Misses text :=
  followedBy_misses _ missed

/-- A name before a point is no keyword, even if it begins with one or is one. -/
theorem keyword_misses_of_point {word name : String} (wordFits : isCode word)
    (nameFits : isCode name) (later : List Char) :
    (keyword word).Misses (name.toList ++ '.' :: later) := by
  by_cases begins : word.toList <+: name.toList ++ '.' :: later
  · obtain ⟨rest, same⟩ := begins
    rw [← same]
    refine followedBy_misses_second (literal_append word rest) ?_
    cases rest with
    | nil =>
      have point : '.' ∈ word.toList ++ [] := by simp [same]
      have code := (consists_iff.mp wordFits).2 '.' (by simpa using point)
      cases code
    | cons char rest =>
      refine notNext_misses ?_ rest
      by_contra ends
      simp only [Bool.or_eq_true, beq_iff_eq, not_or, Bool.not_eq_true] at ends
      -- The word would be the whole name, and the point would go on with it.
      obtain ⟨_, after⟩ := eq_of_append_eq (consists_iff.mp wordFits).2 (stops_cons.mpr ends.1)
        (consists_iff.mp nameFits).2 (stops_cons.mpr point_not_code) same
      exact ends.2 (List.cons.inj after).1
  · exact keyword_misses_of_literal (literal_misses_of_not_isPrefix begins)

/-- A word with a point in it is no keyword before another point if it differs on either side. -/
theorem keyword_misses_pointed {word front back name : String} {later : List Char}
    (written : word.toList = front.toList ++ '.' :: back.toList) (frontFits : isCode front)
    (nameFits : isCode name) (other : front = name → ¬back.toList <+: later) :
    (keyword word).Misses (name.toList ++ '.' :: later) := by
  refine keyword_misses_of_literal (literal_misses_of_not_isPrefix ?_)
  rw [written]
  rintro ⟨rest, same⟩
  rw [List.append_assoc, List.cons_append] at same
  obtain ⟨names, after⟩ := eq_of_append_eq (consists_iff.mp frontFits).2
    (stops_cons.mpr point_not_code) (consists_iff.mp nameFits).2 (stops_cons.mpr point_not_code)
    same
  exact other (String.toList_injective names) ⟨rest, (List.cons.inj after).2⟩

/-! Qualifiers. -/

theorem typeQualifier_append {name : String} (nameFits : isCode name) (later : List Char) :
    typeQualifier (name.toList ++ '.' :: later) = .read (.typeNamed name) later :=
  map_eq _ (followedBy_eq (code_append nameFits (stops_cons.mpr point_not_code))
    (literal_append "." later))

theorem uuid_append (graph : Uuid) (stops : Stops isUuidChar rest) :
    Reading.uuid (graph.text.toList ++ rest) = .read graph rest := by
  have inside : ∀ char ∈ graph.chars, isUuidChar char = true :=
    fun _ => Criterion.Reading.isUuidChar_of_mem_chars
  rw [Uuid.text, String.toList_ofList]
  refine mapIf_eq (run_append (Criterion.Reading.chars_ne_nil graph) inside stops) ?_
  rw [if_pos graph.length_chars, graph.ofText?_chars]

theorem graphQualifier_append (graph : Uuid) {name : String} (nameFits : isCode name)
    (later : List Char) :
    graphQualifier (graph.text.toList ++ '.' :: (name.toList ++ '.' :: later)) =
      .read (.typeInGraph graph name) later := by
  have point : Stops isUuidChar ('.' :: (name.toList ++ '.' :: later)) :=
    stops_cons.mpr (by decide)
  have graphRead := followedBy_eq (uuid_append graph point) (literal_append "." _)
  simp only [graphQualifier, graphRead, Outcome.andThen]
  exact map_eq _ (followedBy_eq (code_append nameFits (stops_cons.mpr point_not_code))
    (literal_append "." later))

theorem unqualified_append {selected : Part} (expressible : selected.expressible)
    (ended : Ended rest) :
    unqualified (selected.text.toList ++ rest) = .read (.scoped ⟨.any, selected⟩) rest :=
  map_eq _ (part_append expressible ended)

variable {qualifier : Reader Qualifier} {text : List Char}

theorem qualified_append {given : Qualifier} {selected : Part} (expressible : selected.expressible)
    (ended : Ended rest) (done : qualifier text = .read given (selected.text.toList ++ rest)) :
    qualified qualifier text = .read (.scoped ⟨given, selected⟩) rest := by
  simp only [qualified, done, Outcome.andThen]
  exact map_eq (qualifiedBy given) (unqualified_append expressible ended)

theorem qualified_misses (missed : qualifier.Misses text) : (qualified qualifier).Misses text := by
  obtain ⟨place, missed⟩ := missed
  exact ⟨place, by simp only [qualified, missed, Outcome.andThen]⟩

theorem qualified_misses_part {given : Qualifier} (done : qualifier text = .read given rest)
    (missed : part.Misses rest) : (qualified qualifier).Misses text := by
  have ungrouped : unqualified.Misses rest := map_misses _ missed
  obtain ⟨place, missed⟩ := map_misses (qualifiedBy given) ungrouped
  exact ⟨place, by simp only [qualified, done, Outcome.andThen, missed]⟩

/-- A group taken for the name of a type leaves no part. -/
theorem qualified_type_misses_group {selected : Part} (expressible : selected.expressible)
    (ended : Ended rest) : (qualified typeQualifier).Misses (selected.text.toList ++ rest) := by
  rw [part_text, List.append_assoc, List.cons_append]
  exact qualified_misses_part (typeQualifier_append (isCode_groupName selected) _)
    (part_misses_tailText expressible ended)

/-- A whole name is taken for a graph, or something of it is left before the point. -/
theorem graph_of_name {name : String} (nameFits : isCode name) (later : List Char) :
    (followedBy uuid (literal ".")).Misses (name.toList ++ '.' :: later) ∨
      ∃ graph, followedBy uuid (literal ".") (name.toList ++ '.' :: later) = .read graph later := by
  rcases mapIf_run_cases _ isUuidChar (name.toList ++ '.' :: later) with missed | ⟨graph, read⟩
  · exact .inl (followedBy_misses _ missed)
  · rw [List.dropWhile_append] at read
    cases left : name.toList.dropWhile isUuidChar with
    | nil =>
      rw [left] at read
      exact .inr ⟨graph, followedBy_eq read (literal_append "." later)⟩
    | cons char chars =>
      rw [left] at read
      have inName : char ∈ name.toList :=
        (List.dropWhile_suffix isUuidChar).subset (left ▸ List.mem_cons_self)
      have noPoint : (literal ".").Misses (char :: chars ++ '.' :: later) := by
        refine literal_misses_of_stops rfl (stops_cons.mpr (beq_eq_false_iff_ne.mpr ?_))
        rintro rfl
        cases (consists_iff.mp nameFits).2 '.' inName
      exact .inl (followedBy_misses_second read noPoint)

/-- The name of a type taken for a graph leaves the group to be taken for the name of a type. -/
theorem qualified_graph_misses_name {name : String} (nameFits : isCode name) {selected : Part}
    (expressible : selected.expressible) (ended : Ended rest) :
    (qualified graphQualifier).Misses (name.toList ++ '.' :: (selected.text.toList ++ rest)) := by
  rcases graph_of_name nameFits (selected.text.toList ++ rest) with missed | ⟨graph, read⟩
  · obtain ⟨place, missed⟩ := missed
    exact qualified_misses ⟨place, by simp only [graphQualifier, missed, Outcome.andThen]⟩
  · have taken : graphQualifier (name.toList ++ '.' :: (selected.text.toList ++ rest)) =
        .read (.typeInGraph graph (groupName selected)) ((tailText selected).toList ++ rest) := by
      simp only [graphQualifier, read, Outcome.andThen]
      rw [part_text, List.append_assoc, List.cons_append]
      exact map_eq _ (followedBy_eq
        (code_append (isCode_groupName selected) (stops_cons.mpr point_not_code))
        (literal_append "." _))
    exact qualified_misses_part taken (part_misses_tailText expressible ended)

/-- No group begins like a graph. -/
theorem qualified_graph_misses_group (selected : Part) (rest : List Char) :
    (qualified graphQualifier).Misses (selected.text.toList ++ rest) := by
  have stops : Stops isUuidChar (selected.text.toList ++ rest) := by
    rw [part_text, List.append_assoc]
    cases selected <;>
      · rw [groupName]
        exact stops_toList_append rfl (by decide) _
  have noGraph : Reading.uuid.Misses (selected.text.toList ++ rest) :=
    mapIf_misses _ (run_misses stops)
  obtain ⟨place, missed⟩ := followedBy_misses (literal ".") noGraph
  exact qualified_misses ⟨place, by simp only [graphQualifier, missed, Outcome.andThen]⟩

/-! Selects. -/

/-- The words that selects without a group consist of. -/
def keywords : List String :=
  ["node.id", "nodeId", "id"] ++ fieldNames.flatMap Prod.snd ++ ["type"]

theorem unscoped_misses {text : List Char} (noStar : (literal "*").Misses text)
    (noKeyword : ∀ word ∈ keywords, (keyword word).Misses text) :
    ∀ reader ∈ unscoped, reader.Misses text := by
  simp only [keywords, List.forall_mem_append, List.mem_flatMap, List.forall_mem_singleton]
    at noKeyword
  obtain ⟨⟨noId, noField⟩, noType⟩ := noKeyword
  have fields : field.Misses text := by
    refine firstOf_misses (List.forall_mem_map.mpr fun field member => map_misses _ ?_)
    refine firstOf_misses (List.forall_mem_map.mpr fun word spelled => ?_)
    exact noField word ⟨field, member, spelled⟩
  exact List.forall_mem_cons.mpr ⟨map_misses _ noStar, List.forall_mem_cons.mpr
    ⟨map_misses _ (firstOf_misses (List.forall_mem_map.mpr noId)), List.forall_mem_cons.mpr
      ⟨fields, List.forall_mem_singleton.mpr (map_misses _ noType)⟩⟩⟩

theorem unscoped_misses_name {name : String} (nameFits : isCode name) {later : List Char}
    (other : name = "node" → ¬"id".toList <+: later) :
    ∀ reader ∈ unscoped, reader.Misses (name.toList ++ '.' :: later) := by
  refine unscoped_misses
    (literal_misses_of_stops rfl (stops_mark nameFits (by decide) _)) fun word member => ?_
  have fits : keywords.all (fun word => word == "node.id" || isCode word) = true := by decide
  have wordFits := List.all_eq_true.mp fits word member
  rw [Bool.or_eq_true, beq_iff_eq] at wordFits
  rcases wordFits with rfl | wordFits
  · exact keyword_misses_pointed (show _ = "node".toList ++ '.' :: "id".toList from rfl)
      (by decide) nameFits fun same => other same.symm
  · exact keyword_misses_of_point wordFits nameFits later

theorem keyed_keywords {α : Type} (spellings : List String) (value : α) :
    Keyed spellings (map (fun _ => value) (firstOf (spellings.map keyword))) := by
  intro text missed
  refine map_misses _ (firstOf_misses (List.forall_mem_map.mpr fun word spelled => ?_))
  exact keyword_misses_of_literal (missed word spelled)

theorem field_append {name : String} (written : name ∈ writtenFields) (ended : Ended rest) :
    field (name.toList ++ rest) = .read (.field name) rest := by
  have keyed : List.Forall₂ Keyed (fieldNames.map Prod.snd) (fieldNames.map fun names =>
      map (fun _ => Select.field names.1) (firstOf (names.2.map keyword))) := by
    rw [List.forall₂_map_left_iff, List.forall₂_map_right_iff, List.forall₂_same]
    exact fun names _ => keyed_keywords names.2 (Select.field names.1)
  have spelled (others : List String) : map (fun _ => Select.field name)
      (firstOf ((name :: others).map keyword)) (name.toList ++ rest) = .read (.field name) rest :=
    map_eq _ (firstOf_cons_of_read _ (keyword_append name ended))
  simp only [writtenFields, List.mem_cons, List.not_mem_nil, or_false] at written
  rcases written with rfl | rfl | rfl | rfl | rfl | rfl | rfl
  · exact firstOf_of_keyed keyed 0 rfl (by decide) (spelled [])
  · exact firstOf_of_keyed keyed 1 rfl (by decide) (spelled [])
  · exact firstOf_of_keyed keyed 2 rfl (by decide) (spelled ["n"])
  · exact firstOf_of_keyed keyed 3 rfl (by decide) (spelled [])
  · exact firstOf_of_keyed keyed 4 rfl (by decide) (spelled [])
  · exact firstOf_of_keyed keyed 5 rfl (by decide) (spelled [])
  · exact firstOf_of_keyed keyed 6 rfl (by decide) (spelled [])

/-- The names that the unscoped selects begin with. -/
def unscopedNames : List (List String) :=
  [["*"], ["node.id", "nodeId", "id"], fieldNames.flatMap Prod.snd, ["type"]]

theorem keyed_unscoped : List.Forall₂ Keyed unscopedNames unscoped := by
  have star : Keyed ["*"] (literal "*") := fun _ missed => missed "*" List.mem_cons_self
  have fields : Keyed (fieldNames.flatMap Prod.snd) field := by
    intro text missed
    refine firstOf_misses (List.forall_mem_map.mpr fun names member => ?_)
    refine keyed_keywords names.2 (Select.field names.1) text fun word spelled => ?_
    exact missed word (List.mem_flatMap.mpr ⟨names, member, spelled⟩)
  have type : Keyed ["type"] (keyword "type") :=
    fun _ missed => keyword_misses_of_literal (missed "type" List.mem_cons_self)
  exact .cons (star.map _) <| .cons (keyed_keywords _ _) <| .cons fields <|
    .cons (type.map _) .nil

theorem select_of_unscoped (index : Nat) {reader : Reader Select} {start : String}
    {selected : Select} (there : unscoped[index]? = some reader)
    (apart : (unscopedNames.take index).flatten.all (differ ·.toList start.toList) = true)
    (done : reader (start.toList ++ rest) = .read selected rest) :
    select (start.toList ++ rest) = .read selected rest := by
  obtain ⟨small, _⟩ := List.getElem?_eq_some_iff.mp there
  refine firstOf_eq index (by rw [List.getElem?_append_left small, there]) ?_ done
  rw [List.take_append_of_le_length small.le]
  exact misses_of_apart (List.forall₂_take index keyed_unscoped) apart rest

theorem unscoped_misses_part (selected : Part) (rest : List Char) :
    ∀ reader ∈ unscoped, reader.Misses (selected.text.toList ++ rest) := by
  rw [part_text, List.append_assoc, List.cons_append]
  refine unscoped_misses_name (isCode_groupName selected) fun same => ?_
  cases selected <;>
    · rw [groupName] at same
      exact absurd same (by decide)

theorem isCode_graph (graph : Uuid) : isCode graph.text := by
  have digits : ∀ digit < 16, isCodeChar (hexDigit digit) = true := by decide
  refine consists_iff.mpr ?_
  rw [Uuid.text, String.toList_ofList]
  refine ⟨Criterion.Reading.chars_ne_nil graph, fun char member => ?_⟩
  obtain rfl | ⟨digit, small, rfl⟩ := Uuid.mem_chars member
  · rfl
  · exact digits digit small

/-- No group begins with the rest of the keyword `node.id`. -/
theorem part_text_ne_id (selected : Part) (rest : List Char) :
    ¬"id".toList <+: selected.text.toList ++ rest := by
  rw [part_text, List.append_assoc]
  have apart : differ "id".toList (groupName selected).toList = true := by
    cases selected <;>
      · rw [groupName]
        decide
  exact not_isPrefix_of_differ apart _

theorem scoped_append {given : Qualifier} {selected : Part} (qualifierFits : given.expressible)
    (expressible : selected.expressible) (ended : Ended rest) :
    select (given.text.toList ++ (selected.text.toList ++ rest)) =
      .read (.scoped ⟨given, selected⟩) rest := by
  cases given with
  | any =>
    refine firstOf_eq 6 rfl (List.forall_mem_append.mpr ⟨unscoped_misses_part selected rest, ?_⟩)
      (unqualified_append expressible ended)
    exact List.forall_mem_cons.mpr ⟨qualified_graph_misses_group selected rest,
      List.forall_mem_singleton.mpr (qualified_type_misses_group expressible ended)⟩
  | typeNamed name =>
    have other : name = "node" → ¬"id".toList <+: selected.text.toList ++ rest :=
      fun _ => part_text_ne_id selected rest
    rw [Qualifier.text, String.toList_append, List.append_assoc]
    refine firstOf_eq 5 rfl (List.forall_mem_append.mpr
      ⟨unscoped_misses_name qualifierFits other, List.forall_mem_singleton.mpr ?_⟩)
      (qualified_append expressible ended (typeQualifier_append qualifierFits _))
    exact qualified_graph_misses_name qualifierFits expressible ended
  | typeInGraph graph name =>
    have other : graph.text = "node" →
        ¬"id".toList <+: name.toList ++ '.' :: (selected.text.toList ++ rest) := by
      have length : graph.text.toList.length = 36 := by
        rw [Uuid.text, String.toList_ofList, graph.length_chars]
      intro same
      rw [same] at length
      cases length
    simp only [Qualifier.text, String.toList_append, List.append_assoc]
    exact firstOf_eq 4 rfl (unscoped_misses_name (isCode_graph graph) other)
      (qualified_append expressible ended (graphQualifier_append graph qualifierFits _))

theorem select_append {selected : Select} (expressible : selected.expressible)
    (ended : Ended rest) : select (selected.text.toList ++ rest) = .read selected rest := by
  match selected, expressible with
  | .everything, _ => exact firstOf_cons_of_read _ (map_eq _ (literal_append "*" rest))
  | .nodeId, _ =>
    have done : firstOf (["node.id", "nodeId", "id"].map keyword) ("id".toList ++ rest) =
        .read () rest := by
      refine firstOf_eq 2 rfl (List.forall_mem_cons.mpr ⟨?_, List.forall_mem_singleton.mpr ?_⟩)
        (keyword_append "id" ended)
      · exact keyword_misses_of_literal (literal_misses (by decide) rest)
      · exact keyword_misses_of_literal (literal_misses (by decide) rest)
    exact select_of_unscoped 1 rfl (by decide) (map_eq _ done)
  | .nodeType, _ =>
    exact select_of_unscoped 3 rfl (by decide) (map_eq _ (keyword_append "type" ended))
  | .field name, expressible =>
    have written := List.contains_iff_mem.mp expressible
    have apart : writtenFields.all (fun name =>
        (unscopedNames.take 2).flatten.all (differ ·.toList name.toList)) = true := by decide
    exact select_of_unscoped 2 rfl (List.all_eq_true.mp apart name written)
      (field_append written ended)
  | .scoped selected, expressible =>
    rw [Select.expressible, Bool.and_eq_true] at expressible
    rw [text, String.toList_append, List.append_assoc]
    exact scoped_append expressible.1 expressible.2 ended

/-! Lists. -/

theorem solid_code {name : String} (fits : isCode name) (later : List Char) :
    Stops isBlank (name.toList ++ later) := by
  obtain ⟨nonempty, inside⟩ := consists_iff.mp fits
  refine stops_append nonempty (fun char member => Bool.eq_false_iff.mpr fun blank => ?_) later
  have code := inside char member
  simp only [isBlank, Bool.or_eq_true, beq_iff_eq] at blank
  rcases blank with ((rfl | rfl) | rfl) | rfl <;> cases code

theorem solid_select {selected : Select} (expressible : selected.expressible)
    (rest : List Char) : Stops isBlank (selected.text.toList ++ rest) := by
  match selected, expressible with
  | .everything, _ => exact stops_toList_append rfl (by decide) rest
  | .nodeId, _ => exact solid_code (by decide) rest
  | .nodeType, _ => exact solid_code (by decide) rest
  | .field name, expressible =>
    have fits : writtenFields.all isCode = true := by decide
    exact solid_code (List.all_eq_true.mp fits name (List.contains_iff_mem.mp expressible)) rest
  | .scoped ⟨qualifier, part⟩, expressible =>
    rw [Select.expressible, Bool.and_eq_true] at expressible
    rw [text, String.toList_append, List.append_assoc]
    cases qualifier with
    | any =>
      rw [part_text, List.append_assoc]
      exact solid_code (isCode_groupName part) _
    | typeNamed name =>
      rw [Qualifier.text, String.toList_append, List.append_assoc]
      exact solid_code expressible.1 _
    | typeInGraph graph name =>
      simp only [Qualifier.text, String.toList_append, List.append_assoc]
      exact solid_code (isCode_graph graph) _

theorem joined_listText (first : Select) (others : List Select) :
    Joined (· = ",".toList) ((first :: others).map fun select => select.text.toList)
      (listText (first :: others)).toList := by
  induction others generalizing first with
  | nil =>
    rw [listText, List.map_singleton, List.map_singleton, String.intercalate_singleton]
    exact .single _
  | cons next others ih =>
    have written : listText (first :: next :: others) =
        first.text ++ "," ++ listText (next :: others) := String.intercalate_cons_cons
    rw [written, String.toList_append, String.toList_append, List.append_assoc, List.map_cons]
    exact .more _ rfl (ih next)

theorem selects_append {selected : List Select}
    (expressible : ∀ select ∈ selected, select.expressible) :
    selects (listText selected).toList = .read selected [] := by
  cases selected with
  | nil => rfl
  | cons first others =>
    have reads (select : Select) (member : select ∈ first :: others) (rest : List Char)
        (ended : Ended rest) : Reading.select (select.text.toList ++ rest) = .read select rest :=
      select_append (expressible select member) ended
    have marks (select : Select) (member : select ∈ first :: others) (later : List Char) :
        comma (",".toList ++ (select.text.toList ++ later)) =
          .read () (select.text.toList ++ later) := by
      rw [comma, before_eq _ (blanks_of_stops (stops_toList_append rfl (by decide) _))]
      exact followedBy_eq (literal_append "," _)
        (blanks_of_stops (solid_select (expressible select member) later))
    have marked (later : List Char) : Ended (",".toList ++ later) := by
      rintro _ ⟨⟩
      rfl
    have noComma : comma.Misses [] := ⟨[], rfl⟩
    have read := separated_texts reads marks (List.cons_ne_nil _ _) marked ended_nil noComma
      (joined_listText first others)
    rw [List.append_nil] at read
    exact separatedIfAny_of_separated read

/-! The selects that are read. -/

theorem yields_unqualified : Yields unqualified fun select => select.expressible = true :=
  yields_map yields_part

theorem yields_qualified {qualifier : Reader Qualifier}
    (fits : Yields qualifier fun given => given.expressible = true) :
    Yields (qualified qualifier) fun select => select.expressible = true := by
  intro text
  refine (fits text).andThen fun given givenFits rest => ?_
  exact .map ((yields_unqualified rest).mono fun select selectFits =>
    expressible_qualifiedBy givenFits selectFits)

theorem yields_select : Yields select fun select => select.expressible = true := by
  have constant {α : Type} (reader : Reader α) {given : Select} (fits : given.expressible = true) :
      Yields (map (fun _ => given) reader) fun select => select.expressible = true :=
    yields_map fun text => (yields_any reader text).mono fun _ _ => fits
  have field : Yields field fun select => select.expressible = true := by
    have written : fieldNames.all (writtenFields.contains ·.1) = true := by decide
    exact yields_firstOf (List.forall_mem_map.mpr fun names member =>
      constant _ (List.all_eq_true.mp written names member))
  have type : Yields typeQualifier fun given => given.expressible = true :=
    yields_map (yields_followedBy yields_code _)
  have graph : Yields graphQualifier fun given => given.expressible = true := fun text =>
    (yields_any (followedBy uuid (literal ".")) text).andThen fun _ _ rest =>
      yields_map (yields_followedBy yields_code _) rest
  refine yields_firstOf (List.forall_mem_append.mpr ⟨?_, ?_⟩)
  · exact List.forall_mem_cons.mpr ⟨constant _ rfl, List.forall_mem_cons.mpr ⟨constant _ rfl,
      List.forall_mem_cons.mpr ⟨field, List.forall_mem_singleton.mpr (constant _ rfl)⟩⟩⟩
  · exact List.forall_mem_cons.mpr ⟨yields_qualified graph, List.forall_mem_cons.mpr
      ⟨yields_qualified type, List.forall_mem_singleton.mpr yields_unqualified⟩⟩

end Reading

theorem solid_listText {selects : List Select}
    (expressible : ∀ select ∈ selects, select.expressible = true) :
    Stops isBlank (listText selects).toList := by
  cases selects with
  | nil => exact stops_nil isBlank
  | cons first others =>
    obtain ⟨later, written⟩ := (Reading.joined_listText first others).begins
    rw [written]
    exact Reading.solid_select (expressible first List.mem_cons_self) later

theorem readList_of_expressible {selects : List Select}
    (expressible : ∀ select ∈ selects, select.expressible = true) :
    readList (listText selects) = .ok selects := by
  have nothing : Blank [] := List.forall_mem_nil _
  refine readAll_of_read (List.append_nil _).symm nothing nothing ?_ ?_
  · rw [List.append_nil]
    exact solid_listText expressible
  · rw [List.append_nil]
    exact Reading.selects_append expressible

theorem expressible_of_readList {text : String} {selects : List Select}
    (read : readList text = .ok selects) : ∀ select ∈ selects, select.expressible = true :=
  good_of_readAll (yields_separatedIfAny Reading.yields_select Reading.comma) read

/-- A list of selects is read back from its text exactly if all of them can be written, and every
list that is read from any text is such a list. -/
theorem readList_listText (selects : List Select) :
    (readList (listText selects) = .ok selects ↔
      ∀ select ∈ selects, select.expressible = true) ∧
    ∀ text, readList text = .ok selects →
      (∀ select ∈ selects, select.expressible = true) ∧
        readList (listText selects) = .ok selects := by
  refine ⟨⟨expressible_of_readList, readList_of_expressible⟩, fun text read => ?_⟩
  have expressible := expressible_of_readList read
  exact ⟨expressible, readList_of_expressible expressible⟩

end Select

end NodeQuery
