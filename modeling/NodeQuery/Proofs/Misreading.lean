import NodeQuery.Projection.Reading
import NodeQuery.Proofs.Text.Places
import NodeQuery.Specification.Reading

/-! Texts that are not readable. Every reader of criteria, queries and selects goes forward in its
text, whichever way it fails, so what is reported of a text that was refused is a place in it. -/

namespace NodeQuery

open Text Text.Reader

namespace Criterion.Reading

theorem advances_code : Advances code := advances_map _ (advances_run isCodeChar)

theorem advances_bare : Advances bare := advances_map _ (advances_run isBareChar)

theorem suffix_of_unescape {chars value after : List Char}
    (read : Quoted.unescape chars = some (value, after)) : after <:+ chars := by
  fun_induction Quoted.unescape chars generalizing value after with
  | case1 => cases read
  | case2 rest =>
    cases read
    exact List.suffix_cons _ _
  | case3 => cases read
  | case4 char rest ih =>
    obtain ⟨_, found, same⟩ := Option.map_eq_some_iff.mp read
    cases same
    exact (ih found).trans ((List.suffix_cons char rest).trans (List.suffix_cons _ _))
  | case5 char rest _ _ _ ih =>
    obtain ⟨_, found, same⟩ := Option.map_eq_some_iff.mp read
    cases same
    exact (ih found).trans (List.suffix_cons char rest)

/-- A text in quotes that does not end fails where it begins. -/
theorem advances_quoted : Advances quoted := by
  intro text
  unfold quoted
  split
  · next rest =>
    split
    · next found => exact (suffix_of_unescape found).trans (List.suffix_cons _ _)
    · exact List.suffix_refl _
  · exact List.suffix_refl text

theorem advances_uuid : Advances uuid := advances_mapIf _ (advances_run isUuidChar)

theorem advances_natural : Advances natural := advances_map _ (advances_run isDigit)

theorem advances_integer : Advances integer := by
  refine advances_mapIf _ fun text => ?_
  split
  · next rest => exact ((advances_natural rest).trans (List.suffix_cons _ _)).map
  · exact (advances_natural _).map

theorem advances_timestamp : Advances timestamp := advances_mapIf _ (advances_run isDateChar)

section

variable {α : Type} {value : Reader α}

theorem advances_field (names : List String) (advances : Advances value) :
    Advances (field names value) :=
  advances_before (advances_spelling names) advances

theorem advances_openOr (advances : Advances value) : Advances (openOr value) :=
  advances_either (advances_map _ (advances_literal "*")) (advances_map some advances)

theorem advances_interval (advances : Advances value) : Advances (interval value) := by
  have bound := advances_openOr advances
  have parting := advances_before advances_someBlanks
    (advances_before (advances_literal "TO") advances_someBlanks)
  apply advances_before (advances_before (advances_literal "[") advances_blanks)
  refine fun text => (bound text).andThen fun lower => ?_
  apply advances_before parting
  refine fun text => (bound text).andThen fun upper => ?_
  exact advances_map _ (advances_before advances_blanks (advances_literal "]"))

end

theorem advances_quotedOrBare : Advances (firstOf [quoted, bare]) :=
  advances_either advances_quoted advances_bare

theorem advances_starred {reader : Reader String} (advances : Advances reader) :
    Advances (starred reader) :=
  fun text => (advances text).andThen fun _ =>
    advances_map _ (advances_optional (advances_literal "*"))

theorem advances_textValue (property : PropertyPath) : Advances (textValue property) := by
  intro text
  unfold textValue
  split
  · next done => exact (advances_interval advances_quotedOrBare).of_eq done
  · exact (advances_starred advances_quotedOrBare text).map

theorem advances_wordsValue (property : PropertyPath) : Advances (wordsValue property) := by
  have nothing : Advances nothingBeforeStar :=
    advances_map _ (advances_ahead (advances_literal "*"))
  have phrase : Advances (firstOf [quoted, bare, nothingBeforeStar]) :=
    advances_firstOf (List.forall_mem_cons.mpr ⟨advances_quoted, List.forall_mem_cons.mpr
      ⟨advances_bare, List.forall_mem_singleton.mpr nothing⟩⟩)
  exact fun text => (advances_starred phrase text).map

theorem advances_of_propertyValue {parts : List String} {value : Reader Criterion}
    (asked : propertyValue parts = some value) : Advances value := by
  unfold propertyValue at asked
  split at asked
  · cases asked
    exact advances_wordsValue _
  · cases asked
    split
    · exact advances_textValue _
    · exact advances_wordsValue _
  · cases asked
    exact advances_textValue _
  · cases asked

/-- A name with too many parts is refused where the property begins. -/
theorem advances_property : Advances property := by
  have parts : Advances propertyParts := advances_field _
    (advances_followedBy (advances_separated (advances_literal ".") advances_code)
      (advances_literal ":"))
  intro text
  unfold property
  cases read : propertyParts text with
  | read names rest =>
    simp only [Outcome.andThen]
    cases asked : propertyValue names with
    | some value => exact (advances_of_propertyValue asked rest).trans (parts.of_eq read)
    | none => exact List.suffix_refl text
  | missed place => exact parts.of_eq read
  | refused place => exact parts.of_eq read

theorem advances_targetId : Advances targetId :=
  advances_before (advances_literal "id:")
    (advances_either (advances_map _ (advances_literal "null")) (advances_map some advances_uuid))

theorem advances_reference {target : Reader Criterion} (advances : Advances target) :
    Advances (reference target) := by
  have named : Advances (followedBy (field ["references.", "refs.", "r."] code) (literal ".")) :=
    advances_followedBy (advances_field _ advances_code) (advances_literal ".")
  refine fun text => (named text).andThen fun name rest => ?_
  split
  · next done => exact advances_targetId.of_eq done
  · next done => exact advances_targetId.of_eq done
  · exact (advances rest).map

theorem advances_criterion (nesting : Nat) : Advances (criterion nesting) := by
  have kind {α : Type} (names : List String) {value : Reader α} (f : α → Criterion)
      (advances : Advances value) : Advances (map f (field names value)) :=
    advances_map f (advances_field names advances)
  have quotedOrCode := advances_either advances_quoted advances_code
  have during := advances_interval advances_timestamp
  induction nesting with
  | zero => exact List.suffix_refl
  | succ nesting ih =>
    refine advances_firstOf ?_
    simp only [alternatives, List.forall_mem_cons, List.not_mem_nil, false_imp_iff, implies_true,
      and_true]
    exact ⟨kind _ _ advances_uuid, kind _ _ advances_uuid, kind _ _ advances_code,
      kind _ _ quotedOrCode, kind _ _ advances_quotedOrBare, kind _ _ advances_integer,
      kind _ _ during, kind _ _ during, advances_property, advances_reference ih⟩

end Criterion.Reading

namespace Specification.Reading

variable {item : Reader NodeSpecification}

theorem advances_keyword (name : String) : Advances (keyword name) :=
  advances_before advances_someBlanks
    (advances_before (advances_literal name) advances_someBlanks)

theorem advances_disjunctionOf (advances : Advances item) : Advances (disjunctionOf item) :=
  advances_map _ (advances_separated (advances_keyword "OR")
    (advances_map _ (advances_separated (advances_keyword "AND") advances)))

theorem advances_negationMark : Advances negationMark :=
  advances_followedBy (advances_literal "NOT")
    (advances_either advances_someBlanks (advances_ahead (advances_literal "(")))

theorem advances_parenthesized (advances : Advances item) : Advances (parenthesized item) :=
  advances_followedBy
    (advances_before (advances_before (advances_literal "(") advances_blanks) advances)
    (advances_before advances_blanks (advances_literal ")"))

theorem advances_factor (nesting : Nat) : Advances (factor nesting) := by
  induction nesting with
  | zero => exact List.suffix_refl
  | succ nesting ih =>
    refine advances_firstOf (List.forall_mem_cons.mpr ⟨?_, List.forall_mem_cons.mpr
      ⟨?_, List.forall_mem_singleton.mpr ?_⟩⟩)
    · exact advances_map _ (advances_before advances_negationMark ih)
    · exact advances_parenthesized (advances_disjunctionOf ih)
    · exact advances_map _ (Criterion.Reading.advances_criterion (nesting + 1))

theorem advances_query : Advances query :=
  fun text => advances_disjunctionOf (advances_factor (text.length + 1)) text

end Specification.Reading

namespace Select.Reading

open Criterion.Reading (advances_code code)

theorem advances_keyword (name : String) : Advances (keyword name) :=
  advances_followedBy (advances_literal name) (advances_notNext _)

theorem advances_keywords (names : List String) : Advances (firstOf (names.map keyword)) :=
  advances_firstOf (List.forall_mem_map.mpr fun _ _ => advances_keyword _)

theorem advances_depth : Advances depth :=
  advances_map _ (advances_optional (advances_before (advances_literal ":")
    (advances_mapIf depth? (advances_run isDigit))))

theorem advances_named (part : String → Nat → Part) : Advances (named part) :=
  fun text => (advances_code text).andThen fun _ => advances_map _ advances_depth

theorem advances_group (spellings : List String) (all : Part) {one : Reader Part}
    (advances : Advances one) : Advances (group spellings all one) :=
  advances_before (advances_spelling spellings)
    (advances_either (advances_map _ (advances_literal "*")) advances)

theorem advances_part : Advances part :=
  advances_firstOf (List.forall_mem_cons.mpr
    ⟨advances_group _ _ (advances_map _ advances_code), List.forall_mem_cons.mpr
      ⟨advances_group _ _ (advances_named _), List.forall_mem_singleton.mpr
        (advances_group _ _ (advances_named _))⟩⟩)

theorem advances_unqualified : Advances unqualified := advances_map _ advances_part

theorem advances_qualified {qualifier : Reader Qualifier} (advances : Advances qualifier) :
    Advances (qualified qualifier) :=
  fun text => (advances text).andThen fun _ => advances_map _ advances_unqualified

theorem advances_select : Advances select := by
  have name : Advances (followedBy code (literal ".")) :=
    advances_followedBy advances_code (advances_literal ".")
  have scheme : Advances (followedBy uuid (literal ".")) :=
    advances_followedBy (advances_mapIf _ (advances_run _)) (advances_literal ".")
  have graph : Advances graphQualifier :=
    fun text => (scheme text).andThen fun _ => advances_map _ name
  have field : Advances field :=
    advances_firstOf (List.forall_mem_map.mpr fun _ _ => advances_map _ (advances_keywords _))
  refine advances_firstOf (List.forall_mem_append.mpr ⟨?_, ?_⟩)
  · exact List.forall_mem_cons.mpr ⟨advances_map _ (advances_literal "*"),
      List.forall_mem_cons.mpr ⟨advances_map _ (advances_keywords _), List.forall_mem_cons.mpr
        ⟨field, List.forall_mem_singleton.mpr (advances_map _ (advances_keyword "type"))⟩⟩⟩
  · exact List.forall_mem_cons.mpr ⟨advances_qualified graph, List.forall_mem_cons.mpr
      ⟨advances_qualified (advances_map _ name),
        List.forall_mem_singleton.mpr advances_unqualified⟩⟩

theorem advances_comma : Advances comma :=
  advances_before advances_blanks (advances_followedBy (advances_literal ",") advances_blanks)

theorem advances_selects : Advances selects :=
  advances_separatedIfAny advances_comma advances_select

end Select.Reading

/-- What is reported of a text that is no query, or no list of selects, is a place in it: the bytes
before it are counted, and the characters from there on are shown. -/
theorem misreading_pointsInto (text : String) :
    (∀ misreading, NodeSpecification.read text = .error misreading →
      misreading.PointsInto text) ∧
    ∀ misreading, Select.readList text = .error misreading → misreading.PointsInto text := by
  constructor
  · intro misreading failed
    exact pointsInto_of_readAll Specification.Reading.advances_query failed
  · intro misreading failed
    exact pointsInto_of_readAll Select.Reading.advances_selects failed

/-- A name with too many parts is refused after a character of two bytes, and of a list of selects
the part from the comma on is not read. -/
theorem misreading_pointsInto_wideCharacters :
    (NodeSpecification.read "code:\"ü\" AND p.a.b.c:ö" = .error ⟨14, "p.a.b.c:ö"⟩ ∧
      Misreading.PointsInto ⟨14, "p.a.b.c:ö"⟩ "code:\"ü\" AND p.a.b.c:ö") ∧
    (NodeSpecification.read "\t" = .error ⟨1, "<end of input>"⟩ ∧
      Misreading.PointsInto ⟨1, "<end of input>"⟩ "\t") ∧
    (Select.readList "id,é" = .error ⟨2, ",é"⟩ ∧ Misreading.PointsInto ⟨2, ",é"⟩ "id,é") := by
  have refused : NodeSpecification.read "code:\"ü\" AND p.a.b.c:ö" = .error ⟨14, "p.a.b.c:ö"⟩ := by
    cbv
  have blank : NodeSpecification.read "\t" = .error ⟨1, "<end of input>"⟩ := by cbv
  have unread : Select.readList "id,é" = .error ⟨2, ",é"⟩ := by cbv
  exact ⟨⟨refused, (misreading_pointsInto _).1 _ refused⟩,
    ⟨blank, (misreading_pointsInto _).1 _ blank⟩, unread, (misreading_pointsInto _).2 _ unread⟩

end NodeQuery
