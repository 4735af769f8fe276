import NodeQuery.Proofs.History
import NodeQuery.Proofs.Relational.Layout

/-! Outlines of specifications. What a leaf adds to a template depends on the kind of its criterion
alone; its values are parameters. A template hence depends on the outline of the specification,
which has kinds in place of criteria, and tells nothing about the values. -/

namespace NodeQuery

open Relational

namespace Criterion

/-- The column that a criterion is about, and for dates the bounds that are there. Criteria on
attributes have no relational form and are not told apart. -/
inductive Kind where
  | id
  | graph
  | type
  | code
  | uri
  | number
  | created (lower upper : Bool)
  | modified (lower upper : Bool)
  | attribute
  deriving DecidableEq

def kind : Criterion → Kind
  | .hasId _ => .id
  | .inGraph _ => .graph
  | .hasType _ => .type
  | .hasCode _ => .code
  | .hasUri _ => .uri
  | .hasNumber _ => .number
  | .createdWithin during => .created during.lower.isSome during.upper.isSome
  | .modifiedWithin during => .modified during.lower.isSome during.upper.isSome
  | _ => .attribute

/-- What a criterion compares columns with. -/
def values : Criterion → List Value
  | .hasId id => [.uuid id]
  | .inGraph graph => [.uuid graph]
  | .hasType name => [.text name]
  | .hasCode code => [.text code]
  | .hasUri uri => [.text uri]
  | .hasNumber number => [.integer number]
  | .createdWithin during => (during.lower.toList ++ during.upper.toList).map .timestamp
  | .modifiedWithin during => (during.lower.toList ++ during.upper.toList).map .timestamp
  | _ => []

namespace Kind

/-- The conditions on a date column, of which there may be none. -/
def rangeTemplate (column : String) : Bool → Bool → String
  | false, false => "1 = 1"
  | true, false => column ++ " >= ?"
  | false, true => column ++ " <= ?"
  | true, true => column ++ " >= ? AND " ++ column ++ " <= ?"

def template : Kind → String
  | .id => "id = ?"
  | .graph => "graph_id = ?"
  | .type => "type_id = ?"
  | .code => "code IS NOT NULL AND code = ?"
  | .uri => "uri IS NOT NULL AND uri = ?"
  | .number => "number = ?"
  | .created lower upper => rangeTemplate "created_date" lower upper
  | .modified lower upper => rangeTemplate "last_modified_date" lower upper
  | .attribute => ""

end Kind

/-- A fragment is the template of the kind with the values as parameters. -/
theorem fragment_eq (criterion : Criterion) :
    criterion.fragment = ⟨criterion.kind.template, criterion.values⟩ := by
  cases criterion with
  | createdWithin during =>
    obtain ⟨lower, upper⟩ := during
    cases lower <;> cases upper <;> rfl
  | modifiedWithin during =>
    obtain ⟨lower, upper⟩ := during
    cases lower <;> cases upper <;> rfl
  | _ => rfl

end Criterion

namespace Specification

variable {α β : Type}

mutual

/-- Other leaves in the same places. -/
def mapLeaves (f : α → β) : Specification α → Specification β
  | .everything => .everything
  | .nothing => .nothing
  | .leaf value => .leaf (f value)
  | .negation inner => .negation (mapLeaves f inner)
  | .conjunction clauses => .conjunction (mapAllLeaves f clauses)
  | .disjunction clauses => .disjunction (mapAllLeaves f clauses)

def mapAllLeaves (f : α → β) : List (Specification α) → List (Specification β)
  | [] => []
  | clause :: clauses => mapLeaves f clause :: mapAllLeaves f clauses

end

theorem mapAllLeaves_eq (f : α → β) (clauses : List (Specification α)) :
    mapAllLeaves f clauses = clauses.map (mapLeaves f) :=
  eq_map_of_clausewise rfl (fun _ _ => rfl) clauses

theorem mapLeaves_compose (f : α → β) (connective : Connective) (clauses : List (Specification α)) :
    mapLeaves f (connective.compose clauses) = connective.compose (clauses.map (mapLeaves f)) := by
  rw [← mapAllLeaves_eq]
  cases connective <;> rfl

end Specification

namespace Relational

section

variable {α β : Type} (f : α → β)

def Piece.map : Piece α → Piece β
  | .fixed text => .fixed text
  | .fragment leaf => .fragment (f leaf)

theorem joinedLayout_map (separator : String) (layouts : List (List (Piece α))) :
    joinedLayout separator (layouts.map fun pieces => pieces.map (Piece.map f)) =
      (joinedLayout separator layouts).map (Piece.map f) := by
  have enclosed_map (pieces : List (Piece α)) :
      enclosed (pieces.map (Piece.map f)) = (enclosed pieces).map (Piece.map f) := by
    simp [enclosed, Piece.map]
  cases layouts with
  | nil => rfl
  | cons first others =>
    rw [List.map_cons, joinedLayout, joinedLayout, List.map_append, enclosed_map,
      List.map_flatMap, List.flatMap_map]
    congr 2
    funext other
    rw [List.map_cons, enclosed_map, Piece.map]

/-- The layout is the same whatever the leaves are. -/
theorem layout_mapLeaves (specification : Specification α) :
    layout (specification.mapLeaves f) = (layout specification).map (Piece.map f) := by
  induction specification using Specification.composedOn with
  | everything => rfl
  | nothing => rfl
  | leaf value => rfl
  | negation inner ih => simp [Specification.mapLeaves, layout, ih, Piece.map]
  | composite connective clauses ih =>
    rw [Specification.mapLeaves_compose, layout_compose, layout_compose, List.map_map,
      ← joinedLayout_map, List.map_map]
    exact congrArg _ (List.map_congr_left ih)

end

def Piece.template : Piece Criterion.Kind → String
  | .fixed text => text
  | .fragment kind => kind.template

/-- The template of an outline. -/
def outlineTemplate (outline : Specification Criterion.Kind) : String :=
  .join ((layout outline).map Piece.template)

theorem template_written (specification : NodeSpecification) :
    (written (layout specification)).template =
      outlineTemplate (specification.mapLeaves Criterion.kind) := by
  rw [outlineTemplate, layout_mapLeaves, List.map_map]
  refine congrArg String.join (List.map_congr_left fun piece _ => ?_)
  cases piece with
  | fixed text => rfl
  | fragment criterion => exact congrArg Query.template criterion.fragment_eq

/-- A compiled specification is the template of its outline with the values of its leaves. -/
theorem relational_eq {specification : NodeSpecification} {query : Query}
    (compiled : specification.relational = .ok query) :
    query = ⟨outlineTemplate (specification.mapLeaves Criterion.kind),
      specification.leaves.flatMap Criterion.values⟩ := by
  obtain ⟨-, rfl⟩ := NodeSpecification.written_of_relational compiled
  have parameters : (written (layout specification)).parameters =
      specification.leaves.flatMap Criterion.values := by
    rw [parameters_written, leaves_layout]
    exact List.flatMap_congr fun leaf _ => congrArg Query.parameters leaf.fragment_eq
  rw [← template_written, ← parameters]

/-- Specifications with the same outline have the same template, and their values are parameters. -/
theorem relational_uniform (left right : NodeSpecification) (leftQuery rightQuery : Query)
    (alike : left.mapLeaves Criterion.kind = right.mapLeaves Criterion.kind)
    (leftCompiled : left.relational = .ok leftQuery)
    (rightCompiled : right.relational = .ok rightQuery) :
    leftQuery.template = rightQuery.template ∧
      leftQuery.parameters = left.leaves.flatMap Criterion.values ∧
      rightQuery.parameters = right.leaves.flatMap Criterion.values := by
  cases relational_eq leftCompiled
  cases relational_eq rightCompiled
  exact ⟨congrArg outlineTemplate alike, rfl, rfl⟩

/-- A code that looks like a condition does not get into the template. -/
theorem relational_uniform_hostileCode :
    let asking (code uri : String) (number : Int64) : NodeSpecification := .conjunction
      [.negation (.leaf (.hasCode code)), .disjunction [.leaf (.hasUri uri), .nothing],
        .leaf (.hasNumber number), .leaf (.createdWithin ⟨none, some default⟩)]
    ∃ plain hostile, (asking "c" "u" 1).relational = .ok plain ∧
      (asking "' OR 1 = 1 --?" "?'); DROP TABLE node" (-1)).relational = .ok hostile ∧
      plain.template = hostile.template ∧ plain.parameters ≠ hostile.parameters := by
  intro asking
  obtain ⟨same, _, _⟩ := relational_uniform (asking "c" "u" 1)
    (asking "' OR 1 = 1 --?" "?'); DROP TABLE node" (-1)) _ _ rfl rfl rfl
  exact ⟨_, _, rfl, rfl, same, by decide⟩

end Relational

end NodeQuery
