import NodeQuery.Proofs.Compilation
import NodeQuery.Proofs.Specification.Connective
import NodeQuery.Proofs.Text.Joined

/-! The layout of templates. A template consists of the fragments of the leaves, from left to right,
and of fixed texts around them; the parameters are those of the fragments. The layout is the same
for all leaves that may stand in their places. -/

namespace NodeQuery

/-- The relational form of a criterion, and an empty one where it has none. -/
def Criterion.fragment (criterion : Criterion) : Relational.Query :=
  criterion.relational?.getD (.constant "")

namespace Specification.Connective

def separator : Connective → String
  | .and => " AND "
  | .or => " OR "

end Specification.Connective

namespace Relational

/-- A stretch of a template: a fixed text, or the fragment of a leaf. -/
inductive Piece (α : Type) where
  | fixed (text : String)
  | fragment (leaf : α)

def Piece.leaf? {α : Type} : Piece α → Option α
  | .fixed _ => none
  | .fragment leaf => some leaf

/-- What a piece adds to a query. -/
def Piece.query : Piece Criterion → Query
  | .fixed text => .constant text
  | .fragment criterion => criterion.fragment

section

variable {α : Type}

def enclosed (pieces : List (Piece α)) : List (Piece α) :=
  .fixed "(" :: pieces ++ [.fixed ")"]

/-- Layouts in parentheses between connectives; no layouts contradict. -/
def joinedLayout (separator : String) : List (List (Piece α)) → List (Piece α)
  | [] => [.fixed "1 = 0"]
  | first :: others =>
    enclosed first ++ others.flatMap fun other => .fixed separator :: enclosed other

mutual

/-- The pieces of the template of a specification. -/
def layout : Specification α → List (Piece α)
  | .everything => [.fixed "1 = 1"]
  | .nothing => [.fixed "1 = 0"]
  | .leaf value => [.fragment value]
  | .negation inner => .fixed "NOT (" :: layout inner ++ [.fixed ")"]
  | .conjunction clauses => joinedLayout " AND " (layouts clauses)
  | .disjunction clauses => joinedLayout " OR " (layouts clauses)

def layouts : List (Specification α) → List (List (Piece α))
  | [] => []
  | clause :: clauses => layout clause :: layouts clauses

end

theorem layouts_eq (clauses : List (Specification α)) : layouts clauses = clauses.map layout :=
  Specification.eq_map_of_clausewise rfl (fun _ _ => rfl) clauses

theorem layout_compose (connective : Specification.Connective)
    (clauses : List (Specification α)) :
    layout (connective.compose clauses) =
      joinedLayout connective.separator (clauses.map layout) := by
  rw [← layouts_eq]
  cases connective <;> rfl

theorem leaves_joinedLayout (separator : String) (layouts : List (List (Piece α))) :
    (joinedLayout separator layouts).filterMap Piece.leaf? =
      layouts.flatMap fun pieces => pieces.filterMap Piece.leaf? := by
  have leaves_enclosed (pieces : List (Piece α)) :
      (enclosed pieces).filterMap Piece.leaf? = pieces.filterMap Piece.leaf? := by
    simp [enclosed, List.filterMap_cons, Piece.leaf?]
  cases layouts with
  | nil => rfl
  | cons first others =>
    rw [joinedLayout, List.filterMap_append, leaves_enclosed, List.flatMap_cons,
      List.filterMap_flatMap]
    congr 2
    funext other
    exact leaves_enclosed other

/-- The fragments in a layout are those of the leaves, from left to right. -/
theorem leaves_layout (specification : Specification α) :
    (layout specification).filterMap Piece.leaf? = specification.leaves := by
  induction specification using Specification.composedOn with
  | everything => rfl
  | nothing => rfl
  | leaf value => rfl
  | negation inner ih => simp [layout, List.filterMap_cons, Piece.leaf?, Specification.leaves, ih]
  | composite connective clauses ih =>
    rw [layout_compose, leaves_joinedLayout, List.flatMap_map, Specification.leaves_compose,
      Specification.allLeaves_eq]
    exact List.flatMap_congr ih

end

/-- The pieces one behind the other, with their parameters. -/
def written (pieces : List (Piece Criterion)) : Query :=
  ⟨String.join (pieces.map (·.query.template)), pieces.flatMap (·.query.parameters)⟩

theorem written_fragment (criterion : Criterion) :
    written [.fragment criterion] = criterion.fragment := by
  simp [written, Piece.query]

theorem written_append (pieces others : List (Piece Criterion)) :
    written (pieces ++ others) =
      ⟨(written pieces).template ++ (written others).template,
        (written pieces).parameters ++ (written others).parameters⟩ := by
  simp [written]

theorem written_cons (piece : Piece Criterion) (pieces : List (Piece Criterion)) :
    written (piece :: pieces) = ⟨piece.query.template ++ (written pieces).template,
      piece.query.parameters ++ (written pieces).parameters⟩ := by
  simp [written]

theorem written_fixed (text : String) (pieces : List (Piece Criterion)) :
    written (.fixed text :: pieces) =
      ⟨text ++ (written pieces).template, (written pieces).parameters⟩ :=
  written_cons _ _

/-- The fixed texts add no parameters. -/
theorem parameters_written (pieces : List (Piece Criterion)) :
    (written pieces).parameters =
      (pieces.filterMap Piece.leaf?).flatMap (·.fragment.parameters) := by
  induction pieces with
  | nil => rfl
  | cons piece pieces ih =>
    rw [written_cons, ih]
    cases piece <;> rfl

theorem written_enclosed (pieces : List (Piece Criterion)) :
    written (enclosed pieces) =
      ⟨"(" ++ (written pieces).template ++ ")", (written pieces).parameters⟩ := by
  rw [enclosed, List.cons_append, written_fixed, written_append, written_fixed]
  simp [written, String.append_assoc]

theorem written_negation (pieces : List (Piece Criterion)) :
    written (.fixed "NOT (" :: pieces ++ [.fixed ")"]) = (written pieces).negate := by
  rw [List.cons_append, written_fixed, written_append, written_fixed]
  simp [written, Query.negate, String.append_assoc]

theorem written_others (separator : String) (others : List (List (Piece Criterion))) :
    written (others.flatMap fun other => .fixed separator :: enclosed other) =
      ⟨.join (others.map fun other => separator ++ ("(" ++ (written other).template ++ ")")),
        others.flatMap fun other => (written other).parameters⟩ := by
  induction others with
  | nil => rfl
  | cons other others ih =>
    rw [List.flatMap_cons, written_append, ih, written_fixed, written_enclosed]
    simp only [List.map_cons, String.join_cons, List.flatMap_cons]

theorem written_joinedLayout (separator : String) (layouts : List (List (Piece Criterion))) :
    written (joinedLayout separator layouts) = .joined separator (layouts.map written) := by
  cases layouts with
  | nil => rfl
  | cons first others =>
    rw [joinedLayout, written_append, written_enclosed, written_others]
    simp only [Query.joined, List.map_cons, List.isEmpty_cons, Bool.false_eq_true, if_false,
      Text.intercalate_cons, List.map_map, List.flatMap_cons, List.flatMap_map, Function.comp_def]

end Relational

namespace NodeSpecification

open Relational

theorem paired_of_relationalForms {clauses : List NodeSpecification} {queries : List Query}
    (compiled : relationalForms clauses = .ok queries) :
    List.Forall₂ (fun clause query => clause.relationalForm = .ok query) clauses queries := by
  refine Specification.paired_of_translated relationalForm relationalForms rfl
    (fun clause clauses queries compiled => ?_) compiled
  unfold relationalForms at compiled
  split at compiled
  · cases compiled
  · next query first =>
    cases rest : relationalForms clauses with
    | error unsupported =>
      rw [rest] at compiled
      cases compiled
    | ok others =>
      rw [rest] at compiled
      cases compiled
      exact ⟨query, others, rfl, first, rfl⟩

theorem relationalForm_compose (connective : Specification.Connective)
    (clauses : List NodeSpecification) :
    relationalForm (connective.compose clauses) =
      (relationalForms clauses).map (.joined connective.separator) := by
  cases connective <;> rfl

theorem written_of_paired {clauses : List NodeSpecification} {queries : List Query}
    (paired : List.Forall₂ (fun clause query =>
      (∀ leaf ∈ clause.leaves, leaf.relational? = some leaf.fragment) ∧
        query = written (layout clause)) clauses queries) :
    (∀ leaf ∈ Specification.allLeaves clauses, leaf.relational? = some leaf.fragment) ∧
      queries = clauses.map fun clause => written (layout clause) := by
  induction paired with
  | nil => exact ⟨List.forall_mem_nil _, rfl⟩
  | cons first _ ih =>
    exact ⟨List.forall_mem_append.mpr ⟨first.1, ih.1⟩, congrArg₂ List.cons first.2 ih.2⟩

/-- A compiled specification has leaves with a form of their own only, and is written as it is laid
out. -/
theorem written_of_relational {specification : NodeSpecification} {query : Query}
    (compiled : specification.relational = .ok query) :
    (∀ leaf ∈ specification.leaves, leaf.relational? = some leaf.fragment) ∧
      query = written (layout specification) := by
  rw [relational_eq_form] at compiled
  induction specification using Specification.composedOn generalizing query with
  | everything =>
    cases compiled
    exact ⟨List.forall_mem_nil _, rfl⟩
  | nothing =>
    cases compiled
    exact ⟨List.forall_mem_nil _, rfl⟩
  | leaf criterion =>
    unfold relationalForm at compiled
    split at compiled
    · next form =>
      cases compiled
      have own : criterion.fragment = query := by rw [Criterion.fragment, form, Option.getD_some]
      refine ⟨List.forall_mem_singleton.mpr (own ▸ form), ?_⟩
      rw [layout, written_fragment, own]
    · cases compiled
  | negation inner ih =>
    unfold relationalForm at compiled
    cases form : relationalForm inner with
    | error unsupported =>
      rw [form] at compiled
      cases compiled
    | ok query =>
      rw [form] at compiled
      cases compiled
      obtain ⟨leaves, rfl⟩ := ih form
      exact ⟨leaves, (written_negation _).symm⟩
  | composite connective clauses ih =>
    rw [relationalForm_compose] at compiled
    cases forms : relationalForms clauses with
    | error unsupported =>
      rw [forms] at compiled
      cases compiled
    | ok queries =>
      rw [forms] at compiled
      cases compiled
      have paired := (List.forall₂_and_left _ _).mpr ⟨ih, paired_of_relationalForms forms⟩
      obtain ⟨leaves, same⟩ := written_of_paired (paired.imp fun _ _ both => both.1 both.2)
      rw [Specification.leaves_compose, layout_compose, written_joinedLayout, List.map_map]
      exact ⟨leaves, congrArg (Query.joined connective.separator) same⟩

end NodeSpecification

end NodeQuery
