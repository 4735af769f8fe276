import NodeQuery.Proofs.Relational.Agreement
import NodeQuery.Proofs.Relational.Outline

/-! How deep templates nest, and what that decides. Negations and composites put their clauses in
parentheses, of which the grammar reads so many within each other and no more. Nothing else can go
wrong with the query of a specification whose leaves all have a relational form. -/

namespace NodeQuery

namespace Specification

variable {α : Type}

mutual

/-- The most negations and composites that stand within each other. Composites without clauses have
nothing to put in parentheses. -/
def nesting : Specification α → Nat
  | .everything => 0
  | .nothing => 0
  | .leaf _ => 0
  | .negation inner => nesting inner + 1
  | .conjunction clauses => nestingWithin clauses
  | .disjunction clauses => nestingWithin clauses

def nestingWithin : List (Specification α) → Nat
  | [] => 0
  | clause :: clauses => max (nesting clause + 1) (nestingWithin clauses)

end

theorem nesting_compose (connective : Connective) (clauses : List (Specification α)) :
    nesting (connective.compose clauses) = nestingWithin clauses := by
  cases connective <;> rfl

theorem Connective.nests_separator (connective : Connective) :
    Relational.Nests connective.separator.toList 0 := by
  cases connective <;> exact .plain _ rfl

end Specification

namespace Relational

theorem nests_kind (kind : Criterion.Kind) : Nests kind.template.toList 0 := by
  cases kind with
  | created lower upper => cases lower <;> cases upper <;> exact .plain _ rfl
  | modified lower upper => cases lower <;> cases upper <;> exact .plain _ rfl
  | _ => exact .plain _ rfl

theorem nests_enclosed {pieces : List (Piece Criterion)} {depth : Nat}
    (inner : Nests (written pieces).template.toList depth) :
    Nests (written (enclosed pieces)).template.toList (depth + 1) := by
  have nests := inner.parenthesized
  rw [written_enclosed]
  simpa using nests

/-- Further clauses in parentheses nest as deep as the deepest of them. -/
theorem nests_further {separator : String} (plain : Nests separator.toList 0)
    {clauses : List NodeSpecification}
    (each : ∀ clause ∈ clauses, Nests (written (layout clause)).template.toList clause.nesting) :
    Nests (written (clauses.flatMap fun clause =>
        .fixed separator :: enclosed (layout clause))).template.toList
      (Specification.nestingWithin clauses) := by
  induction clauses with
  | nil => exact .plain _ rfl
  | cons clause clauses ih =>
    obtain ⟨first, later⟩ := List.forall_mem_cons.mp each
    have front := plain.append (nests_enclosed first)
    rw [Nat.zero_max] at front
    rw [List.flatMap_cons, written_append, written_fixed, String.toList_append,
      String.toList_append]
    exact front.append (ih later)

/-- The template of a specification nests as deep as the specification. -/
theorem nests_layout (specification : NodeSpecification) :
    Nests (written (layout specification)).template.toList specification.nesting := by
  induction specification using Specification.composedOn with
  | everything => exact .plain _ rfl
  | nothing => exact .plain _ rfl
  | leaf criterion =>
    rw [layout, written_fragment, criterion.fragment_eq]
    exact nests_kind criterion.kind
  | negation inner ih =>
    have nests := (Nests.plain "NOT ".toList rfl).append ih.parenthesized
    rw [Nat.zero_max] at nests
    rw [layout, written_negation, Specification.nesting]
    simpa [Query.negate] using nests
  | composite connective clauses ih =>
    rw [layout_compose, Specification.nesting_compose]
    cases clauses with
    | nil =>
      rw [List.map_nil, joinedLayout]
      exact .plain _ rfl
    | cons clause clauses =>
      obtain ⟨first, later⟩ := List.forall_mem_cons.mp ih
      rw [List.map_cons, joinedLayout, List.flatMap_map, written_append, String.toList_append]
      exact (nests_enclosed first).append (nests_further connective.nests_separator later)

theorem nesting_relational {specification : NodeSpecification} {query : Query}
    (compiled : specification.relational = .ok query) : query.nesting = specification.nesting := by
  rw [(NodeSpecification.written_of_relational compiled).2]
  exact Query.nesting_eq (nests_layout specification)

end Relational

namespace Engine

open Relational

variable (engine : Engine) {specification : NodeSpecification}

theorem findRelational_of_shallow (changes : History)
    (supported : specification.supports .relational = true)
    (shallow : specification.nesting ≤ Grammar.nestingLimit) :
    ∃ keys, engine.findRelational (Table.after changes) specification = .ok keys := by
  obtain ⟨query, compiled, sentence, rfl, _⟩ := specification.relational_means supported
  rw [← nesting_relational compiled] at shallow
  obtain ⟨keys, found, _⟩ :=
    Table.execute_sentence (Table.after_represents changes) sentence shallow
  refine ⟨keys, ?_⟩
  unfold findRelational
  rw [compiled]
  simp only [found, Except.mapError]

/-- A specification that nests deeper than the grammar admits compiles, but its template is not
read, whatever the table holds. -/
theorem findRelational_of_deep (table : Table)
    (supported : specification.supports .relational = true)
    (deep : Grammar.nestingLimit < specification.nesting) :
    engine.findRelational table specification = .error (.query .unreadableTemplate) := by
  obtain ⟨query, compiled, sentence, rfl, _⟩ := specification.relational_means supported
  rw [← nesting_relational compiled] at deep
  unfold findRelational
  rw [compiled]
  simp only [Table.execute, sentence.ofQuery_of_deep deep]
  rfl

/-- The query of a specification whose leaves all have a relational form succeeds on every table
just if the specification nests no deeper than the grammar admits; otherwise the template is
unreadable, and no other error occurs. -/
theorem findRelational_succeeds_iff (changes : History)
    (supported : specification.supports .relational = true) :
    ((∃ keys, engine.findRelational (Table.after changes) specification = .ok keys) ↔
      specification.nesting ≤ Grammar.nestingLimit) ∧
    ∀ error, engine.findRelational (Table.after changes) specification = .error error →
      error = .query .unreadableTemplate := by
  rcases Nat.lt_or_ge Grammar.nestingLimit specification.nesting with deep | shallow
  · have refused := engine.findRelational_of_deep (Table.after changes) supported deep
    rw [refused]
    refine ⟨⟨?_, fun shallow => absurd shallow (not_le.mpr deep)⟩, ?_⟩
    · intro found
      obtain ⟨_, found⟩ := found
      cases found
    · intro error same
      cases same
      rfl
  · obtain ⟨keys, found⟩ := engine.findRelational_of_shallow changes supported shallow
    rw [found]
    exact ⟨⟨fun _ => shallow, fun _ => ⟨keys, rfl⟩⟩, fun _ impossible => nomatch impossible⟩

end Engine

example : Relational.Grammar.nestingLimit = 47 := rfl

/-- A criterion on numbers, negated time after time. -/
def negations : Nat → NodeSpecification
  | 0 => .leaf (.hasNumber 0)
  | count + 1 => .negation (negations count)

theorem findRelational_succeeds_iff_negations :
    (negations 48).supports .relational = true ∧
    (((∃ keys, (Engine.mk .standard .empty).findRelational (Relational.Table.after storedAgain)
        (negations 48) = .ok keys) ↔
      (negations 48).nesting ≤ Relational.Grammar.nestingLimit) ∧
    ∀ error, (Engine.mk .standard .empty).findRelational (Relational.Table.after storedAgain)
        (negations 48) = .error error → error = .query .unreadableTemplate) := by
  have supported : (negations 48).supports .relational = true := by decide
  exact ⟨supported,
    Engine.findRelational_succeeds_iff (Engine.mk .standard .empty) storedAgain supported⟩

/-- One negation more than the grammar admits is compiled, and then refused. -/
theorem findRelational_negations_refused :
    (negations 48).supports .relational = true ∧
    (Engine.mk .standard .empty).findRelational (Relational.Table.after storedAgain)
      (negations 48) = .error (.query .unreadableTemplate) := by
  have supported : (negations 48).supports .relational = true := by decide
  exact ⟨supported, Engine.findRelational_of_deep _ _ supported (by decide)⟩

end NodeQuery
