import NodeQuery.Criterion
import NodeQuery.Proofs.Specification.Expansion

/-! Normal forms. Pushing negations down and then distributing the inner connective over the outer
one leaves the meaning as it is, and what comes out are groups of literals, none of them empty. -/

namespace NodeQuery.Specification

variable {α : Type} {leaves : List α}

theorem allPushed_eq (negated : Bool) (clauses : List (Specification α)) :
    allPushed negated clauses = clauses.map (pushed negated) :=
  eq_map_of_clausewise rfl (fun _ _ => rfl) clauses

/-- A composite with clauses becomes one of the pushed clauses, of the opposite kind if negated. -/
theorem pushed_compose (negated : Bool) (connective : Connective)
    {clauses : List (Specification α)} (some : clauses ≠ []) :
    pushed negated (connective.compose clauses) =
      (if negated then connective.opposite else connective).compose
        (clauses.map (pushed negated)) := by
  have filled : clauses.isEmpty = false := List.isEmpty_eq_false_iff.mpr some
  cases connective <;> cases negated <;>
    simp [Connective.compose, Connective.opposite, pushed, filled, allPushed_eq]

theorem pushed_compose_nil (negated : Bool) (connective : Connective) :
    pushed negated (connective.compose ([] : List (Specification α))) =
      if negated then .everything else .nothing := by
  cases connective <;> rfl

theorem pushed_normal (specification : Specification α) (negated : Bool) :
    NegationNormal specification.leaves (pushed negated specification) := by
  induction specification using composedOn generalizing negated with
  | everything => cases negated <;> exact .literal (by constructor)
  | nothing => cases negated <;> exact .literal (by constructor)
  | leaf value =>
    cases negated
    · exact .literal (.leaf List.mem_cons_self)
    · exact .literal (.negation List.mem_cons_self)
  | negation inner ih => exact ih (!negated)
  | composite connective clauses ih =>
    by_cases some : clauses = []
    · subst some
      rw [pushed_compose_nil]
      cases negated <;> exact .literal (by constructor)
    · rw [pushed_compose negated connective some, leaves_compose]
      refine .composite _ (by simpa using some) fun clause member => ?_
      obtain ⟨given, listed, rfl⟩ := List.mem_map.mp member
      exact (ih given listed negated).mono (mem_allLeaves_of_mem listed)

theorem holds_pushed (leafHolds : α → Bool) (specification : Specification α) (negated : Bool) :
    holds leafHolds (pushed negated specification) =
      (negated ^^ holds leafHolds specification) := by
  induction specification using composedOn generalizing negated with
  | everything => cases negated <;> rfl
  | nothing => cases negated <;> rfl
  | leaf value => cases negated <;> simp [pushed, holds]
  | negation inner ih =>
    rw [pushed, ih, holds]
    cases negated <;> simp
  | composite connective clauses ih =>
    by_cases some : clauses = []
    · subst some
      rw [pushed_compose_nil, Connective.holds_compose_nil]
      cases negated <;> rfl
    · rw [pushed_compose negated connective some,
        Connective.holds_compose _ _ (by simpa using some), Connective.joined_map,
        Connective.joined_congr _ _ fun clause member => ih clause member negated,
        Connective.holds_compose _ _ some]
      cases negated
      · simp
      · simp [Connective.joined_not]
        cases connective <;> rfl

/-- A normal form holds where the specification does. It consists of groups, each of which consists
of constants, leaves of the specification and negations of them, and there is always at least one
group and one literal in each. -/
theorem normalForm_agrees (form : Form) (limit : Nat) (specification : Specification α)
    (groups : Groups α) (done : normalForm form limit specification = .ok groups) :
    (∀ leafHolds, holds leafHolds (form.compose groups) = holds leafHolds specification) ∧
    groups ≠ [] ∧
    ∀ group ∈ groups, group ≠ [] ∧
      ∀ literal ∈ group, Literal specification.leaves literal := by
  have expresses := expresses_of_grouped (pushed_normal specification false) done
  refine ⟨fun leafHolds => ?_, expresses.some, fun group member => ?_⟩
  · rw [Form.holds_compose leafHolds expresses.some fun group member =>
      (expresses.each group member).some, expresses.agrees, holds_pushed, Bool.false_xor]
  · exact ⟨(expresses.each group member).some, (expresses.each group member).literal⟩

/-- Composites without clauses, as they stand and negated, among others. -/
def withEmptyComposites : NodeSpecification :=
  .conjunction [.disjunction [.leaf (.hasCode "C1"), .conjunction []],
    .negation (.conjunction [.leaf (.hasType "Concept"), .negation (.disjunction []),
      .leaf (.hasNumber 7)])]

theorem normalForm_agrees_withEmptyComposites :
    ∃ groups, normalForm .disjunctive 6 withEmptyComposites = .ok groups ∧
      (∀ leafHolds, holds leafHolds (Form.disjunctive.compose groups) =
        holds leafHolds withEmptyComposites) ∧
      groups ≠ [] ∧
      ∀ group ∈ groups, group ≠ [] ∧
        ∀ literal ∈ group, Literal withEmptyComposites.leaves literal :=
  ⟨_, rfl, normalForm_agrees .disjunctive 6 withEmptyComposites _ rfl⟩

end NodeQuery.Specification
