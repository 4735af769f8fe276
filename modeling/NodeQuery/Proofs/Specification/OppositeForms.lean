import NodeQuery.Proofs.Specification.Duality
import NodeQuery.Proofs.Specification.NormalForm

/-! Normal forms of opposites. Pushing a negation down gives the opposite of what is pushed down
without it. On opposites each form does what the other form does on the specifications themselves:
groups that are gathered for one are gathered for the other, and groups that are crossed are
crossed. So both forms have the same groups up to opposites, and refuse at the same place. -/

namespace NodeQuery.Specification

variable {α : Type} {leaves : List α} {form : Form} {limit : Nat}

namespace Form

/-- The form with the connectives exchanged. -/
def opposite : Form → Form
  | .conjunctive => .disjunctive
  | .disjunctive => .conjunctive

theorem outer_opposite (form : Form) : form.opposite.outer = form.outer.opposite := by
  cases form <;> rfl

theorem inner_opposite (form : Form) : form.opposite.inner = form.inner.opposite := by
  cases form <;> rfl

end Form

/-- The groups with the opposite of each literal in its place. -/
def oppositeGroups (groups : Groups α) : Groups α := groups.map (List.map opposite)

theorem oppositeGroups_append (groups others : Groups α) :
    oppositeGroups (groups ++ others) = oppositeGroups groups ++ oppositeGroups others :=
  List.map_append

theorem length_oppositeGroups (groups : Groups α) :
    (oppositeGroups groups).length = groups.length :=
  List.length_map _

/-- Groups are chosen in the same order, whatever literals they hold. -/
theorem crossed_opposite (parts : List (Groups α)) :
    crossed (parts.map oppositeGroups) = oppositeGroups (crossed parts) := by
  induction parts using List.reverseRecOn with
  | nil => rfl
  | append_singleton parts part ih =>
    rw [List.map_append, List.map_singleton, Form.crossed_concat, ih, Form.crossed_concat]
    simp [oppositeGroups, List.flatMap_map, List.map_flatMap, Function.comp_def]

theorem estimatedCount_opposite (parts : List (Groups α)) :
    estimatedCount (parts.map oppositeGroups) = estimatedCount parts := by
  rw [estimatedCount_eq, estimatedCount_eq, crossed_opposite, length_oppositeGroups]

theorem distributed_opposite (parts : List (Groups α)) :
    distributed limit (parts.map oppositeGroups) =
      (distributed limit parts).map oppositeGroups := by
  unfold distributed
  rw [estimatedCount_opposite, crossed_opposite]
  split <;> rfl

section

variable {clauses : List (Specification α)} (each : ∀ clause ∈ clauses,
  grouped form.opposite limit (opposite clause) = (grouped form limit clause).map oppositeGroups)

include each

theorem gathered_opposite (found : Groups α) :
    gathered form.opposite limit (oppositeGroups found) (clauses.map opposite) =
      (gathered form limit found clauses).map oppositeGroups := by
  induction clauses generalizing found with
  | nil => rfl
  | cons clause clauses ih =>
    obtain ⟨first, others⟩ := List.forall_mem_cons.mp each
    rw [List.map_cons, gathered, gathered, first]
    cases grouped form limit clause with
    | error overflow => rfl
    | ok groups =>
      -- both lists are compared with the limit by their lengths, which are the same
      simp only [Except.map, ← oppositeGroups_append, length_oppositeGroups]
      split
      · rfl
      · exact ih others _

theorem allGrouped_opposite :
    allGrouped form.opposite limit (clauses.map opposite) =
      (allGrouped form limit clauses).map (List.map oppositeGroups) := by
  induction clauses with
  | nil => rfl
  | cons clause clauses ih =>
    obtain ⟨first, others⟩ := List.forall_mem_cons.mp each
    rw [List.map_cons, allGrouped, allGrouped, first, ih others]
    cases grouped form limit clause with
    | error overflow => rfl
    | ok groups => cases allGrouped form limit clauses <;> rfl

end

theorem Literal.opposite {specification : Specification α} (plain : Literal leaves specification) :
    Literal leaves specification.opposite := by
  cases plain with
  | everything => exact .nothing
  | nothing => exact .everything
  | leaf listed => exact .negation listed
  | negation listed => exact .leaf listed

/-- The groups of the opposite in the other form, or the refusal of as many of them. -/
theorem grouped_opposite {specification : Specification α}
    (normal : NegationNormal leaves specification) :
    grouped form.opposite limit (opposite specification) =
      (grouped form limit specification).map oppositeGroups := by
  induction normal with
  | literal plain =>
    rw [grouped_literal plain, grouped_literal plain.opposite]
    rfl
  | @composite connective clauses _ _ ih =>
    rw [opposite_compose]
    rcases form.eq_outer_or_eq_inner connective with rfl | rfl
    · rw [← form.outer_opposite, grouped_outer, grouped_outer]
      exact gathered_opposite ih []
    · rw [← form.inner_opposite, grouped_inner, grouped_inner, allGrouped_opposite ih]
      cases allGrouped form limit clauses with
      | error overflow => rfl
      | ok parts => exact distributed_opposite parts

theorem pushed_not (specification : Specification α) (negated : Bool) :
    pushed (!negated) specification = opposite (pushed negated specification) := by
  induction specification using composedOn generalizing negated with
  | everything => cases negated <;> rfl
  | nothing => cases negated <;> rfl
  | leaf value => cases negated <;> rfl
  | negation inner ih => exact ih (!negated)
  | composite connective clauses ih =>
    by_cases some : clauses = []
    · subst some
      rw [pushed_compose_nil, pushed_compose_nil]
      cases negated <;> rfl
    · have same : clauses.map (opposite ∘ pushed negated) = clauses.map (pushed !negated) :=
        List.map_congr_left fun clause member => (ih clause member negated).symm
      rw [pushed_compose _ _ some, pushed_compose _ _ some, opposite_compose, List.map_map, same]
      cases negated
      · rfl
      · exact congrArg (Connective.compose · _) connective.opposite_opposite.symm

/-- A negated specification has, in either form, the groups that the specification has in the other
one, in the same order and with each literal negated; it is refused just if the specification is,
and with the same estimate. -/
theorem normalForm_negation (form : Form) (limit : Nat) (specification : Specification α) :
    normalForm form.opposite limit (.negation specification) =
      (normalForm form limit specification).map
        (List.map (List.map opposite)) :=
  calc normalForm form.opposite limit (.negation specification)
    _ = grouped form.opposite limit (opposite (pushed false specification)) :=
      congrArg _ (pushed_not specification false)
    _ = (normalForm form limit specification).map (List.map (List.map opposite)) :=
      grouped_opposite (pushed_normal specification false)

end NodeQuery.Specification
