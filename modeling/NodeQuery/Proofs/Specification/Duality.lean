import NodeQuery.Proofs.Distinct
import NodeQuery.Proofs.Specification.Simplified

/-! Opposites. The opposite of a specification has the other connectives and constants, and negated
leaves; its opposite is the specification again. Simplified specifications are negated by taking
opposites, and composites of opposites are opposites. It hence makes no difference whether a
composite is simplified before it is negated or made of clauses that are negated already. -/

namespace NodeQuery.Specification

variable {α : Type} {leaves : List α} {connective : Connective}
  {clauses : List (Specification α)} {specification clause : Specification α}

mutual

/-- Conjunctions and disjunctions exchanged, likewise the constants, and leaves negated or no longer
negated. -/
def opposite : Specification α → Specification α
  | .everything => .nothing
  | .nothing => .everything
  | .leaf value => .negation (.leaf value)
  | .negation inner => inner
  | .conjunction clauses => .disjunction (allOpposite clauses)
  | .disjunction clauses => .conjunction (allOpposite clauses)

def allOpposite : List (Specification α) → List (Specification α)
  | [] => []
  | clause :: clauses => opposite clause :: allOpposite clauses

end

theorem allOpposite_eq (clauses : List (Specification α)) :
    allOpposite clauses = clauses.map opposite :=
  eq_map_of_clausewise rfl (fun _ _ => rfl) clauses

theorem opposite_compose (connective : Connective) (clauses : List (Specification α)) :
    opposite (connective.compose clauses) =
      connective.opposite.compose (clauses.map opposite) := by
  rw [← allOpposite_eq]
  cases connective <;> rfl

theorem opposite_opposite (normal : NegationNormal leaves specification) :
    opposite (opposite specification) = specification := by
  induction normal with
  | literal plain => cases plain <;> rfl
  | @composite connective clauses _ _ ih =>
    have same : clauses.map (opposite ∘ opposite) = clauses :=
      (List.map_congr_left ih).trans (List.map_id _)
    rw [opposite_compose, opposite_compose, Connective.opposite_opposite, List.map_map, same]

theorem opposite_inj {others : List α} {left right : Specification α}
    (first : NegationNormal leaves left) (second : NegationNormal others right) :
    opposite left = opposite right ↔ left = right := by
  refine ⟨fun same => ?_, congrArg opposite⟩
  rw [← opposite_opposite first, same, opposite_opposite second]

namespace Connective

theorem absorbing_opposite (connective : Connective) :
    (connective.opposite.absorbing : Specification α) = connective.absorbing.opposite := by
  cases connective <;> rfl

theorem neutral_opposite (connective : Connective) :
    (connective.opposite.neutral : Specification α) = connective.neutral.opposite := by
  cases connective <;> rfl

theorem flattened_opposite (connective : Connective) (normal : NegationNormal leaves clause) :
    connective.opposite.flattened clause.opposite =
      (connective.flattened clause).map Specification.opposite := by
  cases normal with
  | literal plain => cases plain <;> cases connective <;> rfl
  | composite other some each =>
    cases connective <;> cases other <;>
      simp [opposite, compose, flattened, Specification.opposite, allOpposite_eq]

theorem Keeps.opposite (kept : connective.Keeps clause) (normal : NegationNormal leaves clause) :
    connective.opposite.Keeps clause.opposite where
  alone := by
    rw [flattened_opposite connective normal, kept.alone]
    rfl
  notAbsorbing := by
    rw [absorbing_opposite, ne_eq, opposite_inj normal connective.simplified_absorbing.normal]
    exact kept.notAbsorbing
  notNeutral := by
    rw [neutral_opposite, ne_eq, opposite_inj normal connective.simplified_neutral.normal]
    exact kept.notNeutral

end Connective

/-! The steps of a combination, taken with opposites. -/

theorem flatMap_flattened_opposite (each : ∀ clause ∈ clauses, NegationNormal leaves clause) :
    (clauses.map opposite).flatMap connective.opposite.flattened =
      (clauses.flatMap connective.flattened).map opposite := by
  rw [List.flatMap_map, List.map_flatMap]
  exact List.flatMap_congr fun clause member => connective.flattened_opposite (each clause member)

section

variable {parts : List (Specification α)} (normal : ∀ part ∈ parts, NegationNormal leaves part)

include normal

theorem absorbing_mem_map_opposite :
    connective.opposite.absorbing ∈ parts.map opposite ↔ connective.absorbing ∈ parts := by
  rw [connective.absorbing_opposite]
  refine ⟨fun member => ?_, List.mem_map_of_mem⟩
  obtain ⟨part, listed, same⟩ := List.mem_map.mp member
  exact (opposite_inj (normal part listed) connective.simplified_absorbing.normal).mp same ▸ listed

theorem filter_map_opposite [DecidableEq α] :
    (parts.map opposite).filter (· ≠ connective.opposite.neutral) =
      (parts.filter (· ≠ connective.neutral)).map opposite := by
  rw [List.filter_map, connective.neutral_opposite]
  refine congrArg _ (List.filter_congr fun part listed => ?_)
  simp [opposite_inj (normal part listed) connective.simplified_neutral.normal]

theorem distinct_map_opposite [DecidableEq α] :
    distinct (parts.map opposite) = (distinct parts).map opposite :=
  distinct_map fun left first right second same =>
    (opposite_inj (normal left first) (normal right second)).mp same

end

section

variable [DecidableEq α]

theorem negated_eq_opposite (simplified : Simplified specification) :
    negated specification = opposite specification := by
  induction simplified with
  | everything | nothing | leaf | negation => rfl
  | composite connective two nodup kept each ih =>
    rw [negated_compose, opposite_compose, List.map_congr_left ih]
    -- the opposites are still different and still kept, so they are combined as they are
    refine combine_eq_compose (by simpa using two) ?_ ?_
    · refine nodup.map_on fun left first right second same => ?_
      exact (opposite_inj (each left first).normal (each right second).normal).mp same
    · refine List.forall_mem_map.mpr fun clause member => ?_
      exact (kept clause member).opposite (each clause member).normal

theorem negated_negated (simplified : Simplified specification) :
    negated (negated specification) = specification := by
  rw [negated_eq_opposite (simplified_negated simplified), negated_eq_opposite simplified,
    opposite_opposite simplified.normal]

theorem simplify_negation (specification : Specification α) :
    simplify (.negation specification) = opposite (simplify specification) :=
  negated_eq_opposite (simplified_simplify specification)

/-- Without clauses both kinds come to nothing, which is no opposite of itself. -/
theorem opposite_combine (some : clauses ≠ [])
    (each : ∀ clause ∈ clauses, NegationNormal leaves clause) :
    opposite (combine connective clauses) =
      combine connective.opposite (clauses.map opposite) := by
  have filled := flatMap_flattened_ne_nil connective each some
  have normal := normal_of_mem_flatMap connective each
  unfold combine
  rw [flatMap_flattened_opposite each]
  generalize clauses.flatMap connective.flattened = parts at filled normal
  have kept : distinct ((parts.filter (· ≠ connective.neutral)).map opposite) =
      (distinct (parts.filter (· ≠ connective.neutral))).map opposite :=
    distinct_map_opposite fun part member => normal part (List.mem_of_mem_filter member)
  simp only []
  rw [filter_map_opposite normal, kept]
  by_cases member : connective.absorbing ∈ parts
  · rw [if_pos member, if_pos ((absorbing_mem_map_opposite normal).mpr member),
      connective.absorbing_opposite]
  · rw [if_neg member, if_neg (mt (absorbing_mem_map_opposite normal).mp member)]
    -- what is left of the parts once the neutral constants and the repetitions are dropped
    generalize distinct (parts.filter (· ≠ connective.neutral)) = several
    rcases several with _ | ⟨only, _ | ⟨second, others⟩⟩
    · simp [filled, connective.neutral_opposite]
    · rfl
    · exact opposite_compose connective _

theorem simplify_negation_compose (connective : Connective) (some : clauses ≠ []) :
    simplify (.negation (connective.compose clauses)) =
      simplify (connective.opposite.compose (clauses.map .negation)) := by
  have normal : ∀ clause ∈ clauses.map simplify, NegationNormal (allLeaves clauses) clause :=
    List.forall_mem_map.mpr fun clause listed =>
      (simplify_normal clause).mono (mem_allLeaves_of_mem listed)
  calc simplify (.negation (connective.compose clauses))
    _ = opposite (combine connective (clauses.map simplify)) := by
      rw [simplify_negation, simplify_compose]
    _ = combine connective.opposite ((clauses.map simplify).map opposite) :=
      opposite_combine (by simpa using some) normal
    _ = combine connective.opposite ((clauses.map .negation).map simplify) := by
      rw [List.map_map, List.map_map]
      exact congrArg _ (List.map_congr_left fun clause _ => (simplify_negation clause).symm)
    _ = simplify (connective.opposite.compose (clauses.map .negation)) :=
      (simplify_compose _ _).symm

/-- De Morgan's laws, as equalities of what specifications are simplified to. -/
theorem simplify_deMorgan (specification : Specification α) (clauses : List (Specification α))
    (some : clauses ≠ []) :
    simplify (.negation (.negation specification)) = simplify specification ∧
    simplify (.negation (.conjunction clauses)) =
      simplify (.disjunction (clauses.map .negation)) ∧
    simplify (.negation (.disjunction clauses)) =
      simplify (.conjunction (clauses.map .negation)) :=
  ⟨negated_negated (simplified_simplify specification), simplify_negation_compose .and some,
    simplify_negation_compose .or some⟩

end

/-- Clauses that repeat a leaf, its negation and a constant at several depths. -/
def repeatedClauses : List NodeSpecification :=
  [.leaf (.hasCode "C1"), .conjunction [.leaf (.hasNumber 7), .negation (.leaf (.hasCode "C1"))],
    .negation (.disjunction [.negation (.leaf (.hasCode "C1")), .nothing, .leaf (.hasNumber 7)])]

theorem simplify_deMorgan_repeatedClauses :
    repeatedClauses ≠ [] ∧
    simplify (.negation (.negation (.disjunction repeatedClauses))) =
      simplify (.disjunction repeatedClauses) ∧
    simplify (.negation (.conjunction repeatedClauses)) =
      simplify (.disjunction (repeatedClauses.map .negation)) ∧
    simplify (.negation (.disjunction repeatedClauses)) =
      simplify (.conjunction (repeatedClauses.map .negation)) :=
  ⟨List.cons_ne_nil _ _,
    simplify_deMorgan (.disjunction repeatedClauses) repeatedClauses (List.cons_ne_nil _ _)⟩

end NodeQuery.Specification
