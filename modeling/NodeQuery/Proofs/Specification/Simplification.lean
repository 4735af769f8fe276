import NodeQuery.Criterion
import NodeQuery.Proofs.Specification.Connective

/-! Simplification. A simplified specification holds where the specification does: its composites
all have clauses, so that flattening, dropping constants and repetitions, and pushing negations
down leave the meaning as it is. -/

namespace NodeQuery.Specification

variable {α : Type} {leaves : List α} (connective : Connective) (leafHolds : α → Bool)

theorem Connective.flattened_eq (clause : Specification α) :
    connective.flattened clause = [clause] ∨
      ∃ clauses, clause = connective.compose clauses ∧ connective.flattened clause = clauses := by
  cases connective <;> cases clause <;> simp [flattened, compose]

namespace Connective

theorem holds_neutral :
    holds leafHolds connective.neutral = connective.joined (holds leafHolds) [] := by
  cases connective <;> rfl

theorem joined_of_absorbing {clauses : List (Specification α)}
    (member : connective.absorbing ∈ clauses) :
    connective.joined (holds leafHolds) clauses = holds leafHolds connective.absorbing := by
  cases connective with
  | and => exact List.all_eq_false.mpr ⟨_, member, by simp [absorbing, holds]⟩
  | or => exact List.any_eq_true.mpr ⟨_, member, rfl⟩

/-- What is joined depends only on the items that are no neutral constants, in any number. -/
theorem joined_eq_of_mem_iff {items others : List (Specification α)}
    (same : ∀ item, item ∈ others ↔ item ∈ items ∧ item ≠ connective.neutral) :
    connective.joined (holds leafHolds) others = connective.joined (holds leafHolds) items := by
  rw [Bool.eq_iff_iff]
  cases connective with
  | and =>
    simp only [joined, List.all_eq_true, same, neutral]
    constructor
    · intro given item member
      -- The neutral constant may have been dropped, but it holds in any case.
      by_cases plain : item = .everything
      · subst plain
        rfl
      · exact given item ⟨member, plain⟩
    · intro given item member
      exact given item member.1
  | or =>
    simp only [joined, List.any_eq_true, same, neutral]
    constructor
    · intro given
      obtain ⟨item, member, truth⟩ := given
      exact ⟨item, member.1, truth⟩
    · intro given
      obtain ⟨item, member, truth⟩ := given
      refine ⟨item, ⟨member, ?_⟩, truth⟩
      intro plain
      subst plain
      cases truth

section

variable {clause : Specification α} (normal : NegationNormal leaves clause)

include normal

/-- A clause contributes something, and nothing that is not of its kind. -/
theorem normal_of_mem_flattened : connective.flattened clause ≠ [] ∧
    ∀ part ∈ connective.flattened clause, NegationNormal leaves part := by
  rcases connective.flattened_eq clause with alone | ⟨clauses, rfl, flat⟩
  · rw [alone]
    exact ⟨List.cons_ne_nil _ _, List.forall_mem_singleton.mpr normal⟩
  · rw [flat]
    exact normal.of_compose

theorem joined_flattened : connective.joined (holds leafHolds) (connective.flattened clause) =
    holds leafHolds clause := by
  rcases connective.flattened_eq clause with alone | ⟨clauses, rfl, flat⟩
  · rw [alone, joined_singleton]
  · rw [flat, holds_compose connective leafHolds normal.of_compose.1]

end

end Connective

/-! What a combination of parts may come to. -/

/-- The absorbing constant if it is among the parts; else the parts without the neutral constant,
each of them once, or a constant if none is left. -/
inductive Combined (connective : Connective) (parts : List (Specification α)) :
    Specification α → Prop
  | absorbed (member : connective.absorbing ∈ parts) :
      Combined connective parts connective.absorbing
  | empty (none : parts = []) : Combined connective parts .nothing
  | neutral (some : parts ≠ []) (all : ∀ part ∈ parts, part = connective.neutral) :
      Combined connective parts connective.neutral
  | single {only : Specification α}
      (kept : ∀ part, part ∈ [only] ↔ part ∈ parts ∧ part ≠ connective.neutral) :
      Combined connective parts only
  | several {clauses : List (Specification α)} (two : 2 ≤ clauses.length) (nodup : clauses.Nodup)
      (free : connective.absorbing ∉ clauses)
      (kept : ∀ part, part ∈ clauses ↔ part ∈ parts ∧ part ≠ connective.neutral) :
      Combined connective parts (connective.compose clauses)

namespace Combined

variable {connective} {parts : List (Specification α)} {result : Specification α}

theorem eq_nothing (combined : Combined connective [] result) : result = .nothing := by
  cases combined with
  | absorbed member => exact absurd member List.not_mem_nil
  | empty none => rfl
  | neutral some all => exact absurd rfl some
  | single kept => exact absurd ((kept _).mp List.mem_cons_self).1 List.not_mem_nil
  | several two nodup free kept =>
    obtain ⟨part, member⟩ := List.exists_mem_of_length_pos (Nat.lt_of_lt_of_le Nat.zero_lt_two two)
    exact absurd ((kept part).mp member).1 List.not_mem_nil

theorem holds_eq (combined : Combined connective parts result) (some : parts ≠ []) :
    holds leafHolds result = connective.joined (holds leafHolds) parts := by
  cases combined with
  | absorbed member => exact (connective.joined_of_absorbing leafHolds member).symm
  | empty none => exact absurd none some
  | neutral some all =>
    rw [connective.holds_neutral leafHolds]
    refine connective.joined_eq_of_mem_iff leafHolds fun part => ?_
    simpa using fun member => all part member
  | single kept =>
    rw [← connective.joined_eq_of_mem_iff leafHolds kept, Connective.joined_singleton]
  | several two nodup free kept =>
    rw [← connective.joined_eq_of_mem_iff leafHolds kept]
    exact connective.holds_compose leafHolds (List.ne_nil_of_length_pos (by omega))

theorem normal (combined : Combined connective parts result)
    (each : ∀ part ∈ parts, NegationNormal leaves part) : NegationNormal leaves result := by
  cases combined with
  | absorbed member => exact each _ member
  | empty none => exact .literal .nothing
  | neutral some all => cases connective <;> exact .literal (by constructor)
  | single kept => exact each _ ((kept _).mp List.mem_cons_self).1
  | several two nodup free kept =>
    refine .composite connective (List.ne_nil_of_length_pos (by omega)) fun part member => ?_
    exact each part ((kept part).mp member).1

end Combined

theorem combined_combine [DecidableEq α] (clauses : List (Specification α)) :
    Combined connective (clauses.flatMap connective.flattened) (combine connective clauses) := by
  unfold combine
  generalize clauses.flatMap connective.flattened = parts
  have kept (part : Specification α) :
      part ∈ distinct (parts.filter (· ≠ connective.neutral)) ↔
        part ∈ parts ∧ part ≠ connective.neutral := by
    rw [mem_distinct, List.mem_filter, decide_eq_true_eq]
  have nodup := nodup_distinct (parts.filter (· ≠ connective.neutral))
  simp only []
  split
  · next member => exact .absorbed member
  · next absent =>
    split
    · next none =>
      rw [none] at kept
      split
      · next empty => exact .empty (List.isEmpty_iff.mp empty)
      · next some =>
        refine .neutral (by simpa using some) fun part member => ?_
        by_contra other
        exact List.not_mem_nil ((kept part).mpr ⟨member, other⟩)
    · next only alone =>
      rw [alone] at kept
      exact .single kept
    · next notNone notOne =>
      refine .several ?_ nodup (fun member => absent ((kept _).mp member).1) kept
      rcases shape : distinct (parts.filter (· ≠ connective.neutral)) with
        _ | ⟨first, _ | ⟨second, others⟩⟩
      · exact absurd shape notNone
      · exact absurd shape (notOne first)
      · rw [shape]
        exact Nat.le_add_left 2 others.length

section

variable {clauses : List (Specification α)}
  (each : ∀ clause ∈ clauses, NegationNormal leaves clause)

include each

theorem normal_of_mem_flatMap :
    ∀ part ∈ clauses.flatMap connective.flattened, NegationNormal leaves part := by
  intro part member
  obtain ⟨clause, listed, inside⟩ := List.mem_flatMap.mp member
  exact (connective.normal_of_mem_flattened (each clause listed)).2 part inside

theorem flatMap_flattened_ne_nil (some : clauses ≠ []) :
    clauses.flatMap connective.flattened ≠ [] := by
  obtain ⟨clause, listed⟩ := List.exists_mem_of_ne_nil _ some
  intro none
  exact (connective.normal_of_mem_flattened (each clause listed)).1
    (List.flatMap_eq_nil_iff.mp none clause listed)

theorem combine_normal [DecidableEq α] : NegationNormal leaves (combine connective clauses) :=
  (combined_combine connective clauses).normal (normal_of_mem_flatMap connective each)

theorem holds_combine [DecidableEq α] : holds leafHolds (combine connective clauses) =
    holds leafHolds (connective.compose clauses) := by
  by_cases some : clauses = []
  · subst some
    rw [(combined_combine connective []).eq_nothing, Connective.holds_compose_nil, holds]
  · rw [(combined_combine connective clauses).holds_eq leafHolds
        (flatMap_flattened_ne_nil connective each some),
      Connective.joined_flatMap, Connective.holds_compose _ _ some]
    exact Connective.joined_congr _ _ fun clause listed =>
      connective.joined_flattened leafHolds (each clause listed)

end

/-! Negation of what is simplified already. -/

section

variable [DecidableEq α]

theorem allNegated_eq (clauses : List (Specification α)) :
    allNegated clauses = clauses.map negated :=
  eq_map_of_clausewise rfl (fun _ _ => rfl) clauses

theorem negated_compose (clauses : List (Specification α)) :
    negated (connective.compose clauses) =
      combine connective.opposite (clauses.map negated) := by
  cases connective <;> simp [Connective.compose, Connective.opposite, negated, allNegated_eq]

variable {specification : Specification α}

theorem negated_normal (normal : NegationNormal leaves specification) :
    NegationNormal leaves (negated specification) := by
  induction normal with
  | literal plain =>
    cases plain with
    | everything => exact .literal .nothing
    | nothing => exact .literal .everything
    | leaf listed => exact .literal (.negation listed)
    | negation listed => exact .literal (.leaf listed)
  | composite connective some _ ih =>
    rw [negated_compose]
    exact combine_normal _ (List.forall_mem_map.mpr ih)

theorem holds_negated (normal : NegationNormal leaves specification) :
    holds leafHolds (negated specification) = !holds leafHolds specification := by
  induction normal with
  | literal plain => cases plain <;> simp [negated, holds]
  | @composite connective clauses some each ih =>
    have normal : ∀ clause ∈ clauses.map negated, NegationNormal leaves clause :=
      List.forall_mem_map.mpr fun clause listed => negated_normal (each clause listed)
    rw [negated_compose, holds_combine _ leafHolds normal,
      Connective.holds_compose _ _ (by simpa using some), Connective.joined_map,
      Connective.joined_congr _ _ ih, Connective.joined_not, Connective.holds_compose _ _ some]
    cases connective <;> rfl

end

/-! Simplification of a specification. -/

theorem allSimplified_eq [DecidableEq α] (clauses : List (Specification α)) :
    allSimplified clauses = clauses.map simplify :=
  eq_map_of_clausewise rfl (fun _ _ => rfl) clauses

theorem simplify_compose [DecidableEq α] (clauses : List (Specification α)) :
    simplify (connective.compose clauses) = combine connective (clauses.map simplify) := by
  cases connective <;> simp [Connective.compose, simplify, allSimplified_eq]

theorem simplify_normal [DecidableEq α] (specification : Specification α) :
    NegationNormal specification.leaves (simplify specification) := by
  induction specification using composedOn with
  | everything => exact .literal .everything
  | nothing => exact .literal .nothing
  | leaf value => exact .literal (.leaf List.mem_cons_self)
  | negation inner ih => exact negated_normal ih
  | composite connective clauses ih =>
    rw [simplify_compose, leaves_compose]
    refine combine_normal connective (List.forall_mem_map.mpr fun clause listed => ?_)
    exact (ih clause listed).mono (mem_allLeaves_of_mem listed)

theorem holds_simplify [DecidableEq α] (specification : Specification α) :
    holds leafHolds (simplify specification) = holds leafHolds specification := by
  induction specification using composedOn with
  | everything => rfl
  | nothing => rfl
  | leaf value => rfl
  | negation inner ih => rw [simplify, holds_negated leafHolds (simplify_normal inner), ih, holds]
  | composite connective clauses ih =>
    have normal : ∀ clause ∈ clauses.map simplify, NegationNormal (allLeaves clauses) clause :=
      List.forall_mem_map.mpr fun clause listed =>
        (simplify_normal clause).mono (mem_allLeaves_of_mem listed)
    rw [simplify_compose, holds_combine connective leafHolds normal,
      connective.holds_compose_map leafHolds ih]

end NodeQuery.Specification

namespace NodeQuery

/-- A node meets the simplified specification exactly if it meets the specification. -/
theorem NodeSpecification.test_simplify (specification : NodeSpecification) (key : NodeKey)
    (node : Node) :
    NodeSpecification.test (Specification.simplify specification) key node =
      specification.test key node :=
  Specification.holds_simplify (Criterion.holds key node) specification

end NodeQuery
