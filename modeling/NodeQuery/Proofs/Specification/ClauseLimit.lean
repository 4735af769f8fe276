import NodeQuery.Proofs.Specification.NormalForm

/-! The clause limit. Groups that are gathered are counted after each clause, and groups that are
crossed are counted before they are built, so a composite never gets more groups than the limit
allows. Literals are not counted: the one group of a literal is there even if the limit is zero.
Nothing is refused that would be within the limit as a whole. -/

namespace NodeQuery.Specification

variable {α : Type} {leaves : List α} {form : Form} {limit : Nat}

theorem length_of_distributed {parts : List (Groups α)} {groups : Groups α}
    (done : distributed limit parts = .ok groups) : min groups.length largestCount ≤ limit := by
  unfold distributed at done
  split at done
  · cases done
  · next within =>
    cases done
    rw [← estimatedCount_eq]
    exact not_lt.mp within

/-- What has been gathered stays within the limit. -/
theorem length_of_gathered {clauses : List (Specification α)} {found groups : Groups α}
    (within : found.length ≤ limit) (done : gathered form limit found clauses = .ok groups) :
    groups.length ≤ limit := by
  induction clauses generalizing found with
  | nil =>
    cases done
    exact within
  | cons clause clauses ih =>
    unfold gathered at done
    split at done
    · cases done
    · split at done
      · cases done
      · next within => exact ih (not_lt.mp within) done

theorem distributed_of_grouped_inner {clauses : List (Specification α)} {groups : Groups α}
    (done : grouped form limit (form.inner.compose clauses) = .ok groups) :
    ∃ parts, allGrouped form limit clauses = .ok parts ∧ distributed limit parts = .ok groups := by
  rw [grouped_inner] at done
  cases all : allGrouped form limit clauses with
  | error overflow =>
    rw [all] at done
    cases done
  | ok parts =>
    rw [all] at done
    exact ⟨parts, rfl, done⟩

theorem length_of_grouped_compose {connective : Connective} {clauses : List (Specification α)}
    {groups : Groups α} (done : grouped form limit (connective.compose clauses) = .ok groups) :
    min groups.length largestCount ≤ limit := by
  rcases form.eq_outer_or_eq_inner connective with rfl | rfl
  · rw [grouped_outer] at done
    exact (min_le_left _ _).trans (length_of_gathered (Nat.zero_le _) done)
  · obtain ⟨parts, -, crossed⟩ := distributed_of_grouped_inner done
    exact length_of_distributed crossed

/-- The groups are as many as the limit allows, as far as they can be counted, unless the limit is
zero and nothing but a literal is left once negations are pushed down. -/
theorem normalForm_length_le_iff (form : Form) (limit : Nat) (specification : Specification α)
    (groups : Groups α) (done : normalForm form limit specification = .ok groups) :
    min groups.length largestCount ≤ limit ↔
      0 < limit ∨ ¬ Literal specification.leaves (pushed false specification) := by
  have normal := pushed_normal specification false
  rw [normalForm] at done
  generalize pushed false specification = whole at normal done ⊢
  cases normal with
  | literal plain =>
    rw [grouped_literal plain] at done
    cases done
    have counted : min 1 largestCount = 1 := by decide
    rw [List.length_singleton, counted]
    exact ⟨.inl, fun allowed => allowed.resolve_right (not_not_intro plain)⟩
  | composite connective some each =>
    exact ⟨fun _ => .inr not_literal_compose, fun _ => length_of_grouped_compose done⟩

/-- Six groups for a limit of six. -/
theorem normalForm_length_le_iff_withEmptyComposites :
    ∃ groups, normalForm .disjunctive 6 withEmptyComposites = .ok groups ∧
      (min groups.length largestCount ≤ 6 ↔ 0 < 6 ∨
        ¬ Literal withEmptyComposites.leaves (pushed false withEmptyComposites)) :=
  ⟨_, rfl, normalForm_length_le_iff .disjunctive 6 withEmptyComposites _ rfl⟩

/-- A single leaf has a group although none is allowed. -/
theorem normalForm_exceeds_zero :
    ∃ groups, normalForm .conjunctive 0 (.leaf (.hasCode "a") : NodeSpecification) = .ok groups ∧
      ¬ groups.length ≤ 0 :=
  ⟨_, rfl, by decide⟩

/-! The number of groups that there would be without a limit. -/

mutual

/-- The number of groups, counted without building them. -/
def groupCount (form : Form) : Specification α → Nat
  | .conjunction clauses =>
    match form with
    | .conjunctive => (groupCounts form clauses).sum
    | .disjunctive => (groupCounts form clauses).prod
  | .disjunction clauses =>
    match form with
    | .disjunctive => (groupCounts form clauses).sum
    | .conjunctive => (groupCounts form clauses).prod
  | .everything => 1
  | .nothing => 1
  | .leaf _ => 1
  | .negation _ => 1

def groupCounts (form : Form) : List (Specification α) → List Nat
  | [] => []
  | clause :: clauses => groupCount form clause :: groupCounts form clauses

end

theorem groupCounts_eq (clauses : List (Specification α)) :
    groupCounts form clauses = clauses.map (groupCount form) :=
  eq_map_of_clausewise rfl (fun _ _ => rfl) clauses

theorem groupCount_outer (clauses : List (Specification α)) :
    groupCount form (form.outer.compose clauses) = (clauses.map (groupCount form)).sum := by
  rw [← groupCounts_eq]
  cases form <;> rfl

theorem groupCount_inner (clauses : List (Specification α)) :
    groupCount form (form.inner.compose clauses) = (clauses.map (groupCount form)).prod := by
  rw [← groupCounts_eq]
  cases form <;> rfl

theorem length_expanded (specification : Specification α) :
    (expanded form specification).length = groupCount form specification := by
  induction specification using composedOn with
  | everything | nothing | leaf | negation => rfl
  | composite connective clauses ih =>
    rcases form.eq_outer_or_eq_inner connective with rfl | rfl
    · rw [expanded_outer, groupCount_outer, List.length_flatMap, List.map_congr_left ih]
    · rw [expanded_inner, groupCount_inner, length_crossed, List.map_map]
      exact congrArg List.prod (List.map_congr_left ih)

/-- Under a limit that allows all groups a normal form is what it is under the largest limit there
can be. A refusal tells the limit and an estimate that is above the limit, but not above the number
of groups that there would be. -/
theorem normalForm_budget (form : Form) (limit : Nat) (countable : limit ≤ largestCount)
    (specification : Specification α) :
    (groupCount form (pushed false specification) ≤ limit →
      ∃ groups, normalForm form limit specification = .ok groups ∧
        normalForm form largestCount specification = .ok groups ∧
        groups.length = groupCount form (pushed false specification)) ∧
    ∀ overflow, normalForm form limit specification = .error overflow →
      overflow.limit = limit ∧ limit < overflow.estimate ∧
        overflow.estimate ≤ groupCount form (pushed false specification) := by
  have answered (limit : Nat) : Answered limit (expanded form (pushed false specification))
      (normalForm form limit specification) := answered_grouped (pushed_normal specification false)
  rw [← length_expanded]
  refine ⟨fun allowed => ?_, fun overflow refused => ?_⟩
  · exact ⟨_, (answered limit).eq_ok allowed,
      (answered largestCount).eq_ok (allowed.trans countable), rfl⟩
  · exact (refused ▸ answered limit).of_error

/-- Two disjuncts times three make six groups, which a limit of five refuses. -/
theorem normalForm_budget_withEmptyComposites :
    groupCount .disjunctive (pushed false withEmptyComposites) = 6 ∧
    (∃ groups, normalForm .disjunctive 6 withEmptyComposites = .ok groups ∧
      normalForm .disjunctive largestCount withEmptyComposites = .ok groups ∧
      groups.length = 6) ∧
    ∃ overflow, normalForm .disjunctive 5 withEmptyComposites = .error overflow ∧
      overflow.limit = 5 ∧ 5 < overflow.estimate ∧ overflow.estimate ≤ 6 :=
  ⟨rfl, (normalForm_budget .disjunctive 6 (by decide) withEmptyComposites).1 (by decide),
    ⟨6, 5⟩, rfl, (normalForm_budget .disjunctive 5 (by decide) withEmptyComposites).2 _ rfl⟩

end NodeQuery.Specification
