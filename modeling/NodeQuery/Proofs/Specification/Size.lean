import NodeQuery.Proofs.Specification.Duality

/-! Sizes. Simplification pushes negations down to the leaves, so there may be more of them than
before, but at most one for each leaf. The weight of a specification allows for these: a leaf counts
as two nodes, and negations are free. Simplification never adds weight. -/

namespace NodeQuery.Specification

variable {α : Type} {leaves : List α} {connective : Connective}
  {clauses : List (Specification α)} {specification : Specification α}

mutual

/-- The number of nodes, negations apart, with two for each leaf. -/
def weight : Specification α → Nat
  | .everything => 1
  | .nothing => 1
  | .leaf _ => 2
  | .negation inner => weight inner
  | .conjunction clauses => 1 + totalWeight clauses
  | .disjunction clauses => 1 + totalWeight clauses

def totalWeight : List (Specification α) → Nat
  | [] => 0
  | clause :: clauses => weight clause + totalWeight clauses

end

theorem totalSize_eq (clauses : List (Specification α)) :
    totalSize clauses = (clauses.map size).sum :=
  eq_sum_of_clausewise rfl (fun _ _ => rfl) clauses

theorem totalWeight_eq (clauses : List (Specification α)) :
    totalWeight clauses = (clauses.map weight).sum :=
  eq_sum_of_clausewise rfl (fun _ _ => rfl) clauses

theorem size_compose (connective : Connective) (clauses : List (Specification α)) :
    size (connective.compose clauses) = 1 + (clauses.map size).sum := by
  rw [← totalSize_eq]
  cases connective <;> rfl

theorem weight_compose (connective : Connective) (clauses : List (Specification α)) :
    weight (connective.compose clauses) = 1 + (clauses.map weight).sum := by
  rw [← totalWeight_eq]
  cases connective <;> rfl

/-! Weights and sizes bound each other. -/

theorem weight_le_size (specification : Specification α) :
    weight specification ≤ 2 * size specification := by
  induction specification using composedOn with
  | everything | nothing | leaf => simp [weight, size]
  | negation inner ih =>
    rw [weight, size]
    omega
  | composite connective clauses ih =>
    have clausewise : (clauses.map weight).sum ≤ (clauses.map fun clause => 2 * size clause).sum :=
      List.sum_le_sum ih
    rw [List.sum_map_mul_left] at clausewise
    rw [weight_compose, size_compose]
    omega

theorem size_le_weight (normal : NegationNormal leaves specification) :
    size specification ≤ weight specification := by
  induction normal with
  | literal plain => cases plain <;> simp [weight, size]
  | composite connective _ _ ih =>
    rw [weight_compose, size_compose]
    exact Nat.add_le_add_left (List.sum_le_sum ih) 1

theorem weight_opposite (specification : Specification α) :
    weight (opposite specification) = weight specification := by
  induction specification using composedOn with
  | everything | nothing | leaf | negation => rfl
  | composite connective clauses ih =>
    rw [opposite_compose, weight_compose, weight_compose, List.map_map]
    exact congrArg (1 + List.sum ·) (List.map_congr_left ih)

/-! Combining clauses. -/

theorem sum_flattened_le (connective : Connective) (clause : Specification α) :
    ((connective.flattened clause).map weight).sum ≤ weight clause := by
  rcases connective.flattened_eq clause with alone | ⟨inner, rfl, flat⟩
  · rw [alone, List.map_singleton, List.sum_singleton]
  · rw [flat, weight_compose]
    exact Nat.le_add_left _ 1

theorem sum_flatMap_flattened_le (connective : Connective) (clauses : List (Specification α)) :
    ((clauses.flatMap connective.flattened).map weight).sum ≤ (clauses.map weight).sum := by
  rw [List.map_flatMap, List.flatMap_def, List.sum_flatten, List.map_map]
  exact List.sum_le_sum fun clause _ => sum_flattened_le connective clause

/-- Items without repetitions weigh no more than all items together. -/
theorem sum_map_le_of_nodup {β : Type} {items others : List β} (weigh : β → Nat)
    (nodup : items.Nodup) (listed : ∀ item ∈ items, item ∈ others) :
    (items.map weigh).sum ≤ (others.map weigh).sum := by
  obtain ⟨part, perm, within⟩ := List.subperm_of_subset nodup listed
  calc (items.map weigh).sum
    _ = (part.map weigh).sum := (perm.map weigh).sum_eq.symm
    _ ≤ (others.map weigh).sum := (within.map weigh).sum_le_sum fun _ _ => Nat.zero_le _

theorem Combined.weight_le {parts : List (Specification α)} {result : Specification α}
    (combined : Combined connective parts result) :
    weight result ≤ 1 + (parts.map weight).sum := by
  cases combined with
  | absorbed => cases connective <;> exact Nat.le_add_right 1 _
  | empty => exact Nat.le_add_right 1 _
  | neutral => cases connective <;> exact Nat.le_add_right 1 _
  | single kept =>
    have member := ((kept _).mp List.mem_cons_self).1
    have alone := List.single_le_sum (fun _ _ => Nat.zero_le _) _
      (List.mem_map_of_mem (f := weight) member)
    omega
  | several two nodup free kept =>
    rw [weight_compose]
    exact Nat.add_le_add_left
      (sum_map_le_of_nodup weight nodup fun part member => ((kept part).mp member).1) 1

section

variable [DecidableEq α]

theorem weight_combine_le (connective : Connective) (clauses : List (Specification α)) :
    weight (combine connective clauses) ≤ 1 + (clauses.map weight).sum :=
  (combined_combine connective clauses).weight_le.trans
    (Nat.add_le_add_left (sum_flatMap_flattened_le connective clauses) 1)

theorem weight_simplify_le (specification : Specification α) :
    weight (simplify specification) ≤ weight specification := by
  induction specification using composedOn with
  | everything | nothing | leaf => exact le_rfl
  | negation inner ih => rwa [simplify_negation, weight_opposite]
  | composite connective clauses ih =>
    calc weight (simplify (connective.compose clauses))
      _ = weight (combine connective (clauses.map simplify)) := by rw [simplify_compose]
      _ ≤ 1 + ((clauses.map simplify).map weight).sum := weight_combine_le _ _
      _ ≤ 1 + (clauses.map weight).sum := by
        rw [List.map_map]
        exact Nat.add_le_add_left (List.sum_le_sum ih) 1
      _ = weight (connective.compose clauses) := (weight_compose _ _).symm

/-- A specification at most doubles in size when it is simplified. -/
theorem size_simplify_le (specification : Specification α) :
    (simplify specification).size ≤ 2 * specification.size :=
  calc (simplify specification).size
    _ ≤ weight (simplify specification) := size_le_weight (simplify_normal specification)
    _ ≤ weight specification := weight_simplify_le specification
    _ ≤ 2 * specification.size := weight_le_size specification

end

end NodeQuery.Specification
