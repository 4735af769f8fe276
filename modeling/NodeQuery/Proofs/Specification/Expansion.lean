import NodeQuery.Proofs.Specification.Groups

/-! Groups under a limit. All groups of a specification are those of its clauses side by side, or
crossed. No clause has more of them than the whole, so a limit that allows the whole refuses no
part, and what is refused has more groups than allowed. -/

namespace NodeQuery.Specification

variable {α : Type} {leaves : List α}

mutual

/-- All groups of a specification whose negations are pushed down. -/
def expanded (form : Form) : Specification α → Groups α
  | .conjunction clauses =>
    match form with
    | .conjunctive => (allExpanded form clauses).flatten
    | .disjunctive => crossed (allExpanded form clauses)
  | .disjunction clauses =>
    match form with
    | .disjunctive => (allExpanded form clauses).flatten
    | .conjunctive => crossed (allExpanded form clauses)
  | .everything => [[.everything]]
  | .nothing => [[.nothing]]
  | .leaf value => [[.leaf value]]
  | .negation inner => [[.negation inner]]

def allExpanded (form : Form) : List (Specification α) → List (Groups α)
  | [] => []
  | clause :: clauses => expanded form clause :: allExpanded form clauses

end

variable {form : Form} {limit : Nat} {clauses : List (Specification α)}
  {specification : Specification α}

theorem allExpanded_eq (clauses : List (Specification α)) :
    allExpanded form clauses = clauses.map (expanded form) :=
  eq_map_of_clausewise rfl (fun _ _ => rfl) clauses

theorem expanded_outer (clauses : List (Specification α)) :
    expanded form (form.outer.compose clauses) = clauses.flatMap (expanded form) := by
  rw [List.flatMap_def, ← allExpanded_eq]
  cases form <;> rfl

theorem expanded_inner (clauses : List (Specification α)) :
    expanded form (form.inner.compose clauses) = crossed (clauses.map (expanded form)) := by
  rw [← allExpanded_eq]
  cases form <;> rfl

theorem expanded_literal (plain : Literal leaves specification) :
    expanded form specification = [[specification]] := by
  cases plain <;> rfl

theorem expresses_expanded (normal : NegationNormal leaves specification) :
    form.Expresses leaves specification (expanded form specification) := by
  induction normal with
  | literal plain =>
    rw [expanded_literal plain]
    exact Form.expresses_literal plain
  | @composite connective clauses some _ ih =>
    have paired : List.Forall₂ (form.Expresses leaves) clauses (clauses.map (expanded form)) :=
      List.forall₂_map_right_iff.mpr (List.forall₂_same.mpr ih)
    rcases form.eq_outer_or_eq_inner connective with rfl | rfl
    · rw [expanded_outer, List.flatMap_def]
      exact Form.expresses_flatten paired some
    · rw [expanded_inner]
      exact Form.expresses_crossed some paired

/-! Groups built under a limit. -/

/-- What may come of building these groups under a limit: all of them, or the refusal of more than
the limit allows, though not of more than there are. -/
inductive Answered (limit : Nat) (all : Groups α) : Except ClauseOverflow (Groups α) → Prop
  | built : Answered limit all (.ok all)
  | refused {estimate : Nat} (above : limit < estimate) (within : estimate ≤ all.length) :
      Answered limit all (.error ⟨estimate, limit⟩)

namespace Answered

variable {all : Groups α} {answer : Except ClauseOverflow (Groups α)}

theorem eq_ok (answered : Answered limit all answer) (allowed : all.length ≤ limit) :
    answer = .ok all := by
  cases answered with
  | built => rfl
  | refused above within => exact absurd (above.trans_le (within.trans allowed)) (lt_irrefl _)

theorem eq_of_ok {groups : Groups α} (answered : Answered limit all (.ok groups)) :
    groups = all := by
  cases answered with
  | built => rfl

theorem of_error {overflow : ClauseOverflow} (answered : Answered limit all (.error overflow)) :
    overflow.limit = limit ∧ limit < overflow.estimate ∧ overflow.estimate ≤ all.length := by
  cases answered with
  | refused above within => exact ⟨rfl, above, within⟩

end Answered

theorem grouped_outer (clauses : List (Specification α)) :
    grouped form limit (form.outer.compose clauses) = gathered form limit [] clauses := by
  cases form <;> rfl

theorem grouped_inner (clauses : List (Specification α)) :
    grouped form limit (form.inner.compose clauses) =
      allGrouped form limit clauses >>= distributed limit := by
  cases form <;> rfl

theorem grouped_literal (plain : Literal leaves specification) :
    grouped form limit specification = .ok [[specification]] := by
  cases plain <;> rfl

theorem answered_gathered (found : Groups α)
    (each : ∀ clause ∈ clauses, Answered limit (expanded form clause) (grouped form limit clause)) :
    Answered limit (found ++ clauses.flatMap (expanded form))
      (gathered form limit found clauses) := by
  induction clauses generalizing found with
  | nil =>
    rw [List.flatMap_nil, List.append_nil]
    exact .built
  | cons clause clauses ih =>
    obtain ⟨first, others⟩ := List.forall_mem_cons.mp each
    rw [List.flatMap_cons, ← List.append_assoc]
    unfold gathered
    generalize grouped form limit clause = answer at first
    cases first with
    | built =>
      simp only []
      split
      · next above => exact .refused above (by simp)
      · exact ih _ others
    | refused above within =>
      refine .refused above (within.trans ?_)
      simp only [List.length_append]
      omega

theorem allGrouped_answers
    (each : ∀ clause ∈ clauses, Answered limit (expanded form clause) (grouped form limit clause)) :
    allGrouped form limit clauses = .ok (clauses.map (expanded form)) ∨
      ∃ clause ∈ clauses, ∃ estimate, limit < estimate ∧
        estimate ≤ (expanded form clause).length ∧
        allGrouped form limit clauses = .error ⟨estimate, limit⟩ := by
  induction clauses with
  | nil => exact .inl rfl
  | cons clause clauses ih =>
    obtain ⟨first, others⟩ := List.forall_mem_cons.mp each
    unfold allGrouped
    generalize grouped form limit clause = answer at first
    cases first with
    | built =>
      rcases ih others with done | ⟨other, member, estimate, above, within, refused⟩
      · exact .inl (by rw [done, List.map_cons])
      · exact .inr ⟨other, List.mem_cons_of_mem _ member, estimate, above, within,
          by rw [refused]⟩
    | @refused estimate above within =>
      exact .inr ⟨clause, List.mem_cons_self, estimate, above, within, rfl⟩

theorem answered_distributed (parts : List (Groups α)) :
    Answered limit (crossed parts) (distributed limit parts) := by
  unfold distributed
  split
  · next above =>
    refine .refused above ?_
    rw [estimatedCount_eq]
    exact min_le_left _ _
  · exact .built

theorem answered_grouped (normal : NegationNormal leaves specification) :
    Answered limit (expanded form specification) (grouped form limit specification) := by
  induction normal with
  | literal plain =>
    rw [expanded_literal plain, grouped_literal plain]
    exact .built
  | @composite connective clauses some each ih =>
    rcases form.eq_outer_or_eq_inner connective with rfl | rfl
    · rw [expanded_outer, grouped_outer]
      exact answered_gathered [] ih
    · rw [expanded_inner, grouped_inner]
      rcases allGrouped_answers ih with done | ⟨clause, member, estimate, above, within, refused⟩
      · rw [done]
        exact answered_distributed _
      · -- the refused clause has no more groups than all clauses crossed
        rw [refused]
        refine .refused above (within.trans ?_)
        refine length_le_crossed (List.forall_mem_map.mpr fun other listed => ?_) _
          (List.mem_map_of_mem member)
        exact (expresses_expanded (each other listed)).some

theorem expresses_of_grouped (normal : NegationNormal leaves specification) {groups : Groups α}
    (done : grouped form limit specification = .ok groups) :
    form.Expresses leaves specification groups := by
  have answered : Answered limit (expanded form specification) (grouped form limit specification) :=
    answered_grouped normal
  rw [done] at answered
  rw [answered.eq_of_ok]
  exact expresses_expanded normal

end NodeQuery.Specification
