import NodeQuery.Proofs.Specification.Connective
import NodeQuery.Specification.NormalForm

/-! Groups of literals. Groups put side by side hold as the outer connective joins their parts.
Crossed groups, which are made of one group from each part, hold as the inner one joins them, and
there are as many as the parts have multiplied. -/

namespace NodeQuery.Specification

variable {α : Type} {leaves : List α}

namespace Form

/-- What joins the groups. -/
def outer : Form → Connective
  | .conjunctive => .and
  | .disjunctive => .or

/-- What joins the literals of a group. -/
def inner (form : Form) : Connective := form.outer.opposite

theorem compose_eq (form : Form) (groups : Groups α) :
    form.compose groups = form.outer.compose (groups.map form.inner.compose) := by
  cases form <;> rfl

/-- Whether the groups hold, given which leaves hold. -/
def groupsHold (form : Form) (leafHolds : α → Bool) (groups : Groups α) : Bool :=
  form.outer.joined (form.inner.joined (holds leafHolds)) groups

end Form

/-- A group has literals, and nothing else. -/
structure LiteralGroup (leaves : List α) (group : List (Specification α)) : Prop where
  some : group ≠ []
  literal : ∀ part ∈ group, Literal leaves part

namespace Form

/-- Groups of literals that hold where the specification does. -/
structure Expresses (form : Form) (leaves : List α) (specification : Specification α)
    (groups : Groups α) : Prop where
  some : groups ≠ []
  each : ∀ group ∈ groups, LiteralGroup leaves group
  agrees : ∀ leafHolds, form.groupsHold leafHolds groups = holds leafHolds specification

variable {form : Form} {specification : Specification α} {clauses : List (Specification α)}
  {groups : Groups α} {parts : List (Groups α)}

theorem holds_compose (leafHolds : α → Bool) (some : groups ≠ [])
    (filled : ∀ group ∈ groups, group ≠ []) :
    holds leafHolds (form.compose groups) = form.groupsHold leafHolds groups := by
  rw [compose_eq, Connective.holds_compose _ _ (by simpa using some), Connective.joined_map]
  exact Connective.joined_congr _ _ fun group member =>
    Connective.holds_compose _ _ (filled group member)

theorem expresses_literal (plain : Literal leaves specification) :
    form.Expresses leaves specification [[specification]] where
  some := List.cons_ne_nil _ _
  each := List.forall_mem_singleton.mpr ⟨List.cons_ne_nil _ _, List.forall_mem_singleton.mpr plain⟩
  agrees := fun leafHolds => by
    rw [groupsHold, Connective.joined_singleton, Connective.joined_singleton]

section

variable (paired : List.Forall₂ (form.Expresses leaves) clauses parts)

include paired

theorem literalGroups_of_paired :
    ∀ part ∈ parts, part ≠ [] ∧ ∀ group ∈ part, LiteralGroup leaves group := by
  induction paired with
  | nil => exact List.forall_mem_nil _
  | cons first _ ih => exact List.forall_mem_cons.mpr ⟨⟨first.some, first.each⟩, ih⟩

theorem map_groupsHold_of_paired (leafHolds : α → Bool) :
    parts.map (form.groupsHold leafHolds) = clauses.map (holds leafHolds) := by
  induction paired with
  | nil => rfl
  | cons first _ ih => exact congrArg₂ List.cons (first.agrees leafHolds) ih

theorem joined_groupsHold_of_paired (connective : Connective) (leafHolds : α → Bool) :
    connective.joined (form.groupsHold leafHolds) parts =
      connective.joined (holds leafHolds) clauses := by
  have joined := congrArg (connective.joined id) (map_groupsHold_of_paired paired leafHolds)
  rwa [Connective.joined_map, Connective.joined_map] at joined

theorem parts_ne_nil_of_paired (some : clauses ≠ []) : parts ≠ [] := by
  intro none
  subst none
  cases paired
  exact some rfl

/-- The groups of all clauses express the composite of the outer kind. -/
theorem expresses_flatten (some : clauses ≠ []) :
    form.Expresses leaves (form.outer.compose clauses) parts.flatten where
  some := by
    obtain ⟨part, member⟩ := List.exists_mem_of_ne_nil _ (parts_ne_nil_of_paired paired some)
    obtain ⟨group, inside⟩ :=
      List.exists_mem_of_ne_nil _ (literalGroups_of_paired paired part member).1
    exact List.ne_nil_of_mem (List.mem_flatten_of_mem member inside)
  each := by
    intro group inside
    obtain ⟨part, member, listed⟩ := List.mem_flatten.mp inside
    exact (literalGroups_of_paired paired part member).2 group listed
  agrees := fun leafHolds => by
    rw [Connective.holds_compose _ _ some, ← joined_groupsHold_of_paired paired, groupsHold,
      ← List.flatMap_id, Connective.joined_flatMap]
    rfl

end

/-! The crossed parts, each choice of groups extended by the groups of one more part. -/

theorem crossed_concat (parts : List (Groups α)) (part : Groups α) :
    crossed (parts ++ [part]) =
      (crossed parts).flatMap fun group => part.map (group ++ ·) := by
  simp [crossed]

theorem mem_crossed_concat {part : Groups α} {group : List (Specification α)} :
    group ∈ crossed (parts ++ [part]) ↔
      ∃ chosen ∈ crossed parts, ∃ last ∈ part, chosen ++ last = group := by
  simp [crossed_concat]

theorem crossed_ne_nil (filled : ∀ part ∈ parts, part ≠ []) : crossed parts ≠ [] := by
  induction parts using List.reverseRecOn with
  | nil => exact List.cons_ne_nil _ _
  | append_singleton parts part ih =>
    rw [List.forall_mem_append, List.forall_mem_singleton] at filled
    obtain ⟨chosen, first⟩ := List.exists_mem_of_ne_nil _ (ih filled.1)
    obtain ⟨last, second⟩ := List.exists_mem_of_ne_nil _ filled.2
    exact List.ne_nil_of_mem (mem_crossed_concat.mpr ⟨chosen, first, last, second, rfl⟩)

theorem literal_of_mem_crossed
    (each : ∀ part ∈ parts, ∀ group ∈ part, LiteralGroup leaves group) :
    ∀ group ∈ crossed parts, ∀ literal ∈ group, Literal leaves literal := by
  induction parts using List.reverseRecOn with
  | nil => simp [crossed]
  | append_singleton parts part ih =>
    rw [List.forall_mem_append, List.forall_mem_singleton] at each
    intro group member
    obtain ⟨chosen, first, last, second, rfl⟩ := mem_crossed_concat.mp member
    exact List.forall_mem_append.mpr ⟨ih each.1 chosen first, (each.2 last second).literal⟩

theorem literalGroup_of_mem_crossed (some : parts ≠ [])
    (each : ∀ part ∈ parts, ∀ group ∈ part, LiteralGroup leaves group) :
    ∀ group ∈ crossed parts, LiteralGroup leaves group := by
  intro group member
  refine ⟨?_, literal_of_mem_crossed each group member⟩
  rcases parts.eq_nil_or_concat' with rfl | ⟨earlier, part, rfl⟩
  · exact absurd rfl some
  obtain ⟨chosen, _, last, second, rfl⟩ := mem_crossed_concat.mp member
  exact List.append_ne_nil_of_right_ne_nil _ (each part (by simp) last second).some

/-- Distribution: the crossed groups hold as the parts do, joined by the inner connective. -/
theorem groupsHold_crossed (leafHolds : α → Bool) :
    form.groupsHold leafHolds (crossed parts) =
      form.inner.joined (form.groupsHold leafHolds) parts := by
  -- From the right, since the groups chosen so far are extended by those of the last part.
  induction parts using List.reverseRecOn with
  | nil => cases form <;> rfl
  | append_singleton parts part ih =>
    have extended (chosen : List (Specification α)) :
        form.groupsHold leafHolds (part.map (chosen ++ ·)) =
          form.inner.both (form.groupsHold leafHolds part)
            (form.inner.joined (holds leafHolds) chosen) := by
      rw [groupsHold, Connective.joined_map]
      simp only [Connective.joined_append]
      rw [inner, Connective.joined_opposite, Connective.both_comm]
      rfl
    calc form.groupsHold leafHolds (crossed (parts ++ [part]))
      _ = form.outer.joined (fun chosen => form.groupsHold leafHolds (part.map (chosen ++ ·)))
            (crossed parts) := by
        rw [crossed_concat, groupsHold, Connective.joined_flatMap]
        rfl
      _ = form.inner.both (form.groupsHold leafHolds part)
            (form.groupsHold leafHolds (crossed parts)) := by
        simp only [extended]
        exact Connective.joined_opposite _ _ _ _
      _ = form.inner.joined (form.groupsHold leafHolds) (parts ++ [part]) := by
        rw [ih, Connective.joined_append, Connective.joined_singleton, Connective.both_comm]

/-- The crossed groups of all clauses express the composite of the inner kind. -/
theorem expresses_crossed (some : clauses ≠ [])
    (paired : List.Forall₂ (form.Expresses leaves) clauses parts) :
    form.Expresses leaves (form.inner.compose clauses) (crossed parts) where
  some := crossed_ne_nil fun part member => (literalGroups_of_paired paired part member).1
  each := literalGroup_of_mem_crossed (parts_ne_nil_of_paired paired some)
    fun part member => (literalGroups_of_paired paired part member).2
  agrees := fun leafHolds => by
    rw [groupsHold_crossed, joined_groupsHold_of_paired paired,
      Connective.holds_compose _ _ some]

end Form

theorem Form.eq_outer_or_eq_inner (form : Form) (connective : Connective) :
    connective = form.outer ∨ connective = form.inner := by
  cases form <;> cases connective <;> decide

/-! The number of crossed groups. -/

theorem length_crossed (parts : List (Groups α)) :
    (crossed parts).length = (parts.map List.length).prod := by
  induction parts using List.reverseRecOn with
  | nil => rfl
  | append_singleton parts part ih => simp [Form.crossed_concat, ih]

/-- A choice from all parts includes a choice from each of them. -/
theorem length_le_crossed {parts : List (Groups α)} (filled : ∀ part ∈ parts, part ≠ []) :
    ∀ part ∈ parts, part.length ≤ (crossed parts).length := by
  intro part member
  rw [length_crossed]
  refine List.single_le_prod ?_ _ (List.mem_map_of_mem member)
  exact List.forall_mem_map.mpr fun other listed => List.length_pos_iff.mpr (filled other listed)

/-- The estimate is the number of crossed groups, as far as it can be counted. -/
theorem estimatedCount_eq (parts : List (Groups α)) :
    estimatedCount parts = min (crossed parts).length largestCount := by
  have saturated (count factor : Nat) :
      min (min count largestCount * factor) largestCount = min (count * factor) largestCount := by
    rcases factor.eq_zero_or_pos with rfl | some
    · rfl
    · rw [← Nat.mul_min_mul_right, min_assoc, min_eq_right (Nat.le_mul_of_pos_right _ some)]
  induction parts using List.reverseRecOn with
  | nil => rfl
  | append_singleton parts part ih =>
    calc estimatedCount (parts ++ [part])
      _ = min (estimatedCount parts * part.length) largestCount := by simp [estimatedCount]
      _ = min ((crossed parts).length * part.length) largestCount := by rw [ih, saturated]
      _ = min (crossed (parts ++ [part])).length largestCount := by simp [Form.crossed_concat]

end NodeQuery.Specification
