import NodeQuery.Proofs.Specification
import NodeQuery.Specification.Simplification

/-! Connectives, and specifications that are built with them from literals. What holds of a
composite with clauses is decided by its connective alone; only composites without clauses are
exceptional, since both kinds of them match nothing. -/

namespace NodeQuery.Specification

variable {α : Type}

namespace Connective

def opposite : Connective → Connective
  | .and => .or
  | .or => .and

theorem opposite_opposite (connective : Connective) :
    connective.opposite.opposite = connective := by
  cases connective <;> rfl

/-- Two truths joined by the connective. -/
def both : Connective → Bool → Bool → Bool
  | .and, left, right => left && right
  | .or, left, right => left || right

/-- The truths of all items joined by the connective. -/
def joined {β : Type} : Connective → (β → Bool) → List β → Bool
  | .and, holds, items => items.all holds
  | .or, holds, items => items.any holds

theorem both_comm (connective : Connective) (left right : Bool) :
    connective.both left right = connective.both right left := by
  cases connective
  · exact Bool.and_comm left right
  · exact Bool.or_comm left right

theorem both_assoc (connective : Connective) (first second third : Bool) :
    connective.both (connective.both first second) third =
      connective.both first (connective.both second third) := by
  cases connective
  · exact Bool.and_assoc first second third
  · exact Bool.or_assoc first second third

section

variable {β γ : Type} (connective : Connective) (holds : β → Bool)

theorem joined_singleton (item : β) : connective.joined holds [item] = holds item := by
  cases connective <;> simp [joined]

theorem joined_cons (item : β) (items : List β) : connective.joined holds (item :: items) =
    connective.both (holds item) (connective.joined holds items) := by
  cases connective <;> rfl

/-- Joined from left to right, to what is known before. -/
theorem foldl_both (known : Bool) (items : List β) :
    items.foldl (fun truth item => connective.both truth (holds item)) known =
      connective.both known (connective.joined holds items) := by
  induction items generalizing known with
  | nil => cases connective <;> cases known <;> rfl
  | cons item items ih => rw [List.foldl_cons, ih, joined_cons, both_assoc]

theorem joined_append (items others : List β) : connective.joined holds (items ++ others) =
    connective.both (connective.joined holds items) (connective.joined holds others) := by
  cases connective
  · exact List.all_append
  · exact List.any_append

theorem joined_map (f : γ → β) (items : List γ) :
    connective.joined holds (items.map f) =
      connective.joined (fun item => holds (f item)) items := by
  cases connective
  · exact List.all_map
  · exact List.any_map

theorem joined_flatMap (f : γ → List β) (items : List γ) :
    connective.joined holds (items.flatMap f) =
      connective.joined (fun item => connective.joined holds (f item)) items := by
  cases connective
  · exact List.all_flatMap
  · exact List.any_flatMap

theorem joined_of_paired {other : γ → Bool} {items : List β} {others : List γ}
    (agree : List.Forall₂ (fun item counterpart => other counterpart = holds item) items others) :
    connective.joined other others = connective.joined holds items := by
  induction agree with
  | nil => cases connective <;> rfl
  | cons same _ ih => rw [joined_cons, joined_cons, same, ih]

theorem joined_congr {other : β → Bool} {items : List β}
    (same : ∀ item ∈ items, holds item = other item) :
    connective.joined holds items = connective.joined other items :=
  connective.joined_of_paired other (List.forall₂_same.mpr same)

/-- What is joined by the opposite connective to every item can be joined to all of them at once. -/
theorem joined_opposite (known : Bool) (items : List β) :
    connective.joined (fun item => connective.opposite.both known (holds item)) items =
      connective.opposite.both known (connective.joined holds items) := by
  induction items with
  | nil => cases connective <;> cases known <;> rfl
  | cons item items ih =>
    rw [joined_cons, joined_cons, ih]
    cases connective <;> cases known <;> rfl

theorem joined_not (items : List β) :
    connective.joined (fun item => !holds item) items =
      !connective.opposite.joined holds items := by
  induction items with
  | nil => cases connective <;> rfl
  | cons item items ih =>
    rw [joined_cons, joined_cons, ih]
    cases connective <;> cases holds item <;> rfl

end

theorem holds_compose (connective : Connective) (leafHolds : α → Bool)
    {clauses : List (Specification α)} (some : clauses ≠ []) :
    holds leafHolds (connective.compose clauses) =
      connective.joined (holds leafHolds) clauses := by
  cases connective with
  | and =>
    change holds leafHolds (.conjunction clauses) = _
    rw [holds_conjunction, List.all_map, List.isEmpty_map, List.isEmpty_eq_false_iff.mpr some]
    rfl
  | or =>
    change holds leafHolds (.disjunction clauses) = _
    rw [holds_disjunction, List.any_map]
    rfl

theorem holds_compose_nil (connective : Connective) (leafHolds : α → Bool) :
    holds leafHolds (connective.compose []) = false := by
  cases connective <;> rfl

theorem holds_compose_iff (connective : Connective) (leafHolds : α → Bool)
    {clauses : List (Specification α)} :
    holds leafHolds (connective.compose clauses) = true ↔
      clauses ≠ [] ∧ connective.joined (holds leafHolds) clauses = true := by
  by_cases some : clauses = []
  · rw [some, holds_compose_nil]
    simp
  · rw [holds_compose _ _ some, and_iff_right some]

/-- Clauses may be replaced by others that hold as they do. -/
theorem holds_compose_congr {β : Type} (connective : Connective) {leafHolds : α → Bool}
    {otherHolds : β → Bool} {clauses : List (Specification α)} {others : List (Specification β)}
    (same : clauses.map (holds leafHolds) = others.map (holds otherHolds)) :
    holds leafHolds (connective.compose clauses) =
      holds otherHolds (connective.compose others) := by
  cases connective with
  | and =>
    change holds leafHolds (.conjunction clauses) = holds otherHolds (.conjunction others)
    rw [holds_conjunction, holds_conjunction, same]
  | or =>
    change holds leafHolds (.disjunction clauses) = holds otherHolds (.disjunction others)
    rw [holds_disjunction, holds_disjunction, same]

theorem holds_compose_map (connective : Connective) (leafHolds : α → Bool)
    {clauses : List (Specification α)} {f : Specification α → Specification α}
    (same : ∀ clause ∈ clauses, holds leafHolds (f clause) = holds leafHolds clause) :
    holds leafHolds (connective.compose (clauses.map f)) =
      holds leafHolds (connective.compose clauses) := by
  apply connective.holds_compose_congr
  rw [List.map_map]
  exact List.map_congr_left same

end Connective

/-- What holds of constants, leaves, negations and composites of either kind holds of every
specification. -/
theorem composedOn {motive : Specification α → Prop} (specification : Specification α)
    (everything : motive .everything) (nothing : motive .nothing)
    (leaf : ∀ value, motive (.leaf value))
    (negation : ∀ inner, motive inner → motive (.negation inner))
    (composite : ∀ (connective : Connective) clauses, (∀ clause ∈ clauses, motive clause) →
      motive (connective.compose clauses)) : motive specification :=
  inductionOn specification everything nothing leaf negation (composite .and) (composite .or)

theorem leaves_compose (connective : Connective) (clauses : List (Specification α)) :
    (connective.compose clauses).leaves = allLeaves clauses := by
  cases connective <;> rfl

theorem mem_allLeaves_of_mem {clauses : List (Specification α)} {clause : Specification α}
    (member : clause ∈ clauses) : ∀ leaf ∈ clause.leaves, leaf ∈ allLeaves clauses := by
  intro leaf inside
  rw [allLeaves_eq]
  exact List.mem_flatMap.mpr ⟨clause, member, inside⟩

/-- A constant, one of the leaves, or the negation of one of them. -/
inductive Literal (leaves : List α) : Specification α → Prop
  | everything : Literal leaves .everything
  | nothing : Literal leaves .nothing
  | leaf {value : α} (listed : value ∈ leaves) : Literal leaves (.leaf value)
  | negation {value : α} (listed : value ∈ leaves) : Literal leaves (.negation (.leaf value))

/-- Built from literals by composites that have clauses. -/
inductive NegationNormal (leaves : List α) : Specification α → Prop
  | literal {specification : Specification α} (plain : Literal leaves specification) :
      NegationNormal leaves specification
  | composite (connective : Connective) {clauses : List (Specification α)} (some : clauses ≠ [])
      (each : ∀ clause ∈ clauses, NegationNormal leaves clause) :
      NegationNormal leaves (connective.compose clauses)

theorem Literal.mono {leaves others : List α} {specification : Specification α}
    (plain : Literal leaves specification) (within : ∀ leaf ∈ leaves, leaf ∈ others) :
    Literal others specification := by
  cases plain with
  | everything => exact .everything
  | nothing => exact .nothing
  | leaf listed => exact .leaf (within _ listed)
  | negation listed => exact .negation (within _ listed)

theorem not_literal_compose {leaves : List α} {connective : Connective}
    {clauses : List (Specification α)} : ¬ Literal leaves (connective.compose clauses) := by
  intro plain
  cases connective <;> cases plain

theorem NegationNormal.mono {leaves others : List α} {specification : Specification α}
    (normal : NegationNormal leaves specification) (within : ∀ leaf ∈ leaves, leaf ∈ others) :
    NegationNormal others specification := by
  induction normal with
  | literal plain => exact .literal (plain.mono within)
  | composite connective some _ ih => exact .composite connective some ih

theorem NegationNormal.listed {leaves : List α} {specification : Specification α}
    (normal : NegationNormal leaves specification) :
    ∀ leaf ∈ specification.leaves, leaf ∈ leaves := by
  induction normal with
  | literal plain =>
    cases plain with
    | everything | nothing => exact List.forall_mem_nil _
    | leaf listed | negation listed => exact List.forall_mem_singleton.mpr listed
  | composite connective _ _ ih =>
    intro leaf inside
    rw [leaves_compose, allLeaves_eq] at inside
    obtain ⟨clause, member, within⟩ := List.mem_flatMap.mp inside
    exact ih clause member leaf within

theorem NegationNormal.of_compose {leaves : List α} {connective : Connective}
    {clauses : List (Specification α)}
    (normal : NegationNormal leaves (connective.compose clauses)) :
    clauses ≠ [] ∧ ∀ clause ∈ clauses, NegationNormal leaves clause := by
  generalize same : connective.compose clauses = whole at normal
  cases normal with
  | literal plain => exact absurd (same ▸ plain) not_literal_compose
  | composite other some each =>
    cases connective <;> cases other <;> cases same <;> exact ⟨some, each⟩

end NodeQuery.Specification
