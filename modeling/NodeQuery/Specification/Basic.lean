/-!
Specifications: boolean combinations of leaves. A composite without clauses matches nothing, for
conjunctions and disjunctions alike, so the usual laws hold for composites that have clauses.
-/

namespace NodeQuery

inductive Specification (α : Type) where
  | everything
  | nothing
  | leaf (value : α)
  | negation (inner : Specification α)
  | conjunction (clauses : List (Specification α))
  | disjunction (clauses : List (Specification α))
  deriving Repr

namespace Specification

variable {α : Type}

instance : Inhabited (Specification α) := ⟨nothing⟩

mutual

def same [DecidableEq α] : Specification α → Specification α → Bool
  | .everything, .everything => true
  | .nothing, .nothing => true
  | .leaf left, .leaf right => left == right
  | .negation left, .negation right => same left right
  | .conjunction left, .conjunction right => sameClauses left right
  | .disjunction left, .disjunction right => sameClauses left right
  | _, _ => false

def sameClauses [DecidableEq α] : List (Specification α) → List (Specification α) → Bool
  | [], [] => true
  | left :: lefts, right :: rights => same left right && sameClauses lefts rights
  | _, _ => false

end

mutual

theorem same_iff [DecidableEq α] (left right : Specification α) :
    same left right = true ↔ left = right := by
  cases left <;> cases right <;> simp [same]
  · exact same_iff _ _
  · exact sameClauses_iff _ _
  · exact sameClauses_iff _ _

theorem sameClauses_iff [DecidableEq α] (lefts rights : List (Specification α)) :
    sameClauses lefts rights = true ↔ lefts = rights := by
  cases lefts <;> cases rights <;> simp [sameClauses]
  exact and_congr (same_iff _ _) (sameClauses_iff _ _)

end

instance [DecidableEq α] : DecidableEq (Specification α) := fun left right =>
  decidable_of_iff (same left right = true) (same_iff left right)

/-- What holds of every node once it holds of its clauses holds of every specification. -/
theorem inductionOn {motive : Specification α → Prop} (specification : Specification α)
    (everything : motive .everything) (nothing : motive .nothing)
    (leaf : ∀ value, motive (.leaf value))
    (negation : ∀ inner, motive inner → motive (.negation inner))
    (conjunction : ∀ clauses, (∀ clause ∈ clauses, motive clause) → motive (.conjunction clauses))
    (disjunction : ∀ clauses, (∀ clause ∈ clauses, motive clause) → motive (.disjunction clauses)) :
    motive specification :=
  Specification.rec (motive_1 := motive)
    (motive_2 := fun clauses => ∀ clause ∈ clauses, motive clause)
    everything nothing leaf negation conjunction disjunction
    (fun _ member => nomatch member)
    (fun _ _ head tail clause member =>
      match List.mem_cons.mp member with
      | .inl same => same ▸ head
      | .inr later => tail clause later)
    specification

mutual

/-- Whether the specification holds, given which leaves hold. -/
def holds (leafHolds : α → Bool) : Specification α → Bool
  | .everything => true
  | .nothing => false
  | .leaf value => leafHolds value
  | .negation inner => !holds leafHolds inner
  | .conjunction clauses => !clauses.isEmpty && allHold leafHolds clauses
  | .disjunction clauses => anyHolds leafHolds clauses

def allHold (leafHolds : α → Bool) : List (Specification α) → Bool
  | [] => true
  | clause :: clauses => holds leafHolds clause && allHold leafHolds clauses

def anyHolds (leafHolds : α → Bool) : List (Specification α) → Bool
  | [] => false
  | clause :: clauses => holds leafHolds clause || anyHolds leafHolds clauses

end

theorem allHold_eq (leafHolds : α → Bool) (clauses : List (Specification α)) :
    allHold leafHolds clauses = clauses.all (holds leafHolds) := by
  induction clauses with
  | nil => rfl
  | cons clause clauses ih => rw [allHold, List.all_cons, ih]

theorem anyHolds_eq (leafHolds : α → Bool) (clauses : List (Specification α)) :
    anyHolds leafHolds clauses = clauses.any (holds leafHolds) := by
  induction clauses with
  | nil => rfl
  | cons clause clauses ih => rw [anyHolds, List.any_cons, ih]

mutual

/-- The number of nodes. -/
def size : Specification α → Nat
  | .everything => 1
  | .nothing => 1
  | .leaf _ => 1
  | .negation inner => 1 + size inner
  | .conjunction clauses => 1 + totalSize clauses
  | .disjunction clauses => 1 + totalSize clauses

def totalSize : List (Specification α) → Nat
  | [] => 0
  | clause :: clauses => size clause + totalSize clauses

end

mutual

/-- The leaves from left to right. -/
def leaves : Specification α → List α
  | .everything => []
  | .nothing => []
  | .leaf value => [value]
  | .negation inner => leaves inner
  | .conjunction clauses => allLeaves clauses
  | .disjunction clauses => allLeaves clauses

def allLeaves : List (Specification α) → List α
  | [] => []
  | clause :: clauses => leaves clause ++ allLeaves clauses

end

theorem allLeaves_eq (clauses : List (Specification α)) :
    allLeaves clauses = clauses.flatMap leaves := by
  induction clauses with
  | nil => rfl
  | cons clause clauses ih => rw [allLeaves, List.flatMap_cons, ih]

/-- Texts between parentheses, with a mark of its own for no texts. -/
def bracketed (separator ifEmpty : String) (texts : List String) : String :=
  if texts.isEmpty then ifEmpty else "(" ++ separator.intercalate texts ++ ")"

mutual

/-- The written form, given that of the leaves. -/
def text (leafText : α → String) : Specification α → String
  | .everything => "⊤"
  | .nothing => "⊥"
  | .leaf value => leafText value
  | .negation inner => "¬" ++ text leafText inner
  | .conjunction clauses => bracketed " ∧ " "(∧)" (texts leafText clauses)
  | .disjunction clauses => bracketed " ∨ " "(∨)" (texts leafText clauses)

def texts (leafText : α → String) : List (Specification α) → List String
  | [] => []
  | clause :: clauses => text leafText clause :: texts leafText clauses

end

end Specification

end NodeQuery
