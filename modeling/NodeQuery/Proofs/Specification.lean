import Mathlib
import NodeQuery.Specification.Basic

/-! Specifications clause by clause. Clauses that are translated one after the other are all
translated once each of them is, and composites hold by the truths of their clauses. -/

namespace NodeQuery.Specification

variable {α β ε : Type}

/-- What is computed clause by clause is computed of each clause. -/
theorem eq_map_of_clausewise {each : Specification α → β} {all : List (Specification α) → List β}
    (none : all [] = [])
    (more : ∀ clause clauses, all (clause :: clauses) = each clause :: all clauses)
    (clauses : List (Specification α)) : all clauses = clauses.map each := by
  induction clauses with
  | nil => exact none
  | cons clause clauses ih => rw [more, List.map_cons, ih]

/-- What is added up clause by clause is the sum over the clauses. -/
theorem eq_sum_of_clausewise {each : Specification α → Nat} {total : List (Specification α) → Nat}
    (none : total [] = 0)
    (more : ∀ clause clauses, total (clause :: clauses) = each clause + total clauses)
    (clauses : List (Specification α)) : total clauses = (clauses.map each).sum := by
  induction clauses with
  | nil => exact none
  | cons clause clauses ih => rw [more, List.map_cons, List.sum_cons, ih]

/-- What is known of the translation of each clause is known of all of them together. -/
theorem translated_of_each (translate : Specification α → Except ε β)
    (translateAll : List (Specification α) → Except ε (List β)) (none : translateAll [] = .ok [])
    (more : ∀ clause clauses first rest, translate clause = .ok first →
      translateAll clauses = .ok rest → translateAll (clause :: clauses) = .ok (first :: rest))
    {good : Specification α → β → Prop} {clauses : List (Specification α)}
    (each : ∀ clause ∈ clauses, ∃ result, translate clause = .ok result ∧ good clause result) :
    ∃ results, translateAll clauses = .ok results ∧ List.Forall₂ good clauses results := by
  induction clauses with
  | nil => exact ⟨[], none, .nil⟩
  | cons clause clauses ih =>
    obtain ⟨first, done, firstGood⟩ := each clause List.mem_cons_self
    obtain ⟨rest, doneRest, restGood⟩ :=
      ih fun other member => each other (List.mem_cons_of_mem _ member)
    exact ⟨first :: rest, more clause clauses first rest done doneRest, .cons firstGood restGood⟩

/-- Clauses that are translated together are translated each. -/
theorem paired_of_translated (translate : Specification α → Except ε β)
    (translateAll : List (Specification α) → Except ε (List β)) (none : translateAll [] = .ok [])
    (more : ∀ clause clauses results, translateAll (clause :: clauses) = .ok results →
      ∃ first rest, results = first :: rest ∧ translate clause = .ok first ∧
        translateAll clauses = .ok rest)
    {clauses : List (Specification α)} {results : List β}
    (done : translateAll clauses = .ok results) :
    List.Forall₂ (fun clause result => translate clause = .ok result) clauses results := by
  induction clauses generalizing results with
  | nil =>
    rw [none] at done
    cases done
    exact .nil
  | cons clause clauses ih =>
    obtain ⟨first, rest, rfl, translated, others⟩ := more clause clauses results done
    exact .cons translated (ih others)

theorem holds_conjunction (leafHolds : α → Bool) (clauses : List (Specification α)) :
    holds leafHolds (.conjunction clauses) =
      (!(clauses.map (holds leafHolds)).isEmpty && (clauses.map (holds leafHolds)).all id) := by
  unfold holds
  rw [allHold_eq, List.isEmpty_map, List.all_map, Function.id_comp]

theorem holds_disjunction (leafHolds : α → Bool) (clauses : List (Specification α)) :
    holds leafHolds (.disjunction clauses) = (clauses.map (holds leafHolds)).any id := by
  unfold holds
  rw [anyHolds_eq, List.any_map, Function.id_comp]

end NodeQuery.Specification
