import Mathlib
import NodeQuery.Distinct

/-! Lists without repetitions, put together and translated. The first occurrences in a list that
goes on are those that were there and the new ones, and a translation that tells the elements apart
keeps them. -/

namespace NodeQuery

variable {α β : Type} [DecidableEq α] [DecidableEq β]

theorem distinct_concat (elements : List α) (element : α) :
    distinct (elements ++ [element]) = addNew (distinct elements) element := by
  unfold distinct
  rw [List.foldl_append]
  rfl

theorem distinct_append {left right : List α} (apart : ∀ element ∈ right, element ∉ left) :
    distinct (left ++ right) = distinct left ++ distinct right := by
  induction right using List.reverseRecOn with
  | nil => rw [List.append_nil]; exact (List.append_nil _).symm
  | append_singleton right element ih =>
    obtain ⟨apart, new⟩ := List.forall_mem_append.mp apart
    have new : element ∉ distinct left := mt mem_distinct.mp (new element (by simp))
    rw [← List.append_assoc, distinct_concat, ih apart, distinct_concat, addNew, addNew]
    by_cases known : element ∈ distinct right <;> simp [known, new]

theorem distinct_filterMap_distinct (choose : α → Option β) (elements : List α) :
    distinct ((distinct elements).filterMap choose) = distinct (elements.filterMap choose) := by
  induction elements using List.reverseRecOn with
  | nil => rfl
  | append_singleton elements element ih =>
    rw [distinct_concat, addNew, List.filterMap_append]
    cases chosen : choose element with
    | none => split <;> simp [chosen, ih]
    | some value =>
      have single : [element].filterMap choose = [value] := by simp [chosen]
      rw [single, distinct_concat, ← ih]
      split
      · next known =>
        have listed : value ∈ distinct ((distinct elements).filterMap choose) :=
          mem_distinct.mpr (List.mem_filterMap.mpr ⟨element, known, chosen⟩)
        unfold addNew
        rw [if_pos listed]
      · rw [List.filterMap_append, single, distinct_concat]

theorem distinct_map {f : α → β} {elements : List α}
    (apart : ∀ left ∈ elements, ∀ right ∈ elements, f left = f right → left = right) :
    distinct (elements.map f) = (distinct elements).map f := by
  induction elements using List.reverseRecOn with
  | nil => rfl
  | append_singleton elements element ih =>
    have known : f element ∈ (distinct elements).map f ↔ element ∈ distinct elements := by
      refine ⟨fun member => ?_, List.mem_map_of_mem⟩
      obtain ⟨other, listed, same⟩ := List.mem_map.mp member
      exact apart other (List.mem_append_left _ (mem_distinct.mp listed)) element (by simp) same ▸
        listed
    have earlier := ih fun left first right second =>
      apart left (List.mem_append_left _ first) right (List.mem_append_left _ second)
    rw [List.map_append, List.map_singleton, distinct_concat, earlier, distinct_concat, addNew,
      addNew, apply_ite (List.map f), List.map_append, List.map_singleton]
    exact if_congr known rfl rfl

end NodeQuery
