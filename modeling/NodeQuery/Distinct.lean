/-!
Lists without repetitions: the first occurrence of every element, in order.
-/

namespace NodeQuery

variable {α : Type} [DecidableEq α]

def addNew (kept : List α) (element : α) : List α :=
  if element ∈ kept then kept else kept ++ [element]

def distinct (elements : List α) : List α := elements.foldl addNew []

theorem mem_addNew {kept : List α} {element member : α} :
    member ∈ addNew kept element ↔ member ∈ kept ∨ member = element := by
  unfold addNew
  split
  · next known => exact ⟨.inl, fun either => either.elim id fun same => same ▸ known⟩
  · simp

theorem nodup_addNew {kept : List α} {element : α} (nodup : kept.Nodup) :
    (addNew kept element).Nodup := by
  unfold addNew
  split
  · exact nodup
  · next new =>
    rw [List.nodup_append]
    refine ⟨nodup, by simp, ?_⟩
    intro known member other added same
    rw [List.mem_singleton] at added
    exact new (added ▸ same ▸ member)

theorem mem_foldl_addNew {elements kept : List α} {member : α} :
    member ∈ elements.foldl addNew kept ↔ member ∈ kept ∨ member ∈ elements := by
  induction elements generalizing kept with
  | nil => simp
  | cons element elements ih => rw [List.foldl_cons, ih, mem_addNew, List.mem_cons, or_assoc]

theorem nodup_foldl_addNew {elements kept : List α} (nodup : kept.Nodup) :
    (elements.foldl addNew kept).Nodup := by
  induction elements generalizing kept with
  | nil => exact nodup
  | cons element elements ih => exact ih (nodup_addNew nodup)

theorem mem_distinct {elements : List α} {member : α} :
    member ∈ distinct elements ↔ member ∈ elements := by
  simp [distinct, mem_foldl_addNew]

theorem nodup_distinct (elements : List α) : (distinct elements).Nodup :=
  nodup_foldl_addNew .nil

theorem foldl_addNew_of_nodup {elements kept : List α} (nodup : (kept ++ elements).Nodup) :
    elements.foldl addNew kept = kept ++ elements := by
  induction elements generalizing kept with
  | nil => simp
  | cons element elements ih =>
    have new : element ∉ kept := fun member =>
      (List.nodup_append.mp nodup).2.2 element member element List.mem_cons_self rfl
    rw [List.foldl_cons, addNew, if_neg new, ih (by simpa using nodup), List.append_assoc,
      List.singleton_append]

theorem distinct_of_nodup {elements : List α} (nodup : elements.Nodup) :
    distinct elements = elements :=
  foldl_addNew_of_nodup nodup

end NodeQuery
