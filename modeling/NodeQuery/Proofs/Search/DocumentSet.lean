import Mathlib
import NodeQuery.Search.DocumentSet

/-! Membership in sets of document numbers. A set is determined by its members, so every operation
is described by the members of its result. -/

namespace NodeQuery.Search.DocumentSet

theorem mem_numbers {set : DocumentSet} {number : Nat} : number ∈ set.numbers ↔ number ∈ set :=
  Iff.rfl

theorem ext {left right : DocumentSet} (same : ∀ number, number ∈ left ↔ number ∈ right) :
    left = right := by
  obtain ⟨lefts, leftAscends⟩ := left
  obtain ⟨rights, rightAscends⟩ := right
  have listed : lefts = rights :=
    List.Perm.eq_of_pairwise (fun first second _ _ less more => absurd more (by omega))
      leftAscends rightAscends
      ((List.perm_ext_iff_of_nodup (leftAscends.imp Nat.ne_of_lt)
        (rightAscends.imp Nat.ne_of_lt)).mpr same)
  subst listed
  rfl

@[simp] theorem not_mem_empty (number : Nat) : ¬number ∈ empty := List.not_mem_nil

@[simp] theorem mem_insert {set : DocumentSet} {number member : Nat} :
    member ∈ set.insert number ↔ member = number ∨ member ∈ set := mem_inserted

@[simp] theorem mem_filter {set : DocumentSet} {keep : Nat → Bool} {member : Nat} :
    member ∈ set.filter keep ↔ member ∈ set ∧ keep member = true := List.mem_filter

@[simp] theorem mem_erase {set : DocumentSet} {number member : Nat} :
    member ∈ set.erase number ↔ member ∈ set ∧ member ≠ number := by
  simp [erase]

@[simp] theorem mem_inter {left right : DocumentSet} {member : Nat} :
    member ∈ left.inter right ↔ member ∈ left ∧ member ∈ right := by
  simp [inter, mem_numbers]

@[simp] theorem mem_diff {left right : DocumentSet} {member : Nat} :
    member ∈ left.diff right ↔ member ∈ left ∧ ¬member ∈ right := by
  simp [diff, mem_numbers]

theorem mem_foldl_insert {numbers : List Nat} {set : DocumentSet} {member : Nat} :
    member ∈ numbers.foldl insert set ↔ member ∈ set ∨ member ∈ numbers := by
  induction numbers generalizing set with
  | nil => simp
  | cons number numbers ih =>
    rw [List.foldl_cons, ih, mem_insert, List.mem_cons, or_comm (a := member = number), or_assoc]

@[simp] theorem mem_union {left right : DocumentSet} {member : Nat} :
    member ∈ left.union right ↔ member ∈ left ∨ member ∈ right := mem_foldl_insert

theorem mem_foldl_union {sets : List DocumentSet} {start : DocumentSet} {member : Nat} :
    member ∈ sets.foldl union start ↔ member ∈ start ∨ ∃ set ∈ sets, member ∈ set := by
  induction sets generalizing start with
  | nil => simp
  | cons set sets ih =>
    simp only [List.foldl_cons, ih, mem_union, List.mem_cons, exists_eq_or_imp, or_assoc]

@[simp] theorem mem_unions {sets : List DocumentSet} {member : Nat} :
    member ∈ unions sets ↔ ∃ set ∈ sets, member ∈ set := by
  simp [unions, mem_foldl_union]

theorem mem_foldl_inter {sets : List DocumentSet} {start : DocumentSet} {member : Nat} :
    member ∈ sets.foldl inter start ↔ member ∈ start ∧ ∀ set ∈ sets, member ∈ set := by
  induction sets generalizing start with
  | nil => simp
  | cons set sets ih => simp only [List.foldl_cons, ih, mem_inter, List.forall_mem_cons, and_assoc]

theorem isEmpty_iff {set : DocumentSet} : set.isEmpty = true ↔ ∀ number, ¬number ∈ set := by
  unfold isEmpty
  rw [List.isEmpty_iff, List.eq_nil_iff_forall_not_mem]
  rfl

end NodeQuery.Search.DocumentSet
