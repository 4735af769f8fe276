/-!
Sets of document numbers, listed in ascending order.
-/

namespace NodeQuery.Search

structure DocumentSet where
  numbers : List Nat
  ascends : numbers.Pairwise (· < ·)
  deriving DecidableEq

namespace DocumentSet

def empty : DocumentSet := ⟨[], .nil⟩

instance : Inhabited DocumentSet := ⟨empty⟩

def isEmpty (set : DocumentSet) : Bool := set.numbers.isEmpty

def size (set : DocumentSet) : Nat := set.numbers.length

instance : Membership Nat DocumentSet := ⟨fun set number => number ∈ set.numbers⟩

instance (number : Nat) (set : DocumentSet) : Decidable (number ∈ set) :=
  inferInstanceAs (Decidable (number ∈ set.numbers))

def inserted (number : Nat) : List Nat → List Nat
  | [] => [number]
  | other :: rest =>
    if number < other then number :: other :: rest
    else if number = other then other :: rest
    else other :: inserted number rest

theorem mem_inserted {number member : Nat} {numbers : List Nat} :
    member ∈ inserted number numbers ↔ member = number ∨ member ∈ numbers := by
  induction numbers with
  | nil => simp [inserted]
  | cons other rest ih =>
    unfold inserted
    split
    · simp
    · split
      · next same => simp [same]
      · simp only [List.mem_cons, ih, or_left_comm]

theorem pairwise_inserted {number : Nat} {numbers : List Nat} (ascends : numbers.Pairwise (· < ·)) :
    (inserted number numbers).Pairwise (· < ·) := by
  induction numbers with
  | nil => exact List.pairwise_singleton _ _
  | cons other rest ih =>
    rw [List.pairwise_cons] at ascends
    unfold inserted
    split
    · next less =>
      refine List.pairwise_cons.mpr ⟨?_, List.pairwise_cons.mpr ascends⟩
      intro member found
      rcases List.mem_cons.mp found with same | later
      · omega
      · have := ascends.1 member later
        omega
    · split
      · exact List.pairwise_cons.mpr ascends
      · refine List.pairwise_cons.mpr ⟨?_, ih ascends.2⟩
        intro member found
        rcases mem_inserted.mp found with same | later
        · omega
        · exact ascends.1 member later

def insert (set : DocumentSet) (number : Nat) : DocumentSet :=
  ⟨inserted number set.numbers, pairwise_inserted set.ascends⟩

def filter (set : DocumentSet) (keep : Nat → Bool) : DocumentSet :=
  ⟨set.numbers.filter keep, List.Pairwise.filter keep set.ascends⟩

def erase (set : DocumentSet) (number : Nat) : DocumentSet := set.filter (· != number)

def inter (left right : DocumentSet) : DocumentSet := left.filter right.numbers.contains

def diff (left right : DocumentSet) : DocumentSet := left.filter fun number =>
  !right.numbers.contains number

def union (left right : DocumentSet) : DocumentSet := right.numbers.foldl insert left

def unions (sets : List DocumentSet) : DocumentSet := sets.foldl union empty

end DocumentSet

end NodeQuery.Search
