/-!
Maps whose entries stand in strictly ascending order of their keys. Iterating over the entries is
iterating in key order, and equal maps have equal entries.
-/

namespace NodeQuery

variable {κ ν : Type} [Ord κ]

/-- The entries stand in strictly ascending order of their keys. -/
def Ascends (entries : List (κ × ν)) : Prop :=
  entries.Pairwise fun earlier later => compare earlier.1 later.1 = .lt

structure OrderedMap (κ ν : Type) [Ord κ] where
  entries : List (κ × ν)
  ascends : Ascends entries

namespace OrderedMap

theorem ext {left right : OrderedMap κ ν} (same : left.entries = right.entries) : left = right := by
  cases left; cases right; cases same; rfl

instance [DecidableEq κ] [DecidableEq ν] : DecidableEq (OrderedMap κ ν) := fun left right =>
  if same : left.entries = right.entries then .isTrue (ext same)
  else .isFalse fun equal => same (equal ▸ rfl)

def empty : OrderedMap κ ν := ⟨[], .nil⟩

instance : Inhabited (OrderedMap κ ν) := ⟨empty⟩

def isEmpty (map : OrderedMap κ ν) : Bool := map.entries.isEmpty

def keys (map : OrderedMap κ ν) : List κ := map.entries.map (·.1)

def values (map : OrderedMap κ ν) : List ν := map.entries.map (·.2)

/-- The value stored under a key. -/
def get? (map : OrderedMap κ ν) (key : κ) : Option ν :=
  (map.entries.find? fun entry => compare key entry.1 == .eq).map (·.2)

/-- Entries with the value under `key` made from the one that stood there, if any. -/
def upserted (key : κ) (make : Option ν → ν) : List (κ × ν) → List (κ × ν)
  | [] => [(key, make none)]
  | (other, value) :: rest =>
    match compare key other with
    | .lt => (key, make none) :: (other, value) :: rest
    | .eq => (other, make (some value)) :: rest
    | .gt => (other, value) :: upserted key make rest

theorem mem_upserted {key : κ} {make : Option ν → ν} {entries : List (κ × ν)} {entry : κ × ν}
    (member : entry ∈ upserted key make entries) :
    entry.1 = key ∨ ∃ earlier ∈ entries, earlier.1 = entry.1 := by
  induction entries with
  | nil =>
    simp only [upserted, List.mem_singleton] at member
    exact .inl (by rw [member])
  | cons head rest ih =>
    obtain ⟨other, value⟩ := head
    unfold upserted at member
    split at member
    · rcases List.mem_cons.mp member with rfl | member
      · exact .inl rfl
      · exact .inr ⟨entry, member, rfl⟩
    · rcases List.mem_cons.mp member with rfl | member
      · exact .inr ⟨(other, value), List.mem_cons_self, rfl⟩
      · exact .inr ⟨entry, List.mem_cons_of_mem _ member, rfl⟩
    · rcases List.mem_cons.mp member with rfl | member
      · exact .inr ⟨(other, value), List.mem_cons_self, rfl⟩
      · rcases ih member with same | ⟨earlier, found, same⟩
        · exact .inl same
        · exact .inr ⟨earlier, List.mem_cons_of_mem _ found, same⟩

theorem ascends_upserted [Std.TransOrd κ] {key : κ} {make : Option ν → ν} {entries : List (κ × ν)}
    (ascends : Ascends entries) : Ascends (upserted key make entries) := by
  induction entries with
  | nil => exact List.pairwise_singleton _ _
  | cons head rest ih =>
    obtain ⟨other, value⟩ := head
    have above : ∀ entry ∈ rest, compare other entry.1 = .lt :=
      fun _ member => List.rel_of_pairwise_cons ascends member
    have tail := List.Pairwise.of_cons ascends
    unfold upserted
    split
    · next before =>
      refine List.Pairwise.cons ?_ ascends
      intro entry member
      rcases List.mem_cons.mp member with rfl | member
      · exact before
      · exact Std.TransCmp.lt_trans before (above entry member)
    · exact List.Pairwise.cons (fun entry member => above entry member) tail
    · next after =>
      refine List.Pairwise.cons ?_ (ih tail)
      intro entry member
      rcases mem_upserted member with same | ⟨earlier, found, same⟩
      · rw [same]
        exact Std.OrientedCmp.lt_of_gt after
      · rw [← same]
        exact above earlier found

/-- Make the value under a key from the one that stands there, if any. -/
def upsert [Std.TransOrd κ] (map : OrderedMap κ ν) (key : κ) (make : Option ν → ν) :
    OrderedMap κ ν :=
  ⟨upserted key make map.entries, ascends_upserted map.ascends⟩

def insert [Std.TransOrd κ] (map : OrderedMap κ ν) (key : κ) (value : ν) : OrderedMap κ ν :=
  map.upsert key fun _ => value

/-- The entries of a class, in their order. -/
def filter (map : OrderedMap κ ν) (keep : κ × ν → Bool) : OrderedMap κ ν :=
  ⟨map.entries.filter keep, List.Pairwise.filter keep map.ascends⟩

def erase (map : OrderedMap κ ν) (key : κ) : OrderedMap κ ν :=
  map.filter fun entry => compare key entry.1 != .eq

/-- Later entries replace earlier ones of the same key. -/
def ofList [Std.TransOrd κ] (entries : List (κ × ν)) : OrderedMap κ ν :=
  entries.foldl (fun map entry => map.insert entry.1 entry.2) empty

end OrderedMap

end NodeQuery
