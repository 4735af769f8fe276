import Mathlib
import NodeQuery.Node

/-! Histories of a store: nodes stored and keys removed, one after the other. What a history leaves
is read off the changes themselves, without any store: the live nodes in the order in which their
versions were stored, and the live keys in the order in which they came in. -/

namespace NodeQuery

instance : Inhabited Timestamp :=
  ⟨1970, 1, 1, 0, 0, 0, 0, by decide, by decide, by decide, by decide⟩

instance : Inhabited Node := ⟨.fresh ⟨0⟩ ⟨⟨0⟩, ""⟩ default⟩

inductive Change where
  | store (node : Node)
  | remove (key : NodeKey)
  deriving DecidableEq

/-- The key whose node a change replaces or takes away. -/
def Change.key : Change → NodeKey
  | .store node => node.key
  | .remove key => key

/-- The version of a key that a change stores. -/
def Change.version? (key : NodeKey) : Change → Option Node
  | .store node => if node.key = key then some node else none
  | .remove _ => none

theorem Change.version?_eq_none {key : NodeKey} {change : Change} (other : change.key ≠ key) :
    change.version? key = none := by
  cases change with
  | remove _ => rfl
  | store node => exact if_neg other

abbrev History := List Change

namespace History

def stores (changes : History) : Nat := changes.countP fun
  | .store _ => true
  | .remove _ => false

/-- The history in a store with room for so many versions. A node that there is no room left for is
not stored, but the earlier version of its key is gone. -/
def within : Nat → History → History
  | _, [] => []
  | room, .remove key :: later => .remove key :: within room later
  | 0, .store node :: later => .remove node.key :: within 0 later
  | room + 1, .store node :: later => .store node :: within room later

/-- The versions that no later change of their key touches. -/
def liveNodes : History → List Node
  | [] => []
  | .store node :: later =>
    if ∃ change ∈ later, change.key = node.key then liveNodes later else node :: liveNodes later
  | .remove _ :: later => liveNodes later

/-- The version of a key that was stored last. -/
def latest? (changes : History) (key : NodeKey) : Option Node :=
  changes.reverse.findSome? (Change.version? key)

/-- The keys that are stored and not removed later on, by their first storing after the last
removal. -/
def arrivals : History → List NodeKey
  | [] => []
  | .store node :: later =>
    if .remove node.key ∈ later then arrivals later
    else node.key :: (arrivals later).filter (· ≠ node.key)
  | .remove _ :: later => arrivals later

@[simp] theorem stores_store (node : Node) (changes : History) :
    stores (.store node :: changes) = stores changes + 1 := List.countP_cons_of_pos rfl

@[simp] theorem stores_remove (key : NodeKey) (changes : History) :
    stores (.remove key :: changes) = stores changes :=
  List.countP_cons_of_neg Bool.false_ne_true

/-- The last change finds the room that the stores before it have left. -/
theorem within_append (room : Nat) (changes : History) (change : Change) :
    within room (changes ++ [change]) =
      within room changes ++ within (room - stores changes) [change] := by
  induction changes generalizing room with
  | nil => cases room <;> rfl
  | cons first changes ih =>
    cases first with
    | remove key => simp only [List.cons_append, within, ih, stores_remove]
    | store node =>
      cases room with
      | zero => simp only [List.cons_append, within, ih, Nat.zero_sub]
      | succ room =>
        simp only [List.cons_append, within, ih, stores_store, Nat.add_sub_add_right]

/-- With or without room, a change is about its key. -/
theorem exists_within_single (room : Nat) (change : Change) :
    ∃ made, within room [change] = [made] ∧ made.key = change.key := by
  cases change with
  | remove key => exact ⟨.remove key, by rw [within, within], rfl⟩
  | store node =>
    cases room with
    | zero => exact ⟨.remove node.key, by rw [within, within], rfl⟩
    | succ room => exact ⟨.store node, by rw [within, within], rfl⟩

theorem stores_within (room : Nat) (changes : History) :
    stores (within room changes) = min room (stores changes) := by
  induction changes generalizing room with
  | nil => cases room <;> exact (Nat.min_zero _).symm
  | cons first changes ih =>
    cases first with
    | remove key => rw [within, stores_remove, stores_remove, ih]
    | store node =>
      cases room with
      | zero => rw [within, stores_remove, ih, Nat.zero_min, Nat.zero_min]
      | succ room => rw [within, stores_store, stores_store, ih, Nat.add_min_add_right]

theorem within_of_le {room : Nat} {changes : History} (enough : stores changes ≤ room) :
    within room changes = changes := by
  induction changes generalizing room with
  | nil => cases room <;> rfl
  | cons first changes ih =>
    cases first with
    | remove key => rw [within, ih (by simpa using enough)]
    | store node =>
      rw [stores_store] at enough
      cases room with
      | zero => omega
      | succ room => rw [within, ih (by omega)]

theorem mem_liveNodes {changes : History} {node : Node} :
    node ∈ liveNodes changes ↔ ∃ earlier later, changes = earlier ++ .store node :: later ∧
      ∀ change ∈ later, change.key ≠ node.key := by
  induction changes with
  | nil => simp [liveNodes]
  | cons change changes ih =>
    have rest : (∃ earlier later, changes = earlier ++ .store node :: later ∧
        ∀ change ∈ later, change.key ≠ node.key) →
        ∃ earlier later, change :: changes = earlier ++ .store node :: later ∧
          ∀ change ∈ later, change.key ≠ node.key := by
      intro given
      obtain ⟨earlier, later, rfl, untouched⟩ := given
      exact ⟨change :: earlier, later, rfl, untouched⟩
    cases change with
    | remove key =>
      unfold liveNodes
      rw [ih]
      refine ⟨rest, ?_⟩
      intro given
      obtain ⟨earlier, later, split, untouched⟩ := given
      rcases List.cons_eq_append_iff.mp split with ⟨rfl, wrong⟩ | ⟨before, rfl, same⟩
      · cases wrong
      · exact ⟨before, later, same, untouched⟩
    | store stored =>
      unfold liveNodes
      constructor
      · intro member
        split at member
        · exact rest (ih.mp member)
        · next untouched =>
          rcases List.mem_cons.mp member with rfl | member
          · exact ⟨[], changes, rfl, by simpa using untouched⟩
          · exact rest (ih.mp member)
      · intro given
        obtain ⟨earlier, later, split, untouched⟩ := given
        rcases List.cons_eq_append_iff.mp split with ⟨rfl, same⟩ | ⟨before, rfl, same⟩
        · cases same
          rw [if_neg (by simpa using untouched)]
          exact List.mem_cons_self
        · have member := ih.mpr ⟨before, later, same, untouched⟩
          split
          · exact member
          · exact List.mem_cons_of_mem _ member

theorem latest?_append (earlier later : History) (key : NodeKey) :
    latest? (earlier ++ later) key = (latest? later key).or (latest? earlier key) := by
  simp only [latest?, List.reverse_append, List.findSome?_append]

theorem latest?_cons (change : Change) (changes : History) (key : NodeKey) :
    latest? (change :: changes) key = (latest? changes key).or (change.version? key) := by
  simp [latest?, List.findSome?_append]

theorem latest?_of_untouched {changes : History} {key : NodeKey}
    (untouched : ∀ change ∈ changes, change.key ≠ key) : latest? changes key = none := by
  unfold latest?
  rw [List.findSome?_eq_none_iff]
  intro change member
  exact Change.version?_eq_none (untouched change (List.mem_reverse.mp member))

/-- A live version is the one of its key that was stored last. -/
theorem latest?_of_mem_liveNodes {changes : History} {node : Node}
    (live : node ∈ liveNodes changes) : latest? changes node.key = some node := by
  obtain ⟨earlier, later, rfl, untouched⟩ := mem_liveNodes.mp live
  rw [latest?_append, latest?_cons, latest?_of_untouched untouched]
  simp [Change.version?]

/-- A change replaces or takes away the version of its key. -/
theorem liveNodes_append (changes : History) (change : Change) :
    liveNodes (changes ++ [change]) =
      (liveNodes changes).filter (·.key ≠ change.key) ++ liveNodes [change] := by
  induction changes with
  | nil => rfl
  | cons first changes ih =>
    cases first with
    | remove key => exact ih
    | store stored =>
      rw [List.cons_append, liveNodes, liveNodes, ih]
      by_cases same : change.key = stored.key
      · have touched : ∃ later ∈ changes ++ [change], later.key = stored.key :=
          ⟨change, by simp, same⟩
        rw [if_pos touched]
        split <;> simp [same]
      · have others : (∃ later ∈ changes ++ [change], later.key = stored.key) ↔
            ∃ later ∈ changes, later.key = stored.key := by
          simp [or_and_right, exists_or, same]
        simp only [others]
        split <;> simp [Ne.symm same]

/-- No key has two live versions. -/
theorem nodup_liveNodes (changes : History) : ((liveNodes changes).map (·.key)).Nodup := by
  induction changes with
  | nil => exact .nil
  | cons change changes ih =>
    cases change with
    | remove key => exact ih
    | store node =>
      unfold liveNodes
      split
      · exact ih
      · next untouched =>
        rw [List.map_cons, List.nodup_cons]
        refine ⟨?_, ih⟩
        intro member
        obtain ⟨other, live, same⟩ := List.mem_map.mp member
        obtain ⟨earlier, later, rfl, _⟩ := mem_liveNodes.mp live
        exact untouched ⟨.store other, by simp, same⟩

/-- A key that is live already keeps its place. -/
theorem arrivals_append_store (changes : History) (node : Node) :
    arrivals (changes ++ [.store node]) =
      if node.key ∈ arrivals changes then arrivals changes
      else arrivals changes ++ [node.key] := by
  induction changes with
  | nil => rfl
  | cons change changes ih =>
    cases change with
    | remove key => exact ih
    | store stored =>
      have removals : Change.remove stored.key ∈ changes ++ [.store node] ↔
          Change.remove stored.key ∈ changes := by simp
      simp only [List.cons_append, arrivals, removals, ih]
      by_cases removed : Change.remove stored.key ∈ changes
      · simp only [if_pos removed]
      · simp only [if_neg removed]
        by_cases known : node.key ∈ arrivals changes
        · rw [if_pos known, if_pos]
          by_cases same : node.key = stored.key <;> simp [same, known]
        · by_cases same : node.key = stored.key
          · rw [if_neg known]
            simp [same]
          · simp [same, known]

theorem arrivals_append_remove (changes : History) (key : NodeKey) :
    arrivals (changes ++ [.remove key]) = (arrivals changes).filter (· ≠ key) := by
  induction changes with
  | nil => rfl
  | cons change changes ih =>
    cases change with
    | remove other => exact ih
    | store stored =>
      rw [List.cons_append, arrivals, arrivals, ih]
      by_cases same : stored.key = key
      · subst same
        rw [if_pos (by simp)]
        split <;> simp
      · have removals : Change.remove stored.key ∈ changes ++ [.remove key] ↔
            Change.remove stored.key ∈ changes := by simp [same]
        simp only [removals]
        split
        · rfl
        · simp [same, Bool.and_comm]

/-- The keys that came in are those of the live nodes. -/
theorem mem_arrivals {changes : History} {key : NodeKey} :
    key ∈ arrivals changes ↔ ∃ node ∈ liveNodes changes, node.key = key := by
  induction changes using List.reverseRecOn with
  | nil => simp [arrivals, liveNodes]
  | append_singleton changes change ih =>
    rw [liveNodes_append]
    cases change with
    | remove other =>
      rw [arrivals_append_remove]
      simp only [List.mem_filter, ih, liveNodes, List.append_nil, decide_eq_true_eq]
      constructor
      · intro given
        obtain ⟨⟨node, live, rfl⟩, different⟩ := given
        exact ⟨node, ⟨live, different⟩, rfl⟩
      · intro given
        obtain ⟨node, ⟨live, different⟩, rfl⟩ := given
        exact ⟨⟨node, live, rfl⟩, different⟩
    | store stored =>
      rw [arrivals_append_store]
      by_cases same : stored.key = key
      · have known : key ∈ if stored.key ∈ arrivals changes then arrivals changes
            else arrivals changes ++ [stored.key] := by
          split
          · next known => exact same ▸ known
          · simp [same]
        simp only [known, true_iff]
        exact ⟨stored, by simp [liveNodes], same⟩
      · have unchanged : (key ∈ if stored.key ∈ arrivals changes then arrivals changes
            else arrivals changes ++ [stored.key]) ↔ key ∈ arrivals changes := by
          split
          · rfl
          · simp [Ne.symm same]
        rw [unchanged, ih]
        simp only [liveNodes, List.mem_append, List.mem_filter, decide_eq_true_eq]
        constructor
        · intro given
          obtain ⟨node, live, rfl⟩ := given
          exact ⟨node, .inl ⟨live, Ne.symm same⟩, rfl⟩
        · intro given
          rcases given with ⟨node, ⟨live, _⟩ | added, rfl⟩
          · exact ⟨node, live, rfl⟩
          · simp at added
            exact absurd (added ▸ rfl) same

theorem nodup_arrivals (changes : History) : (arrivals changes).Nodup := by
  induction changes with
  | nil => exact .nil
  | cons change changes ih =>
    cases change with
    | remove key => exact ih
    | store node =>
      unfold arrivals
      split
      · exact ih
      · exact List.nodup_cons.mpr ⟨by simp, ih.filter _⟩

end History

end NodeQuery
