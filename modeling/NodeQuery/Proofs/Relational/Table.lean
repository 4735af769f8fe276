import NodeQuery.Proofs.History
import NodeQuery.Relational.Table

/-! The node table after a history. Its keys are the live keys in the order in which they came in,
and under each key stands the row of the live version. -/

namespace NodeQuery.Relational.Table

def apply (table : Table) : Change → Table
  | .store node => table.insert node
  | .remove key => table.remove key

/-- The table that a history leaves. -/
def after (changes : History) : Table := changes.foldl apply empty

def keys (table : Table) : List NodeKey := table.entries.map (·.1)

/-- The keys of the table are those that came in, and each row is that of a live node. -/
structure Represents (table : Table) (changes : History) : Prop where
  keys_eq : table.keys = changes.arrivals
  live : ∀ entry ∈ table.entries, ∃ node ∈ changes.liveNodes, entry = (node.key, row node.key node)

theorem keys_put (key : NodeKey) (row : Row) (entries : List Entry) :
    (put key row entries).map (·.1) =
      if key ∈ entries.map (·.1) then entries.map (·.1) else entries.map (·.1) ++ [key] := by
  induction entries with
  | nil => rfl
  | cons entry entries ih =>
    unfold put
    by_cases same : entry.1 = key
    · simp [same]
    · rw [if_neg same, List.map_cons, ih, List.map_cons]
      simp only [List.mem_cons, Ne.symm same, false_or, List.cons_append]
      split <;> rfl

/-- No other entry of a key is left once a row is put there. -/
theorem mem_put {key : NodeKey} {row : Row} {entries : List Entry} {entry : Entry}
    (distinct : (entries.map (·.1)).Nodup) (member : entry ∈ put key row entries) :
    entry = (key, row) ∨ entry ∈ entries ∧ entry.1 ≠ key := by
  induction entries with
  | nil => exact .inl (List.mem_singleton.mp member)
  | cons first entries ih =>
    obtain ⟨absent, distinct⟩ := List.nodup_cons.mp distinct
    unfold put at member
    split at member
    · next same =>
      rcases List.mem_cons.mp member with rfl | later
      · exact .inl rfl
      · refine .inr ⟨List.mem_cons_of_mem _ later, ?_⟩
        intro same
        subst same
        exact absent (List.mem_map.mpr ⟨entry, later, same.symm⟩)
    · next different =>
      rcases List.mem_cons.mp member with rfl | later
      · exact .inr ⟨List.mem_cons_self, different⟩
      · exact (ih distinct later).imp_right (And.imp_left (List.mem_cons_of_mem _))

variable {table : Table} {changes : History}

theorem represents_insert (represents : table.Represents changes) (node : Node) :
    (table.insert node).Represents (changes ++ [.store node]) where
  keys_eq := by
    unfold keys
    rw [insert, keys_put, History.arrivals_append_store, ← represents.keys_eq]
    rfl
  live entry member := by
    have distinct := History.nodup_arrivals changes
    rw [← represents.keys_eq] at distinct
    rw [History.liveNodes_append]
    rcases mem_put distinct member with rfl | ⟨listed, different⟩
    · exact ⟨node, by simp [History.liveNodes], rfl⟩
    · obtain ⟨other, live, rfl⟩ := represents.live entry listed
      exact ⟨other, by simp [live, Change.key, show other.key ≠ node.key from different], rfl⟩

theorem represents_remove (represents : table.Represents changes) (key : NodeKey) :
    (table.remove key).Represents (changes ++ [.remove key]) where
  keys_eq := by
    rw [History.arrivals_append_remove, ← represents.keys_eq, keys, keys, remove, List.filter_map]
    simp [Function.comp_def, bne, Bool.beq_eq_decide_eq]
  live entry member := by
    obtain ⟨listed, different⟩ := List.mem_filter.mp member
    obtain ⟨node, live, rfl⟩ := represents.live entry listed
    rw [History.liveNodes_append]
    exact ⟨node, by simp [live, Change.key, show node.key ≠ key from bne_iff_ne.mp different], rfl⟩

/-- The table of a history represents it. -/
theorem after_represents (changes : History) : (after changes).Represents changes := by
  induction changes using List.reverseRecOn with
  | nil => exact ⟨rfl, fun _ member => absurd member List.not_mem_nil⟩
  | append_singleton changes change ih =>
    have next : after (changes ++ [change]) = (after changes).apply change := List.foldl_concat ..
    rw [next]
    cases change with
    | store node => exact represents_insert ih node
    | remove key => exact represents_remove ih key

/-- A condition that is decided on every row selects the keys of the rows on which it is true. -/
theorem matching_of_decided {condition : Condition} {truth : NodeKey → Bool} {entries : List Entry}
    (decided : ∀ entry ∈ entries, condition.evaluate entry.2 = .ok (some (truth entry.1))) :
    matching condition entries = .ok ((entries.map (·.1)).filter truth) := by
  induction entries with
  | nil => rfl
  | cons entry entries ih =>
    obtain ⟨first, others⟩ := List.forall_mem_cons.mp decided
    simp only [matching, first, ih others, bind, Except.bind, List.map_cons, List.filter_cons,
      Option.some.injEq]
    rfl

end NodeQuery.Relational.Table
