import NodeQuery.Proofs.Search.Ranking

/-! Nodes that an index has no number left for. The earlier version of such a node is retired before
the numbers are counted, so a refused node has been removed: searches yield what they did, without
it. Only if no version of it was live is the index the one that it was. -/

namespace NodeQuery.Search

/-- Nodes keep their order when others go. -/
theorem Precedes.filter {stored : List Node} {sort : Option SortField} {keep : Node → Bool}
    {earlier later : Node} (precedes : Precedes stored sort earlier later)
    (keepsEarlier : keep earlier = true) (keepsLater : keep later = true) :
    Precedes (stored.filter keep) sort earlier later := by
  have aged (pair : [earlier, later].Sublist stored) :
      [earlier, later].Sublist (stored.filter keep) := by
    have kept := pair.filter keep
    rwa [List.filter_cons_of_pos keepsEarlier, List.filter_cons_of_pos keepsLater,
      List.filter_nil] at kept
  cases sort with
  | none => exact aged precedes
  | some sort => exact precedes.imp_right (And.imp_right aged)

namespace Index

/-- Indexes that cannot be told apart by their size or by any search. -/
structure Alike (left right : Index) : Prop where
  size : left.size = right.size
  isEmpty : left.isEmpty = right.isEmpty
  search : ∀ query options, left.search query options = right.search query options

/-- A node is refused just if all numbers are in use. -/
theorem insert_eq_some_iff {index : Index} {node : Node} {full : IndexFull} :
    (index.insert node).2 = some full ↔
      documentLimit ≤ index.keys.size ∧ full = ⟨index.keys.size⟩ := by
  simp only [insert, size_retire]
  split
  · next room => simp [Nat.not_le_of_lt room]
  · next noRoom => simp [Nat.le_of_not_lt noRoom, eq_comm]

theorem retire_of_not_live {index : Index} {key : NodeKey} (free : index.liveNumber? key = none) :
    (index.retire key).1 = index := by
  simp only [retire, free]

/-- A key is live just if a live version has it. -/
theorem liveNumber?_eq_none_iff {index : Index} {version : Nat → Node}
    (represents : Represents index version) (key : NodeKey) :
    index.liveNumber? key = none ↔ ∀ node ∈ index.live.numbers.map version, node.key ≠ key := by
  rw [List.forall_mem_map, Option.eq_none_iff_forall_ne_some]
  constructor
  · intro free number live named
    exact free number ((represents.numbered key number).mpr ⟨live, named⟩)
  · intro free number known
    obtain ⟨live, named⟩ := (represents.numbered key number).mp known
    exact free number live named

section

variable (changes : History)

theorem size_after : (after changes).size = (changes.within documentLimit).liveNodes.length := by
  obtain ⟨version, -, listed, -⟩ := after_represents changes
  rw [← listed, List.length_map]
  rfl

/-- A search for everything yields all live keys. -/
theorem mem_search_everything (key : NodeKey) :
    key ∈ (after changes).search .everything .unrestricted ↔
      ∃ node ∈ (changes.within documentLimit).liveNodes, node.key = key := by
  obtain ⟨ordered, listed, -, cut⟩ := exists_ranking changes .everything none
  have all : found changes .everything = (changes.within documentLimit).liveNodes :=
    List.filter_eq_self.mpr fun node _ => decide_eq_true (by simp [Query.Matches])
  have keys : (after changes).search .everything .unrestricted = ordered.map Node.key := cut none
  rw [all] at listed
  rw [keys, (listed.map Node.key).mem_iff, List.mem_map]

variable (node : Node)

/-- Without room, storing a node is a removal. -/
theorem liveNodes_refused (full : documentLimit ≤ changes.stores) :
    (History.within documentLimit (changes ++ [.store node])).liveNodes =
      (changes.within documentLimit).liveNodes.filter (·.key ≠ node.key) := by
  rw [History.within_append, Nat.sub_eq_zero_of_le full, History.within, History.within,
    History.liveNodes_append]
  exact List.append_nil _

theorem after_append_store :
    after (changes ++ [.store node]) = ((after changes).insert node).1 :=
  after_concat changes (.store node)

/-- Without room, a search yields what it did before, less the node that was to be stored. -/
theorem search_refused (full : documentLimit ≤ changes.stores) (query : Query) (options : Options) :
    (after (changes ++ [.store node])).search query options =
      let others := ((after changes).search query ⟨options.sort, none⟩).filter (· ≠ node.key)
      options.limit.elim others others.take := by
  obtain ⟨sort, limit⟩ := options
  obtain ⟨before, listed, ranked, cut⟩ := exists_ranking changes query sort
  obtain ⟨left, listedLeft, rankedLeft, cutLeft⟩ :=
    exists_ranking (changes ++ [.store node]) query sort
  unfold found at listed listedLeft
  rw [liveNodes_refused changes node full] at listedLeft rankedLeft
  have perm : left.Perm (before.filter (·.key ≠ node.key)) := by
    refine listedLeft.trans ?_
    rw [List.filter_comm]
    exact (listed.filter _).symm
  have kept : (before.filter (·.key ≠ node.key)).Pairwise
      (Precedes ((changes.within documentLimit).liveNodes.filter (·.key ≠ node.key)) sort) := by
    refine (ranked.filter _).imp_of_mem fun first last precedes => ?_
    exact precedes.filter (List.mem_filter.mp first).2 (List.mem_filter.mp last).2
  have nodup : ((changes.within documentLimit).liveNodes.filter (·.key ≠ node.key)).Nodup :=
    (History.nodup_liveNodes _).of_map.filter _
  have same := eq_of_pairwise_precedes nodup perm rankedLeft kept
  have keys : (before.map Node.key).filter (· ≠ node.key) = left.map Node.key := by
    rw [same, List.filter_map]
    rfl
  rw [cutLeft limit, cut none, Option.elim_none, keys]
  cases limit <;> simp

end

/-- One node stored so often that no number is left. -/
theorem liveNodes_replicate (node : Node) (count : Nat) :
    History.liveNodes (List.replicate (count + 1) (.store node)) = [node] := by
  induction count with
  | zero => rfl
  | succ count ih =>
    have again : ∃ change ∈ List.replicate (count + 1) (Change.store node),
        change.key = node.key := ⟨.store node, by simp, rfl⟩
    rw [List.replicate_succ, History.liveNodes, if_pos again, ih]

theorem stores_replicate (node : Node) (count : Nat) :
    History.stores (List.replicate count (.store node)) = count := by
  rw [History.stores, List.countP_replicate, if_pos rfl]

theorem refused_replicate (node : Node) :
    ((after (List.replicate documentLimit (.store node))).insert node).2 =
      some ⟨documentLimit⟩ := by
  obtain ⟨_, _, _, sized⟩ := after_represents (List.replicate documentLimit (.store node))
  rw [History.stores_within, stores_replicate, Nat.min_self] at sized
  exact insert_eq_some_iff.mpr ⟨sized.ge, by rw [sized]⟩

theorem liveNodes_within_replicate (node : Node) :
    (History.within documentLimit (List.replicate documentLimit (.store node))).liveNodes =
      [node] := by
  have some : documentLimit = (documentLimit - 1) + 1 := by decide
  rw [History.within_of_le (stores_replicate node documentLimit).le, some,
    liveNodes_replicate]

/-- A node that is refused has been removed: a search yields what it did without the node, however
it is sorted and limited. The index cannot be told from the one before just if no version of the
node was live. -/
theorem insert_refused (changes : History) (node : Node) {full : IndexFull}
    (refused : ((after changes).insert node).2 = some full) :
    let index := after changes
    let next := (index.insert node).1
    full = ⟨documentLimit⟩ ∧ next = (index.remove node.key).1 ∧
    (∀ query options, next.search query options =
      let others := (index.search query ⟨options.sort, none⟩).filter (· ≠ node.key)
      options.limit.elim others others.take) ∧
    (Alike next index ↔
      ∀ stored ∈ (changes.within documentLimit).liveNodes, stored.key ≠ node.key) := by
  intro index next
  obtain ⟨version, represents, listed, sized⟩ := after_represents changes
  obtain ⟨noRoom, rfl⟩ := insert_eq_some_iff.mp refused
  rw [History.stores_within] at sized
  have stores : documentLimit ≤ changes.stores := by omega
  have searched (query : Query) (options : Options) : next.search query options =
      let others := (index.search query ⟨options.sort, none⟩).filter (· ≠ node.key)
      options.limit.elim others others.take := by
    have last : after (changes ++ [.store node]) = next := after_append_store changes node
    rw [← last]
    exact search_refused changes node stores query options
  have removed : next = (index.remove node.key).1 := changed_store_full node noRoom
  refine ⟨?_, removed, searched, ?_, ?_⟩
  · rw [sized, Nat.min_eq_left stores]
  · intro alike stored live named
    have known : node.key ∈ index.search .everything .unrestricted :=
      (mem_search_everything changes node.key).mpr ⟨stored, live, named⟩
    rw [← alike.search, searched] at known
    exact of_decide_eq_true (List.mem_filter.mp known).2 rfl
  · intro free
    rw [← listed, ← liveNumber?_eq_none_iff represents] at free
    have same : next = index := removed.trans (retire_of_not_live free)
    rw [same]
    exact ⟨rfl, rfl, fun _ _ => rfl⟩

/-- A concept that was stored as often as there are numbers is gone when it is stored again. -/
theorem insert_refused_concept :
    let concept := Node.fresh (.ofNat 1) ⟨.ofNat 7, "Concept"⟩ default
    let index := after (List.replicate documentLimit (.store concept))
    (index.insert concept).2 = some ⟨documentLimit⟩ ∧
      (index.insert concept).1 = (index.remove concept.key).1 ∧
      ¬Alike (index.insert concept).1 index := by
  intro concept index
  have refused := refused_replicate concept
  obtain ⟨-, removed, -, alike⟩ := insert_refused _ concept refused
  refine ⟨refused, removed, fun same => ?_⟩
  rw [liveNodes_within_replicate, List.forall_mem_singleton] at alike
  exact alike.mp same rfl

/-- The failure takes the only node that there was. -/
theorem insert_forgets_concept :
    let concept := Node.fresh (.ofNat 1) ⟨.ofNat 7, "Concept"⟩ default
    let index := after (List.replicate documentLimit (.store concept))
    (index.insert concept).2 = some ⟨documentLimit⟩ ∧
      index.size = 1 ∧ (index.insert concept).1.size = 0 ∧
      concept.key ∈ index.search .everything .unrestricted ∧
      concept.key ∉ (index.insert concept).1.search .everything .unrestricted := by
  intro concept index
  have live := liveNodes_within_replicate concept
  have left : (History.within documentLimit
      (List.replicate documentLimit (.store concept) ++ [.store concept])).liveNodes = [] := by
    rw [liveNodes_refused _ _ (stores_replicate concept documentLimit).ge, live]
    simp
  refine ⟨refused_replicate concept, ?_, ?_, ?_, ?_⟩
  · rw [size_after, live]
    rfl
  · rw [← after_append_store, size_after, left]
    rfl
  · rw [mem_search_everything, live]
    exact ⟨concept, List.mem_singleton_self concept, rfl⟩
  · rw [← after_append_store, mem_search_everything, left]
    simp

end Index

end NodeQuery.Search
