import NodeQuery.Proofs.Search.Order

/-! Sorted searches after a history. The comparison of documents is a strict total order, whatever
mix of missing, equal and repeated terms they have, so there is one way to rank what a query finds.
A limit cuts the ranking and has no influence on it. -/

namespace NodeQuery.Search.Index

/-- One document stands before another, and there are no ties. -/
instance (index : Index) (sort : SortField) :
    IsStrictTotalOrder Nat fun left right => index.order sort left right = .lt where
  trichotomous left right notBefore notAfter := by
    cases compared : index.order sort left right with
    | lt => exact absurd compared notBefore
    | eq => exact Std.LawfulEqCmp.eq_of_compare compared
    | gt => exact absurd (Std.OrientedCmp.gt_iff_lt.mp compared) notAfter
  irrefl number before := by
    have same : index.order sort number number = .eq := Std.ReflCmp.compare_self
    rw [same] at before
    cases before
  trans _ _ _ earlier later := Std.TransCmp.lt_trans earlier later

/-- Of two nodes that were stored at different times, one is older. -/
theorem not_sublist_swap {stored : List Node} (nodup : stored.Nodup) {earlier later : Node}
    (aged : [earlier, later].Sublist stored) : ¬[later, earlier].Sublist stored := by
  have placed : stored.Pairwise fun first second => stored.idxOf first < stored.idxOf second := by
    rw [List.pairwise_iff_getElem]
    intro first second firstBound secondBound less
    rwa [nodup.idxOf_getElem, nodup.idxOf_getElem]
  rw [List.pairwise_iff_forall_sublist] at placed
  intro reversed
  exact absurd (placed aged) (placed reversed).not_gt

theorem not_precedes_swap {stored : List Node} (nodup : stored.Nodup) {sort : Option SortField}
    {earlier later : Node} (precedes : Precedes stored sort earlier later) :
    ¬Precedes stored sort later earlier := by
  cases sort with
  | none => exact not_sublist_swap nodup precedes
  | some sort =>
    intro reversed
    rcases precedes with before | ⟨notAfter, aged⟩
    · rcases reversed with after | ⟨notBefore, -⟩
      · rw [before_iff_compareKeys] at before after
        rw [Std.OrientedCmp.gt_of_lt after] at before
        cases before
      · exact notBefore before
    · rcases reversed with after | ⟨-, agedBack⟩
      · exact notAfter after
      · exact not_sublist_swap nodup aged agedBack

/-- Nodes can be put in order in one way only. -/
theorem eq_of_pairwise_precedes {stored : List Node} (nodup : stored.Nodup)
    {sort : Option SortField} {left right : List Node} (perm : left.Perm right)
    (leftRanked : left.Pairwise (Precedes stored sort))
    (rightRanked : right.Pairwise (Precedes stored sort)) : left = right :=
  perm.eq_of_pairwise
    (fun _ _ _ _ precedes reversed => absurd reversed (not_precedes_swap nodup precedes))
    leftRanked rightRanked

/-- The live nodes of which a query is true after a history, by the age of their versions. -/
def found (changes : History) (query : Query) : List Node :=
  (changes.within documentLimit).liveNodes.filter fun node =>
    query.Matches (document node.key node)

theorem exists_ranking (changes : History) (query : Query) (sort : Option SortField) :
    ∃ ordered : List Node, ordered.Perm (found changes query) ∧
      ordered.Pairwise (Precedes (changes.within documentLimit).liveNodes sort) ∧
      ∀ limit : Option Nat, (after changes).search query ⟨sort, limit⟩ =
        (limit.elim ordered ordered.take).map Node.key := by
  obtain ⟨version, represents, listed, -⟩ := after_represents changes
  have agrees : ∀ number ∈ (after changes).live,
      query.Matches ((after changes).documentAt number) ↔
        decide (query.Matches (document (version number).key (version number))) = true := by
    intro number live
    rw [represents.documentAt_eq live, decide_eq_true_iff]
  obtain ⟨ordered, cut, matching, ranked⟩ := search_ranked represents
    (fun node => decide (query.Matches (document node.key node))) agrees sort
  rw [listed] at matching ranked
  exact ⟨ordered, matching, ranked, cut⟩

/-- The documents that a query finds are strictly and totally ordered by their least terms in the
field, with those without a term at the end and ties broken by age. So there is one ranking of the
nodes. A search yields the beginning of it up to the limit, and with a limit no other nodes than
those that it yields first without one. -/
theorem search_sorted (changes : History) (query : Query) (sort : SortField) :
    IsStrictTotalOrder {number // number ∈ (after changes).hits query}
      (Subrel (fun left right => (after changes).order sort left right = .lt) _) ∧
    (∃ ordered : List Node,
      (∀ ranking : List Node, ranking = ordered ↔ ranking.Perm (found changes query) ∧
        ranking.Pairwise (Precedes (changes.within documentLimit).liveNodes (some sort))) ∧
      ∀ limit : Option Nat, (after changes).search query ⟨some sort, limit⟩ =
        (limit.elim ordered ordered.take).map Node.key) ∧
    ∀ limit : Nat, (after changes).search query ⟨some sort, some limit⟩ <+:
      (after changes).search query ⟨some sort, none⟩ := by
  obtain ⟨ordered, matching, ranked, cut⟩ := exists_ranking changes query (some sort)
  have nodup : (changes.within documentLimit).liveNodes.Nodup :=
    (History.nodup_liveNodes _).of_map
  refine ⟨(Subrel.relEmbedding _ _).isStrictTotalOrder, ⟨ordered, fun ranking => ?_, cut⟩,
    (after changes).search_limitedTo query ⟨some sort, none⟩ rfl⟩
  constructor
  · rintro rfl
    exact ⟨matching, ranked⟩
  · intro ⟨listed, rankedToo⟩
    exact eq_of_pairwise_precedes nodup (listed.trans matching.symm) rankedToo ranked

end NodeQuery.Search.Index
