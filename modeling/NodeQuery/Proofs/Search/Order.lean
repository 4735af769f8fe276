import NodeQuery.Proofs.Search.Evaluation
import NodeQuery.Search.Order

/-! The order of what a search finds. Nodes are ordered by their least terms; where these do not
decide, in either direction, the node that was stored first comes first. -/

namespace NodeQuery.Search

theorem least?_eq_none_iff {terms : List String} : least? terms = none ↔ terms = [] := by
  cases terms with
  | nil => simp [least?]
  | cons term terms =>
    unfold least?
    split
    · simp
    · split <;> simp

theorem isLeast_of_least? {terms : List String} {term : String} (found : least? terms = some term) :
    IsLeast {other | other ∈ terms} term := by
  induction terms generalizing term with
  | nil => cases found
  | cons first rest ih =>
    unfold least? at found
    split at found
    · next none =>
      cases found
      rw [least?_eq_none_iff] at none
      subst none
      exact ⟨List.mem_cons_self, fun other member => (List.mem_singleton.mp member).ge⟩
    · next other known =>
      obtain ⟨listed, below⟩ := ih known
      split at found
      · next less =>
        cases found
        refine ⟨List.mem_cons_self, fun later member => ?_⟩
        rw [Text.isLE_compare] at less
        rcases List.mem_cons.mp member with rfl | member
        · exact le_refl _
        · exact less.trans (below member)
      · next more =>
        cases found
        refine ⟨List.mem_cons_of_mem _ listed, fun later member => ?_⟩
        rw [Text.isLE_compare, not_le] at more
        rcases List.mem_cons.mp member with rfl | member
        · exact more.le
        · exact below member

/-- The sort key is the least term in the field. -/
theorem sortKey?_eq_some_iff {document : Document} {field term : String} :
    sortKey? document field = some term ↔ IsLeast {other | (field, other) ∈ document} term := by
  have listed : {other | other ∈ (document.filter (·.1 = field)).map (·.2)} =
      {other | (field, other) ∈ document} := by
    ext other
    simp only [Set.mem_ofPred_eq, List.mem_map, List.mem_filter, decide_eq_true_eq, Prod.exists]
    constructor
    · intro given
      obtain ⟨_, _, ⟨member, rfl⟩, rfl⟩ := given
      exact member
    · exact fun member => ⟨field, other, ⟨member, rfl⟩, rfl⟩
  unfold sortKey?
  rw [← listed]
  constructor
  · exact isLeast_of_least?
  · intro least
    cases found : least? ((document.filter (·.1 = field)).map (·.2)) with
    | none =>
      rw [least?_eq_none_iff] at found
      rw [found] at least
      cases least.1
    | some other => rw [(isLeast_of_least? found).unique least]

/-- A node comes before another by a field if it has a term there and the other has none or a later
one; the least terms are compared. -/
def SortField.Before (sort : SortField) (earlier later : Node) : Prop :=
  ∃ first, IsLeast {term | (sort.field, term) ∈ document earlier.key earlier} first ∧
    ∀ second, IsLeast {term | (sort.field, term) ∈ document later.key later} second →
      if sort.descending then second < first else first < second

/-- A node stands before another by the order asked for, or else by age. -/
def Precedes (stored : List Node) (sort : Option SortField) (earlier later : Node) : Prop :=
  match sort with
  | none => [earlier, later].Sublist stored
  | some sort => sort.Before earlier later ∨
      (¬sort.Before later earlier ∧ [earlier, later].Sublist stored)

theorem before_iff_compareKeys {sort : SortField} {earlier later : Node} :
    sort.Before earlier later ↔
      compareKeys sort.descending (sortKey? (document earlier.key earlier) sort.field)
        (sortKey? (document later.key later) sort.field) = .lt := by
  simp only [SortField.Before, ← sortKey?_eq_some_iff]
  cases sortKey? (document earlier.key earlier) sort.field with
  | none => cases sortKey? (document later.key later) sort.field <;> simp [compareKeys]
  | some first =>
    cases sortKey? (document later.key later) sort.field with
    | none => simp [compareKeys]
    | some second =>
      cases down : sort.descending <;> simp [compareKeys, compare_lt_iff_lt]

instance (descending : Bool) : Std.OrientedCmp (compareKeys descending) where
  eq_swap {left right} := by
    cases left with
    | none => cases right <;> rfl
    | some left =>
      cases right with
      | none => rfl
      | some right => cases descending <;> exact @Std.OrientedCmp.eq_swap _ compare _ _ _

instance (descending : Bool) : Std.TransCmp (compareKeys descending) where
  isLE_trans {first second third} earlier later := by
    cases third with
    | none => cases first <;> rfl
    | some third =>
      cases second with
      | none => cases later
      | some second =>
        cases first with
        | none => cases earlier
        | some first =>
          cases descending with
          | false => exact @Std.TransCmp.isLE_trans _ compare _ _ _ _ earlier later
          | true => exact @Std.TransCmp.isLE_trans _ compare _ _ _ _ later earlier

namespace Index

variable {index : Index} {version : Nat → Node}

theorem perm_sorted (index : Index) (sort : Option SortField) (numbers : List Nat) :
    (index.sorted sort numbers).Perm numbers := by
  cases sort with
  | none => exact .refl numbers
  | some sort => exact List.mergeSort_perm _ _

/-- An order changes nothing but the order of what is found. -/
theorem search_sortedBy (index : Index) (query : Query) {options : Options}
    (unlimited : options.limit = none) (field : String) (descending : Bool) :
    (index.search query (options.sortedBy field descending)).Perm (index.search query options) := by
  simp only [search, Options.sortedBy, unlimited, limited]
  exact ((index.perm_sorted _ _).trans (index.perm_sorted _ _).symm).filterMap _

/-- A limit keeps the beginning of what is found. -/
theorem search_limitedTo (index : Index) (query : Query) (options : Options)
    (unlimited : options.limit = none) (limit : Nat) :
    index.search query (options.limitedTo limit) <+: index.search query options := by
  simp only [search, Options.limitedTo, unlimited, limited]
  exact (List.take_prefix limit _).filterMap _

instance (index : Index) (sort : SortField) : Std.TransCmp (index.order sort) :=
  have : Std.TransCmp fun left right => compareKeys sort.descending
      (sortKey? (index.documentAt left) sort.field)
      (sortKey? (index.documentAt right) sort.field) :=
    { eq_swap := @fun _ _ => @Std.OrientedCmp.eq_swap _ (compareKeys sort.descending) _ _ _
      isLE_trans := @fun _ _ _ =>
        @Std.TransCmp.isLE_trans _ (compareKeys sort.descending) _ _ _ _ }
  inferInstanceAs (Std.TransCmp (compareLex _ compare))

/-- Numbers tell documents apart that their terms do not. -/
instance (index : Index) (sort : SortField) : Std.LawfulEqCmp (index.order sort) where
  eq_of_compare {left right} same := by
    unfold order at same
    rw [Ordering.then_eq_eq] at same
    exact compare_eq_iff_eq.mp same.2

theorem pairwise_sorted (index : Index) (sort : SortField) (numbers : List Nat) :
    (index.sorted (some sort) numbers).Pairwise fun left right =>
      (index.order sort left right).isLE = true := by
  refine List.pairwise_mergeSort ?_ ?_ numbers
  · exact fun _ _ _ earlier later => Std.TransCmp.isLE_trans earlier later
  · intro left right
    rw [← @Std.OrientedCmp.isGE_eq_isLE _ (index.order sort) _ left]
    cases index.order sort left right <;> rfl

/-- Live numbers stand in the order in which their nodes were stored. -/
theorem pair_sublist_numbers {left right : Nat} (leftLive : left ∈ index.live)
    (rightLive : right ∈ index.live) (less : left < right) :
    [left, right].Sublist index.live.numbers := by
  have pair : [left, right].Pairwise (· < ·) := by simpa using less
  refine List.sublist_of_subperm_of_pairwise ?_ pair index.live.ascends
  apply List.subperm_of_subset (pair.imp Nat.ne_of_lt)
  intro number member
  rcases List.mem_cons.mp member with rfl | member
  · exact leftLive
  · rwa [List.mem_singleton.mp member]

/-- Numbers in the order of a search stand for nodes in the order asked for. -/
theorem pairwise_precedes (represents : Represents index version) (sort : Option SortField)
    {numbers : List Nat} (ascends : numbers.Pairwise (· < ·))
    (live : ∀ number ∈ numbers, number ∈ index.live) :
    ((index.sorted sort numbers).map version).Pairwise
      (Precedes (index.live.numbers.map version) sort) := by
  have aged {left right : Nat} (leftLive : left ∈ index.live) (rightLive : right ∈ index.live)
      (less : left < right) :
      [version left, version right].Sublist (index.live.numbers.map version) :=
    (pair_sublist_numbers leftLive rightLive less).map version
  rw [List.pairwise_map]
  cases sort with
  | none =>
    exact ascends.imp_of_mem fun left right less => aged (live _ left) (live _ right) less
  | some sort =>
    have members (number : Nat) := (index.perm_sorted (some sort) numbers).mem_iff (a := number)
    have distinct : (index.sorted (some sort) numbers).Nodup :=
      (index.perm_sorted (some sort) numbers).nodup_iff.mpr (ascends.imp Nat.ne_of_lt)
    apply ((index.pairwise_sorted sort numbers).and distinct).imp_of_mem
    intro left right leftMember rightMember ⟨ordered, different⟩
    have leftLive := live left ((members left).mp leftMember)
    have rightLive := live right ((members right).mp rightMember)
    unfold order at ordered
    rw [represents.documentAt_eq leftLive, represents.documentAt_eq rightLive] at ordered
    simp only [Precedes, before_iff_compareKeys]
    cases compared : compareKeys sort.descending
        (sortKey? (document (version left).key (version left)) sort.field)
        (sortKey? (document (version right).key (version right)) sort.field) with
    | lt => exact .inl rfl
    | gt =>
      rw [compared] at ordered
      cases ordered
    | eq =>
      rw [compared] at ordered
      have less : left < right := lt_of_le_of_ne (Text.isLE_compare _ _ |>.mp ordered) different
      rw [Std.OrientedCmp.eq_symm compared]
      exact .inr ⟨by decide, aged leftLive rightLive less⟩

/-- The numbers that a query finds are those of the live nodes of which it is true. -/
theorem hits_eq (represents : Represents index version) {query : Query} (chosen : Node → Bool)
    (agrees : ∀ number ∈ index.live,
      query.Matches (index.documentAt number) ↔ chosen (version number) = true) :
    index.hits query = index.live.filter (chosen ∘ version) := by
  refine DocumentSet.ext fun number => ?_
  rw [mem_hits represents, DocumentSet.mem_filter]
  exact and_congr_right fun live => agrees number live

theorem keys_of_live (represents : Represents index version) {numbers : List Nat}
    (live : ∀ number ∈ numbers, number ∈ index.live) :
    numbers.filterMap (index.keys[·]?) = (numbers.map version).map Node.key := by
  rw [List.map_map, ← List.filterMap_eq_map]
  exact List.filterMap_congr fun number member => (represents.stored number (live number member)).1

/-- The live nodes of which a query is true have one order, and a search yields its beginning up to
the limit, whatever the limit is. -/
theorem search_ranked (represents : Represents index version) {query : Query}
    (chosen : Node → Bool)
    (agrees : ∀ number ∈ index.live,
      query.Matches (index.documentAt number) ↔ chosen (version number) = true)
    (sort : Option SortField) :
    ∃ ordered : List Node,
      (∀ limit : Option Nat, index.search query ⟨sort, limit⟩ =
        (limit.elim ordered ordered.take).map Node.key) ∧
      ordered.Perm ((index.live.numbers.map version).filter chosen) ∧
      ordered.Pairwise (Precedes (index.live.numbers.map version) sort) := by
  have live : ∀ number ∈ (index.hits query).numbers, number ∈ index.live :=
    fun number member => ((mem_hits represents query number).mp member).1
  refine ⟨(index.sorted sort (index.hits query).numbers).map version, fun limit => ?_, ?_,
    pairwise_precedes represents sort (index.hits query).ascends live⟩
  · have sortedLive : ∀ number ∈ index.sorted sort (index.hits query).numbers,
        number ∈ index.live := fun number member =>
      live number ((index.perm_sorted _ _).mem_iff.mp member)
    unfold search
    cases limit with
    | none => exact keys_of_live represents sortedLive
    | some limit =>
      unfold limited
      rw [keys_of_live represents fun number member =>
        sortedLive number (List.mem_of_mem_take member), List.map_take]
      rfl
  · apply ((index.perm_sorted _ _).map version).trans
    rw [hits_eq represents chosen agrees, DocumentSet.filter, List.filter_map]

/-- A search yields the live nodes of which its query is true, in order, up to its limit. -/
theorem search_eq (represents : Represents index version) {query : Query} (chosen : Node → Bool)
    (agrees : ∀ number ∈ index.live,
      query.Matches (index.documentAt number) ↔ chosen (version number) = true)
    (options : Options) :
    ∃ ordered : List Node,
      index.search query options =
        (options.limit.elim ordered ordered.take).map Node.key ∧
      ordered.Perm ((index.live.numbers.map version).filter chosen) ∧
      ordered.Pairwise (Precedes (index.live.numbers.map version) options.sort) := by
  obtain ⟨ordered, found, listed, ranked⟩ :=
    search_ranked represents chosen agrees options.sort
  exact ⟨ordered, found options.limit, listed, ranked⟩

/-- Without a sort and a limit, a search after a history yields the live nodes of which the query is
true, in the order in which they were stored last. -/
theorem search_unrestricted (changes : History) (query : Query) :
    (after changes).search query .unrestricted =
      ((changes.within documentLimit).liveNodes.filter fun node =>
        query.Matches (document node.key node)).map Node.key := by
  obtain ⟨version, represents, listed, -⟩ := after_represents changes
  have found : (after changes).hits query =
      (after changes).live.filter
        ((fun node => decide (query.Matches (document node.key node))) ∘ version) := by
    refine hits_eq represents _ fun number live => ?_
    rw [represents.documentAt_eq live, decide_eq_true_iff]
  have live : ∀ number ∈ ((after changes).hits query).numbers, number ∈ (after changes).live :=
    fun number member => ((mem_hits represents query number).mp member).1
  calc (after changes).search query .unrestricted
      = ((after changes).hits query).numbers.filterMap ((after changes).keys[·]?) := rfl
    _ = (((after changes).hits query).numbers.map version).map Node.key :=
        keys_of_live represents live
    _ = _ := by rw [found, DocumentSet.filter, ← List.filter_map, listed]

end Index

end NodeQuery.Search
