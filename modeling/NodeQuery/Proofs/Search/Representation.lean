import NodeQuery.Proofs.History
import NodeQuery.Proofs.Search.Postings

/-! What an index holds after a history. Every live number stands for one version of a node: the
tables, the postings and the look-up by keys all tell of that version. Retiring and adding keep
this, so an index holds the live nodes of its history, in the order of their numbers. -/

namespace NodeQuery.Search.Index

/-- An index in which each live number stands for a version of a node, and no other number is of any
consequence. -/
structure Represents (index : Index) (version : Nat → Node) : Prop where
  parallel : index.keys.size = index.documents.size
  stored : ∀ number, number ∈ index.live → index.keys[number]? = some (version number).key ∧
    index.documents[number]? = some (document (version number).key (version number))
  numbered : ∀ key number,
    index.liveNumber? key = some number ↔ number ∈ index.live ∧ (version number).key = key
  retired : ∀ number, ¬number ∈ index.live → index.documentAt number = []
  posted : ∀ field term number,
    number ∈ posted index.fields field term ↔ (field, term) ∈ index.documentAt number
  occupied : Occupied index.fields

namespace Represents

variable {index : Index} {version : Nat → Node}

theorem documentAt_eq (represents : Represents index version) {number : Nat}
    (live : number ∈ index.live) :
    index.documentAt number = document (version number).key (version number) := by
  unfold documentAt
  rw [(represents.stored number live).2]
  rfl

theorem lt_size (represents : Represents index version) {number : Nat}
    (live : number ∈ index.live) : number < index.keys.size := by
  have found := (represents.stored number live).1
  by_contra beyond
  rw [Array.getElem?_eq_none (by omega)] at found
  cases found

theorem live_of_posted (represents : Represents index version) {field term : String} {number : Nat}
    (member : number ∈ Index.posted index.fields field term) : number ∈ index.live := by
  by_contra notLive
  rw [represents.posted, represents.retired number notLive] at member
  cases member

end Represents

theorem represents_empty (version : Nat → Node) : Represents empty version where
  parallel := rfl
  stored := fun number live => absurd live (DocumentSet.not_mem_empty number)
  numbered := fun key number => by simp [empty, liveNumber?]
  retired := fun number _ => by simp [empty, documentAt]
  posted := fun field term number => by simp [empty, Index.posted, documentAt]
  occupied := fun field postings found => by simp [empty] at found

theorem liveNumber?_retire {index : Index} {key : NodeKey} {number : Nat}
    (found : index.liveNumber? key = some number) (other : NodeKey) :
    (index.retire key).1.liveNumber? other =
      if other = key then none else index.liveNumber? other := by
  have listed : (index.retire key).1.liveByKey = index.liveByKey.filter (·.1 != key) := by
    simp only [retire, found]
  simp only [liveNumber?, listed, List.find?_filter]
  by_cases same : other = key
  · subst same
    rw [if_pos rfl, Option.map_eq_none_iff, List.find?_eq_none]
    intro entry _
    simp
  · rw [if_neg same]
    congr 2
    funext entry
    by_cases asked : entry.1 = other <;> simp [asked, same]

theorem documentAt_retire {index : Index} {key : NodeKey} {number : Nat}
    (found : index.liveNumber? key = some number) (other : Nat) :
    (index.retire key).1.documentAt other =
      if other = number then [] else index.documentAt other := by
  simp only [retire, found, documentAt, Array.getElem?_setIfInBounds]
  by_cases same : other = number
  · subst same
    rw [if_pos rfl, if_pos rfl]
    split <;> rfl
  · simp [same, Ne.symm same]

/-- Retiring takes the live number of the key out of all tables and leaves the others as they
are. -/
theorem represents_retire {index : Index} {version : Nat → Node}
    (represents : Represents index version) (key : NodeKey) :
    Represents (index.retire key).1 version := by
  cases found : index.liveNumber? key with
  | none => simpa only [retire, found] using represents
  | some number =>
    obtain ⟨live, named⟩ := (represents.numbered key number).mp found
    have liveRetired (other : Nat) :
        other ∈ (index.retire key).1.live ↔ other ∈ index.live ∧ other ≠ number := by
      simp [retire, found]
    constructor
    · simpa [retire, found] using represents.parallel
    · intro other liveOther
      rw [liveRetired] at liveOther
      have kept := represents.stored other liveOther.1
      simpa [retire, found, Array.getElem?_setIfInBounds, Ne.symm liveOther.2] using kept
    · intro other asked
      rw [liveNumber?_retire found, liveRetired]
      by_cases same : other = key
      · subst same
        simp only [if_true, reduceCtorEq, false_iff]
        intro given
        obtain ⟨⟨liveAsked, different⟩, sameKey⟩ := given
        have again := (represents.numbered other asked).mpr ⟨liveAsked, sameKey⟩
        rw [found] at again
        exact different (Option.some.inj again).symm
      · rw [if_neg same, represents.numbered]
        refine ⟨fun known => ⟨⟨known.1, ?_⟩, known.2⟩, fun known => ⟨known.1.1, known.2⟩⟩
        intro equal
        subst equal
        exact same (known.2.symm.trans named)
    · intro other notLive
      rw [documentAt_retire found]
      split
      · rfl
      · next different =>
        apply represents.retired other
        intro liveOther
        exact notLive ((liveRetired other).mpr ⟨liveOther, different⟩)
    · intro field term other
      have withdrawn : other ∈ Index.posted (index.retire key).1.fields field term ↔
          other ∈ Index.posted index.fields field term ∧
            ¬(other = number ∧ (field, term) ∈ index.documentAt number) := by
        simp only [retire, found]
        exact mem_posted_withdrawAll
      rw [withdrawn, documentAt_retire found, represents.posted]
      by_cases same : other = number
      · subst same
        simp
      · simp [same]
    · simp only [retire, found]
      exact occupied_withdrawAll _ represents.occupied number

theorem numbers_retire {index : Index} {version : Nat → Node}
    (represents : Represents index version) (key : NodeKey) :
    (index.retire key).1.live.numbers.map version =
      (index.live.numbers.map version).filter (·.key ≠ key) := by
  rw [List.filter_map]
  congr 1
  cases found : index.liveNumber? key with
  | none =>
    simp only [retire, found]
    refine (List.filter_eq_self.mpr ?_).symm
    intro number live
    have unnamed : (version number).key ≠ key := fun named => by
      rw [(represents.numbered key number).mpr ⟨live, named⟩] at found
      cases found
    simpa using unnamed
  | some number =>
    simp only [retire, found, DocumentSet.erase, DocumentSet.filter]
    refine List.filter_congr fun other live => ?_
    have named : (version other).key = key ↔ other = number := by
      constructor
      · intro same
        have again := (represents.numbered key other).mpr ⟨live, same⟩
        rw [found] at again
        exact (Option.some.inj again).symm
      · intro same
        subst same
        exact ((represents.numbered key other).mp found).2
    simp only [Function.comp_apply, ne_eq, named]
    by_cases same : other = number <;> simp [same]

theorem inserted_above {number : Nat} {numbers : List Nat}
    (above : ∀ other ∈ numbers, other < number) :
    DocumentSet.inserted number numbers = numbers ++ [number] := by
  induction numbers with
  | nil => rfl
  | cons first rest ih =>
    have less : first < number := above first List.mem_cons_self
    unfold DocumentSet.inserted
    rw [if_neg (by omega), if_neg (by omega),
      ih fun other member => above other (List.mem_cons_of_mem _ member)]
    rfl

/-- Adding gives the next number to a node whose key is not live. -/
theorem represents_add {index : Index} {version : Nat → Node}
    (represents : Represents index version) (node : Node)
    (free : index.liveNumber? node.key = none) :
    Represents (index.add node.key (document node.key node))
      (Function.update version index.keys.size node) := by
  have liveAdded (other : Nat) : other ∈ (index.add node.key (document node.key node)).live ↔
      other = index.keys.size ∨ other ∈ index.live := by simp [add]
  have older {other : Nat} (live : other ∈ index.live) : other ≠ index.keys.size :=
    Nat.ne_of_lt (represents.lt_size live)
  have documentAdded (other : Nat) :
      (index.add node.key (document node.key node)).documentAt other =
        if other = index.keys.size then document node.key node else index.documentAt other := by
    simp only [add, documentAt, Array.getElem?_push, ← represents.parallel]
    split <;> simp
  constructor
  · simpa [add] using represents.parallel
  · intro other live
    by_cases same : other = index.keys.size
    · subst same
      rw [Function.update_self]
      refine ⟨Array.getElem?_push_size, ?_⟩
      rw [represents.parallel]
      exact Array.getElem?_push_size
    · have kept := represents.stored other (((liveAdded other).mp live).resolve_left same)
      simpa [add, Array.getElem?_push, ← represents.parallel, same] using kept
  · intro key number
    have looked : (index.add node.key (document node.key node)).liveNumber? key =
        if node.key = key then some index.keys.size else index.liveNumber? key := by
      by_cases same : node.key = key <;> simp [add, liveNumber?, same]
    rw [looked, liveAdded]
    by_cases same : node.key = key
    · subst same
      rw [if_pos rfl, Option.some.injEq]
      constructor
      · intro same
        subst same
        exact ⟨.inl rfl, by simp⟩
      · intro given
        rcases given with ⟨rfl | live, named⟩
        · rfl
        · rw [Function.update_of_ne (older live)] at named
          rw [(represents.numbered node.key number).mpr ⟨live, named⟩] at free
          cases free
    · rw [if_neg same, represents.numbered]
      constructor
      · intro given
        obtain ⟨live, named⟩ := given
        exact ⟨.inr live, by rwa [Function.update_of_ne (older live)]⟩
      · intro given
        rcases given with ⟨rfl | live, named⟩
        · rw [Function.update_self] at named
          exact absurd named same
        · exact ⟨live, by rwa [Function.update_of_ne (older live)] at named⟩
  · intro other notLive
    rw [liveAdded, not_or] at notLive
    rw [documentAdded, if_neg notLive.1]
    exact represents.retired other notLive.2
  · intro field term other
    have extended :
        other ∈ Index.posted (index.add node.key (document node.key node)).fields field term ↔
        other ∈ Index.posted index.fields field term ∨
          (other = index.keys.size ∧ (field, term) ∈ document node.key node) := by
      simp only [add]
      exact mem_posted_postAll
    rw [extended, documentAdded, represents.posted]
    by_cases same : other = index.keys.size
    · subst same
      rw [represents.retired _ fun live => older live rfl]
      simp
    · simp [same]
  · exact occupied_postAll _ represents.occupied index.keys.size

theorem numbers_add {index : Index} {version : Nat → Node}
    (represents : Represents index version) (node : Node) :
    (index.add node.key (document node.key node)).live.numbers.map
        (Function.update version index.keys.size node) =
      index.live.numbers.map version ++ [node] := by
  have below : ∀ other ∈ index.live.numbers, other < index.keys.size :=
    fun _ live => represents.lt_size live
  simp only [add, DocumentSet.insert, inserted_above below, List.map_append, List.map_singleton,
    Function.update_self]
  congr 1
  apply List.map_congr_left
  intro other live
  exact Function.update_of_ne (Nat.ne_of_lt (below other live)) _ _

/-- The index after a change, whether or not there was a number left for a node. -/
def changed (index : Index) : Change → Index
  | .store node => (index.insert node).1
  | .remove key => (index.remove key).1

/-- The index after a history, whether or not all of its changes succeeded. -/
def after (changes : History) : Index := changes.foldl changed empty

theorem after_concat (changes : History) (change : Change) :
    after (changes ++ [change]) = (after changes).changed change := List.foldl_append

/-- The index after a change, unless there was no number left for a node. -/
def change? (index : Index) : Change → Option Index
  | .store node =>
    match index.insert node with
    | (index, none) => some index
    | (_, some _) => none
  | .remove key => some (index.remove key).1

/-- The index after a history, unless one of its changes failed. -/
def after? (changes : History) : Option Index := changes.foldlM change? empty

theorem size_retire (index : Index) (key : NodeKey) :
    (index.retire key).1.keys.size = index.keys.size := by
  unfold retire
  split <;> rfl

theorem liveNumber?_retire_self (index : Index) (key : NodeKey) :
    (index.retire key).1.liveNumber? key = none := by
  cases found : index.liveNumber? key with
  | none => simp only [retire, found]
  | some number => rw [liveNumber?_retire found, if_pos rfl]

theorem change?_store {index : Index} (node : Node) (room : index.keys.size < documentLimit) :
    index.change? (.store node) =
      some ((index.retire node.key).1.add node.key (document node.key node)) := by
  have space : (index.retire node.key).1.keys.size < documentLimit := by rwa [size_retire]
  simp only [change?, insert, if_pos space]

theorem changed_store {index : Index} (node : Node) (room : index.keys.size < documentLimit) :
    index.changed (.store node) =
      (index.retire node.key).1.add node.key (document node.key node) := by
  have space : (index.retire node.key).1.keys.size < documentLimit := by rwa [size_retire]
  simp only [changed, insert, if_pos space]

theorem changed_store_full {index : Index} (node : Node) (full : documentLimit ≤ index.keys.size) :
    index.changed (.store node) = (index.retire node.key).1 := by
  have noSpace : ¬(index.retire node.key).1.keys.size < documentLimit := by
    rw [size_retire]
    omega
  simp only [changed, insert, if_neg noSpace]

/-- A change replaces or takes away the version of its key, and gives the new version the next
number if there is one left. -/
theorem represents_changed {index : Index} {version : Nat → Node}
    (represents : Represents index version) (change : Change) :
    ∃ next, Represents (index.changed change) next ∧
      (index.changed change).live.numbers.map next =
        (index.live.numbers.map version).filter (·.key ≠ change.key) ++
          (History.within (documentLimit - index.keys.size) [change]).liveNodes ∧
      (index.changed change).keys.size =
        index.keys.size + (History.within (documentLimit - index.keys.size) [change]).stores := by
  have taken (key : NodeKey) : ∃ next, Represents (index.retire key).1 next ∧
      (index.retire key).1.live.numbers.map next =
        (index.live.numbers.map version).filter (·.key ≠ key) ++ History.liveNodes [.remove key] ∧
      (index.retire key).1.keys.size = index.keys.size + History.stores [.remove key] :=
    ⟨version, represents_retire represents key,
      by rw [numbers_retire represents]; exact (List.append_nil _).symm, size_retire index key⟩
  cases change with
  | remove key =>
    rw [History.within, History.within]
    exact taken key
  | store node =>
    by_cases full : documentLimit ≤ index.keys.size
    · rw [changed_store_full node full, Nat.sub_eq_zero_of_le full, History.within,
        History.within]
      exact taken node.key
    · have retired := represents_retire represents node.key
      obtain ⟨left, room⟩ : ∃ left, documentLimit - index.keys.size = left + 1 :=
        Nat.exists_eq_add_one_of_ne_zero (by omega)
      rw [changed_store node (by omega), room, History.within, History.within]
      refine ⟨_, represents_add retired node (liveNumber?_retire_self index node.key), ?_, ?_⟩
      · rw [numbers_add retired, numbers_retire represents]
        rfl
      · simp [add, size_retire, History.stores]

/-- The index holds the live nodes of its history, as far as there were numbers left for them. -/
theorem after_represents (changes : History) :
    ∃ version, Represents (after changes) version ∧
      (after changes).live.numbers.map version = (changes.within documentLimit).liveNodes ∧
      (after changes).keys.size = (changes.within documentLimit).stores := by
  induction changes using List.reverseRecOn with
  | nil => exact ⟨fun _ => default, represents_empty _, rfl, rfl⟩
  | append_singleton changes change ih =>
    obtain ⟨version, represents, listed, sized⟩ := ih
    have left : documentLimit - (after changes).keys.size =
        documentLimit - History.stores changes := by
      rw [sized, History.stores_within]
      omega
    obtain ⟨next, represented, numbers, size⟩ := represents_changed represents change
    obtain ⟨made, single, sameKey⟩ :=
      History.exists_within_single (documentLimit - History.stores changes) change
    rw [left, single] at numbers size
    rw [after_concat, History.within_append, single, History.liveNodes_append, sameKey]
    refine ⟨next, represented, by rw [numbers, listed], ?_⟩
    rw [size, sized]
    exact List.countP_append.symm

theorem change?_eq_some {index : Index} (change : Change)
    (room : index.keys.size + History.stores [change] ≤ documentLimit) :
    index.change? change = some (index.changed change) := by
  cases change with
  | remove key => rfl
  | store node =>
    rw [History.stores_store] at room
    rw [change?_store node (by omega), changed_store node (by omega)]

/-- As long as there are numbers left, every change succeeds. -/
theorem after?_eq_some {changes : History} (room : changes.stores ≤ documentLimit) :
    after? changes = some (after changes) := by
  induction changes using List.reverseRecOn with
  | nil => rfl
  | append_singleton changes change ih =>
    have counted : History.stores (changes ++ [change]) =
        History.stores changes + History.stores [change] := List.countP_append
    have reached := ih (by omega)
    obtain ⟨_, _, _, sized⟩ := after_represents changes
    rw [History.stores_within] at sized
    have next : after? (changes ++ [change]) = (after changes).change? change := by
      simp only [after?] at reached ⊢
      simp [List.foldlM_append, reached]
    rw [next, after_concat, change?_eq_some change (by omega)]

/-- As long as there are numbers left, every change succeeds, and the index holds the live nodes of
its history. -/
theorem after?_represents (changes : History) (room : changes.stores ≤ documentLimit) :
    ∃ index version, after? changes = some index ∧ Represents index version ∧
      index.live.numbers.map version = changes.liveNodes ∧
      index.keys.size = changes.stores := by
  obtain ⟨version, represents, listed, sized⟩ := after_represents changes
  rw [History.within_of_le room] at listed sized
  exact ⟨after changes, version, after?_eq_some room, represents, listed, sized⟩

end NodeQuery.Search.Index
