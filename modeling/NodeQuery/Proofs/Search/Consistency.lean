import NodeQuery.Proofs.Search.Representation

/-! How the tables of an index fit together. A change touches the keys, the documents, the look-up
by keys, the postings and the live numbers, one after the other, and a later change reads what the
earlier ones have left. After every history they tell the same: each live key has one number, under
it stands the document of the version stored last, and the postings are those of the live
documents. -/

namespace NodeQuery.Search.Index

/-- The tables of an index agree with each other, and with the history of what was stored. -/
structure Consistent (index : Index) (changes : History) : Prop where
  /-- Every number was given to one stored version. -/
  counted : index.keys.size = changes.stores
  parallel : index.keys.size = index.documents.size
  /-- The look-up has one entry for each live key. -/
  listed : (index.liveByKey.map (·.1)).Perm changes.arrivals
  /-- Live keys and live numbers correspond one to one. -/
  numbered : Set.BijOn index.liveNumber? {key | key ∈ changes.arrivals}
    (some '' {number | number ∈ index.live})
  named : ∀ key number, index.liveNumber? key = some number → index.keys[number]? = some key
  /-- Under a live number stands the document of the version of its key that was stored last. -/
  stored : ∀ number, number ∈ index.live → ∃ node, index.keys[number]? = some node.key ∧
    changes.latest? node.key = some node ∧
    index.documents[number]? = some (document node.key node)
  emptied : ∀ number < index.documents.size, ¬number ∈ index.live →
    index.documents[number]? = some []
  posted : ∀ field term number, number ∈ Index.posted index.fields field term ↔
    number ∈ index.live ∧ (field, term) ∈ index.documentAt number
  /-- No term is kept without a number. -/
  occupied : ∀ postings ∈ index.fields.values, ∀ numbers ∈ postings.values,
    numbers.isEmpty = false

/-- No key has two entries in the look-up. -/
def DistinctKeys (index : Index) : Prop := (index.liveByKey.map (·.1)).Nodup

theorem mem_liveByKey_iff {index : Index} {key : NodeKey} :
    key ∈ index.liveByKey.map (·.1) ↔ index.liveNumber? key ≠ none := by
  simp [liveNumber?]

theorem distinctKeys_retire {index : Index} (distinct : DistinctKeys index) (key : NodeKey) :
    DistinctKeys (index.retire key).1 := by
  unfold retire
  split
  · exact distinct
  · exact distinct.sublist (List.filter_sublist.map _)

theorem distinctKeys_add {index : Index} (distinct : DistinctKeys index) {key : NodeKey}
    (free : index.liveNumber? key = none) (document : Document) :
    DistinctKeys (index.add key document) := by
  refine List.nodup_cons.mpr ⟨?_, distinct⟩
  intro member
  exact mem_liveByKey_iff.mp member free

theorem distinctKeys_changed {index : Index} (distinct : DistinctKeys index) (change : Change) :
    DistinctKeys (index.changed change) := by
  cases change with
  | remove key => exact distinctKeys_retire distinct key
  | store node =>
    have retired := distinctKeys_retire distinct node.key
    rcases Nat.lt_or_ge index.keys.size documentLimit with room | full
    · rw [changed_store node room]
      exact distinctKeys_add retired (liveNumber?_retire_self index node.key) _
    · rw [changed_store_full node full]
      exact retired

theorem distinctKeys_after (changes : History) : DistinctKeys (after changes) :=
  List.foldlRecOn changes changed List.nodup_nil fun _ distinct change _ =>
    distinctKeys_changed distinct change

variable {index : Index} {version : Nat → Node} {changes : History}

/-- The live keys of a history are those of the live numbers. -/
theorem mem_arrivals_iff (listed : index.live.numbers.map version = changes.liveNodes)
    {key : NodeKey} :
    key ∈ changes.arrivals ↔ ∃ number, number ∈ index.live ∧ (version number).key = key := by
  rw [History.mem_arrivals, ← listed]
  simp [DocumentSet.mem_numbers]

namespace Represents

theorem perm_arrivals (represents : Represents index version) (distinct : DistinctKeys index)
    (listed : index.live.numbers.map version = changes.liveNodes) :
    (index.liveByKey.map (·.1)).Perm changes.arrivals := by
  rw [List.perm_ext_iff_of_nodup distinct (History.nodup_arrivals changes)]
  intro key
  rw [mem_liveByKey_iff, Option.ne_none_iff_exists', mem_arrivals_iff listed]
  exact exists_congr fun number => represents.numbered key number

theorem bijOn_liveNumber? (represents : Represents index version)
    (listed : index.live.numbers.map version = changes.liveNodes) :
    Set.BijOn index.liveNumber? {key | key ∈ changes.arrivals}
      (some '' {number | number ∈ index.live}) := by
  have known {key : NodeKey} (live : key ∈ changes.arrivals) :
      ∃ number, number ∈ index.live ∧ (version number).key = key ∧
        index.liveNumber? key = some number := by
    obtain ⟨number, member, named⟩ := (mem_arrivals_iff listed).mp live
    exact ⟨number, member, named, (represents.numbered key number).mpr ⟨member, named⟩⟩
  refine ⟨?mapsTo, ?injOn, ?surjOn⟩
  case mapsTo =>
    intro key live
    obtain ⟨number, member, -, found⟩ := known live
    exact ⟨number, member, found.symm⟩
  case injOn =>
    intro key live other _ same
    obtain ⟨number, -, named, found⟩ := known live
    rw [same, represents.numbered] at found
    exact named.symm.trans found.2
  case surjOn =>
    rintro _ ⟨number, member, rfl⟩
    refine ⟨(version number).key, (mem_arrivals_iff listed).mpr ⟨number, member, rfl⟩, ?_⟩
    exact (represents.numbered _ number).mpr ⟨member, rfl⟩

end Represents

/-- After every history the tables agree, also where changes failed: a node that no number was left
for counts as removed. -/
theorem after_consistent (changes : History) :
    Consistent (after changes) (changes.within documentLimit) := by
  obtain ⟨version, represents, listed, sized⟩ := after_represents changes
  constructor
  case counted => exact sized
  case parallel => exact represents.parallel
  case listed => exact represents.perm_arrivals (distinctKeys_after changes) listed
  case numbered => exact represents.bijOn_liveNumber? listed
  case named =>
    intro key number found
    obtain ⟨live, rfl⟩ := (represents.numbered key number).mp found
    exact (represents.stored number live).1
  case stored =>
    intro number live
    obtain ⟨keyed, documented⟩ := represents.stored number live
    have alive : version number ∈ (changes.within documentLimit).liveNodes := by
      rw [← listed]
      exact List.mem_map_of_mem live
    exact ⟨version number, keyed, History.latest?_of_mem_liveNodes alive, documented⟩
  case emptied =>
    intro number bound retired
    have empty := represents.retired number retired
    rw [documentAt, Array.getElem?_eq_getElem bound] at empty
    rw [Array.getElem?_eq_getElem bound]
    exact congrArg some empty
  case posted =>
    intro field term number
    constructor
    · intro member
      exact ⟨represents.live_of_posted member, (represents.posted field term number).mp member⟩
    · intro known
      exact (represents.posted field term number).mpr known.2
  case occupied =>
    intro postings ofField numbers ofTerm
    obtain ⟨field, foundField⟩ := OrderedMap.mem_values.mp ofField
    obtain ⟨term, foundTerm⟩ := OrderedMap.mem_values.mp ofTerm
    obtain ⟨number, member⟩ := represents.occupied field postings foundField term numbers foundTerm
    rw [← Bool.not_eq_true, DocumentSet.isEmpty_iff]
    exact fun none => none number member

/-- A target that is referred to twice is listed twice, and gone after one removal. -/
example :
    let target := NodeKey.mk (.ofNat 2) ⟨.ofNat 7, "Concept"⟩
    let concept := ((Node.fresh (.ofNat 1) ⟨.ofNat 7, "Concept"⟩ default).addReference "broader"
      target).addReference "broader" target
    let entry := (referenceField "broader", target.id.text)
    (document concept.key concept).count entry = 2 ∧
      (after [.store concept, .remove concept.key]).fields.values.all (·.isEmpty) = true := by
  decide +kernel

end NodeQuery.Search.Index
