import NodeQuery.Engine
import NodeQuery.Proofs.Resolution
import NodeQuery.Proofs.Search.Order

/-! The engine against the index. What it finds there are the live nodes of the history that meet
the specification, with references followed among the live nodes themselves, in the order asked for
and up to the limit, which does not touch the searches for targets. -/

namespace NodeQuery

open Search

/-- The keys that a question about some nodes should be answered with: those of the nodes that meet
the specification, each once, in order, up to the limit. -/
def Answers (nodes : List Node) (specification : NodeSpecification) (sort : Option SortField)
    (limit : Nat) (keys : List NodeKey) : Prop :=
  ∃ ordered : List Node, keys = (ordered.take limit).map Node.key ∧
    ordered.Perm (nodes.filter fun node => specification.testAmong nodes node.key node) ∧
    (ordered.map Node.key).Nodup ∧
    ordered.Pairwise (Precedes nodes sort)

section

variable {index : Index} {version : Nat → Node}

theorem agrees_of_matches (represents : index.Represents version)
    (pointFree : ∀ node ∈ index.live.numbers.map version, node.PointFree)
    {specification : NodeSpecification} {query : Query}
    (means : ∀ key (node : Node), node.PointFree →
      (query.Matches (document key node) ↔ specification.test key node = true)) :
    ∀ number ∈ index.live, query.Matches (index.documentAt number) ↔
      specification.test (version number).key (version number) = true := by
  intro number live
  rw [represents.documentAt_eq live]
  exact means _ _ (pointFree _ (List.mem_map_of_mem live))

/-- The searches for targets find the live nodes that meet the target. -/
theorem looksUp_targetKeys (represents : index.Represents version)
    (pointFree : ∀ node ∈ index.live.numbers.map version, node.PointFree) :
    LooksUp (index.live.numbers.map version) (Engine.targetKeys index) := by
  intro target searchable
  obtain ⟨query, compiled, means⟩ := target.search_matches searchable
  obtain ⟨ordered, found, listed, -⟩ := index.search_eq represents
    (fun node => target.test node.key node)
    (agrees_of_matches represents pointFree means) .unrestricted
  refine ⟨ordered.map Node.key, ?_, fun id => ?_⟩
  · unfold Engine.targetKeys
    rw [compiled]
    exact congrArg Except.ok found
  · have members (node : Node) := listed.mem_iff (a := node)
    simp only [List.mem_filter] at members
    constructor
    · intro given
      obtain ⟨_, member, rfl⟩ := given
      obtain ⟨node, found, rfl⟩ := List.mem_map.mp member
      exact ⟨node, ((members node).mp found).1, rfl, ((members node).mp found).2⟩
    · intro given
      obtain ⟨node, live, rfl, meets⟩ := given
      exact ⟨node.key, List.mem_map_of_mem ((members node).mpr ⟨live, meets⟩), rfl⟩

end

theorem pointFree_of_stored {changes : History}
    (stored : ∀ node, .store node ∈ changes → node.PointFree) :
    ∀ node ∈ changes.liveNodes, node.PointFree := by
  intro node live
  obtain ⟨earlier, later, rfl, _⟩ := History.mem_liveNodes.mp live
  exact stored node (by simp)

/-- What the engine finds in the index after a history is what the live nodes answer. -/
theorem Engine.findIndexed_answers (engine : Engine) (changes : History)
    (specification : NodeSpecification) (options : Options)
    (room : changes.stores ≤ documentLimit)
    (stored : ∀ node, .store node ∈ changes → node.PointFree)
    (asked : ∀ criterion ∈ specification.leaves, criterion.PointFree) :
    ∃ index keys, Index.after? changes = some index ∧
      engine.findIndexed index specification options = .ok keys ∧
      Answers changes.liveNodes specification options.sort
        (options.limit.getD engine.config.defaultLimit) keys := by
  obtain ⟨index, version, reached, represents, listed, -⟩ := Index.after?_represents changes room
  have pointFree : ∀ node ∈ index.live.numbers.map version, node.PointFree := by
    rw [listed]
    exact pointFree_of_stored stored
  obtain ⟨resolved, done, stands⟩ :=
    specification.resolve_standsFor (looksUp_targetKeys represents pointFree) asked
  obtain ⟨query, compiled, means⟩ := resolved.search_matches stands.searchable
  obtain ⟨ordered, found, matching, ranked⟩ := index.search_eq represents
    (fun node => resolved.test node.key node)
    (agrees_of_matches represents pointFree means)
    (options.orLimitedTo engine.config.defaultLimit)
  simp only [stands.agrees, listed] at matching ranked
  refine ⟨index, _, reached, ?_, ordered, rfl, matching, ?_, ranked⟩
  · unfold Engine.findIndexed
    rw [Engine.resolveIndexed, done]
    change Except.bind resolved.search _ = _
    rw [compiled]
    exact congrArg Except.ok found
  · rw [(matching.map Node.key).nodup_iff]
    exact (History.nodup_liveNodes changes).sublist (List.filter_sublist.map Node.key)

/-- A concept, a narrower one that refers to it, and the first one again with another label. -/
def renamedConcept : History :=
  let broader := Node.fresh (.ofNat 1) ⟨.ofNat 7, "Concept"⟩ default
  let narrower := Node.fresh (.ofNat 2) ⟨.ofNat 7, "Concept"⟩ default
  [.store (broader.addProperty "prefLabel" ⟨"en", "Animals"⟩),
    .store (narrower.addReference "broader" broader.key),
    .store (broader.addProperty "prefLabel" ⟨"fi", "Animals"⟩)]

theorem findIndexed_answers_renamedConcept :
    ∃ index keys, Index.after? renamedConcept = some index ∧
      (Engine.mk .standard .empty).findIndexed index
        (.leaf (.referencesSuch "broader" (.textStarts ⟨"prefLabel", "fi"⟩ "Ani")))
        ⟨some ⟨createdField, true⟩, none⟩ = .ok keys ∧
      Answers renamedConcept.liveNodes
        (.leaf (.referencesSuch "broader" (.textStarts ⟨"prefLabel", "fi"⟩ "Ani")))
        (some ⟨createdField, true⟩) 100 keys := by
  refine Engine.findIndexed_answers (Engine.mk .standard .empty) renamedConcept _ _ ?_ ?_ ?_
  · decide
  · intro node member
    simp only [renamedConcept, List.mem_cons, Change.store.injEq, List.not_mem_nil, or_false]
      at member
    rcases member with rfl | rfl | rfl <;> decide
  · intro criterion leaf
    rw [List.mem_singleton.mp leaf]
    decide

end NodeQuery
