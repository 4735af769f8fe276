import NodeQuery.Engine
import NodeQuery.Proofs.Relational.Compilation
import NodeQuery.Proofs.Relational.Table

/-! The engine against the node table. Where every leaf has a relational form and the template nests
no deeper than the grammar admits, the query succeeds, and selects the live keys whose node meets
the specification. -/

namespace NodeQuery

open Relational

namespace History

variable {changes : History}

/-- The live version of a key is the only one. -/
theorem eq_of_live {node other : Node} (live : node ∈ changes.liveNodes)
    (otherLive : other ∈ changes.liveNodes) (same : other.key = node.key) : other = node :=
  List.inj_on_of_nodup_map changes.nodup_liveNodes otherLive live same

end History

namespace Relational.Table

variable {table : Table} {changes : History}

/-- A sentence selects the keys whose live node it is true of. -/
theorem execute_sentence (represents : table.Represents changes) (sentence : Sentence)
    (shallow : sentence.query.nesting ≤ Grammar.nestingLimit) :
    ∃ keys, table.execute sentence.query = .ok keys ∧ keys.Sublist changes.arrivals ∧
      ∀ key, key ∈ keys ↔
        ∃ node ∈ changes.liveNodes, node.key = key ∧ sentence.meaning key node = true := by
  let truth (key : NodeKey) : Bool :=
    changes.liveNodes.any fun node => node.key == key && sentence.meaning key node
  have decided : ∀ entry ∈ table.entries,
      sentence.condition.evaluate entry.2 = .ok (some (truth entry.1)) := by
    intro entry member
    obtain ⟨node, live, rfl⟩ := represents.live entry member
    have same : truth node.key = sentence.meaning node.key node := by
      rw [Bool.eq_iff_iff]
      simp only [truth, List.any_eq_true, Bool.and_eq_true, beq_iff_eq]
      constructor
      · intro given
        obtain ⟨other, otherLive, same, meets⟩ := given
        exact History.eq_of_live live otherLive same ▸ meets
      · intro meets
        exact ⟨node, live, rfl, meets⟩
    rw [same]
    exact sentence.decided node.key node
  refine ⟨changes.arrivals.filter truth, ?_, List.filter_sublist, fun key => ?_⟩
  · unfold execute
    rw [sentence.ofQuery shallow, ← represents.keys_eq]
    exact matching_of_decided decided
  · rw [List.mem_filter, History.mem_arrivals]
    simp only [truth, List.any_eq_true, Bool.and_eq_true, beq_iff_eq]
    apply and_iff_right_of_imp
    intro given
    obtain ⟨node, live, same, _⟩ := given
    exact ⟨node, live, same⟩

end Relational.Table

/-- What the engine finds in the node table after a history: the keys of the live nodes that meet
the specification, each once, in the order in which they came in. -/
theorem Engine.findRelational_answers (engine : Engine) (changes : History)
    (specification : NodeSpecification) (supported : specification.supports .relational = true)
    (shallow : ∀ query, specification.relational = .ok query →
      query.nesting ≤ Grammar.nestingLimit) :
    ∃ keys, engine.findRelational (Table.after changes) specification = .ok keys ∧
      (∀ key, key ∈ keys ↔
        ∃ node ∈ changes.liveNodes, node.key = key ∧ specification.test key node = true) ∧
      keys.Nodup ∧ keys.Sublist changes.arrivals := by
  obtain ⟨_, compiled, sentence, rfl, means⟩ := specification.relational_means supported
  obtain ⟨keys, found, ordered, selected⟩ :=
    Table.execute_sentence (Table.after_represents changes) sentence (shallow _ compiled)
  refine ⟨keys, ?_, fun key => ?_, ordered.nodup changes.nodup_arrivals, ordered⟩
  · unfold findRelational
    rw [compiled]
    simp only [found, Except.mapError]
  · simp only [selected, means]

/-- A concept without a code, one with a code, and the first one again. -/
def storedAgain : History :=
  let bare := Node.fresh (.ofNat 1) ⟨.ofNat 7, "Concept"⟩ default
  let coded := { Node.fresh (.ofNat 2) ⟨.ofNat 7, "Concept"⟩ default with code := some "c2" }
  [.store bare, .store coded, .store bare]

theorem findRelational_answers_storedAgain :
    ∃ keys, (Engine.mk .standard .empty).findRelational (Table.after storedAgain)
        (.negation (.conjunction [.leaf (.hasCode "c2"), .leaf (.hasType "Concept")])) = .ok keys ∧
      (∀ key, key ∈ keys ↔ ∃ node ∈ storedAgain.liveNodes, node.key = key ∧ NodeSpecification.test
        (.negation (.conjunction [.leaf (.hasCode "c2"), .leaf (.hasType "Concept")])) key node =
          true) ∧
      keys.Nodup ∧ keys.Sublist storedAgain.arrivals := by
  apply Engine.findRelational_answers (Engine.mk .standard .empty) storedAgain _ (by decide)
  intro query compiled
  cases compiled
  decide

end NodeQuery
