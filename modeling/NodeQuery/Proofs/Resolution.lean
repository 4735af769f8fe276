import NodeQuery.Proofs.Search.Compilation
import NodeQuery.Proofs.Specification.Connective
import NodeQuery.Resolution

/-! Resolving references. A criterion on the target of a reference means that the reference leads to
one of the nodes that meet the criterion; a look-up that finds just the ids of these nodes turns the
criterion into a choice of ids with the same meaning. -/

namespace NodeQuery

theorem mem_ascendingIds {keys : List NodeKey} {id : Uuid} :
    id ∈ ascendingIds keys ↔ ∃ key ∈ keys, key.id = id := by
  unfold ascendingIds
  rw [OrderedMap.mem_keys_ofList, List.map_map, List.mem_map]
  rfl

/-- Whether a node meets a criterion among the nodes that its references may lead to. -/
def Criterion.holdsAmong (nodes : List Node) (key : NodeKey) (node : Node) : Criterion → Bool
  | .referencesSuch name target => (node.targets name).any fun reference =>
      nodes.any fun other => other.id == reference.id && target.holdsAmong nodes other.key other
  | criterion => criterion.holds key node

/-- Whether a node meets a specification among the nodes that its references may lead to. -/
def NodeSpecification.testAmong (nodes : List Node) (specification : NodeSpecification)
    (key : NodeKey) (node : Node) : Bool :=
  specification.holds (Criterion.holdsAmong nodes key node)

/-- A look-up finds the ids of the nodes that meet a specification, if all its leaves can be
searched for. -/
def LooksUp {ε : Type} (nodes : List Node)
    (lookUp : NodeSpecification → Except ε (List NodeKey)) : Prop :=
  ∀ target : NodeSpecification, (∀ criterion ∈ target.leaves, criterion.Searchable) →
    ∃ keys, lookUp target = .ok keys ∧
      ∀ id, (∃ key ∈ keys, key.id = id) ↔
        ∃ node ∈ nodes, node.id = id ∧ target.test node.key node = true

/-- A specification that can be searched for and is met by the right nodes. -/
structure StandsFor (resolved : NodeSpecification) (meaning : NodeKey → Node → Bool) : Prop where
  searchable : ∀ criterion ∈ resolved.leaves, criterion.Searchable
  agrees : ∀ key node, resolved.test key node = meaning key node

variable {ε : Type} {nodes : List Node} {lookUp : NodeSpecification → Except ε (List NodeKey)}

theorem Criterion.resolve_standsFor (finds : LooksUp nodes lookUp) (criterion : Criterion)
    (plain : criterion.PointFree) :
    ∃ resolved, criterion.resolve lookUp = .ok resolved ∧
      StandsFor resolved fun key node => criterion.holdsAmong nodes key node := by
  induction criterion with
  | referencesSuch name target ih =>
    obtain ⟨inner, resolved, stands⟩ := ih plain
    obtain ⟨keys, found, ids⟩ := finds inner stands.searchable
    refine ⟨.disjunction ((ascendingIds keys).map fun id => .leaf (.references name id)),
      ?_, ?_, ?_⟩
    · unfold resolve
      rw [resolved]
      change Except.bind (lookUp inner) _ = _
      rw [found]
      rfl
    · simp only [Specification.leaves, Specification.allLeaves_eq, List.mem_flatMap, List.mem_map]
      intro _ given
      obtain ⟨_, ⟨id, _, rfl⟩, leaf⟩ := given
      rw [List.mem_singleton.mp leaf]
      refine ⟨rfl, ?_⟩
      intro property none
      cases none
    · intro key node
      have choice : NodeSpecification.test
          (.disjunction ((ascendingIds keys).map fun id => .leaf (.references name id))) key node =
            (ascendingIds keys).any fun id => (node.targets name).any (·.id == id) := by
        unfold NodeSpecification.test
        rw [Specification.holds, Specification.anyHolds_eq, List.any_map]
        rfl
      rw [choice, Bool.eq_iff_iff]
      simp only [holdsAmong, List.any_eq_true, mem_ascendingIds, ids, stands.agrees, beq_iff_eq,
        Bool.and_eq_true]
      constructor
      · intro given
        obtain ⟨_, ⟨other, listed, rfl, meets⟩, reference, member, same⟩ := given
        exact ⟨reference, member, other, listed, same.symm, meets⟩
      · intro given
        obtain ⟨reference, member, other, listed, same, meets⟩ := given
        exact ⟨other.id, ⟨other, listed, rfl, meets⟩, reference, member, same.symm⟩
  | _ =>
    refine ⟨.leaf _, rfl, ?_, fun _ _ => rfl⟩
    intro criterion leaf
    rw [List.mem_singleton.mp leaf]
    exact ⟨rfl, plain⟩

namespace NodeSpecification

theorem resolveAll_ok {good : NodeSpecification → NodeSpecification → Prop}
    {clauses : List NodeSpecification}
    (each : ∀ clause ∈ clauses, ∃ resolved, clause.resolve lookUp = .ok resolved ∧
      good clause resolved) :
    ∃ resolved, resolveAll lookUp clauses = .ok resolved ∧ List.Forall₂ good clauses resolved := by
  apply Specification.translated_of_each (resolve lookUp) (resolveAll lookUp) rfl _ each
  intro clause clauses first rest done doneRest
  unfold resolveAll
  rw [done, doneRest]
  rfl

theorem resolve_compose (connective : Specification.Connective)
    (clauses : List NodeSpecification) : resolve lookUp (connective.compose clauses) =
      connective.compose <$> resolveAll lookUp clauses := by
  cases connective <;> rfl

theorem searchable_of_paired {clauses resolved : List NodeSpecification}
    (paired : List.Forall₂ (fun clause other => StandsFor other (clause.testAmong nodes))
      clauses resolved) {criterion : Criterion}
    (leaf : criterion ∈ Specification.allLeaves resolved) : criterion.Searchable := by
  induction paired with
  | nil => cases leaf
  | cons stands _ ih =>
    rcases List.mem_append.mp leaf with first | later
    · exact stands.searchable criterion first
    · exact ih later

theorem map_holds_of_paired {clauses resolved : List NodeSpecification}
    (paired : List.Forall₂ (fun clause other => StandsFor other (clause.testAmong nodes))
      clauses resolved) (key : NodeKey) (node : Node) :
    resolved.map (Specification.holds (Criterion.holds key node)) =
      clauses.map (Specification.holds (Criterion.holdsAmong nodes key node)) := by
  induction paired with
  | nil => rfl
  | cons stands _ ih => exact congrArg₂ List.cons (stands.agrees key node) ih

/-- Resolving succeeds, and keeps the meaning of a specification among the nodes looked up. -/
theorem resolve_standsFor (finds : LooksUp nodes lookUp) (specification : NodeSpecification)
    (plain : ∀ criterion ∈ specification.leaves, criterion.PointFree) :
    ∃ resolved, specification.resolve lookUp = .ok resolved ∧
      StandsFor resolved (specification.testAmong nodes) := by
  induction specification using Specification.composedOn with
  | everything =>
    exact ⟨.everything, rfl, fun _ leaf => absurd leaf List.not_mem_nil, fun _ _ => rfl⟩
  | nothing => exact ⟨.nothing, rfl, fun _ leaf => absurd leaf List.not_mem_nil, fun _ _ => rfl⟩
  | leaf criterion =>
    exact criterion.resolve_standsFor finds (plain criterion (List.mem_singleton.mpr rfl))
  | negation inner ih =>
    obtain ⟨resolved, done, stands⟩ := ih plain
    refine ⟨.negation resolved, by rw [resolve, done]; rfl, stands.searchable, fun key node => ?_⟩
    exact congrArg (!·) (stands.agrees key node)
  | composite connective clauses ih =>
    simp only [Specification.leaves_compose, Specification.allLeaves_eq, List.mem_flatMap] at plain
    obtain ⟨resolved, done, paired⟩ := resolveAll_ok fun clause member =>
      ih clause member fun criterion leaf => plain criterion ⟨clause, member, leaf⟩
    refine ⟨connective.compose resolved, by rw [resolve_compose, done]; rfl, fun _ leaf => ?_,
      fun key node => connective.holds_compose_congr (map_holds_of_paired paired key node)⟩
    rw [Specification.leaves_compose] at leaf
    exact searchable_of_paired paired leaf

end NodeSpecification

end NodeQuery
