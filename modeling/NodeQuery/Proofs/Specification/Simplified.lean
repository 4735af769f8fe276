import NodeQuery.Proofs.Specification.Simplification

/-! Specifications in which nothing is left to simplify. Simplification ends in one of them,
negation leads from one to another, and simplifying one again changes nothing. Constants apart, they
are the specifications without constants, repetitions, composites directly within composites of
their kind, and negations of anything but leaves. -/

namespace NodeQuery.Specification

variable {α : Type}

/-- A clause that composites of the kind take as it is. -/
structure Connective.Keeps (connective : Connective) (clause : Specification α) : Prop where
  alone : connective.flattened clause = [clause]
  notAbsorbing : clause ≠ connective.absorbing
  notNeutral : clause ≠ connective.neutral

/-- A clause that is kept is no composite of the kind. -/
theorem Connective.Keeps.ne_compose {connective : Connective} {clause : Specification α}
    (kept : connective.Keeps clause) (clauses : List (Specification α)) :
    clause ≠ connective.compose clauses := by
  rintro rfl
  -- the clauses would be the composite itself, and so be larger than they are
  have larger := congrArg sizeOf kept.alone
  cases connective <;> simp [flattened, compose] at larger <;> omega

theorem Connective.Keeps.ne_constant {connective : Connective} {clause : Specification α}
    (kept : connective.Keeps clause) : clause ≠ .everything ∧ clause ≠ .nothing := by
  cases connective with
  | and => exact ⟨kept.notNeutral, kept.notAbsorbing⟩
  | or => exact ⟨kept.notAbsorbing, kept.notNeutral⟩

inductive Simplified : Specification α → Prop
  | everything : Simplified .everything
  | nothing : Simplified .nothing
  | leaf (value : α) : Simplified (.leaf value)
  | negation (value : α) : Simplified (.negation (.leaf value))
  | composite (connective : Connective) {clauses : List (Specification α)}
      (two : 2 ≤ clauses.length) (nodup : clauses.Nodup)
      (kept : ∀ clause ∈ clauses, connective.Keeps clause)
      (each : ∀ clause ∈ clauses, Simplified clause) : Simplified (connective.compose clauses)

variable {connective : Connective} {clauses : List (Specification α)}
  {specification : Specification α}

theorem Simplified.of_compose (simplified : Simplified (connective.compose clauses)) :
    2 ≤ clauses.length ∧ clauses.Nodup ∧ (∀ clause ∈ clauses, connective.Keeps clause) ∧
      ∀ clause ∈ clauses, Simplified clause := by
  generalize same : connective.compose clauses = whole at simplified
  cases simplified with
  | everything | nothing | leaf | negation => cases connective <;> cases same
  | composite other two nodup kept each =>
    cases connective <;> cases other <;> cases same <;> exact ⟨two, nodup, kept, each⟩

theorem Simplified.normal (simplified : Simplified specification) :
    NegationNormal specification.leaves specification := by
  induction simplified with
  | everything => exact .literal .everything
  | nothing => exact .literal .nothing
  | leaf value => exact .literal (.leaf List.mem_cons_self)
  | negation value => exact .literal (.negation List.mem_cons_self)
  | composite connective two _ _ _ ih =>
    rw [leaves_compose]
    refine .composite connective (List.ne_nil_of_length_pos (by omega)) fun clause member => ?_
    exact (ih clause member).mono (mem_allLeaves_of_mem member)

theorem Connective.simplified_absorbing (connective : Connective) :
    Simplified (connective.absorbing : Specification α) := by
  cases connective
  · exact .nothing
  · exact .everything

theorem Connective.simplified_neutral (connective : Connective) :
    Simplified (connective.neutral : Specification α) := by
  cases connective
  · exact .everything
  · exact .nothing

/-- Flattening goes one level deep, which is enough where the clauses are simplified. -/
theorem simplified_of_mem_flattened {clause part : Specification α}
    (simplified : Simplified clause) (member : part ∈ connective.flattened clause) :
    Simplified part ∧ connective.flattened part = [part] := by
  rcases connective.flattened_eq clause with alone | ⟨clauses, rfl, flat⟩
  · rw [alone, List.mem_singleton] at member
    subst member
    exact ⟨simplified, alone⟩
  · rw [flat] at member
    obtain ⟨_, _, kept, each⟩ := simplified.of_compose
    exact ⟨each part member, (kept part member).alone⟩

theorem Combined.simplified {parts : List (Specification α)} {result : Specification α}
    (combined : Combined connective parts result)
    (each : ∀ part ∈ parts, Simplified part ∧ connective.flattened part = [part]) :
    Simplified result := by
  cases combined with
  | absorbed member => exact connective.simplified_absorbing
  | empty none => exact .nothing
  | neutral some all => exact connective.simplified_neutral
  | single kept => exact (each _ ((kept _).mp List.mem_cons_self).1).1
  | @several clauses two nodup free kept =>
    refine .composite connective two nodup (fun clause member => ?_) fun clause member =>
      (each clause ((kept clause).mp member).1).1
    obtain ⟨listed, notNeutral⟩ := (kept clause).mp member
    exact ⟨(each clause listed).2, fun same => free (same ▸ member), notNeutral⟩

/-- A tree of leaves and negated leaves, without constants. Each composite has several clauses, no
two of them equal and none of its own kind. -/
inductive Canonical : Specification α → Prop
  | leaf (value : α) : Canonical (.leaf value)
  | negation (value : α) : Canonical (.negation (.leaf value))
  | composite (connective : Connective) {clauses : List (Specification α)}
      (two : 2 ≤ clauses.length) (nodup : clauses.Nodup)
      (alternating : ∀ clause ∈ clauses, ∀ inner, clause ≠ connective.compose inner)
      (each : ∀ clause ∈ clauses, Canonical clause) : Canonical (connective.compose clauses)

theorem Simplified.constant_or_canonical (simplified : Simplified specification) :
    specification = .everything ∨ specification = .nothing ∨ Canonical specification := by
  induction simplified with
  | everything => exact .inl rfl
  | nothing => exact .inr (.inl rfl)
  | leaf value => exact .inr (.inr (.leaf value))
  | negation value => exact .inr (.inr (.negation value))
  | composite connective two nodup kept each ih =>
    refine .inr (.inr (.composite connective two nodup (fun clause member inner => ?_) ?_))
    · exact (kept clause member).ne_compose inner
    · intro clause member
      obtain ⟨notEverything, notNothing⟩ := (kept clause member).ne_constant
      exact ((ih clause member).resolve_left notEverything).resolve_left notNothing

section

variable [DecidableEq α]

theorem simplified_combine (each : ∀ clause ∈ clauses, Simplified clause) :
    Simplified (combine connective clauses) := by
  refine (combined_combine connective clauses).simplified fun part member => ?_
  obtain ⟨clause, listed, inside⟩ := List.mem_flatMap.mp member
  exact simplified_of_mem_flattened (each clause listed) inside

theorem simplified_negated (simplified : Simplified specification) :
    Simplified (negated specification) := by
  induction simplified with
  | everything => exact .nothing
  | nothing => exact .everything
  | leaf value => exact .negation value
  | negation value => exact .leaf value
  | composite connective two nodup kept each ih =>
    rw [negated_compose]
    exact simplified_combine (List.forall_mem_map.mpr ih)

theorem simplified_simplify (specification : Specification α) :
    Simplified (simplify specification) := by
  induction specification using composedOn with
  | everything => exact .everything
  | nothing => exact .nothing
  | leaf value => exact .leaf value
  | negation inner ih => exact simplified_negated ih
  | composite connective clauses ih =>
    rw [simplify_compose]
    exact simplified_combine (List.forall_mem_map.mpr ih)

/-- Clauses that are all kept, and all different, are combined as they are. -/
theorem combine_eq_compose (two : 2 ≤ clauses.length) (nodup : clauses.Nodup)
    (kept : ∀ clause ∈ clauses, connective.Keeps clause) :
    combine connective clauses = connective.compose clauses := by
  have flat : clauses.flatMap connective.flattened = clauses := by
    rw [List.flatMap_congr fun clause member => (kept clause member).alone, List.flatMap_singleton']
  have free : connective.absorbing ∉ clauses := fun member => (kept _ member).notAbsorbing rfl
  have plain : clauses.filter (· ≠ connective.neutral) = clauses :=
    List.filter_eq_self.mpr fun clause member =>
      decide_eq_true (kept clause member).notNeutral
  simp only [combine, flat, if_neg free, plain, distinct_of_nodup nodup]
  match clauses, two with
  | first :: second :: others, _ => rfl

theorem simplify_of_simplified (simplified : Simplified specification) :
    simplify specification = specification := by
  induction simplified with
  | everything => rfl
  | nothing => rfl
  | leaf value => rfl
  | negation value => rfl
  | composite connective two nodup kept each ih =>
    rw [simplify_compose, List.map_congr_left ih, List.map_id', combine_eq_compose two nodup kept]

/-- Simplification ends in a constant or in a canonical tree of some of the leaves, and changes
nothing there. -/
theorem simplify_canonical (specification : Specification α) :
    (simplify specification = .everything ∨ simplify specification = .nothing ∨
      Canonical (simplify specification)) ∧
    (∀ leaf ∈ (simplify specification).leaves, leaf ∈ specification.leaves) ∧
    simplify (simplify specification) = simplify specification := by
  have simplified := simplified_simplify specification
  exact ⟨simplified.constant_or_canonical, (simplify_normal specification).listed,
    simplify_of_simplified simplified⟩

/-- The negation of a simplified composite is what its negated clauses are simplified to when they
are joined by the opposite connective. -/
theorem negated_compose_eq_simplify (simplified : Simplified (connective.compose clauses)) :
    negated (connective.compose clauses) =
      simplify (connective.opposite.compose (clauses.map negated)) := by
  obtain ⟨_, _, _, each⟩ := simplified.of_compose
  have again : ∀ clause ∈ clauses.map negated, simplify clause = clause :=
    List.forall_mem_map.mpr fun clause member =>
      simplify_of_simplified (simplified_negated (each clause member))
  rw [negated_compose, simplify_compose, List.map_congr_left again, List.map_id']

end

end NodeQuery.Specification
