import NodeQuery.Proofs.Distinct
import NodeQuery.Proofs.Projection.Scope

/-! The reachable types as a list. The exploration appends to what it has visited and appends no
type twice, so the known types of the domain, which are pending first, stand at the front in their
order; what follows them is reached from one of them along references that selects name. -/

namespace NodeQuery

namespace Projection

/-- One step along a reference that a listed select names: from a type that the qualifier admits to
the range of one of its references, or to a type that declares a reference ranging over it. -/
inductive Edge (schema : Schema) (selects : List Select) (entityType : EntityType) :
    EntityType → Prop
  | forward {qualifier : Qualifier} {name : String} {depth : Nat} {range : EntityType}
      (listed : .scoped ⟨qualifier, .reference name depth⟩ ∈ selects)
      (admitted : qualifier.admits entityType.id = true) (known : range ∈ schema.types)
      (declared : ⟨entityType.id, name, range.id⟩ ∈ entityType.referenceAttributes) :
      Edge schema selects entityType range
  | backward {qualifier : Qualifier} {name : String} {depth : Nat} {source : EntityType}
      (listed : .scoped ⟨qualifier, .referrer name depth⟩ ∈ selects)
      (admitted : qualifier.admits entityType.id = true) (known : source ∈ schema.types)
      (declared : ⟨source.id, name, entityType.id⟩ ∈ source.referenceAttributes) :
      Edge schema selects entityType source

variable {schema : Schema}

theorem edge_iff_follows {selects : List Select} {entityType other : EntityType} :
    Edge schema selects entityType other ↔
      Follows schema (selects.filterMap Select.scoped?) entityType other := by
  constructor
  · intro edge
    cases edge with
    | forward listed admitted known declared =>
      exact ⟨_, mem_scoped.mpr listed, rfl, admitted, .forward (.named _ _) known declared⟩
    | backward listed admitted known declared =>
      exact ⟨_, mem_scoped.mpr listed, rfl, admitted, .backward (.named _ _) known declared⟩
  · intro follows
    obtain ⟨⟨qualifier, part⟩, listed, named, admitted, leads⟩ := follows
    rw [mem_scoped] at listed
    -- a part that names no reference may lead on all the same, but is not followed
    cases leads with
    | forward asked known declared =>
      cases asked with
      | all => cases named
      | named => exact .forward listed admitted known declared
    | backward asked known declared =>
      cases asked with
      | all => cases named
      | named => exact .backward listed admitted known declared

/-- The scope is what is reached from a known type of the domain in any number of steps. -/
theorem inScope_iff_reflTransGen {selects : List Select} {domain : List TypeId}
    {entityType : EntityType} :
    InScope schema (selects.filterMap Select.scoped?) domain entityType ↔
      ∃ start ∈ schema.types, start.id ∈ domain ∧
        Relation.ReflTransGen (Edge schema selects) start entityType := by
  constructor
  · intro reached
    induction reached with
    | domain known listed => exact ⟨_, known, listed, .refl⟩
    | next _ follows ih =>
      obtain ⟨start, known, listed, path⟩ := ih
      exact ⟨start, known, listed, path.tail (edge_iff_follows.mpr follows)⟩
  · intro given
    obtain ⟨start, known, listed, path⟩ := given
    induction path with
    | refl => exact .domain known listed
    | tail _ edge ih => exact .next ih (edge_iff_follows.mp edge)

section

variable {selects : List ScopedSelect} {visited : List EntityType}

theorem nodup_explore {pending : List TypeId} (nodup : visited.Nodup) :
    (explore schema selects visited pending).Nodup := by
  fun_induction explore schema selects visited pending with
  | case1 visited => exact nodup
  | case2 visited id pending missing ih => exact ih nodup
  | case3 visited id pending entityType found old ih => exact ih nodup
  | case4 visited id pending entityType found new ih =>
    have longer := nodup.concat new
    rw [List.concat_eq_append] at longer
    exact ih longer

theorem prefix_explore (pending : List TypeId) :
    visited <+: explore schema selects visited pending := by
  fun_induction explore schema selects visited pending with
  | case1 visited => exact List.prefix_rfl
  | case2 visited id pending missing ih => exact ih
  | case3 visited id pending entityType found old ih => exact ih
  | case4 visited id pending entityType found new ih => exact (List.prefix_append _ _).trans ih

/-- The types that are pending first are visited first, in the order in which they are pending,
whatever they lead to. -/
theorem foldl_prefix_explore (first later : List TypeId) :
    (first.filterMap schema.get?).foldl addNew visited <+:
      explore schema selects visited (first ++ later) := by
  induction first generalizing visited later with
  | nil => exact prefix_explore later
  | cons id first ih =>
    cases found : schema.get? id with
    | none =>
      rw [List.filterMap_cons_none found, List.cons_append, explore_missing found]
      exact ih later
    | some entityType =>
      rw [List.filterMap_cons_some found, List.foldl_cons, List.cons_append, explore_found found,
        addNew]
      split
      · exact ih later
      · rw [List.append_assoc]
        exact ih _

theorem knownTypes_prefix_reachable (domain : List TypeId) :
    schema.knownTypes domain <+: reachable schema selects domain := by
  have front : schema.knownTypes domain <+: explore schema selects [] (domain ++ []) :=
    foldl_prefix_explore domain []
  rwa [List.append_nil] at front

end

/-- The known types of a domain are told by their ids. -/
theorem map_id_knownTypes (domain : List TypeId) :
    (schema.knownTypes domain).map (·.id) = distinct (domain.filter schema.contains) := by
  have apart : ∀ left ∈ domain.filterMap schema.get?, ∀ right ∈ domain.filterMap schema.get?,
      left.id = right.id → left = right := by
    intro left first right second
    obtain ⟨_, _, first⟩ := List.mem_filterMap.mp first
    obtain ⟨_, _, second⟩ := List.mem_filterMap.mp second
    exact Schema.eq_of_id_eq (Schema.get?_eq_some_iff.mp first).1
      (Schema.get?_eq_some_iff.mp second).1
  have listed : (domain.filterMap schema.get?).map (·.id) = domain.filter schema.contains := by
    rw [List.map_filterMap, ← List.filterMap_eq_filter]
    refine List.filterMap_congr fun id _ => ?_
    cases found : schema.get? id with
    | none => simp [Option.guard, Schema.contains, found]
    | some entityType =>
      simp [Option.guard, Schema.contains, found, (Schema.get?_eq_some_iff.mp found).2]
  rw [Schema.knownTypes, ← distinct_map apart, listed]

end Projection

open Projection

/-- The reachable types are all that is reached from a known type of the domain by following named
references, each once, and the known types of the domain stand first, in their order. -/
theorem Schema.reachableTypes_closure (schema : Schema) (domain : List TypeId)
    (selects : List Select) :
    (schema.reachableTypes domain selects).Nodup ∧
    distinct (domain.filter schema.contains) <+: schema.reachableTypes domain selects ∧
    ∀ id, id ∈ schema.reachableTypes domain selects ↔
      ∃ start ∈ schema.types, start.id ∈ domain ∧ ∃ entityType,
        Relation.ReflTransGen (Edge schema selects) start entityType ∧ entityType.id = id := by
  have known : ∀ entityType ∈ reachable schema (selects.filterMap Select.scoped?) domain,
      entityType ∈ schema.types := fun _ found => (mem_reachable.mp found).known
  refine ⟨?_, ?_, fun id => ?_⟩
  · exact (nodup_explore .nil).map_on fun left first right second =>
      eq_of_id_eq (known left first) (known right second)
  · rw [← map_id_knownTypes]
    exact (knownTypes_prefix_reachable domain).map _
  · simp only [reachableTypes, List.mem_map, mem_reachable, inScope_iff_reflTransGen]
    constructor
    · intro given
      obtain ⟨entityType, ⟨start, inside, listed, path⟩, same⟩ := given
      exact ⟨start, inside, listed, entityType, path, same⟩
    · intro given
      obtain ⟨start, inside, listed, entityType, path, same⟩ := given
      exact ⟨entityType, ⟨start, inside, listed, path⟩, same⟩

end NodeQuery
