import NodeQuery.Proofs.Projection.Layers
import NodeQuery.Proofs.Projection.Plan

/-! More domain types and more selects. Each layer of the smaller projection stands within the layer
of the same number of the larger one, which goes on for as long at least, and its scope within the
larger scope. So nothing is lost by asking for more, and a projection depends on nothing but which
types and which selects are listed. -/

namespace NodeQuery

namespace Projection

section

variable {schema : Schema} {domain wider : List TypeId} {types others : List EntityType}
  {selects more : List ScopedSelect} {layer : Nat}

theorem knownTypes_mono (within : domain ⊆ wider) :
    schema.knownTypes domain ⊆ schema.knownTypes wider := by
  intro entityType found
  obtain ⟨known, listed⟩ := Schema.mem_knownTypes.mp found
  exact Schema.mem_knownTypes.mpr ⟨known, within listed⟩

theorem attributesOn_mono (typesWithin : types ⊆ others) (selectsWithin : selects ⊆ more) :
    attributesOn schema types selects ⊆ attributesOn schema others more := by
  intro qualified member
  simp only [attributesOn, List.mem_flatMap] at member ⊢
  obtain ⟨select, asked, entityType, listed, member⟩ := member
  exact ⟨select, selectsWithin asked, entityType, typesWithin listed, member⟩

/-! Layers. -/

theorem beyond_mono (typesWithin : types ⊆ others) (selectsWithin : selects ⊆ more) :
    beyond schema types selects ⊆ beyond schema others more := by
  refine knownTypes_mono fun id reached => ?_
  simp only [List.mem_flatMap] at reached ⊢
  obtain ⟨entityType, listed, select, applies, target⟩ := reached
  exact ⟨entityType, typesWithin listed, select, selectsWithin applies, target⟩

theorem lasting_mono (within : selects ⊆ more) : lasting layer selects ⊆ lasting layer more :=
  List.filter_subset _ within

/-- Each layer stands within one of those that begin with more types and more selects. -/
theorem layersFrom_mono (typesWithin : types ⊆ others) (selectsWithin : selects ⊆ more) :
    ∀ entry ∈ layersFrom schema layer types selects,
      ∃ larger ∈ layersFrom schema layer others more,
        entry.types ⊆ larger.types ∧ entry.selects ⊆ larger.selects := by
  fun_induction layersFrom schema layer types selects generalizing others more with
  | case1 => exact List.forall_mem_nil _
  | case2 layer types selects going ih =>
    -- where the smaller projection has a layer, the larger one has it too
    have largerGoing : ¬(others = [] ∨ more = []) := by
      rintro (rfl | rfl)
      · exact going (.inl (List.eq_nil_of_subset_nil typesWithin))
      · exact going (.inr (List.eq_nil_of_subset_nil selectsWithin))
    rw [layersFrom_going largerGoing]
    refine List.forall_mem_cons.mpr ⟨?_, fun entry later => ?_⟩
    · exact ⟨_, List.mem_cons_self, typesWithin, selectsWithin⟩
    · obtain ⟨larger, member, within⟩ :=
        ih (beyond_mono typesWithin selectsWithin) (lasting_mono selectsWithin) entry later
      exact ⟨larger, List.mem_cons_of_mem _ member, within⟩

/-! The scope, and projections in both modes. -/

theorem InScope.mono {entityType : EntityType} (domainWithin : domain ⊆ wider)
    (selectsWithin : selects ⊆ more) (reached : InScope schema selects domain entityType) :
    InScope schema more wider entityType := by
  induction reached with
  | domain known listed => exact .domain known (domainWithin listed)
  | next _ follows ih =>
    obtain ⟨select, asked, names, leads⟩ := follows
    exact .next ih ⟨select, selectsWithin asked, names, leads⟩

theorem attributes_mono (mode : Mode) (domainWithin : domain ⊆ wider)
    (selectsWithin : selects ⊆ more) :
    mode.attributes schema selects domain ⊆ mode.attributes schema more wider := by
  cases mode with
  | transitive =>
    refine attributesOn_mono (fun entityType found => ?_) selectsWithin
    exact mem_reachable.mpr ((mem_reachable.mp found).mono domainWithin selectsWithin)
  | depthBounded =>
    intro qualified member
    obtain ⟨entry, listed, asking⟩ := mem_layeredAttributes.mp member
    obtain ⟨larger, stands, typesWithin, layerWithin⟩ :=
      layersFrom_mono (knownTypes_mono domainWithin) selectsWithin entry listed
    exact mem_layeredAttributes.mpr
      ⟨larger, stands, attributesOn_mono typesWithin layerWithin asking⟩

theorem expand_mono {selects more : List Select} (within : selects ⊆ more) :
    expand selects ⊆ expand more := by
  have members (selects : List Select) (select : Select) : select ∈ expand selects ↔
      select ∈ selects ∨ .everything ∈ selects ∧ select ∈ wildcards := by
    unfold expand
    split <;> simp [mem_distinct, *]
  intro select member
  rw [members] at member ⊢
  exact member.imp (within ·) (And.imp_left (within ·))

theorem qualify_subset (schema : Schema) (mode : Mode) {selects more : List Select}
    (domainWithin : domain ⊆ wider) (selectsWithin : selects ⊆ more) :
    schema.qualify mode domain selects ⊆ schema.qualify mode wider more := by
  have expanded := expand_mono selectsWithin
  intro qualified member
  rw [Schema.qualify, mem_distinct, List.mem_append] at member ⊢
  exact member.imp (attributes_mono mode domainWithin (List.filterMap_subset _ expanded) ·)
    (List.filterMap_subset _ expanded ·)

end

end Projection

open Projection

/-- Whatever is asked for in a domain is asked for in a wider one by more selects. If only the order
and the number of times differ in which types and selects are listed, the plan is the same. -/
theorem Schema.qualify_mono (schema : Schema) (mode : Mode) {domain wider : List TypeId}
    {selects more : List Select} (domainWithin : domain ⊆ wider) (selectsWithin : selects ⊆ more) :
    schema.qualify mode domain selects ⊆ schema.qualify mode wider more ∧
    (wider ⊆ domain → more ⊆ selects →
      SelectionPlan.ofSelects (schema.qualify mode domain selects) =
        SelectionPlan.ofSelects (schema.qualify mode wider more)) := by
  have within := qualify_subset schema mode domainWithin selectsWithin
  refine ⟨within, fun domainBack selectsBack => ?_⟩
  exact SelectionPlan.ofSelects_eq_of_subset within
    (qualify_subset schema mode domainBack selectsBack)

/-- The collections join the domain and everything is asked for besides; then the same is asked for
in another order, with repetitions. -/
theorem qualify_mono_cyclicSchema :
    let concept : TypeId := ⟨.ofNat 7, "Concept"⟩
    let collection : TypeId := ⟨.ofNat 7, "Collection"⟩
    let broader : Select := .scoped ⟨.any, .reference "broader" 2⟩
    cyclicSchema.qualify .depthBounded [concept] [broader] ⊆
      cyclicSchema.qualify .depthBounded [collection, concept] [.everything, broader] ∧
    SelectionPlan.ofSelects
        (cyclicSchema.qualify .depthBounded [collection, concept] [.everything, broader]) =
      SelectionPlan.ofSelects (cyclicSchema.qualify .depthBounded
        [concept, collection, concept] [broader, broader, .everything]) := by
  intro concept collection broader
  constructor
  · exact (cyclicSchema.qualify_mono .depthBounded (by simp) (by simp)).1
  · exact (cyclicSchema.qualify_mono .depthBounded (by simp) (by simp)).2 (by simp) (by simp)

end NodeQuery
