import NodeQuery.Proofs.Projection.Layers

/-! The two modes beside one another. A step between layers is a step within the scope, so layers
hold nothing that the scope does not hold. In the other direction the first layer in which a type
stands counts: the types of a shortest chain to it stand first in layers of their own, so there are
no more of these layers than types, and selects of that depth are active in all of them. -/

namespace NodeQuery

namespace Part

variable {schema : Schema} {entityType other : EntityType} {part : Part} {layer : Nat}

/-- References and referrers are asked for by their names, if at all. -/
def Named (part : Part) : Prop := part ≠ .allReferences ∧ part ≠ .allReferrers

theorem namesReferences_of_leads (named : part.Named) (leads : part.Leads schema entityType other) :
    part.namesReferences = true := by
  obtain ⟨noReferences, noReferrers⟩ := named
  cases leads with
  | forward asked =>
    cases asked with
    | all => exact absurd rfl noReferences
    | named => rfl
  | backward asked =>
    cases asked with
    | all => exact absurd rfl noReferrers
    | named => rfl

theorem named_of_namesReferences (names : part.namesReferences = true) : part.Named := by
  constructor <;>
    · rintro rfl
      cases names

theorem activeAt_of_le_depth (named : part.Named) (deep : ∀ depth ∈ part.depth?, layer ≤ depth) :
    part.ActiveAt layer := by
  obtain ⟨noReferences, noReferrers⟩ := named
  cases part with
  | allProperties => trivial
  | property name => trivial
  | allReferences => exact absurd rfl noReferences
  | allReferrers => exact absurd rfl noReferrers
  | reference name depth => exact deep depth rfl
  | referrer name depth => exact deep depth rfl

end Part

namespace Projection

/-- No references or referrers are asked for but by their names. -/
def NamedOnly (selects : List Select) : Prop :=
  .everything ∉ selects ∧ ∀ select : ScopedSelect, .scoped select ∈ selects → select.part.Named

/-- No named reference or referrer is asked for to a lesser depth. -/
def AtLeastDeep (bound : Nat) (selects : List Select) : Prop :=
  ∀ select : ScopedSelect, .scoped select ∈ selects → ∀ depth ∈ select.part.depth?, bound ≤ depth

section

variable {schema : Schema} {domain : List TypeId} {listed : List Select} {layer : Nat}
  {entityType : EntityType}

theorem asked_iff_listed (everything : .everything ∉ listed) {select : ScopedSelect} :
    Asked listed select ↔ .scoped select ∈ listed := by
  simp [Asked, everything]

/-! From layers to the scope. -/

/-- What holds of the types of a layer, and of what the selects lead to once it holds of a type,
holds of the types of all later layers, where no other selects apply. -/
theorem layersFrom_sound {good : EntityType → Prop} {allowed : List ScopedSelect}
    (known : ∀ entityType, good entityType → entityType ∈ schema.types)
    (closed : ∀ entityType other, ∀ select ∈ allowed, good entityType →
      select.Leads schema entityType other → good other)
    {types : List EntityType} {selects : List ScopedSelect}
    (typesGood : ∀ entityType ∈ types, good entityType)
    (selectsAllowed : ∀ select ∈ selects, select ∈ allowed) :
    ∀ entry ∈ layersFrom schema layer types selects,
      (∀ entityType ∈ entry.types, good entityType) ∧
        ∀ select ∈ entry.selects, select ∈ allowed := by
  fun_induction layersFrom schema layer types selects with
  | case1 => exact List.forall_mem_nil _
  | case2 layer types selects going ih =>
    refine List.forall_mem_cons.mpr ⟨⟨typesGood, selectsAllowed⟩, ih ?_ ?_⟩
    · intro other reached
      obtain ⟨entityType, member, select, applies, leads⟩ :=
        (mem_beyond fun entityType member => known _ (typesGood _ member)).mp reached
      exact closed _ _ select (selectsAllowed _ applies) (typesGood _ member) leads
    · intro select remains
      exact selectsAllowed _ (List.mem_filter.mp remains).1

/-- The attributes of a layered projection are attributes of the transitive one. -/
theorem mem_transitive_of_mem_depthBounded {selects : List ScopedSelect}
    (named : ∀ select ∈ selects, select.part.Named) {qualified : QualifiedSelect}
    (member : qualified ∈ Mode.depthBounded.attributes schema selects domain) :
    qualified ∈ Mode.transitive.attributes schema selects domain := by
  have closed (entityType other : EntityType) (select : ScopedSelect) (applies : select ∈ selects)
      (reached : InScope schema selects domain entityType)
      (leads : select.Leads schema entityType other) : InScope schema selects domain other :=
    .next reached
      ⟨select, applies, Part.namesReferences_of_leads (named select applies) leads.2, leads⟩
  have first : ∀ entityType ∈ schema.knownTypes domain,
      InScope schema selects domain entityType := by
    intro entityType found
    obtain ⟨known, inDomain⟩ := Schema.mem_knownTypes.mp found
    exact .domain known inDomain
  obtain ⟨entry, stands, asking⟩ := mem_layeredAttributes.mp member
  obtain ⟨within, allowed⟩ := layersFrom_sound (fun _ reached => reached.known) closed first
    (fun _ applies => applies) entry stands
  obtain ⟨entityType, inside, select, applies, asks⟩ :=
    (mem_attributesOn fun _ inside => (within _ inside).known).mp asking
  exact mem_attributes_transitive.mpr
    ⟨entityType, within _ inside, select, allowed _ applies, asks⟩

/-! From the scope to layers. -/

/-- The type stands in the layer and in no earlier one. -/
def FirstIn (schema : Schema) (selects : List Select) (domain : List TypeId) (layer : Nat)
    (entityType : EntityType) : Prop :=
  InLayer schema selects domain layer entityType ∧
    ∀ other, InLayer schema selects domain other entityType → layer ≤ other

theorem InLayer.exists_first (reached : InLayer schema listed domain layer entityType) :
    ∃ first, FirstIn schema listed domain first entityType := by
  classical
  have some : ∃ layer, InLayer schema listed domain layer entityType := ⟨layer, reached⟩
  exact ⟨Nat.find some, Nat.find_spec some, fun _ stands => Nat.find_min' some stands⟩

/-- A type stands first behind a type that stands first in the layer before, since an earlier layer
of the one would give an earlier layer of the other. -/
theorem FirstIn.previous (positive : 1 ≤ layer)
    (first : FirstIn schema listed domain (layer + 1) entityType) :
    ∃ previous, FirstIn schema listed domain layer previous := by
  obtain ⟨stands, least⟩ := first
  cases stands with
  | domain => omega
  | @next _ previous _ select stands asked active leads =>
    refine ⟨previous, stands, fun earlier again => ?_⟩
    by_contra less
    have activeEarlier := activeAt_of_le again.positive (Nat.le_of_not_le less) active
    have sooner := least (earlier + 1) (.next again asked activeEarlier leads)
    omega

theorem FirstIn.below {later : Nat} (positive : 1 ≤ layer) (after : layer ≤ later)
    (first : FirstIn schema listed domain later entityType) :
    ∃ earlier, FirstIn schema listed domain layer earlier := by
  induction later, after using Nat.le_induction generalizing entityType with
  | base => exact ⟨entityType, first⟩
  | succ later after ih =>
    obtain ⟨previous, stands⟩ := first.previous (positive.trans after)
    exact ih stands

/-- The layers up to a first one have types of their own, so there are no more of them than
types. -/
theorem FirstIn.le_length (first : FirstIn schema listed domain layer entityType) :
    layer ≤ schema.types.length := by
  have each : ∀ lower ∈ Finset.Icc 1 layer,
      ∃ earlier, FirstIn schema listed domain lower earlier := by
    intro lower between
    obtain ⟨positive, after⟩ := Finset.mem_Icc.mp between
    exact first.below positive after
  have : Nonempty EntityType := ⟨entityType⟩
  choose! typeOf stands using each
  have known : Set.MapsTo typeOf (Finset.Icc 1 layer) schema.types.toFinset := by
    intro lower between
    exact List.mem_toFinset.mpr (stands lower between).1.known
  have apart : Set.InjOn typeOf (Finset.Icc 1 layer) := by
    intro left leftBetween right rightBetween same
    obtain ⟨leftStands, leftLeast⟩ := stands left leftBetween
    obtain ⟨rightStands, rightLeast⟩ := stands right rightBetween
    rw [same] at leftStands leftLeast
    exact Nat.le_antisymm (leftLeast right rightStands) (rightLeast left leftStands)
  calc
    layer = (Finset.Icc 1 layer).card := by simp
    _ ≤ schema.types.toFinset.card := Finset.card_le_card_of_injOn typeOf known apart
    _ ≤ schema.types.length := List.toFinset_card_le _

/-- Every type in scope stands in one of the first layers, as many as there are types, if the
selects reach so deep. -/
theorem exists_layer_of_inScope (deep : AtLeastDeep schema.types.length listed)
    (reached : InScope schema (listed.filterMap Select.scoped?) domain entityType) :
    ∃ layer ≤ schema.types.length, InLayer schema listed domain layer entityType := by
  induction reached with
  | domain known inDomain => exact ⟨1, List.length_pos_of_mem known, .domain known inDomain⟩
  | next _ follows ih =>
    obtain ⟨layer, early, stands⟩ := ih
    obtain ⟨select, asked, names, leads⟩ := follows
    have isListed := mem_scoped.mp asked
    have active : select.part.ActiveAt layer :=
      Part.activeAt_of_le_depth (Part.named_of_namesReferences names) fun depth given =>
        early.trans (deep select isListed depth given)
    obtain ⟨first, least⟩ := (InLayer.next stands (.inl isListed) active leads).exists_first
    exact ⟨first, least.le_length, least.1⟩

/-- The attributes of a transitive projection are attributes of the layered one, if the selects
reach as deep as there are types. -/
theorem mem_depthBounded_of_mem_transitive (named : NamedOnly listed)
    (deep : AtLeastDeep schema.types.length listed) {qualified : QualifiedSelect}
    (member : qualified ∈ Mode.transitive.attributes schema
      ((expand listed).filterMap Select.scoped?) domain) :
    qualified ∈ Mode.depthBounded.attributes schema ((expand listed).filterMap Select.scoped?)
      domain := by
  obtain ⟨entityType, select, reached, asked, asks⟩ := mem_attributes_expand.mp member
  have isListed := (asked_iff_listed named.1).mp asked
  have someType : 1 ≤ schema.types.length := List.length_pos_of_mem reached.known
  have positive (select : ScopedSelect) (given : .scoped select ∈ listed) :
      ∀ depth ∈ select.part.depth?, 1 ≤ depth :=
    fun depth own => someType.trans (deep select given depth own)
  obtain ⟨layer, early, stands⟩ := exists_layer_of_inScope deep reached
  have active : select.part.ActiveAt layer :=
    Part.activeAt_of_le_depth (named.2 select isListed) fun depth own =>
      early.trans (deep select isListed depth own)
  exact (mem_attributes_depthBounded positive).mpr
    ⟨layer, entityType, select, stands, asked, active, asks⟩

end

end Projection

open Projection

/-- Without wildcards the layered projection asks for nothing that the transitive one does not ask
for, and for the same if every named reference is asked for as deep as there are types. -/
theorem Schema.qualify_modes_agree (schema : Schema) (domain : List TypeId) (selects : List Select)
    (named : NamedOnly selects) :
    schema.qualify .depthBounded domain selects ⊆ schema.qualify .transitive domain selects ∧
    (AtLeastDeep schema.types.length selects → ∀ qualified,
      qualified ∈ schema.qualify .depthBounded domain selects ↔
        qualified ∈ schema.qualify .transitive domain selects) := by
  have scopedNamed : ∀ select ∈ (expand selects).filterMap Select.scoped?, select.part.Named := by
    intro select member
    rw [mem_scoped, mem_expand, asked_iff_listed named.1] at member
    exact named.2 select member
  have within (qualified : QualifiedSelect) :
      qualified ∈ schema.qualify .depthBounded domain selects →
        qualified ∈ schema.qualify .transitive domain selects := by
    simp only [qualify_eq, List.mem_append, mem_distinct]
    exact Or.imp_left (mem_transitive_of_mem_depthBounded scopedNamed)
  refine ⟨within, fun deep qualified => ⟨within qualified, ?_⟩⟩
  simp only [qualify_eq, List.mem_append, mem_distinct]
  exact Or.imp_left (mem_depthBounded_of_mem_transitive named deep)

/-- The collection is reached from the concepts in one step, and what refers to it in another. -/
theorem qualify_modes_agree_cyclicSchema :
    let domain : List TypeId := [⟨.ofNat 7, "Concept"⟩]
    let selects : List Select := [.scoped ⟨.any, .reference "memberOf" 2⟩,
      .scoped ⟨.typeNamed "Collection", .referrer "memberOf" 3⟩, .scoped ⟨.any, .allProperties⟩,
      .nodeId]
    NamedOnly selects ∧ AtLeastDeep cyclicSchema.types.length selects ∧
    cyclicSchema.qualify .depthBounded domain selects ⊆
      cyclicSchema.qualify .transitive domain selects ∧
    ∀ qualified, qualified ∈ cyclicSchema.qualify .depthBounded domain selects ↔
      qualified ∈ cyclicSchema.qualify .transitive domain selects := by
  intro domain selects
  have named : NamedOnly selects := by
    refine ⟨by decide, fun select listed => ?_⟩
    simp only [selects, List.mem_cons, Select.scoped.injEq, reduceCtorEq, List.not_mem_nil,
      or_false] at listed
    rcases listed with rfl | rfl | rfl <;> exact ⟨by decide, by decide⟩
  have deep : AtLeastDeep cyclicSchema.types.length selects := by
    intro select listed
    simp only [selects, List.mem_cons, Select.scoped.injEq, reduceCtorEq, List.not_mem_nil,
      or_false] at listed
    rcases listed with rfl | rfl | rfl <;> decide
  obtain ⟨within, same⟩ := cyclicSchema.qualify_modes_agree domain selects named
  exact ⟨named, deep, within, same deep⟩

end NodeQuery
