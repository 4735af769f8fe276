import NodeQuery.Proofs.Projection.Layers
import NodeQuery.Proofs.Projection.Reading

/-! How far the counter of a layered projection goes. There is a layer of some number just if a
chain of that many types ends in one on which a select is still active. The depth of a select may be
as large as the largest number that the counter can hold, so round a circle of references the
counter can be taken past it; without circles the number of types bounds it. -/

namespace NodeQuery

namespace Projection

section

variable {schema : Schema} {domain : List TypeId} {listed : List Select} {layer : Nat}
  {types : List EntityType} {selects : List ScopedSelect}

/-- The layers from one on go as far as there are chains with an active select at their end. -/
theorem lt_length_layersFrom (positive : 1 ≤ layer)
    (reached : ∀ entityType, entityType ∈ types ↔ InLayer schema listed domain layer entityType)
    (active : ∀ select, select ∈ selects ↔ Asked listed select ∧ select.part.ActiveAt layer)
    (steps : Nat) : steps < (layersFrom schema layer types selects).length ↔
      ∃ entityType select, InLayer schema listed domain (layer + steps) entityType ∧
        Asked listed select ∧ select.part.ActiveAt (layer + steps) := by
  fun_induction layersFrom schema layer types selects generalizing steps with
  | case1 layer types selects ended =>
    refine iff_of_false (Nat.not_lt_zero steps) ?_
    intro given
    obtain ⟨entityType, select, chain, asked, activeLater⟩ := given
    exact not_active_of_ended positive reached active ended (Nat.le_add_right layer steps) chain
      asked activeLater
  | case2 layer types selects going ih =>
    cases steps with
    | zero =>
      obtain ⟨someType, someSelect⟩ := not_or.mp going
      obtain ⟨entityType, member⟩ := List.exists_mem_of_ne_nil types someType
      obtain ⟨select, applies⟩ := List.exists_mem_of_ne_nil selects someSelect
      refine iff_of_true (Nat.succ_pos _) ⟨entityType, select, (reached _).mp member, ?_⟩
      exact (active select).mp applies
    | succ steps =>
      rw [List.length_cons, Nat.succ_lt_succ_iff,
        ih (by omega) (mem_beyond_iff_inLayer positive reached active)
          (mem_lasting_iff_activeAt positive active), Nat.add_right_comm, Nat.add_assoc]

end

variable {schema : Schema} {domain : List TypeId} {listed : List Select}

theorem lastCount_le_iff {bound : Nat} (some : 1 ≤ bound)
    (positive : ∀ select : ScopedSelect, .scoped select ∈ listed →
      ∀ depth ∈ select.part.depth?, 1 ≤ depth) :
    lastCount schema domain listed ≤ bound ↔
      ¬∃ entityType select, InLayer schema listed domain bound entityType ∧
        Asked listed select ∧ select.part.ActiveAt bound := by
  have run := lt_length_layersFrom (le_refl 1) (mem_knownTypes_iff_inLayer schema domain listed)
    (mem_scoped_expand_iff_activeAt positive) (bound - 1)
  rw [Nat.add_sub_cancel' some] at run
  rw [← run, lastCount_eq, layers]
  omega

/-- The depths of selects that were read. -/
theorem depth_of_readList {text : String} (read : Select.readList text = .ok listed)
    {select : ScopedSelect} (member : .scoped select ∈ listed) :
    ∀ depth ∈ select.part.depth?, 1 ≤ depth ∧ depth ≤ largestDepth := by
  have expressible := Select.expressible_of_readList read _ member
  obtain ⟨qualifier, part⟩ := select
  cases part <;> simp [Select.expressible, Part.expressible, Part.depth?] at expressible ⊢ <;> omega

/-! Schemas without circles. -/

/-- A select that is asked for leads from one type to another. -/
def Steps (schema : Schema) (listed : List Select) (entityType other : EntityType) : Prop :=
  ∃ select, Asked listed select ∧ select.Leads schema entityType other

/-- The types that a chain passes, from its end back to its beginning. -/
theorem InLayer.exists_passed {layer : Nat} {entityType : EntityType}
    (reached : InLayer schema listed domain layer entityType) :
    ∃ passed, (entityType :: passed).length = layer ∧
      (entityType :: passed).IsChain (fun later earlier => Steps schema listed earlier later) ∧
      ∀ other ∈ entityType :: passed, other ∈ schema.types := by
  induction reached with
  | domain known _ => exact ⟨[], rfl, .singleton _, List.forall_mem_singleton.mpr known⟩
  | @next layer entityType other select _ asked active leads ih =>
    obtain ⟨passed, length, chain, known⟩ := ih
    refine ⟨entityType :: passed, congrArg Nat.succ length, ?_, ?_⟩
    · exact List.isChain_cons_cons.mpr ⟨⟨select, asked, leads⟩, chain⟩
    · exact List.forall_mem_cons.mpr ⟨ScopedSelect.known_of_leads leads, known⟩

/-- Without circles no chain passes a type twice. -/
theorem InLayer.le_length {layer : Nat} {entityType : EntityType}
    (acyclic : ∀ entityType, ¬Relation.TransGen (Steps schema listed) entityType entityType)
    (reached : InLayer schema listed domain layer entityType) : layer ≤ schema.types.length := by
  obtain ⟨passed, length, chain, known⟩ := reached.exists_passed
  let Before (later earlier : EntityType) : Prop :=
    Relation.TransGen (Steps schema listed) earlier later
  have trans : Trans Before Before Before := ⟨fun last first => first.trans last⟩
  have ordered : (entityType :: passed).Pairwise Before :=
    List.isChain_iff_pairwise.mp (chain.imp fun _ _ step => .single step)
  have nodup : (entityType :: passed).Nodup := by
    refine ordered.imp fun {later earlier} before => ?_
    rintro rfl
    exact acyclic later before
  rw [← length]
  exact (nodup.subperm known).length_le

/-! Round a circle. -/

/-- A type that a select leads back to stands in all layers in which the select is active. -/
theorem inLayer_of_circle {layer : Nat} {entityType : EntityType} {select : ScopedSelect}
    (known : entityType ∈ schema.types) (inDomain : entityType.id ∈ domain)
    (asked : Asked listed select) (leads : select.Leads schema entityType entityType)
    (positive : 1 ≤ layer) (active : select.part.ActiveAt layer) :
    InLayer schema listed domain layer entityType := by
  induction layer, positive using Nat.le_induction with
  | base => exact .domain known inDomain
  | succ layer positive ih =>
    have before : select.part.ActiveAt layer :=
      activeAt_of_le positive (Nat.le_succ layer) active
    exact .next (ih before) asked before leads

end Projection

open Projection

/-- The counter fits into its machine word just if no chain of as many types as the largest number
ends where a select is still active. So it fits if no select asks for one of the two largest
depths, and it stays near the number of types if the selects lead round no circle. -/
theorem Schema.lastCount_fits (schema : Schema) (domain : List TypeId) {text : String}
    {selects : List Select} (read : Select.readList text = .ok selects) :
    (lastCount schema domain selects ≤ largestDepth ↔
      ¬∃ entityType select, InLayer schema selects domain largestDepth entityType ∧
        Asked selects select ∧ select.part.ActiveAt largestDepth) ∧
    (largestNamedDepth selects + 2 ≤ largestDepth →
      lastCount schema domain selects ≤ largestDepth) ∧
    ((∀ entityType, ¬Relation.TransGen (Steps schema selects) entityType entityType) →
      lastCount schema domain selects ≤ schema.types.length + 1) := by
  have positive (select : ScopedSelect) (member : .scoped select ∈ selects) :
      ∀ depth ∈ select.part.depth?, 1 ≤ depth :=
    fun depth given => (depth_of_readList read member depth given).1
  refine ⟨lastCount_le_iff (by decide) positive, fun shallow => ?_, fun acyclic => ?_⟩
  · exact lastCount_le.trans shallow
  · refine (lastCount_le_iff (Nat.succ_pos _) positive).mpr fun given => ?_
    obtain ⟨entityType, select, chain, _⟩ := given
    exact absurd (chain.le_length acyclic) (Nat.not_succ_le_self _)

/-- Three layers of concepts, and a fourth for their texts. -/
theorem lastCount_fits_cyclicSchema :
    ∃ selects, Select.readList "references.broader:3, properties.*" = .ok selects ∧
      lastCount cyclicSchema [⟨.ofNat 7, "Concept"⟩] selects ≤ largestDepth := by
  have read : Select.readList "references.broader:3, properties.*" =
      .ok [.scoped ⟨.any, .reference "broader" 3⟩, .scoped ⟨.any, .allProperties⟩] := by cbv
  exact ⟨_, read, (cyclicSchema.lastCount_fits _ read).2.1 (by decide)⟩

/-- The parser takes the largest depth, and the counter of the projection goes past it. -/
theorem lastCount_exceeds_cyclicSchema :
    ∃ selects, Select.readList "references.broader:4294967295" = .ok selects ∧
      UInt32.size ≤ lastCount cyclicSchema [⟨.ofNat 7, "Concept"⟩] selects := by
  let broader : ScopedSelect := ⟨.any, .reference "broader" largestDepth⟩
  have read : Select.readList "references.broader:4294967295" = .ok [.scoped broader] := by cbv
  obtain ⟨concept, known, named, declared⟩ : ∃ concept ∈ cyclicSchema.types,
      concept.id = ⟨.ofNat 7, "Concept"⟩ ∧
        ⟨concept.id, "broader", concept.id⟩ ∈ concept.referenceAttributes :=
    ⟨_, List.mem_cons_self, rfl, by decide⟩
  have leads : broader.Leads cyclicSchema concept concept :=
    ⟨rfl, .forward (.named "broader" largestDepth) known declared⟩
  have asked : Asked [.scoped broader] broader := .inl (List.mem_singleton_self _)
  have active : broader.part.ActiveAt largestDepth := le_refl largestDepth
  have chain := inLayer_of_circle known (List.mem_singleton.mpr named) asked leads (by decide)
    active
  refine ⟨_, read, Nat.lt_of_not_le fun fits => ?_⟩
  refine (lastCount_le_iff (by decide) fun select member depth given => ?_).mp fits
    ⟨concept, broader, chain, asked, active⟩
  exact (depth_of_readList read member depth given).1

end NodeQuery
