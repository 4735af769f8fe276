import NodeQuery.Proofs.Projection.Qualification

/-! Layers. In each layer stand the types at the end of the chains of as many types whose steps were
all allowed by a select active at the step. The layers stop by themselves: a select that leads on
has fewer layers left in the next one, and types without further steps have no layer behind them.
The counter that the loop keeps goes up once for each of them. -/

namespace NodeQuery

namespace Part

/-- A part applies in a layer, the first of which has number one. -/
def ActiveAt (layer : Nat) : Part → Prop
  | .allProperties => True
  | .property _ => True
  | .allReferences => layer = 1
  | .allReferrers => layer = 1
  | .reference _ depth => layer ≤ depth
  | .referrer _ depth => layer ≤ depth

/-- The depth of a reference or a referrer that is asked for by its name. -/
def depth? : Part → Option Nat
  | .reference _ depth => some depth
  | .referrer _ depth => some depth
  | _ => none

end Part

namespace Projection

/-- The last type of a chain of known types, as many as the number of the layer, that begins in the
domain and goes on along attributes that an active select asks for. -/
inductive InLayer (schema : Schema) (selects : List Select) (domain : List TypeId) :
    Nat → EntityType → Prop
  | domain {entityType : EntityType} (known : entityType ∈ schema.types)
      (listed : entityType.id ∈ domain) : InLayer schema selects domain 1 entityType
  | next {layer : Nat} {entityType other : EntityType} {select : ScopedSelect}
      (reached : InLayer schema selects domain layer entityType) (asked : Asked selects select)
      (active : select.part.ActiveAt layer) (leads : select.Leads schema entityType other) :
      InLayer schema selects domain (layer + 1) other

/-- The largest depth of a reference or referrer asked for by its name, and one if there is none. -/
def largestNamedDepth (selects : List Select) : Nat :=
  ((selects.filterMap Select.scoped?).filterMap (·.part.depth?)).foldr max 1

section

variable {schema : Schema} {domain : List TypeId} {listed : List Select} {layer : Nat}
  {types : List EntityType} {selects : List ScopedSelect}

theorem activeAt_succ (positive : 1 ≤ layer) (select : ScopedSelect) :
    select.part.ActiveAt (layer + 1) ↔ select.part.ActiveAt layer ∧ lasts layer select = true := by
  obtain ⟨qualifier, part⟩ := select
  cases part <;> simp [Part.ActiveAt, lasts] <;> omega

theorem activeAt_of_le {later : Nat} {select : ScopedSelect} (positive : 1 ≤ layer)
    (after : layer ≤ later) (active : select.part.ActiveAt later) :
    select.part.ActiveAt layer := by
  induction later, after using Nat.le_induction with
  | base => exact active
  | succ later after ih =>
    exact ih ((activeAt_succ (positive.trans after) select).mp active).1

theorem InLayer.known {entityType : EntityType}
    (reached : InLayer schema listed domain layer entityType) : entityType ∈ schema.types := by
  cases reached with
  | domain known _ => exact known
  | next _ _ _ leads => exact ScopedSelect.known_of_leads leads

theorem InLayer.positive {entityType : EntityType}
    (reached : InLayer schema listed domain layer entityType) : 1 ≤ layer := by
  cases reached <;> omega

/-- A chain passes through all earlier layers. -/
theorem InLayer.earlier {later : Nat} {entityType : EntityType} (positive : 1 ≤ layer)
    (after : layer ≤ later) (reached : InLayer schema listed domain later entityType) :
    ∃ earlier, InLayer schema listed domain layer earlier := by
  induction later, after using Nat.le_induction generalizing entityType with
  | base => exact ⟨entityType, reached⟩
  | succ later after ih =>
    cases reached with
    | domain => omega
    | next reached => exact ih reached

theorem mem_beyond (known : ∀ entityType ∈ types, entityType ∈ schema.types) {other : EntityType} :
    other ∈ beyond schema types selects ↔
      ∃ entityType ∈ types, ∃ select ∈ selects, select.Leads schema entityType other := by
  unfold beyond
  rw [Schema.mem_knownTypes]
  simp only [List.mem_flatMap]
  constructor
  · intro given
    obtain ⟨inside, entityType, member, select, asked, target⟩ := given
    exact ⟨entityType, member, select, asked, (ScopedSelect.exists_target_iff (known _ member)).mp
      ⟨_, target, Schema.get?_eq_some_iff.mpr ⟨inside, rfl⟩⟩⟩
  · intro given
    obtain ⟨entityType, member, select, asked, leads⟩ := given
    obtain ⟨id, target, found⟩ := (ScopedSelect.exists_target_iff (known _ member)).mpr leads
    obtain ⟨inside, rfl⟩ := Schema.get?_eq_some_iff.mp found
    exact ⟨inside, entityType, member, select, asked, target⟩

section Step

variable (positive : 1 ≤ layer)
  (reached : ∀ entityType, entityType ∈ types ↔ InLayer schema listed domain layer entityType)
  (active : ∀ select, select ∈ selects ↔ Asked listed select ∧ select.part.ActiveAt layer)

include positive reached active in
/-- The types of the next layer are those that the selects of one lead to from its types. -/
theorem mem_beyond_iff_inLayer (other : EntityType) : other ∈ beyond schema types selects ↔
    InLayer schema listed domain (layer + 1) other := by
  rw [mem_beyond fun entityType member => ((reached entityType).mp member).known]
  constructor
  · intro given
    obtain ⟨entityType, member, select, applies, leads⟩ := given
    obtain ⟨asked, activeHere⟩ := (active select).mp applies
    exact .next ((reached entityType).mp member) asked activeHere leads
  · intro chain
    cases chain with
    | domain => omega
    | next chain asked activeHere leads =>
      exact ⟨_, (reached _).mpr chain, _, (active _).mpr ⟨asked, activeHere⟩, leads⟩

include positive active in
/-- The selects of the next layer are those of one that last. -/
theorem mem_lasting_iff_activeAt (select : ScopedSelect) : select ∈ lasting layer selects ↔
    Asked listed select ∧ select.part.ActiveAt (layer + 1) := by
  unfold lasting
  rw [List.mem_filter, active, activeAt_succ positive, and_assoc]

include positive reached active in
/-- After the last layer no select is active on any type. -/
theorem not_active_of_ended (ended : types = [] ∨ selects = []) {later : Nat}
    (after : layer ≤ later) {entityType : EntityType}
    (chain : InLayer schema listed domain later entityType) {select : ScopedSelect}
    (asked : Asked listed select) : ¬select.part.ActiveAt later := by
  intro activeLater
  rcases ended with rfl | rfl
  · obtain ⟨earlier, passed⟩ := chain.earlier positive after
    exact List.not_mem_nil ((reached earlier).mpr passed)
  · exact List.not_mem_nil
      ((active select).mpr ⟨asked, activeAt_of_le positive after activeLater⟩)

end Step

/-- Where the types of a layer and its selects are the right ones, so are those of all layers from
it on. -/
theorem mem_layersFrom (positive : 1 ≤ layer)
    (reached : ∀ entityType, entityType ∈ types ↔ InLayer schema listed domain layer entityType)
    (active : ∀ select, select ∈ selects ↔ Asked listed select ∧ select.part.ActiveAt layer)
    (entityType : EntityType) (select : ScopedSelect) :
    (∃ entry ∈ layersFrom schema layer types selects,
        entityType ∈ entry.types ∧ select ∈ entry.selects) ↔
      ∃ later, layer ≤ later ∧ InLayer schema listed domain later entityType ∧
        Asked listed select ∧ select.part.ActiveAt later := by
  fun_induction layersFrom schema layer types selects with
  | case1 layer types selects ended =>
    simp only [List.not_mem_nil, false_and, exists_false, false_iff]
    intro given
    obtain ⟨later, after, chain, asked, activeLater⟩ := given
    exact not_active_of_ended positive reached active ended after chain asked activeLater
  | case2 layer types selects going ih =>
    rw [List.exists_mem_cons_iff, ih (by omega) (mem_beyond_iff_inLayer positive reached active)
      (mem_lasting_iff_activeAt positive active), reached, active]
    constructor
    · intro given
      rcases given with ⟨chain, asked, activeHere⟩ | ⟨later, after, rest⟩
      · exact ⟨layer, le_refl _, chain, asked, activeHere⟩
      · exact ⟨later, by omega, rest⟩
    · intro given
      obtain ⟨later, after, chain, asked, activeLater⟩ := given
      rcases Nat.eq_or_lt_of_le after with rfl | less
      · exact .inl ⟨chain, asked, activeLater⟩
      · exact .inr ⟨later, less, chain, asked, activeLater⟩

/-- There is at most one layer more than the selects lead on from. -/
theorem length_layersFrom {bound : Nat}
    (left : ∀ select ∈ selects, layersLeft layer select ≤ bound) :
    (layersFrom schema layer types selects).length ≤ bound + 1 := by
  fun_induction layersFrom schema layer types selects generalizing bound with
  | case1 layer types selects done => exact Nat.zero_le _
  | case2 layer types selects going ih =>
    cases bound with
    | zero =>
      have nowhere : beyond schema types selects = [] :=
        beyond_eq_nil schema (fun select member => Nat.le_zero.mp (left select member)) types
      rw [nowhere, layersFrom, dif_pos (.inl rfl)]
      rfl
    | succ bound =>
      refine Nat.succ_le_succ (ih fun select member => ?_)
      obtain ⟨applies, remains⟩ := List.mem_filter.mp member
      have := left select applies
      rw [layersLeft_succ remains]
      omega

theorem known_of_mem_layersFrom (known : ∀ entityType ∈ types, entityType ∈ schema.types) :
    ∀ entry ∈ layersFrom schema layer types selects, ∀ entityType ∈ entry.types,
      entityType ∈ schema.types := by
  fun_induction layersFrom schema layer types selects with
  | case1 => exact fun _ none => absurd none List.not_mem_nil
  | case2 layer types selects going ih =>
    refine List.forall_mem_cons.mpr ⟨known, ih fun entityType member => ?_⟩
    exact (Schema.mem_knownTypes.mp member).1

/-- The wildcards have no depth of their own. -/
theorem depth?_eq_none {select : ScopedSelect} (wildcard : .scoped select ∈ wildcards) :
    select.part.depth? = none := by
  simp only [wildcards, List.mem_cons, List.not_mem_nil, or_false, Select.scoped.injEq] at wildcard
  rcases wildcard with rfl | rfl | rfl <;> rfl

theorem Asked.listed_of_depth {select : ScopedSelect} {depth : Nat} (asked : Asked listed select)
    (named : select.part.depth? = some depth) : .scoped select ∈ listed := by
  rcases asked with listed | ⟨_, wildcard⟩
  · exact listed
  · cases (depth?_eq_none wildcard).symm.trans named

theorem activeAt_one {part : Part} (positive : ∀ depth ∈ part.depth?, 1 ≤ depth) :
    part.ActiveAt 1 := by
  cases part with
  | allProperties => trivial
  | property name => trivial
  | allReferences => rfl
  | allReferrers => rfl
  | reference name depth => exact positive depth rfl
  | referrer name depth => exact positive depth rfl

variable (schema domain listed) in
/-- The first layer is the domain. -/
theorem mem_knownTypes_iff_inLayer (entityType : EntityType) :
    entityType ∈ schema.knownTypes domain ↔ InLayer schema listed domain 1 entityType := by
  rw [Schema.mem_knownTypes]
  constructor
  · intro given
    exact .domain given.1 given.2
  · intro chain
    cases chain with
    | domain known inDomain => exact ⟨known, inDomain⟩
    | next chain => exact absurd chain.positive (by decide)

theorem mem_scoped_expand_iff_activeAt
    (positive : ∀ select : ScopedSelect, .scoped select ∈ listed →
      ∀ depth ∈ select.part.depth?, 1 ≤ depth) (select : ScopedSelect) :
    select ∈ (expand listed).filterMap Select.scoped? ↔
      Asked listed select ∧ select.part.ActiveAt 1 := by
  rw [mem_scoped, mem_expand]
  refine (and_iff_left_of_imp fun asked => activeAt_one fun depth named => ?_).symm
  exact positive select (asked.listed_of_depth named) depth named

/-- The attributes of a layered projection are those that a select asks for of a type in a layer in
which it is active. -/
theorem mem_attributes_depthBounded
    (positive : ∀ select : ScopedSelect, .scoped select ∈ listed →
      ∀ depth ∈ select.part.depth?, 1 ≤ depth) {qualified : QualifiedSelect} :
    qualified ∈ Mode.depthBounded.attributes schema ((expand listed).filterMap Select.scoped?)
        domain ↔
      ∃ layer entityType select, InLayer schema listed domain layer entityType ∧
        Asked listed select ∧ select.part.ActiveAt layer ∧
          select.Asks schema entityType qualified := by
  have run := mem_layersFrom (le_refl 1) (mem_knownTypes_iff_inLayer schema domain listed)
    (mem_scoped_expand_iff_activeAt positive)
  have known : ∀ entry ∈ layers schema ((expand listed).filterMap Select.scoped?) domain,
      ∀ entityType ∈ entry.types, entityType ∈ schema.types :=
    known_of_mem_layersFrom fun _ member => (Schema.mem_knownTypes.mp member).1
  simp only [Mode.attributes, mem_layeredAttributes]
  constructor
  · intro given
    obtain ⟨entry, member, asking⟩ := given
    obtain ⟨entityType, inside, select, applies, asks⟩ :=
      (mem_attributesOn (known entry member)).mp asking
    obtain ⟨layer, _, chain, asked, activeThere⟩ := (run _ _).mp ⟨entry, member, inside, applies⟩
    exact ⟨layer, entityType, select, chain, asked, activeThere, asks⟩
  · intro given
    obtain ⟨layer, entityType, select, chain, asked, activeThere, asks⟩ := given
    obtain ⟨entry, member, inside, applies⟩ :=
      (run _ _).mpr ⟨layer, chain.positive, chain, asked, activeThere⟩
    exact ⟨entry, member,
      (mem_attributesOn (known entry member)).mpr ⟨entityType, inside, select, applies, asks⟩⟩

theorem le_foldr_max (first : Nat) (depths : List Nat) :
    first ≤ depths.foldr max first ∧ ∀ depth ∈ depths, depth ≤ depths.foldr max first := by
  induction depths with
  | nil => exact ⟨le_refl first, fun _ none => absurd none List.not_mem_nil⟩
  | cons depth depths ih =>
    refine ⟨ih.1.trans (le_max_right _ _), List.forall_mem_cons.mpr ⟨le_max_left _ _, ?_⟩⟩
    exact fun other member => (ih.2 other member).trans (le_max_right _ _)

theorem le_largestNamedDepth {select : ScopedSelect} (asked : .scoped select ∈ listed) :
    ∀ depth ∈ select.part.depth?, depth ≤ largestNamedDepth listed :=
  fun depth named => (le_foldr_max 1 _).2 depth
    (List.mem_filterMap.mpr ⟨select, mem_scoped.mpr asked, named⟩)

theorem layersLeft_one_le {bound : Nat} (one : 1 ≤ bound) {select : ScopedSelect}
    (deep : ∀ depth ∈ select.part.depth?, depth ≤ bound) : layersLeft 1 select ≤ bound := by
  obtain ⟨qualifier, part⟩ := select
  cases part <;> simp [Part.depth?, layersLeft] at deep ⊢ <;> omega

/-- The counter goes up by one with each of the layers that are left. -/
theorem Descent.layer_finished (descent : Descent) : (descent.finished schema).layer =
    descent.layer + (layersFrom schema descent.layer descent.types descent.selects).length := by
  fun_induction Descent.finished schema descent with
  | case1 descent ended =>
    rw [layersFrom_ended ended]
    rfl
  | case2 descent going ih =>
    rw [ih, layersFrom_going going, List.length_cons, Nat.add_comm _ 1, ← Nat.add_assoc]
    rfl

variable (schema domain listed) in
/-- What the counter of a layered projection comes to. It begins at one and goes up by one with each
layer. -/
def lastCount : Nat :=
  ((Descent.start schema ((expand listed).filterMap Select.scoped?) domain).finished schema).layer

theorem lastCount_eq : lastCount schema domain listed =
    (layers schema ((expand listed).filterMap Select.scoped?) domain).length + 1 := by
  unfold lastCount
  rw [Descent.layer_finished, Nat.add_comm]
  rfl

/-- There is at most one layer more than the largest depth, and the counter goes one beyond the
last. -/
theorem lastCount_le : lastCount schema domain listed ≤ largestNamedDepth listed + 2 := by
  rw [lastCount_eq]
  refine Nat.succ_le_succ (length_layersFrom fun select member => ?_)
  rw [mem_scoped, mem_expand] at member
  exact layersLeft_one_le (le_foldr_max 1 _).1 fun depth named =>
    le_largestNamedDepth (member.listed_of_depth named) depth named

end

end Projection

open Projection

/-- A layered projection asks for each attribute that a select asks for of a type in a layer in
which it is active, and then for what is listed besides, all of it once. It goes through no more
than one layer beyond the largest depth: its counter, which stands at one in the first layer, comes
to two more than the depth at most. -/
theorem Schema.qualify_depthBounded (schema : Schema) (domain : List TypeId) (selects : List Select)
    (positive : ∀ select : ScopedSelect, .scoped select ∈ selects →
      ∀ depth ∈ select.part.depth?, 1 ≤ depth) :
    (schema.qualify .depthBounded domain selects).Nodup ∧
    (∃ attributes, schema.qualify .depthBounded domain selects =
        attributes ++ distinct (selects.filterMap Select.unscoped?) ∧
      ∀ qualified, qualified ∈ attributes ↔ ∃ layer entityType select,
        InLayer schema selects domain layer entityType ∧ Asked selects select ∧
          select.part.ActiveAt layer ∧ select.Asks schema entityType qualified) ∧
    lastCount schema domain selects ≤ largestNamedDepth selects + 2 := by
  refine ⟨nodup_distinct _, ⟨_, qualify_eq .depthBounded selects, fun qualified => ?_⟩,
    lastCount_le⟩
  rw [mem_distinct, mem_attributes_depthBounded positive]

/-- Concepts with labels that refer to broader ones and to the collection that they are members of,
which refers back to them. -/
def cyclicSchema : Schema :=
  let concept := EntityType.bare ⟨.ofNat 7, "Concept"⟩
  let collection := EntityType.bare ⟨.ofNat 7, "Collection"⟩
  (Schema.empty.extend
    (((concept.withText "prefLabel").withReference "broader" concept.id).withReference "memberOf"
      collection.id) rfl
    (by simp [EntityType.Domestic, EntityType.withReference, EntityType.withText, concept,
      EntityType.bare])).extend
      (collection.withReference "member" concept.id) rfl
      (by simp [EntityType.Domestic, EntityType.withReference, collection, EntityType.bare])

theorem qualify_depthBounded_cyclicSchema :
    let domain : List TypeId := [⟨.ofNat 7, "Concept"⟩]
    let selects : List Select := [.scoped ⟨.any, .reference "broader" 2⟩,
      .scoped ⟨.typeNamed "Concept", .reference "memberOf" 3⟩, .scoped ⟨.any, .allReferrers⟩]
    (cyclicSchema.qualify .depthBounded domain selects).Nodup ∧
    (∃ attributes, cyclicSchema.qualify .depthBounded domain selects =
        attributes ++ distinct (selects.filterMap Select.unscoped?) ∧
      ∀ qualified, qualified ∈ attributes ↔ ∃ layer entityType select,
        InLayer cyclicSchema selects domain layer entityType ∧ Asked selects select ∧
          select.part.ActiveAt layer ∧ select.Asks cyclicSchema entityType qualified) ∧
    lastCount cyclicSchema domain selects ≤ largestNamedDepth selects + 2 := by
  intro domain selects
  refine cyclicSchema.qualify_depthBounded domain selects fun select listed => ?_
  simp only [selects, List.mem_cons, Select.scoped.injEq, List.not_mem_nil, or_false] at listed
  rcases listed with rfl | rfl | rfl <;> decide

end NodeQuery
