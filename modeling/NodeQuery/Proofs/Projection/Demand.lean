import NodeQuery.Projection.Qualification
import NodeQuery.Proofs.Schema.Declaration

/-! What selects ask for of a type. Texts and references are declared on the type itself; a
referrer is a reference that another type of the snapshot declares with this type as its range.
References of both kinds lead to the type at their other end, if the snapshot has it. -/

namespace NodeQuery

namespace Schema

variable {schema : Schema}

theorem mem_knownTypes {domain : List TypeId} {entityType : EntityType} :
    entityType ∈ schema.knownTypes domain ↔ entityType ∈ schema.types ∧ entityType.id ∈ domain := by
  simp only [knownTypes, mem_distinct, List.mem_filterMap, get?_eq_some_iff]
  constructor
  · intro given
    obtain ⟨_, listed, known, rfl⟩ := given
    exact ⟨known, listed⟩
  · intro given
    obtain ⟨known, listed⟩ := given
    exact ⟨_, listed, known, rfl⟩

/-- The references that range over a type are those that types of the snapshot declare so. -/
theorem mem_referrersOf {range : TypeId} {reference : ReferenceAttribute} :
    reference ∈ schema.referrersOf range ↔ ∃ source ∈ schema.types,
      reference ∈ source.referenceAttributes ∧ reference = ⟨source.id, reference.name, range⟩ := by
  simp only [referrersOf, schema.indexed, List.mem_filter, List.mem_flatMap, decide_eq_true_eq]
  constructor
  · intro given
    obtain ⟨⟨source, known, declared⟩, rfl⟩ := given
    refine ⟨source, known, declared, ?_⟩
    rw [← (schema.domestic source known).2 reference declared]
  · intro given
    obtain ⟨source, known, declared, same⟩ := given
    exact ⟨⟨source, known, declared⟩, by rw [same]⟩

end Schema

/-- Of the qualifiers only the one for any type admits all types. -/
theorem Qualifier.isAny_iff {qualifier : Qualifier} :
    qualifier.isAny = true ↔ ∀ id, qualifier.admits id = true := by
  have longer (name : String) : name ++ "." ≠ name :=
    fun same => by simpa using congrArg String.length same
  cases qualifier with
  | any => exact iff_of_true rfl fun _ => rfl
  | typeNamed name =>
    refine iff_of_false Bool.false_ne_true fun all => ?_
    have admitted := all ⟨.ofNat 0, name ++ "."⟩
    exact longer name (beq_iff_eq.mp admitted)
  | typeInGraph graph name =>
    refine iff_of_false Bool.false_ne_true fun all => ?_
    have admitted := all ⟨graph, name ++ "."⟩
    exact longer name (beq_iff_eq.mp (Bool.and_eq_true_iff.mp admitted).2)

/-- A select asks for attributes or is taken over as it stands, and never both. -/
theorem Select.isScoped_eq (select : Select) :
    select.scoped?.isSome = select.isScoped ∧ select.unscoped?.isSome = !select.isScoped := by
  cases select <;> exact ⟨rfl, rfl⟩

/-- Where the chosen items give the same, they give what the first of them gives. -/
theorem mem_map_filter_iff_find? {α β : Type} {items : List α} {chosen : α → Bool} {f : α → β}
    (alike : ∀ item ∈ items, ∀ other ∈ items, chosen item = true → chosen other = true →
      f item = f other) {result : β} :
    result ∈ (items.filter chosen).map f ↔ ∃ item ∈ items.find? chosen, f item = result := by
  constructor
  · intro given
    obtain ⟨item, member, rfl⟩ := List.mem_map.mp given
    obtain ⟨listed, chosenItem⟩ := List.mem_filter.mp member
    obtain ⟨first, found⟩ :=
      Option.isSome_iff_exists.mp (List.find?_isSome.mpr ⟨item, listed, chosenItem⟩)
    exact ⟨first, found, alike first (List.mem_of_find?_eq_some found) item listed
      (List.find?_some found) chosenItem⟩
  · intro given
    obtain ⟨item, found, rfl⟩ := given
    exact List.mem_map_of_mem (List.mem_filter.mpr
      ⟨List.mem_of_find?_eq_some found, List.find?_some found⟩)

namespace Part

/-- A part asks for texts of a name. -/
inductive AsksText : Part → String → Prop
  | all (name : String) : AsksText .allProperties name
  | named (name : String) : AsksText (.property name) name

/-- A part asks for references of a name, to a depth. -/
inductive AsksReference : Part → String → Nat → Prop
  | all (name : String) : AsksReference .allReferences name 1
  | named (name : String) (depth : Nat) : AsksReference (.reference name depth) name depth

/-- A part asks for referrers of a name, to a depth. -/
inductive AsksReferrer : Part → String → Nat → Prop
  | all (name : String) : AsksReferrer .allReferrers name 1
  | named (name : String) (depth : Nat) : AsksReferrer (.referrer name depth) name depth

/-- What a part asks for of one type. -/
inductive Asks (schema : Schema) (entityType : EntityType) (part : Part) : QualifiedSelect → Prop
  | property {name : String} (asked : part.AsksText name)
      (declared : ⟨entityType.id, name⟩ ∈ entityType.textAttributes) :
      Asks schema entityType part (.property ⟨entityType.id, name⟩)
  | reference {name : String} {depth : Nat} {range : TypeId} (asked : part.AsksReference name depth)
      (declared : ⟨entityType.id, name, range⟩ ∈ entityType.referenceAttributes) :
      Asks schema entityType part (.reference ⟨entityType.id, name⟩ depth)
  | referrer {name : String} {depth : Nat} {source : EntityType}
      (asked : part.AsksReferrer name depth) (known : source ∈ schema.types)
      (declared : ⟨source.id, name, entityType.id⟩ ∈ source.referenceAttributes) :
      Asks schema entityType part (.referrer ⟨entityType.id, name⟩ depth)

/-- The types of the snapshot at the other end of the references that a part asks for. -/
inductive Leads (schema : Schema) (entityType : EntityType) (part : Part) : EntityType → Prop
  | forward {name : String} {depth : Nat} {range : EntityType}
      (asked : part.AsksReference name depth) (known : range ∈ schema.types)
      (declared : ⟨entityType.id, name, range.id⟩ ∈ entityType.referenceAttributes) :
      Leads schema entityType part range
  | backward {name : String} {depth : Nat} {source : EntityType}
      (asked : part.AsksReferrer name depth) (known : source ∈ schema.types)
      (declared : ⟨source.id, name, entityType.id⟩ ∈ source.referenceAttributes) :
      Leads schema entityType part source

variable {schema : Schema} {entityType : EntityType} {part : Part}

theorem asks_text {text : TextAttribute} (known : entityType ∈ schema.types)
    (declared : text ∈ entityType.textAttributes) (asked : part.AsksText text.name) :
    part.Asks schema entityType (.property text.id) := by
  have domain := (schema.domestic entityType known).1 text declared
  unfold TextAttribute.id
  rw [domain]
  exact .property asked (by rwa [← domain])

theorem asks_reference {reference : ReferenceAttribute} {depth : Nat}
    (known : entityType ∈ schema.types) (declared : reference ∈ entityType.referenceAttributes)
    (asked : part.AsksReference reference.name depth) :
    part.Asks schema entityType (.reference reference.id depth) := by
  have domain := (schema.domestic entityType known).2 reference declared
  unfold ReferenceAttribute.id
  rw [domain]
  exact .reference asked (by rwa [← domain])

theorem asks_referrer {reference : ReferenceAttribute} {depth : Nat}
    (pointing : reference ∈ schema.referrersOf entityType.id)
    (asked : part.AsksReferrer reference.name depth) :
    part.Asks schema entityType (.referrer reference.rangeId depth) := by
  obtain ⟨source, known, declared, same⟩ := Schema.mem_referrersOf.mp pointing
  unfold ReferenceAttribute.rangeId
  rw [same]
  exact .referrer asked known (same ▸ declared)

/-- The attributes taken for a part are those that it asks for. -/
theorem mem_qualified (known : entityType ∈ schema.types) {qualified : QualifiedSelect} :
    qualified ∈ part.qualified schema entityType ↔ part.Asks schema entityType qualified := by
  constructor
  · intro member
    cases part with
    | allProperties =>
      obtain ⟨text, declared, rfl⟩ := List.mem_map.mp member
      exact asks_text known declared (.all _)
    | property name =>
      obtain ⟨text, chosen, rfl⟩ := List.mem_map.mp member
      obtain ⟨declared, named⟩ := List.mem_filter.mp chosen
      obtain rfl := of_decide_eq_true named
      exact asks_text known declared (.named _)
    | allReferences =>
      obtain ⟨reference, declared, rfl⟩ := List.mem_map.mp member
      exact asks_reference known declared (.all _)
    | reference name depth =>
      obtain ⟨reference, chosen, rfl⟩ := List.mem_map.mp member
      obtain ⟨declared, named⟩ := List.mem_filter.mp chosen
      obtain rfl := of_decide_eq_true named
      exact asks_reference known declared (.named _ _)
    | allReferrers =>
      obtain ⟨reference, pointing, rfl⟩ := List.mem_map.mp member
      exact asks_referrer pointing (.all _)
    | referrer name depth =>
      obtain ⟨reference, chosen, rfl⟩ := List.mem_map.mp member
      obtain ⟨pointing, named⟩ := List.mem_filter.mp chosen
      obtain rfl := of_decide_eq_true named
      exact asks_referrer pointing (.named _ _)
  · intro asks
    cases asks with
    | property asked declared =>
      cases asked with
      | all => exact List.mem_map.mpr ⟨_, declared, rfl⟩
      | named =>
        exact List.mem_map.mpr ⟨_, List.mem_filter.mpr ⟨declared, decide_eq_true rfl⟩, rfl⟩
    | reference asked declared =>
      cases asked with
      | all => exact List.mem_map.mpr ⟨_, declared, rfl⟩
      | named =>
        exact List.mem_map.mpr ⟨_, List.mem_filter.mpr ⟨declared, decide_eq_true rfl⟩, rfl⟩
    | referrer asked source declared =>
      have pointing := Schema.mem_referrersOf.mpr ⟨_, source, declared, rfl⟩
      cases asked with
      | all => exact List.mem_map.mpr ⟨_, pointing, rfl⟩
      | named =>
        exact List.mem_map.mpr ⟨_, List.mem_filter.mpr ⟨pointing, decide_eq_true rfl⟩, rfl⟩

/-- What a select by name asks for of a type is what a look-up of the name finds there. -/
theorem asks_named_iff (known : entityType ∈ schema.types) (name : String)
    {qualified : QualifiedSelect} :
    ((Part.property name).Asks schema entityType qualified ↔
      ∃ text ∈ entityType.textAttribute? name, .property text.id = qualified) ∧
    ∀ depth, (Part.reference name depth).Asks schema entityType qualified ↔
      ∃ reference ∈ entityType.referenceAttribute? name,
        .reference reference.id depth = qualified := by
  obtain ⟨texts, references⟩ := schema.domestic entityType known
  simp only [← mem_qualified known]
  refine ⟨mem_map_filter_iff_find? ?_, fun depth => mem_map_filter_iff_find? ?_⟩
  · intro text declared other declaredToo named namedToo
    simp only [TextAttribute.id, texts text declared, texts other declaredToo,
      of_decide_eq_true named, of_decide_eq_true namedToo]
  · intro reference declared other declaredToo named namedToo
    simp only [ReferenceAttribute.id, references reference declared, references other declaredToo,
      of_decide_eq_true named, of_decide_eq_true namedToo]

variable {other : EntityType}

theorem leads_forward {reference : ReferenceAttribute} {depth : Nat}
    (known : entityType ∈ schema.types) (declared : reference ∈ entityType.referenceAttributes)
    (asked : part.AsksReference reference.name depth)
    (found : schema.get? reference.range = some other) : part.Leads schema entityType other := by
  obtain ⟨inside, same⟩ := Schema.get?_eq_some_iff.mp found
  apply Leads.forward asked inside
  rw [same, ← (schema.domestic entityType known).2 reference declared]
  exact declared

theorem leads_backward {reference : ReferenceAttribute} {depth : Nat}
    (pointing : reference ∈ schema.referrersOf entityType.id)
    (asked : part.AsksReferrer reference.name depth)
    (found : schema.get? reference.domain = some other) : part.Leads schema entityType other := by
  obtain ⟨inside, same⟩ := Schema.get?_eq_some_iff.mp found
  obtain ⟨source, known, declared, shape⟩ := Schema.mem_referrersOf.mp pointing
  rw [shape] at same declared
  have one := Schema.eq_of_id_eq inside known same
  exact .backward asked inside (one ▸ declared)

/-- The targets taken for a part are those that it leads to, as far as the snapshot has them. -/
theorem exists_target_iff (known : entityType ∈ schema.types) :
    (∃ id ∈ part.targets schema entityType, schema.get? id = some other) ↔
      part.Leads schema entityType other := by
  constructor
  · intro given
    obtain ⟨id, member, found⟩ := given
    cases part with
    | allProperties => cases member
    | property name => cases member
    | allReferences =>
      obtain ⟨reference, declared, rfl⟩ := List.mem_map.mp member
      exact leads_forward known declared (.all _) found
    | reference name depth =>
      obtain ⟨reference, chosen, rfl⟩ := List.mem_map.mp member
      obtain ⟨declared, named⟩ := List.mem_filter.mp chosen
      obtain rfl := of_decide_eq_true named
      exact leads_forward known declared (.named _ depth) found
    | allReferrers =>
      obtain ⟨reference, pointing, rfl⟩ := List.mem_map.mp member
      exact leads_backward pointing (.all _) found
    | referrer name depth =>
      obtain ⟨reference, chosen, rfl⟩ := List.mem_map.mp member
      obtain ⟨pointing, named⟩ := List.mem_filter.mp chosen
      obtain rfl := of_decide_eq_true named
      exact leads_backward pointing (.named _ depth) found
  · intro leads
    cases leads with
    | forward asked inside declared =>
      refine ⟨_, ?_, Schema.get?_eq_some_iff.mpr ⟨inside, rfl⟩⟩
      cases asked with
      | all => exact List.mem_map.mpr ⟨_, declared, rfl⟩
      | named =>
        exact List.mem_map.mpr ⟨_, List.mem_filter.mpr ⟨declared, decide_eq_true rfl⟩, rfl⟩
    | backward asked inside declared =>
      have pointing := Schema.mem_referrersOf.mpr ⟨_, inside, declared, rfl⟩
      refine ⟨_, ?_, Schema.get?_eq_some_iff.mpr ⟨inside, rfl⟩⟩
      cases asked with
      | all => exact List.mem_map.mpr ⟨_, pointing, rfl⟩
      | named =>
        exact List.mem_map.mpr ⟨_, List.mem_filter.mpr ⟨pointing, decide_eq_true rfl⟩, rfl⟩

end Part

namespace ScopedSelect

/-- What a select asks for of one type, if its qualifier admits the type. -/
def Asks (schema : Schema) (entityType : EntityType) (select : ScopedSelect)
    (qualified : QualifiedSelect) : Prop :=
  select.qualifier.admits entityType.id = true ∧ select.part.Asks schema entityType qualified

/-- The types that a select leads to from one type, if its qualifier admits the type. -/
def Leads (schema : Schema) (entityType : EntityType) (select : ScopedSelect)
    (other : EntityType) : Prop :=
  select.qualifier.admits entityType.id = true ∧ select.part.Leads schema entityType other

variable {schema : Schema} {entityType other : EntityType} {select : ScopedSelect}

theorem mem_qualified (known : entityType ∈ schema.types) {qualified : QualifiedSelect} :
    qualified ∈ select.qualified schema entityType ↔ select.Asks schema entityType qualified := by
  unfold ScopedSelect.qualified
  rw [Asks, ← Part.mem_qualified known]
  split <;> simp [*]

theorem exists_target_iff (known : entityType ∈ schema.types) :
    (∃ id ∈ select.targets schema entityType, schema.get? id = some other) ↔
      select.Leads schema entityType other := by
  unfold ScopedSelect.targets
  rw [Leads, ← Part.exists_target_iff known]
  split <;> simp [*]

theorem exists_namedTarget_iff (known : entityType ∈ schema.types) :
    (∃ id ∈ select.namedTargets schema entityType, schema.get? id = some other) ↔
      select.part.namesReferences = true ∧ select.Leads schema entityType other := by
  unfold namedTargets
  rw [← exists_target_iff known]
  split <;> simp [*]

theorem known_of_leads (leads : select.Leads schema entityType other) : other ∈ schema.types := by
  obtain ⟨_, forward | backward⟩ := leads <;> assumption

end ScopedSelect

namespace Projection

/-- A scoped select is asked for: it is listed, or one of the wildcards that a listed select for
everything adds. -/
def Asked (selects : List Select) (select : ScopedSelect) : Prop :=
  .scoped select ∈ selects ∨ .everything ∈ selects ∧ .scoped select ∈ wildcards

theorem mem_scoped {selects : List Select} {select : ScopedSelect} :
    select ∈ selects.filterMap Select.scoped? ↔ .scoped select ∈ selects := by
  rw [List.mem_filterMap]
  constructor
  · intro given
    obtain ⟨listed, member, same⟩ := given
    cases listed <;> cases same
    exact member
  · exact fun member => ⟨_, member, rfl⟩

theorem mem_expand {selects : List Select} {select : ScopedSelect} :
    .scoped select ∈ expand selects ↔ Asked selects select := by
  unfold expand
  rw [Asked]
  split <;> simp [mem_distinct, *]

end Projection

end NodeQuery
