import NodeQuery.Schema.EntityType

/-!
A schema snapshot: the entity types of one moment, with the places of their ids in the list and the
references that point at each type. Building it checks, in the order of declaration, that no type is
declared twice and that every attribute names the type that declares it.
-/

namespace NodeQuery

inductive SchemaError where
  | duplicateType (id : TypeId)
  | foreignAttribute (declaredOn : TypeId) (name : String) (domain : TypeId)
  | danglingRange (reference : AttributeId) (range : TypeId)
  deriving Repr, DecidableEq

def SchemaError.message : SchemaError → String
  | .duplicateType id => "duplicate entity type `" ++ id.text ++ "` in schema snapshot"
  | .foreignAttribute declaredOn name domain =>
    "attribute `" ++ name ++ "` declared on `" ++ declaredOn.text ++ "` names domain `" ++
      domain.text ++ "`"
  | .danglingRange reference range =>
    "reference attribute `" ++ reference.text ++ "` ranges over `" ++ range.text ++
      "`, which is not in the snapshot"

/-- The place of each type in the order of declaration. -/
abbrev PlaceIndex := List (TypeId × Nat)

/-- The references that point at each type, the types in the order in which they were first
pointed at. -/
abbrev ReferrerIndex := List (TypeId × List ReferenceAttribute)

namespace ReferrerIndex

def add (reference : ReferenceAttribute) : ReferrerIndex → ReferrerIndex
  | [] => [(reference.range, [reference])]
  | (range, references) :: rest =>
    if range = reference.range then (range, references ++ [reference]) :: rest
    else (range, references) :: add reference rest

def of (range : TypeId) : ReferrerIndex → List ReferenceAttribute
  | [] => []
  | (other, references) :: rest => if other = range then references else of range rest

theorem of_add (range : TypeId) (reference : ReferenceAttribute) (index : ReferrerIndex) :
    of range (add reference index) =
      of range index ++ [reference].filter (·.range = range) := by
  induction index with
  | nil => by_cases same : reference.range = range <;> simp [add, of, same]
  | cons head rest ih =>
    obtain ⟨other, references⟩ := head
    by_cases same : other = reference.range
    · by_cases asked : other = range
      · simp [add, of, ← same, asked]
      · simp [add, of, ← same, asked]
    · by_cases asked : other = range
      · subst asked
        simp [add, of, same, Ne.symm same]
      · simp only [add, if_neg same, of, if_neg asked, ih]

theorem of_addAll (range : TypeId) (references : List ReferenceAttribute) (index : ReferrerIndex) :
    of range (references.foldl (fun index reference => add reference index) index) =
      of range index ++ references.filter (·.range = range) := by
  induction references generalizing index with
  | nil => simp
  | cons head rest ih =>
    rw [List.foldl_cons, ih, of_add, List.append_assoc, ← List.filter_append]
    rfl

end ReferrerIndex

/-- Every attribute of the type names the type as its domain. -/
def EntityType.Domestic (entityType : EntityType) : Prop :=
  (∀ text ∈ entityType.textAttributes, text.domain = entityType.id) ∧
    ∀ reference ∈ entityType.referenceAttributes, reference.domain = entityType.id

structure Schema where
  types : List EntityType
  places : PlaceIndex
  referrers : ReferrerIndex
  uniqueIds : (types.map (·.id)).Nodup
  domestic : ∀ entityType ∈ types, entityType.Domestic
  placed : ∀ id, places.lookup id = types.findIdx? (·.id = id)
  indexed : ∀ range, ReferrerIndex.of range referrers =
    (types.flatMap (·.referenceAttributes)).filter (·.range = range)

namespace Schema

def empty : Schema where
  types := []
  places := []
  referrers := []
  uniqueIds := .nil
  domestic := fun _ member => nomatch member
  placed := fun _ => rfl
  indexed := fun _ => rfl

/-- The type at the place of an id. -/
def get? (schema : Schema) (id : TypeId) : Option EntityType :=
  (schema.places.lookup id).bind fun place => schema.types[place]?

def contains (schema : Schema) (id : TypeId) : Bool := (schema.get? id).isSome

theorem get?_eq_find? (schema : Schema) (id : TypeId) :
    schema.get? id = schema.types.find? (·.id = id) := by
  rw [get?, schema.placed, List.find?_eq_bind_findIdx?_getElem?]

theorem mem_types_of_get? (schema : Schema) {id : TypeId} {entityType : EntityType}
    (found : schema.get? id = some entityType) : entityType ∈ schema.types := by
  rw [get?_eq_find?] at found
  exact List.mem_of_find?_eq_some found

theorem contains_eq_false_iff {schema : Schema} {id : TypeId} :
    schema.contains id = false ↔ id ∉ schema.types.map (·.id) := by
  simp [contains, get?_eq_find?]

/-- The reference attributes that range over a type, in the order of their declaration. -/
def referrersOf (schema : Schema) (range : TypeId) : List ReferenceAttribute :=
  ReferrerIndex.of range schema.referrers

/-- The first attribute of a type that names another type as its domain, texts before references. -/
def foreignAttribute? (entityType : EntityType) : Option AttributeId :=
  (entityType.textAttributes.map (·.id) ++ entityType.referenceAttributes.map (·.id)).find?
    (·.domain != entityType.id)

theorem domestic_of_foreignAttribute?_eq_none {entityType : EntityType}
    (none : foreignAttribute? entityType = none) : entityType.Domestic := by
  simp only [foreignAttribute?, List.find?_eq_none, List.mem_append, List.mem_map] at none
  constructor
  · intro text member
    simpa [TextAttribute.id] using none text.id (.inl ⟨text, member, rfl⟩)
  · intro reference member
    simpa [ReferenceAttribute.id] using none reference.id (.inr ⟨reference, member, rfl⟩)

/-- The snapshot with one more type. -/
def extend (schema : Schema) (entityType : EntityType)
    (new : schema.contains entityType.id = false) (domestic : entityType.Domestic) : Schema where
  types := schema.types ++ [entityType]
  places := (entityType.id, schema.types.length) :: schema.places
  referrers :=
    entityType.referenceAttributes.foldl (fun index reference => index.add reference)
      schema.referrers
  uniqueIds := by
    rw [List.map_append, List.nodup_append]
    refine ⟨schema.uniqueIds, by simp, ?_⟩
    intro id known other added
    rw [List.map_singleton, List.mem_singleton] at added
    rw [added]
    exact fun same => contains_eq_false_iff.mp new (same ▸ known)
  domestic := by
    intro other member
    rcases List.mem_append.mp member with known | added
    · exact schema.domestic other known
    · rw [List.mem_singleton.mp added]
      exact domestic
  placed := by
    intro id
    rw [List.lookup_cons, schema.placed, List.findIdx?_append]
    by_cases same : id = entityType.id
    · subst same
      have missing : schema.types.findIdx? (·.id = entityType.id) = none := by
        simpa using contains_eq_false_iff.mp new
      simp [missing]
    · simp [beq_eq_false_iff_ne.mpr same, Ne.symm same]
  indexed := by
    intro range
    rw [ReferrerIndex.of_addAll, schema.indexed, List.flatMap_append, List.filter_append]
    simp

def declare (schema : Schema) (entityType : EntityType) : Except SchemaError Schema :=
  match new : schema.contains entityType.id with
  | true => .error (.duplicateType entityType.id)
  | false =>
    match domestic : foreignAttribute? entityType with
    | some id => .error (.foreignAttribute entityType.id id.name id.domain)
    | none => .ok (schema.extend entityType new (domestic_of_foreignAttribute?_eq_none domestic))

def ofTypes (types : List EntityType) : Except SchemaError Schema :=
  types.foldlM declare empty

/-- The first reference whose range is no type of the snapshot. -/
def danglingReference? (schema : Schema) : Option ReferenceAttribute :=
  (schema.types.flatMap (·.referenceAttributes)).find? fun reference =>
    !schema.contains reference.range

def requireRanges (schema : Schema) : Except SchemaError Unit :=
  match schema.danglingReference? with
  | some reference => .error (.danglingRange reference.id reference.range)
  | none => .ok ()

end Schema

end NodeQuery
