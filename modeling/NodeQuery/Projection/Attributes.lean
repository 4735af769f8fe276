import NodeQuery.Projection.Qualified
import NodeQuery.Schema.Snapshot

/-!
What a scoped select means for one type: the attributes of the type, or pointing at it, that the
select asks for, and the types that these lead to. The qualifier is always held against the type
itself, also where the attributes are those of other types pointing at it.
-/

namespace NodeQuery

/-- The name of a reference seen from the type that it points at. -/
def ReferenceAttribute.rangeId (reference : ReferenceAttribute) : AttributeId :=
  ⟨reference.range, reference.name⟩

namespace Part

/-- The attributes of a type that a part asks for. -/
def qualified (schema : Schema) (entityType : EntityType) : Part → List QualifiedSelect
  | .allProperties => entityType.textAttributes.map fun text => .property text.id
  | .property name =>
    (entityType.textAttributes.filter (·.name = name)).map fun text => .property text.id
  | .allReferences =>
    entityType.referenceAttributes.map fun reference => .reference reference.id defaultDepth
  | .reference name depth =>
    (entityType.referenceAttributes.filter (·.name = name)).map fun reference =>
      .reference reference.id depth
  | .allReferrers =>
    (schema.referrersOf entityType.id).map fun reference =>
      .referrer reference.rangeId defaultDepth
  | .referrer name depth =>
    ((schema.referrersOf entityType.id).filter (·.name = name)).map fun reference =>
      .referrer reference.rangeId depth

/-- The types at the other end of the references that a part asks for. -/
def targets (schema : Schema) (entityType : EntityType) : Part → List TypeId
  | .allProperties => []
  | .property _ => []
  | .allReferences => entityType.referenceAttributes.map (·.range)
  | .reference name _ => (entityType.referenceAttributes.filter (·.name = name)).map (·.range)
  | .allReferrers => (schema.referrersOf entityType.id).map (·.domain)
  | .referrer name _ =>
    ((schema.referrersOf entityType.id).filter (·.name = name)).map (·.domain)

/-- Whether a part asks for references by their name. -/
def namesReferences : Part → Bool
  | .reference _ _ => true
  | .referrer _ _ => true
  | _ => false

end Part

namespace ScopedSelect

def qualified (schema : Schema) (entityType : EntityType) (select : ScopedSelect) :
    List QualifiedSelect :=
  if select.qualifier.admits entityType.id then select.part.qualified schema entityType else []

def targets (schema : Schema) (entityType : EntityType) (select : ScopedSelect) : List TypeId :=
  if select.qualifier.admits entityType.id then select.part.targets schema entityType else []

/-- The types that a select leads to by naming references. -/
def namedTargets (schema : Schema) (entityType : EntityType) (select : ScopedSelect) :
    List TypeId :=
  if select.part.namesReferences then select.targets schema entityType else []

end ScopedSelect

end NodeQuery
