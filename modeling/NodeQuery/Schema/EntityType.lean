import NodeQuery.Schema.TypeId

/-!
Entity types with their attributes: texts in any number of languages, and references that range
over the nodes of one type.
-/

namespace NodeQuery

structure TextAttribute where
  domain : TypeId
  name : String
  deriving Repr, DecidableEq

structure ReferenceAttribute where
  domain : TypeId
  name : String
  range : TypeId
  deriving Repr, DecidableEq

def TextAttribute.id (text : TextAttribute) : AttributeId := ⟨text.domain, text.name⟩

def ReferenceAttribute.id (reference : ReferenceAttribute) : AttributeId :=
  ⟨reference.domain, reference.name⟩

structure EntityType where
  id : TypeId
  textAttributes : List TextAttribute
  referenceAttributes : List ReferenceAttribute
  deriving Repr, DecidableEq

namespace EntityType

def bare (id : TypeId) : EntityType := ⟨id, [], []⟩

def withText (entityType : EntityType) (name : String) : EntityType :=
  { entityType with textAttributes := entityType.textAttributes ++ [⟨entityType.id, name⟩] }

def withReference (entityType : EntityType) (name : String) (range : TypeId) : EntityType :=
  { entityType with
    referenceAttributes := entityType.referenceAttributes ++ [⟨entityType.id, name, range⟩] }

def textAttribute? (entityType : EntityType) (name : String) : Option TextAttribute :=
  entityType.textAttributes.find? (·.name = name)

def referenceAttribute? (entityType : EntityType) (name : String) : Option ReferenceAttribute :=
  entityType.referenceAttributes.find? (·.name = name)

end EntityType

end NodeQuery
