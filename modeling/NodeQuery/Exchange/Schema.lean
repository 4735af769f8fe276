import NodeQuery.Exchange.Node
import NodeQuery.Schema.EntityType

/-!
Entity types and attribute names in JSON. Lists of attributes may be missing, but not null.
-/

namespace NodeQuery

def AttributeId.toJson (id : AttributeId) : Json :=
  .object [("domain", id.domain.toJson), ("id", .string id.name)]

def AttributeId.ofJson? (json : Json) : Option AttributeId := do
  let record ← json.record? ["domain", "id"]
  let domain ← record.required "domain" TypeId.ofJson?
  let name ← record.required "id" Json.text?
  return ⟨domain, name⟩

def TextAttribute.toJson (text : TextAttribute) : Json := text.id.toJson

def TextAttribute.ofJson? (json : Json) : Option TextAttribute :=
  (AttributeId.ofJson? json).map fun id => ⟨id.domain, id.name⟩

def ReferenceAttribute.toJson (reference : ReferenceAttribute) : Json :=
  .object [("domain", reference.domain.toJson), ("id", .string reference.name),
    ("range", reference.range.toJson)]

def ReferenceAttribute.ofJson? (json : Json) : Option ReferenceAttribute := do
  let record ← json.record? ["domain", "id", "range"]
  let domain ← record.required "domain" TypeId.ofJson?
  let name ← record.required "id" Json.text?
  let range ← record.required "range" TypeId.ofJson?
  return ⟨domain, name, range⟩

namespace EntityType

def toJson (entityType : EntityType) : Json :=
  .object [("id", entityType.id.toJson),
    ("text_attributes", .array (entityType.textAttributes.map (·.toJson))),
    ("reference_attributes", .array (entityType.referenceAttributes.map (·.toJson)))]

def ofJson? (json : Json) : Option EntityType := do
  let record ← json.record? ["id", "text_attributes", "reference_attributes"]
  let id ← record.required "id" TypeId.ofJson?
  let texts ← record.orDefault "text_attributes" [] (Json.list? TextAttribute.ofJson?)
  let references ←
    record.orDefault "reference_attributes" [] (Json.list? ReferenceAttribute.ofJson?)
  return ⟨id, texts, references⟩

def listOfJson? : Json → Option (List EntityType) := Json.list? ofJson?

end EntityType

end NodeQuery
