import NodeQuery.Json.Decoding
import NodeQuery.Node
import NodeQuery.Timestamp.Text

/-!
Nodes in JSON. Only the key of a node and its dates have to be given.
-/

namespace NodeQuery

def Uuid.toJson (uuid : Uuid) : Json := .string uuid.text

def Uuid.ofJson? (json : Json) : Option Uuid := json.text?.bind fun text => ofText? text.toList

def TypeId.toJson (id : TypeId) : Json := .string id.text

def TypeId.ofJson? (json : Json) : Option TypeId := json.text?.bind fun text => (read text).toOption

def Timestamp.toJson (timestamp : Timestamp) : Json := .string timestamp.text

def Timestamp.ofJson? (json : Json) : Option Timestamp :=
  json.text?.bind fun text => ofDateTime? text.toList

def Json.number (number : Int64) : Json := .integer number.toInt

def NodeKey.toJson (key : NodeKey) : Json :=
  .object [("id", key.id.toJson), ("type_id", key.typeId.toJson)]

def NodeKey.ofJson? (json : Json) : Option NodeKey := do
  let record ← json.record? ["id", "type_id"]
  let id ← record.required "id" Uuid.ofJson?
  let typeId ← record.required "type_id" TypeId.ofJson?
  return ⟨id, typeId⟩

def LanguageText.toJson (text : LanguageText) : Json :=
  .object [("lang", .string text.language), ("value", .string text.value)]

def LanguageText.ofJson? (json : Json) : Option LanguageText := do
  let record ← json.record? ["lang", "value"]
  let language ← record.orDefault "lang" "" Json.text?
  let value ← record.required "value" Json.text?
  return ⟨language, value⟩

namespace Node

def toJson (node : Node) : Json :=
  .object [
    ("id", node.id.toJson),
    ("type_id", node.typeId.toJson),
    ("code", .ofOption .string node.code),
    ("uri", .ofOption .string node.uri),
    ("number", .number node.number),
    ("created_by", .string node.createdBy),
    ("created_date", node.createdDate.toJson),
    ("last_modified_by", .string node.lastModifiedBy),
    ("last_modified_date", node.lastModifiedDate.toJson),
    ("properties", .ofMap (fun texts => .array (texts.map (·.toJson))) node.properties),
    ("references", .ofMap (fun targets => .array (targets.map (·.toJson))) node.references)]

def fieldNames : List String :=
  ["id", "type_id", "code", "uri", "number", "created_by", "created_date", "last_modified_by",
    "last_modified_date", "properties", "references"]

def ofJson? (json : Json) : Option Node := do
  let record ← json.record? fieldNames
  let id ← record.required "id" Uuid.ofJson?
  let typeId ← record.required "type_id" TypeId.ofJson?
  let code ← record.orDefault "code" none (Json.orNull? Json.text?)
  let uri ← record.orDefault "uri" none (Json.orNull? Json.text?)
  let number ← record.orDefault "number" 0 Json.number?
  let createdBy ← record.orDefault "created_by" "" Json.text?
  let createdDate ← record.required "created_date" Timestamp.ofJson?
  let lastModifiedBy ← record.orDefault "last_modified_by" "" Json.text?
  let lastModifiedDate ← record.required "last_modified_date" Timestamp.ofJson?
  let properties ←
    record.orDefault "properties" .empty (Json.map? (Json.list? LanguageText.ofJson?))
  let references ← record.orDefault "references" .empty (Json.map? (Json.list? NodeKey.ofJson?))
  return {
    id, typeId, code, uri, number, createdBy, createdDate, lastModifiedBy, lastModifiedDate,
    properties, references }

end Node

end NodeQuery
