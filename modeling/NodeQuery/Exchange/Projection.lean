import NodeQuery.Exchange.Schema
import NodeQuery.Projection.Plan
import NodeQuery.Projection.Qualification

/-!
Projections in JSON: selects and qualified selects by their names, plans by type and attribute.
-/

namespace NodeQuery

def Json.depth? : Json → Option Nat := Json.upTo? largestDepth

namespace Qualifier

def toJson : Qualifier → Json
  | .any => .string "any"
  | .typeNamed name => .object [("type", .string name)]
  | .typeInGraph graph name => .object [("graph_type", .array [graph.toJson, .string name])]

def ofVariant? : String × Option Json → Option Qualifier
  | ("any", contents) => if Json.isVacant contents then some .any else none
  | ("type", some contents) => contents.text?.map .typeNamed
  | ("graph_type", some (.array [graph, name])) => do
    return .typeInGraph (← Uuid.ofJson? graph) (← name.text?)
  | _ => none

def ofJson? (json : Json) : Option Qualifier := json.variant?.bind ofVariant?

end Qualifier

namespace Select

def partFields : Part → List (String × Json)
  | .property name => [("name", .string name)]
  | .reference name depth => [("name", .string name), ("depth", .natural depth)]
  | .referrer name depth => [("name", .string name), ("depth", .natural depth)]
  | _ => []

def partName : Part → String
  | .allProperties => "all_properties"
  | .property _ => "property"
  | .allReferences => "all_references"
  | .reference _ _ => "reference"
  | .allReferrers => "all_referrers"
  | .referrer _ _ => "referrer"

def toJson : Select → Json
  | .everything => .object [("select", .string "all")]
  | .nodeId => .object [("select", .string "id")]
  | .nodeType => .object [("select", .string "type")]
  | .field name => .object [("select", .string "field"), ("name", .string name)]
  | .scoped select =>
    .object (("select", .string (partName select.part)) ::
      ("qualifier", select.qualifier.toJson) :: partFields select.part)

def wildcardOfFields? (part : Part) (fields : Json) : Option Select := do
  let record ← fields.record? ["qualifier"]
  let qualifier ← record.required "qualifier" Qualifier.ofJson?
  return .scoped ⟨qualifier, part⟩

def referenceOfFields? (part : String → Nat → Part) (fields : Json) : Option Select := do
  let record ← fields.record? ["qualifier", "name", "depth"]
  let qualifier ← record.required "qualifier" Qualifier.ofJson?
  let name ← record.required "name" Json.text?
  let depth ← record.required "depth" Json.depth?
  return .scoped ⟨qualifier, part name depth⟩

/-- A select without fields takes an object, or an array without further items. -/
def bare? (select : Select) : Json → Option Select
  | .object _ => some select
  | .array [] => some select
  | _ => none

def ofTagged? : String × Json → Option Select
  | ("all", fields) => bare? .everything fields
  | ("id", fields) => bare? .nodeId fields
  | ("type", fields) => bare? .nodeType fields
  | ("field", fields) => do
    let record ← fields.record? ["name"]
    return .field (← record.required "name" Json.text?)
  | ("all_properties", fields) => wildcardOfFields? .allProperties fields
  | ("property", fields) => do
    let record ← fields.record? ["qualifier", "name"]
    let qualifier ← record.required "qualifier" Qualifier.ofJson?
    let name ← record.required "name" Json.text?
    return .scoped ⟨qualifier, .property name⟩
  | ("all_references", fields) => wildcardOfFields? .allReferences fields
  | ("reference", fields) => referenceOfFields? .reference fields
  | ("all_referrers", fields) => wildcardOfFields? .allReferrers fields
  | ("referrer", fields) => referenceOfFields? .referrer fields
  | _ => none

def ofJson? (json : Json) : Option Select := (json.tagged? "select").bind ofTagged?

end Select

namespace QualifiedSelect

def toJson : QualifiedSelect → Json
  | .everything => .object [("select", .string "all")]
  | .nodeId => .object [("select", .string "id")]
  | .nodeType => .object [("select", .string "type")]
  | .field name => .object [("select", .string "field"), ("name", .string name)]
  | .property id => .object [("select", .string "property"), ("attribute", id.toJson)]
  | .reference id depth =>
    .object [("select", .string "reference"), ("attribute", id.toJson), ("depth", .natural depth)]
  | .referrer id depth =>
    .object [("select", .string "referrer"), ("attribute", id.toJson), ("depth", .natural depth)]

def bare? (select : QualifiedSelect) : Json → Option QualifiedSelect
  | .object _ => some select
  | .array [] => some select
  | _ => none

def referenceOfFields? (make : AttributeId → Nat → QualifiedSelect) (fields : Json) :
    Option QualifiedSelect := do
  let record ← fields.record? ["attribute", "depth"]
  let id ← record.required "attribute" AttributeId.ofJson?
  let depth ← record.required "depth" Json.depth?
  return make id depth

def ofTagged? : String × Json → Option QualifiedSelect
  | ("all", fields) => bare? .everything fields
  | ("id", fields) => bare? .nodeId fields
  | ("type", fields) => bare? .nodeType fields
  | ("field", fields) => do
    let record ← fields.record? ["name"]
    return .field (← record.required "name" Json.text?)
  | ("property", fields) => do
    let record ← fields.record? ["attribute"]
    return .property (← record.required "attribute" AttributeId.ofJson?)
  | ("reference", fields) => referenceOfFields? .reference fields
  | ("referrer", fields) => referenceOfFields? .referrer fields
  | _ => none

def ofJson? (json : Json) : Option QualifiedSelect := (json.tagged? "select").bind ofTagged?

end QualifiedSelect

namespace Projection.Mode

def toJson (mode : Mode) : Json := .string mode.text

def ofJson? (json : Json) : Option Mode := do
  let (name, contents) ← json.variant?
  if Json.isVacant contents then ofText? name else none

end Projection.Mode

namespace DepthMap

def toJson (depths : DepthMap) : Json :=
  .object (depths.entries.map fun (id, names) => (id.text, .ofMap .natural names))

def ofField? (field : String × Json) : Option (TypeId × OrderedMap String Nat) := do
  let id ← (TypeId.read field.1).toOption
  let names ← Json.map? Json.depth? field.2
  return (id, names)

def ofJson? : Json → Option DepthMap
  | .object fields => (fields.mapM ofField?).map OrderedMap.ofList
  | _ => none

end DepthMap

namespace SelectionPlan

def toJson (plan : SelectionPlan) : Json :=
  .object [
    ("all", .boolean plan.everything),
    ("id", .boolean plan.nodeId),
    ("type", .boolean plan.nodeType),
    ("fields", .strings plan.fields.keys),
    ("properties", plan.properties.toJson),
    ("references", plan.references.toJson),
    ("referrers", plan.referrers.toJson)]

def fieldNames : List String :=
  ["all", "id", "type", "fields", "properties", "references", "referrers"]

def ofJson? (json : Json) : Option SelectionPlan := do
  let record ← json.record? fieldNames
  let everything ← record.required "all" Json.truth?
  let nodeId ← record.required "id" Json.truth?
  let nodeType ← record.required "type" Json.truth?
  let fields ← record.required "fields" (Json.list? Json.text?)
  let properties ← record.required "properties" DepthMap.ofJson?
  let references ← record.required "references" DepthMap.ofJson?
  let referrers ← record.required "referrers" DepthMap.ofJson?
  return {
    everything, nodeId, nodeType, properties, references, referrers
    fields := .ofList (fields.map fun name => (name, ())) }

end SelectionPlan

end NodeQuery
