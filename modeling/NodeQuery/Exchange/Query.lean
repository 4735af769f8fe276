import NodeQuery.Exchange.Node
import NodeQuery.Relational.Query
import NodeQuery.Search.Order

/-!
Compiled queries in JSON, with the values, clauses and search options that they are made of.
-/

namespace NodeQuery

namespace Relational

namespace Value

def toJson (value : Value) : Json :=
  let named (name : String) (value : Json) : Json :=
    .object [("type", .string name), ("value", value)]
  match value with
  | .uuid value => named "uuid" value.toJson
  | .text value => named "text" (.string value)
  | .integer value => named "integer" (.number value)
  | .timestamp value => named "timestamp" value.toJson

def ofJson? (json : Json) : Option Value := do
  let record ← json.record? ["type", "value"]
  let name ← record.required "type" Json.text?
  let value ← record.required "value" some
  match name with
  | "uuid" => (Uuid.ofJson? value).map .uuid
  | "text" => value.text?.map .text
  | "integer" => value.number?.map .integer
  | "timestamp" => (Timestamp.ofJson? value).map .timestamp
  | _ => none

end Value

def Query.toJson (query : Query) : Json :=
  .object [("template", .string query.template),
    ("params", .array (query.parameters.map (·.toJson)))]

end Relational

namespace Search

namespace Occurrence

def name : Occurrence → String
  | .must => "must"
  | .should => "should"
  | .mustNot => "must_not"

def ofJson? (json : Json) : Option Occurrence := do
  let (given, contents) ← json.variant?
  if Json.isVacant contents then [must, should, mustNot].find? (·.name = given) else none

end Occurrence

namespace Query

mutual

def toJson : Query → Json
  | .everything => .object [("kind", .string "match_all")]
  | .term field value =>
    .object [("kind", .string "term"), ("field", .string field), ("value", .string value)]
  | .starts field start =>
    .object [("kind", .string "prefix"), ("field", .string field), ("prefix", .string start)]
  | .between field lower upper =>
    .object [("kind", .string "range"), ("field", .string field),
      ("lower", .ofOption .string lower), ("upper", .ofOption .string upper)]
  | .exists field => .object [("kind", .string "exists"), ("field", .string field)]
  | .boolean clauses =>
    .object [("kind", .string "boolean"), ("clauses", .array (clausesToJson clauses))]

def clausesToJson : List (Occurrence × Query) → List Json
  | [] => []
  | (occurrence, query) :: clauses =>
    .object [("occur", .string occurrence.name), ("query", toJson query)] :: clausesToJson clauses

end

def clauseOfJson? (inner : Json → Option Query) (json : Json) : Option (Occurrence × Query) := do
  let record ← json.record? ["occur", "query"]
  let occurrence ← record.required "occur" Occurrence.ofJson?
  let query ← record.required "query" inner
  return (occurrence, query)

/-- The query of a kind, given how the queries of its clauses are read. -/
def ofKind? (inner : Json → Option Query) : String × Json → Option Query
  | ("match_all", .object _) => some .everything
  | ("match_all", .array []) => some .everything
  | ("term", fields) => do
    let record ← fields.record? ["field", "value"]
    return .term (← record.required "field" Json.text?) (← record.required "value" Json.text?)
  | ("prefix", fields) => do
    let record ← fields.record? ["field", "prefix"]
    return .starts (← record.required "field" Json.text?) (← record.required "prefix" Json.text?)
  | ("range", fields) => do
    let record ← fields.record? ["field", "lower", "upper"]
    return .between (← record.required "field" Json.text?) (← record.optional "lower" Json.text?)
      (← record.optional "upper" Json.text?)
  | ("exists", fields) => do
    let record ← fields.record? ["field"]
    return .exists (← record.required "field" Json.text?)
  | ("boolean", fields) => do
    let record ← fields.record? ["clauses"]
    return .boolean (← record.required "clauses" (Json.list? (clauseOfJson? inner)))
  | _ => none

/-- A query with at most so many boolean queries one within the other. -/
def decode? : Nat → Json → Option Query
  | 0, _ => none
  | nesting + 1, json => (json.tagged? "kind").bind (ofKind? (decode? nesting))

def ofJson? (json : Json) : Option Query := decode? json.depth json

end Query

def SortField.ofJson? (json : Json) : Option SortField := do
  let record ← json.record? ["field", "descending"]
  let field ← record.required "field" Json.text?
  let descending ← record.orDefault "descending" false Json.truth?
  return ⟨field, descending⟩

def Options.ofJson? (json : Json) : Option Options := do
  let record ← json.record? ["sort", "limit"]
  let sort ← record.orDefault "sort" none (Json.orNull? SortField.ofJson?)
  let limit ← record.orDefault "limit" none (Json.orNull? Json.limit?)
  return ⟨sort, limit⟩

end Search

end NodeQuery
