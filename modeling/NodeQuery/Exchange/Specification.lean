import NodeQuery.Criterion
import NodeQuery.Exchange.Node

/-!
Criteria and specifications in JSON. A criterion is its name with its arguments; a specification is
a variant, named for its connective.
-/

namespace NodeQuery

namespace Interval

variable {α : Type}

def jsonFields (encode : α → Json) (interval : Interval α) : List (String × Json) :=
  [("lower", .ofOption encode interval.lower), ("upper", .ofOption encode interval.upper)]

def ofRecord? (decode : Json → Option α) (record : Json.Record) : Option (Interval α) := do
  let lower ← record.optional "lower" decode
  let upper ← record.optional "upper" decode
  return ⟨lower, upper⟩

end Interval

namespace PropertyPath

def jsonFields (property : PropertyPath) : List (String × Json) :=
  [("attr", .string property.name), ("lang", .string property.language)]

def ofRecord? (record : Json.Record) : Option PropertyPath := do
  let name ← record.required "attr" Json.text?
  let language ← record.required "lang" Json.text?
  return ⟨name, language⟩

end PropertyPath

namespace Criterion

def tagField : String := "leaf"

def argumentsField : String := "args"

def named (name : String) (arguments : Json) : Json :=
  .object [(tagField, .string name), (argumentsField, arguments)]

def toJson : Criterion → Json
  | .hasId id => named "by_id" id.toJson
  | .inGraph graph => named "by_graph_id" graph.toJson
  | .hasType name => named "by_type_id" (.string name)
  | .hasCode code => named "by_code" (.string code)
  | .hasUri uri => named "by_uri" (.string uri)
  | .hasNumber number => named "by_number" (.number number)
  | .createdWithin during => named "by_created_date" (.object (during.jsonFields Timestamp.toJson))
  | .modifiedWithin during =>
    named "by_last_modified_date" (.object (during.jsonFields Timestamp.toJson))
  | .textEquals property value =>
    named "by_property_string" (.object (property.jsonFields ++ [("value", .string value)]))
  | .textStarts property start =>
    named "by_property_string_prefix" (.object (property.jsonFields ++ [("prefix", .string start)]))
  | .textBetween property bounds =>
    named "by_property_string_range" (.object (property.jsonFields ++ bounds.jsonFields .string))
  | .words property phrase =>
    named "by_property_words" (.object (property.jsonFields ++ [("text", .string phrase)]))
  | .wordStarts property start =>
    named "by_property_word_prefix" (.object (property.jsonFields ++ [("prefix", .string start)]))
  | .references name target =>
    named "by_reference" (.object [("attr", .string name), ("target", target.toJson)])
  | .referencesNothing name => named "without_references" (.object [("attr", .string name)])
  | .referencesSuch name target =>
    named "by_reference_path" (.object [("attr", .string name), ("path", target.toJson)])

/-- The criterion of a name with its arguments, given how criteria among the arguments are read. -/
def ofArguments? (inner : Json → Option Criterion) (name : String) (arguments : Json) :
    Option Criterion :=
  match name with
  | "by_id" => (Uuid.ofJson? arguments).map .hasId
  | "by_graph_id" => (Uuid.ofJson? arguments).map .inGraph
  | "by_type_id" => arguments.text?.map .hasType
  | "by_code" => arguments.text?.map .hasCode
  | "by_uri" => arguments.text?.map .hasUri
  | "by_number" => arguments.number?.map .hasNumber
  | "by_created_date" => do
    let record ← arguments.record? ["lower", "upper"]
    (Interval.ofRecord? Timestamp.ofJson? record).map .createdWithin
  | "by_last_modified_date" => do
    let record ← arguments.record? ["lower", "upper"]
    (Interval.ofRecord? Timestamp.ofJson? record).map .modifiedWithin
  | "by_property_string" => do
    let record ← arguments.record? ["attr", "lang", "value"]
    return .textEquals (← PropertyPath.ofRecord? record) (← record.required "value" Json.text?)
  | "by_property_string_prefix" => do
    let record ← arguments.record? ["attr", "lang", "prefix"]
    return .textStarts (← PropertyPath.ofRecord? record) (← record.required "prefix" Json.text?)
  | "by_property_string_range" => do
    let record ← arguments.record? ["attr", "lang", "lower", "upper"]
    return .textBetween (← PropertyPath.ofRecord? record) (← Interval.ofRecord? Json.text? record)
  | "by_property_words" => do
    let record ← arguments.record? ["attr", "lang", "text"]
    return .words (← PropertyPath.ofRecord? record) (← record.required "text" Json.text?)
  | "by_property_word_prefix" => do
    let record ← arguments.record? ["attr", "lang", "prefix"]
    return .wordStarts (← PropertyPath.ofRecord? record) (← record.required "prefix" Json.text?)
  | "by_reference" => do
    let record ← arguments.record? ["attr", "target"]
    return .references (← record.required "attr" Json.text?)
      (← record.required "target" Uuid.ofJson?)
  | "without_references" => do
    let record ← arguments.record? ["attr"]
    return .referencesNothing (← record.required "attr" Json.text?)
  | "by_reference_path" => do
    let record ← arguments.record? ["attr", "path"]
    return .referencesSuch (← record.required "attr" Json.text?) (← record.required "path" inner)
  | _ => none

/-- A criterion with at most so many targets one within the other. -/
def decode? : Nat → Json → Option Criterion
  | 0, _ => none
  | nesting + 1, json => do
    let record ← json.record? [tagField, argumentsField]
    let name ← record.required tagField Json.text?
    let arguments ← record.required argumentsField some
    ofArguments? (decode? nesting) name arguments

def ofJson? (json : Json) : Option Criterion := decode? json.depth json

end Criterion

namespace NodeSpecification

mutual

def toJson : NodeSpecification → Json
  | .everything => .string "match_all"
  | .nothing => .string "match_none"
  | .leaf criterion => .object [("leaf", criterion.toJson)]
  | .negation inner => .object [("not", toJson inner)]
  | .conjunction clauses => .object [("and", .array (clausesToJson clauses))]
  | .disjunction clauses => .object [("or", .array (clausesToJson clauses))]

def clausesToJson : List NodeSpecification → List Json
  | [] => []
  | clause :: clauses => toJson clause :: clausesToJson clauses

end

/-- The specification of a variant, given how its clauses are read. -/
def ofVariant? (inner : Json → Option NodeSpecification) :
    String × Option Json → Option NodeSpecification
  | ("match_all", contents) => if Json.isVacant contents then some .everything else none
  | ("match_none", contents) => if Json.isVacant contents then some .nothing else none
  | ("leaf", some contents) => (Criterion.ofJson? contents).map .leaf
  | ("not", some contents) => (inner contents).map .negation
  | ("and", some contents) => (contents.list? inner).map .conjunction
  | ("or", some contents) => (contents.list? inner).map .disjunction
  | _ => none

/-- A specification with at most so many connectives one within the other. -/
def decode? : Nat → Json → Option NodeSpecification
  | 0, _ => none
  | nesting + 1, json => json.variant?.bind (ofVariant? (decode? nesting))

def ofJson? (json : Json) : Option NodeSpecification := decode? (json.depth + 1) json

end NodeSpecification

end NodeQuery
