import NodeQuery.Criterion
import NodeQuery.Search.Query

/-!
How nodes are indexed: the fields and terms of a node's document, and the query that finds the
documents of the nodes that meet a criterion. Texts are indexed whole and by their words, each both
under the attribute alone and under the attribute with its language.
-/

namespace NodeQuery

open Text

namespace Search

abbrev Document := List (String × String)

def idField : String := "id"

def typeNameField : String := "type.id"

def graphField : String := "type.graph.id"

def codeField : String := "code"

def uriField : String := "uri"

def numberField : String := "number"

def createdField : String := "createdDate"

def lastModifiedField : String := "lastModifiedDate"

def propertyField (kind : String) (property : PropertyPath) : String :=
  if property.language.isEmpty then "properties." ++ property.name ++ "." ++ kind
  else "properties." ++ property.name ++ "." ++ kind ++ "." ++ property.language

def stringField (property : PropertyPath) : String := propertyField "string" property

def wordsField (property : PropertyPath) : String := propertyField "words" property

def referenceField (name : String) : String := "references." ++ name ++ ".id"

/-- A text under one property: whole, and by its words. -/
def propertyEntries (property : PropertyPath) (value : String) : Document :=
  (stringField property, value) :: (words value).map fun word => (wordsField property, word)

/-- A text under its attribute, and again under its language if it has one. -/
def textEntries (name : String) (text : LanguageText) : Document :=
  propertyEntries ⟨name, ""⟩ text.value ++
    if text.language.isEmpty then [] else propertyEntries ⟨name, text.language⟩ text.value

def document (key : NodeKey) (node : Node) : Document :=
  [(idField, key.id.text), (typeNameField, key.typeId.name), (graphField, key.typeId.graph.text),
    (numberField, integerText node.number.toInt), (createdField, node.createdDate.term),
    (lastModifiedField, node.lastModifiedDate.term)] ++
  node.code.toList.map (fun code => (codeField, code)) ++
  node.uri.toList.map (fun uri => (uriField, uri)) ++
  node.properties.entries.flatMap (fun (name, texts) => texts.flatMap (textEntries name)) ++
  node.references.entries.flatMap fun (name, targets) =>
    targets.map fun target => (referenceField name, target.id.text)

def dateQuery (field : String) (during : Interval Timestamp) : Query :=
  .between field (during.lower.map Timestamp.term) (during.upper.map Timestamp.term)

end Search

/-- The search form of a criterion; only the target of a reference has none. -/
def Criterion.search? : Criterion → Option Search.Query
  | .hasId id => some (.term Search.idField id.text)
  | .inGraph graph => some (.term Search.graphField graph.text)
  | .hasType name => some (.term Search.typeNameField name)
  | .hasCode code => some (.term Search.codeField code)
  | .hasUri uri => some (.term Search.uriField uri)
  | .hasNumber number => some (.term Search.numberField (integerText number.toInt))
  | .createdWithin during => some (Search.dateQuery Search.createdField during)
  | .modifiedWithin during => some (Search.dateQuery Search.lastModifiedField during)
  | .textEquals property value => some (.term (Search.stringField property) value)
  | .textStarts property start => some (.starts (Search.stringField property) start)
  | .textBetween property bounds =>
    some (.between (Search.stringField property) bounds.lower bounds.upper)
  | .words property phrase =>
    some (.allOf ((Text.words phrase).map (.term (Search.wordsField property))))
  | .wordStarts property start => some (.starts (Search.wordsField property) (foldCase start))
  | .references name target => some (.term (Search.referenceField name) target.text)
  | .referencesNothing name => some (.without (.exists (Search.referenceField name)))
  | .referencesSuch _ _ => none

end NodeQuery
