import NodeQuery.Interval
import NodeQuery.Node
import NodeQuery.Specification.Basic
import NodeQuery.Text.Quoted
import NodeQuery.Text.Words
import NodeQuery.Timestamp.Text

/-!
Criteria: what a query may ask of a single node, when a node meets a criterion, and how a criterion
is written. A criterion on the target of a reference is met by no node as it stands; it has to be
resolved to the targets that meet it first.
-/

namespace NodeQuery

open Text

inductive Criterion where
  | hasId (id : Uuid)
  | inGraph (graph : Uuid)
  | hasType (name : String)
  | hasCode (code : String)
  | hasUri (uri : String)
  | hasNumber (number : Int64)
  | createdWithin (during : Interval Timestamp)
  | modifiedWithin (during : Interval Timestamp)
  | textEquals (property : PropertyPath) (value : String)
  | textStarts (property : PropertyPath) (start : String)
  | textBetween (property : PropertyPath) (bounds : Interval String)
  | words (property : PropertyPath) (phrase : String)
  | wordStarts (property : PropertyPath) (start : String)
  | references (name : String) (target : Uuid)
  | referencesNothing (name : String)
  | referencesSuch (name : String) (target : Criterion)
  deriving DecidableEq

namespace PropertyPath

/-- The attribute, and the language if there is one. -/
def text (property : PropertyPath) : String :=
  if property.language.isEmpty then property.name else property.name ++ "." ++ property.language

end PropertyPath

namespace Criterion

/-- Every word of the phrase occurs among the values, and the phrase has a word. -/
def matchesWords (values : List String) (phrase : String) : Bool :=
  let present := values.flatMap Text.words
  !(Text.words phrase).isEmpty && (Text.words phrase).all present.contains

def holds (key : NodeKey) (node : Node) : Criterion → Bool
  | .hasId id => key.id == id
  | .inGraph graph => key.typeId.graph == graph
  | .hasType name => key.typeId.name == name
  | .hasCode code => node.code == some code
  | .hasUri uri => node.uri == some uri
  | .hasNumber number => node.number == number
  | .createdWithin during => during.contains node.createdDate
  | .modifiedWithin during => during.contains node.lastModifiedDate
  | .textEquals property value => (node.values property).contains value
  | .textStarts property start =>
    (node.values property).any fun value => start.toList.isPrefixOf value.toList
  | .textBetween property bounds => (node.values property).any bounds.contains
  | .words property phrase => matchesWords (node.values property) phrase
  | .wordStarts property start =>
    ((node.values property).flatMap Text.words).any fun word =>
      (foldCase start).toList.isPrefixOf word.toList
  | .references name target => (node.targets name).any (·.id == target)
  | .referencesNothing name => (node.targets name).isEmpty
  | .referencesSuch _ _ => false

def text : Criterion → String
  | .hasId id => "id:" ++ id.text
  | .inGraph graph => "graph.id:" ++ graph.text
  | .hasType name => "type.id:" ++ name
  | .hasCode code => "code:" ++ code
  | .hasUri uri => "uri:" ++ uri
  | .hasNumber number => "number:" ++ integerText number.toInt
  | .createdWithin during => "createdDate:" ++ during.text Timestamp.text
  | .modifiedWithin during => "lastModifiedDate:" ++ during.text Timestamp.text
  | .textEquals property value => "p." ++ property.text ++ ".string:" ++ Quoted.encode value
  | .textStarts property start =>
    "p." ++ property.text ++ ".string:" ++ Quoted.encode start ++ "*"
  | .textBetween property bounds =>
    "p." ++ property.text ++ ".string:" ++ bounds.text Quoted.encode
  | .words property phrase => "p." ++ property.text ++ ":" ++ Quoted.encode phrase
  | .wordStarts property start => "p." ++ property.text ++ ":" ++ Quoted.encode start ++ "*"
  | .references name target => "r." ++ name ++ ".id:" ++ target.text
  | .referencesNothing name => "r." ++ name ++ ".id:null"
  | .referencesSuch name target => "r." ++ name ++ "." ++ target.text

end Criterion

/-- The specifications that queries stand for. -/
abbrev NodeSpecification := Specification Criterion

namespace NodeSpecification

/-- Whether a node under a key meets a specification. -/
def test (specification : NodeSpecification) (key : NodeKey) (node : Node) : Bool :=
  specification.holds (Criterion.holds key node)

def text (specification : NodeSpecification) : String :=
  Specification.text Criterion.text specification

end NodeSpecification

end NodeQuery
