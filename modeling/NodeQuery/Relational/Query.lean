import NodeQuery.Criterion

/-!
Relational queries: a condition template with question marks, and the parameters that stand for
them in order. The values of a specification reach the query as parameters only, so the template
depends on nothing but its shape.
-/

namespace NodeQuery

open Text

namespace Relational

inductive Value where
  | uuid (value : Uuid)
  | text (value : String)
  | integer (value : Int64)
  | timestamp (value : Timestamp)
  deriving DecidableEq

/-- A quote within quotes is written twice. -/
def doubledQuotes : List Char → List Char
  | [] => []
  | char :: rest =>
    if char = '\'' then '\'' :: '\'' :: doubledQuotes rest else char :: doubledQuotes rest

def Value.literal : Value → String
  | .uuid value => "'" ++ value.text ++ "'"
  | .text value => "'" ++ String.ofList (doubledQuotes value.toList) ++ "'"
  | .integer value => integerText value.toInt
  | .timestamp value => "'" ++ value.spacedText ++ "'"

structure Query where
  template : String
  parameters : List Value
  deriving DecidableEq

namespace Query

def constant (template : String) : Query := ⟨template, []⟩

def tautology : Query := constant "1 = 1"

def contradiction : Query := constant "1 = 0"

/-- The question marks outside of quotes. -/
def placeholdersFrom (quoted : Bool) : List Char → Nat
  | [] => 0
  | char :: rest =>
    if char = '\'' then placeholdersFrom (!quoted) rest
    else if char = '?' && !quoted then 1 + placeholdersFrom quoted rest
    else placeholdersFrom quoted rest

def placeholders (query : Query) : Nat := placeholdersFrom false query.template.toList

/-- The template, with the parameters in a comment if there are any. -/
def text (query : Query) : String :=
  if query.parameters.isEmpty then query.template
  else query.template ++ " -- [" ++ ", ".intercalate (query.parameters.map (·.literal)) ++ "]"

/-- The template, with one line for each parameter. -/
def listing (query : Query) : String :=
  query.template ++ String.join ((query.parameters.zipIdx 1).map fun (parameter, position) =>
    "\n  ?" ++ naturalText position ++ " = " ++ parameter.literal)

def negate (query : Query) : Query := ⟨"NOT (" ++ query.template ++ ")", query.parameters⟩

/-- The queries in parentheses between connectives; no queries contradict. -/
def joined (connective : String) (queries : List Query) : Query :=
  if queries.isEmpty then contradiction
  else ⟨connective.intercalate (queries.map fun query => "(" ++ query.template ++ ")"),
    queries.flatMap (·.parameters)⟩

end Query

/-- The columns of the node table. -/
inductive Column where
  | id
  | graphId
  | typeId
  | code
  | uri
  | number
  | createdDate
  | lastModifiedDate
  deriving Repr, DecidableEq

def Column.name : Column → String
  | .id => "id"
  | .graphId => "graph_id"
  | .typeId => "type_id"
  | .code => "code"
  | .uri => "uri"
  | .number => "number"
  | .createdDate => "created_date"
  | .lastModifiedDate => "last_modified_date"

def Column.all : List Column :=
  [.id, .graphId, .typeId, .code, .uri, .number, .createdDate, .lastModifiedDate]

/-- What the row of a node under a key holds. -/
def Column.value (key : NodeKey) (node : Node) : Column → Option Value
  | .id => some (.uuid key.id)
  | .graphId => some (.uuid key.typeId.graph)
  | .typeId => some (.text key.typeId.name)
  | .code => node.code.map .text
  | .uri => node.uri.map .text
  | .number => some (.integer node.number)
  | .createdDate => some (.timestamp node.createdDate)
  | .lastModifiedDate => some (.timestamp node.lastModifiedDate)

abbrev Row := List (String × Option Value)

def row (key : NodeKey) (node : Node) : Row :=
  Column.all.map fun column => (column.name, column.value key node)

def equalTo (column : Column) (value : Value) : Query := ⟨column.name ++ " = ?", [value]⟩

/-- On a column that may be empty the comparison is guarded, so that its negation is decided. -/
def presentAndEqualTo (column : Column) (value : Value) : Query :=
  ⟨column.name ++ " IS NOT NULL AND " ++ column.name ++ " = ?", [value]⟩

def within (column : Column) (during : Interval Timestamp) : Query :=
  match during.lower, during.upper with
  | none, none => .tautology
  | some lower, none => ⟨column.name ++ " >= ?", [.timestamp lower]⟩
  | none, some upper => ⟨column.name ++ " <= ?", [.timestamp upper]⟩
  | some lower, some upper =>
    ⟨column.name ++ " >= ? AND " ++ column.name ++ " <= ?", [.timestamp lower, .timestamp upper]⟩

end Relational

/-- The relational form of a criterion; attributes have none. -/
def Criterion.relational? : Criterion → Option Relational.Query
  | .hasId id => some (Relational.equalTo .id (.uuid id))
  | .inGraph graph => some (Relational.equalTo .graphId (.uuid graph))
  | .hasType name => some (Relational.equalTo .typeId (.text name))
  | .hasCode code => some (Relational.presentAndEqualTo .code (.text code))
  | .hasUri uri => some (Relational.presentAndEqualTo .uri (.text uri))
  | .hasNumber number => some (Relational.equalTo .number (.integer number))
  | .createdWithin during => some (Relational.within .createdDate during)
  | .modifiedWithin during => some (Relational.within .lastModifiedDate during)
  | _ => none

end NodeQuery
