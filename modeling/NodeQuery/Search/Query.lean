import NodeQuery.Text.Alphanumeric
import NodeQuery.Text.Quoted

/-!
Queries to a search index, which holds documents made of fields and terms. A boolean query wants all
its required clauses; only without any of them does it want one of its optional clauses; and it
wants none of its excluded clauses. It matches nothing unless a required or optional clause does.
-/

namespace NodeQuery.Search

open Text

inductive Occurrence where
  | must
  | should
  | mustNot
  deriving Repr, DecidableEq

inductive Query where
  | everything
  | term (field value : String)
  | starts (field start : String)
  | between (field : String) (lower upper : Option String)
  | exists (field : String)
  | boolean (clauses : List (Occurrence × Query))
  deriving Repr

namespace Query

def allOf (queries : List Query) : Query := .boolean (queries.map fun query => (.must, query))

def anyOf (queries : List Query) : Query := .boolean (queries.map fun query => (.should, query))

def nothing : Query := .boolean []

def without (query : Query) : Query := .boolean [(.must, .everything), (.mustNot, query)]

/-- Bare if it could be a word, in quotes otherwise. -/
def termText (term : String) : String :=
  if !term.isEmpty && term.toList.all fun char => isAlphanumeric char || char == '-' || char == '_'
  then term
  else Quoted.encode term

def boundText (bound : Option String) : String := (bound.map termText).getD "*"

def Occurrence.mark : Occurrence → String
  | .must => "+"
  | .should => ""
  | .mustNot => "-"

mutual

def text : Query → String
  | .everything => "*:*"
  | .term field value => field ++ ":" ++ termText value
  | .starts field start => field ++ ":" ++ termText start ++ "*"
  | .between field lower upper =>
    field ++ ":[" ++ boundText lower ++ " TO " ++ boundText upper ++ "]"
  | .exists field => field ++ ":*"
  | .boolean clauses => "(" ++ " ".intercalate (clauseTexts clauses) ++ ")"

def clauseTexts : List (Occurrence × Query) → List String
  | [] => []
  | (occurrence, query) :: clauses =>
    (Occurrence.mark occurrence ++ text query) :: clauseTexts clauses

end

end Query

end NodeQuery.Search
