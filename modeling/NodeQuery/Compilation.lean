import NodeQuery.Relational.Query
import NodeQuery.Search.Document

/-!
Compiling specifications for a backend. Every leaf must be supported there, wherever it stands; the
leftmost leaf that is not is reported, before anything is put together.
-/

namespace NodeQuery

inductive Backend where
  | relational
  | index
  deriving Repr, DecidableEq

def Backend.name : Backend → String
  | .relational => "relational"
  | .index => "index"

structure Unsupported where
  backend : Backend
  criterion : Criterion
  deriving DecidableEq

def Unsupported.message (unsupported : Unsupported) : String :=
  "predicate `" ++ unsupported.criterion.text ++ "` cannot be compiled for the " ++
    unsupported.backend.name ++ " backend"

/-- Which criteria a backend has a form for. -/
def Criterion.supports (backend : Backend) (criterion : Criterion) : Bool :=
  match backend, criterion with
  | .index, .referencesSuch _ _ => false
  | .index, _ => true
  | .relational, .hasId _ => true
  | .relational, .inGraph _ => true
  | .relational, .hasType _ => true
  | .relational, .hasCode _ => true
  | .relational, .hasUri _ => true
  | .relational, .hasNumber _ => true
  | .relational, .createdWithin _ => true
  | .relational, .modifiedWithin _ => true
  | .relational, _ => false

namespace NodeSpecification

mutual

/-- The leftmost leaf that a backend does not support. -/
def firstUnsupported (backend : Backend) : NodeSpecification → Option Criterion
  | .everything => none
  | .nothing => none
  | .leaf criterion => if criterion.supports backend then none else some criterion
  | .negation inner => firstUnsupported backend inner
  | .conjunction clauses => firstUnsupportedOf backend clauses
  | .disjunction clauses => firstUnsupportedOf backend clauses

def firstUnsupportedOf (backend : Backend) : List NodeSpecification → Option Criterion
  | [] => none
  | clause :: clauses => (firstUnsupported backend clause).or (firstUnsupportedOf backend clauses)

end

def supports (backend : Backend) (specification : NodeSpecification) : Bool :=
  (firstUnsupported backend specification).isNone

mutual

/-- The relational query, put together from the forms of the leaves. -/
def relationalForm : NodeSpecification → Except Unsupported Relational.Query
  | .everything => .ok .tautology
  | .nothing => .ok .contradiction
  | .leaf criterion =>
    match criterion.relational? with
    | some query => .ok query
    | none => .error ⟨.relational, criterion⟩
  | .negation inner => (relationalForm inner).map (·.negate)
  | .conjunction clauses => (relationalForms clauses).map (.joined " AND ")
  | .disjunction clauses => (relationalForms clauses).map (.joined " OR ")

def relationalForms : List NodeSpecification → Except Unsupported (List Relational.Query)
  | [] => .ok []
  | clause :: clauses =>
    match relationalForm clause with
    | .error unsupported => .error unsupported
    | .ok query => (relationalForms clauses).map (query :: ·)

end

mutual

/-- The query to a search index, put together from the forms of the leaves. -/
def searchForm : NodeSpecification → Except Unsupported Search.Query
  | .everything => .ok .everything
  | .nothing => .ok .nothing
  | .leaf criterion =>
    match criterion.search? with
    | some query => .ok query
    | none => .error ⟨.index, criterion⟩
  | .negation inner => (searchForm inner).map (·.without)
  | .conjunction clauses => (searchForms clauses).map .allOf
  | .disjunction clauses => (searchForms clauses).map .anyOf

def searchForms : List NodeSpecification → Except Unsupported (List Search.Query)
  | [] => .ok []
  | clause :: clauses =>
    match searchForm clause with
    | .error unsupported => .error unsupported
    | .ok query => (searchForms clauses).map (query :: ·)

end

/-- The relational query of a specification, unless a leaf is not supported. -/
def relational (specification : NodeSpecification) : Except Unsupported Relational.Query :=
  match firstUnsupported .relational specification with
  | some criterion => .error ⟨.relational, criterion⟩
  | none => relationalForm specification

/-- The query of a specification to a search index, unless a leaf is not supported. -/
def search (specification : NodeSpecification) : Except Unsupported Search.Query :=
  match firstUnsupported .index specification with
  | some criterion => .error ⟨.index, criterion⟩
  | none => searchForm specification

end NodeSpecification

end NodeQuery
