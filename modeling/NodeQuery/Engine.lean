import NodeQuery.Compilation
import NodeQuery.Config
import NodeQuery.Projection.Plan
import NodeQuery.Projection.Reading
import NodeQuery.Relational.Table
import NodeQuery.Resolution
import NodeQuery.Search.Order
import NodeQuery.Specification.NormalForm

/-!
The engine: settings and a schema snapshot, and what can be asked of stores with them. The node
table is asked with the relational form of a specification. The search index is asked with its
search form, after the criteria on targets have been resolved by searches of their own, which have
no limit.
-/

namespace NodeQuery

/-- Why a snapshot was not taken. -/
inductive SnapshotError where
  | loading (cause : SchemaError)
  | validating (cause : SchemaError)
  deriving Repr, DecidableEq

namespace SnapshotError

def cause : SnapshotError → SchemaError
  | .loading cause => cause
  | .validating cause => cause

def message : SnapshotError → String
  | .loading cause => "loading schema snapshot: " ++ cause.message
  | .validating cause => "validating schema snapshot: " ++ cause.message

end SnapshotError

inductive FindError where
  | unsupported (cause : Unsupported)
  | query (cause : Relational.QueryError)
  deriving DecidableEq

structure Selection where
  selects : List QualifiedSelect
  plan : SelectionPlan
  deriving DecidableEq

structure Engine where
  config : Config
  schema : Schema

namespace Engine

/-- Take a snapshot of the types, whose ranges are looked at only if the settings are strict. -/
def ofTypes (config : Config) (types : List EntityType) : Except SnapshotError Engine :=
  match Schema.ofTypes types with
  | .error cause => .error (.loading cause)
  | .ok schema =>
    match if config.strict then schema.requireRanges else .ok () with
    | .error cause => .error (.validating cause)
    | .ok () => .ok ⟨config, schema⟩

def normalForm (engine : Engine) (form : Specification.Form) (specification : NodeSpecification) :
    Except Specification.ClauseOverflow (Specification.Groups Criterion) :=
  specification.normalForm form engine.config.maxClauses

def select (engine : Engine) (text : String) (domain : List TypeId) :
    Except Text.Misreading Selection := do
  let selects ← Select.readList text
  let qualified := engine.schema.qualify engine.config.mode domain selects
  return ⟨qualified, .ofSelects qualified⟩

def findRelational (_ : Engine) (table : Relational.Table) (specification : NodeSpecification) :
    Except FindError (List NodeKey) :=
  match specification.relational with
  | .error cause => .error (.unsupported cause)
  | .ok query => (table.execute query).mapError .query

/-- The keys of the nodes in the index that meet a target without further targets. -/
def targetKeys (index : Search.Index) (target : NodeSpecification) :
    Except Unsupported (List NodeKey) := do
  let query ← target.search
  return index.search query .unrestricted

def resolveIndexed (_ : Engine) (index : Search.Index) (specification : NodeSpecification) :
    Except Unsupported NodeSpecification :=
  specification.resolve (targetKeys index)

def findIndexed (engine : Engine) (index : Search.Index) (specification : NodeSpecification)
    (options : Search.Options) : Except Unsupported (List NodeKey) := do
  let specification ← engine.resolveIndexed index specification
  let query ← specification.search
  return index.search query (options.orLimitedTo engine.config.defaultLimit)

end Engine

end NodeQuery
