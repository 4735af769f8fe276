import NodeQuery.Projection.Select

/-!
Qualified selects: what a projection asks for once its scoped selects have been bound to the
attributes of a schema.
-/

namespace NodeQuery

/-- A referrer is named within the type that the reference points at, so that references of one
name from several types to one count as one. -/
inductive QualifiedSelect where
  | everything
  | nodeId
  | nodeType
  | field (name : String)
  | property (id : AttributeId)
  | reference (id : AttributeId) (depth : Nat)
  | referrer (id : AttributeId) (depth : Nat)
  deriving Repr, DecidableEq

namespace QualifiedSelect

def groupText (group : String) (id : AttributeId) : String :=
  id.domain.text ++ "." ++ group ++ "." ++ id.name

def text : QualifiedSelect → String
  | .everything => "*"
  | .nodeId => "id"
  | .nodeType => "type"
  | .field name => name
  | .property id => groupText "properties" id
  | .reference id depth => groupText "references" id ++ depthText depth
  | .referrer id depth => groupText "referrers" id ++ depthText depth

end QualifiedSelect

/-- The qualified form of a select that asks for the same of every node. -/
def Select.unscoped? : Select → Option QualifiedSelect
  | .everything => some .everything
  | .nodeId => some .nodeId
  | .nodeType => some .nodeType
  | .field name => some (.field name)
  | .scoped _ => none

end NodeQuery
