import NodeQuery.OrderedMap
import NodeQuery.Projection.Qualified

/-!
Selection plans: for every attribute that a projection asks for, the largest depth that it asks
for. A loader looks up there what to fetch of a type and how far to follow its references.
-/

namespace NodeQuery

/-- Depths of attributes by type and name. -/
abbrev DepthMap := OrderedMap TypeId (OrderedMap String Nat)

namespace DepthMap

/-- Ask for an attribute at least to a depth. -/
def raise (depths : DepthMap) (id : AttributeId) (depth : Nat) : DepthMap :=
  depths.upsert id.domain fun names =>
    (names.getD OrderedMap.empty).upsert id.name fun known => max (known.getD depth) depth

def depth? (depths : DepthMap) (id : AttributeId) : Option Nat :=
  (depths.get? id.domain).bind (·.get? id.name)

def depths (map : DepthMap) : List Nat := map.values.flatMap (·.values)

end DepthMap

structure SelectionPlan where
  everything : Bool
  nodeId : Bool
  nodeType : Bool
  fields : OrderedMap String Unit
  properties : DepthMap
  references : DepthMap
  referrers : DepthMap
  deriving DecidableEq

namespace SelectionPlan

def empty : SelectionPlan :=
  ⟨false, false, false, .empty, .empty, .empty, .empty⟩

def add (plan : SelectionPlan) : QualifiedSelect → SelectionPlan
  | .everything => { plan with everything := true }
  | .nodeId => { plan with nodeId := true }
  | .nodeType => { plan with nodeType := true }
  | .field name => { plan with fields := plan.fields.insert name () }
  | .property id => { plan with properties := DepthMap.raise plan.properties id defaultDepth }
  | .reference id depth => { plan with references := DepthMap.raise plan.references id depth }
  | .referrer id depth => { plan with referrers := DepthMap.raise plan.referrers id depth }

def ofSelects (selects : List QualifiedSelect) : SelectionPlan := selects.foldl add empty

def isEmpty (plan : SelectionPlan) : Bool := plan = empty

def propertyDepth? (plan : SelectionPlan) (id : AttributeId) : Option Nat :=
  DepthMap.depth? plan.properties id

def referenceDepth? (plan : SelectionPlan) (id : AttributeId) : Option Nat :=
  DepthMap.depth? plan.references id

/-- The depth of references of a name that point at a type. -/
def referrerDepth? (plan : SelectionPlan) (id : AttributeId) : Option Nat :=
  DepthMap.depth? plan.referrers id

/-- The largest depth to which references are followed, and 0 where none are. -/
def maxDepth (plan : SelectionPlan) : Nat :=
  (DepthMap.depths plan.references ++ DepthMap.depths plan.referrers).foldl max 0

end SelectionPlan

end NodeQuery
