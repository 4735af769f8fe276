import NodeQuery.Criterion

/-!
Resolving criteria on the targets of references. Every such criterion is replaced by the choice
among references to the nodes that meet it, which are looked up: from left to right, and within a
criterion from the innermost target outwards.
-/

namespace NodeQuery

/-- Each id once, in ascending order. -/
def ascendingIds (keys : List NodeKey) : List Uuid :=
  (OrderedMap.ofList (keys.map fun key => (key.id, ()))).keys

variable {m : Type → Type} [Monad m]

def Criterion.resolve (lookUp : NodeSpecification → m (List NodeKey)) :
    Criterion → m NodeSpecification
  | .referencesSuch name target => do
    let target ← target.resolve lookUp
    let keys ← lookUp target
    return .disjunction ((ascendingIds keys).map fun id => .leaf (.references name id))
  | criterion => return .leaf criterion

namespace NodeSpecification

mutual

def resolve (lookUp : NodeSpecification → m (List NodeKey)) :
    NodeSpecification → m NodeSpecification
  | .everything => return .everything
  | .nothing => return .nothing
  | .leaf criterion => criterion.resolve lookUp
  | .negation inner => do
    let inner ← resolve lookUp inner
    return .negation inner
  | .conjunction clauses => do
    let clauses ← resolveAll lookUp clauses
    return .conjunction clauses
  | .disjunction clauses => do
    let clauses ← resolveAll lookUp clauses
    return .disjunction clauses

def resolveAll (lookUp : NodeSpecification → m (List NodeKey)) :
    List NodeSpecification → m (List NodeSpecification)
  | [] => return []
  | clause :: clauses => do
    let clause ← resolve lookUp clause
    let clauses ← resolveAll lookUp clauses
    return clause :: clauses

end

end NodeSpecification

end NodeQuery
