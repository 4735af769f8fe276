import NodeQuery.Schema.TypeId
import NodeQuery.Text.Decimal

/-!
Selects: what a projection asks for of each node. Some ask for what every node has; the others are
scoped, that is, they ask for attributes, which depend on the type of the node and may be qualified
by it.
-/

namespace NodeQuery

open Text

/-- The types that a scoped select is meant for. -/
inductive Qualifier where
  | any
  | typeNamed (name : String)
  | typeInGraph (graph : Uuid) (name : String)
  deriving Repr, DecidableEq

namespace Qualifier

def admits (id : TypeId) : Qualifier → Bool
  | .any => true
  | .typeNamed name => id.name == name
  | .typeInGraph graph name => id.graph == graph && id.name == name

def isAny : Qualifier → Bool
  | .any => true
  | _ => false

def text : Qualifier → String
  | .any => ""
  | .typeNamed name => name ++ "."
  | .typeInGraph graph name => graph.text ++ "." ++ name ++ "."

end Qualifier

/-- The attributes that a scoped select asks for: texts, references from the node, or references to
it. References are followed to a depth, which is 1 where none is given. -/
inductive Part where
  | allProperties
  | property (name : String)
  | allReferences
  | reference (name : String) (depth : Nat)
  | allReferrers
  | referrer (name : String) (depth : Nat)
  deriving Repr, DecidableEq

def defaultDepth : Nat := 1

def largestDepth : Nat := UInt32.size - 1

def depthText (depth : Nat) : String :=
  if depth = defaultDepth then "" else ":" ++ naturalText depth

def Part.text : Part → String
  | .allProperties => "properties.*"
  | .property name => "properties." ++ name
  | .allReferences => "references.*"
  | .reference name depth => "references." ++ name ++ depthText depth
  | .allReferrers => "referrers.*"
  | .referrer name depth => "referrers." ++ name ++ depthText depth

structure ScopedSelect where
  qualifier : Qualifier
  part : Part
  deriving Repr, DecidableEq

inductive Select where
  | everything
  | nodeId
  | nodeType
  | field (name : String)
  | scoped (select : ScopedSelect)
  deriving Repr, DecidableEq

namespace Select

def text : Select → String
  | .everything => "*"
  | .nodeId => "id"
  | .nodeType => "type"
  | .field name => name
  | .scoped select => select.qualifier.text ++ select.part.text

def isScoped : Select → Bool
  | .scoped _ => true
  | _ => false

def scoped? : Select → Option ScopedSelect
  | .scoped select => some select
  | _ => none

/-- The same attributes, meant for other types. -/
def qualifiedBy (qualifier : Qualifier) : Select → Select
  | .scoped select => .scoped { select with qualifier }
  | unscoped => unscoped

end Select

end NodeQuery
