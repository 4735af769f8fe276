import NodeQuery.Relational.Condition

/-!
The node table: one row for each key, in the order in which the keys came in. Storing a node again
replaces its row in place.
-/

namespace NodeQuery.Relational

abbrev Entry := NodeKey × Row

structure Table where
  entries : List Entry
  deriving DecidableEq

namespace Table

def empty : Table := ⟨[]⟩

/-- The entries with the row under `key` replaced, or added at the end. -/
def put (key : NodeKey) (row : Row) : List Entry → List Entry
  | [] => [(key, row)]
  | entry :: rest => if entry.1 = key then (key, row) :: rest else entry :: put key row rest

def insert (table : Table) (node : Node) : Table :=
  ⟨put node.key (row node.key node) table.entries⟩

def ofNodes (nodes : List Node) : Table := nodes.foldl insert empty

def contains (table : Table) (key : NodeKey) : Bool := table.entries.any (·.1 == key)

def remove (table : Table) (key : NodeKey) : Table := ⟨table.entries.filter (·.1 != key)⟩

def size (table : Table) : Nat := table.entries.length

/-- The keys of the entries on which a condition is true. -/
def matching (condition : Condition) : List Entry → Except QueryError (List NodeKey)
  | [] => .ok []
  | entry :: rest => do
    let truth ← condition.evaluate entry.2
    let keys ← matching condition rest
    return if truth = some true then entry.1 :: keys else keys

def execute (table : Table) (query : Query) : Except QueryError (List NodeKey) := do
  let condition ← Condition.ofQuery query
  matching condition table.entries

end Table

end NodeQuery.Relational
