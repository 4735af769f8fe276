import NodeQuery.Search.Index

/-!
Searching with an order and a limit. Documents are ordered by the least term they have in a field;
documents without the field stand last in either direction, and ties are broken by age in either
direction.
-/

namespace NodeQuery.Search

structure SortField where
  field : String
  descending : Bool
  deriving Repr, DecidableEq

structure Options where
  sort : Option SortField
  limit : Option Nat
  deriving Repr, DecidableEq

namespace Options

def unrestricted : Options := ⟨none, none⟩

def sortedBy (options : Options) (field : String) (descending : Bool) : Options :=
  { options with sort := some ⟨field, descending⟩ }

def limitedTo (options : Options) (limit : Nat) : Options := { options with limit := some limit }

/-- The limit that holds where none is given. -/
def orLimitedTo (options : Options) (limit : Nat) : Options :=
  options.limitedTo (options.limit.getD limit)

end Options

def least? : List String → Option String
  | [] => none
  | term :: terms =>
    match least? terms with
    | none => some term
    | some other => if (compare term other).isLE then some term else some other

/-- The least term of a document in a field. -/
def sortKey? (document : Document) (field : String) : Option String :=
  least? ((document.filter (·.1 = field)).map (·.2))

def compareKeys (descending : Bool) : Option String → Option String → Ordering
  | some left, some right => if descending then compare right left else compare left right
  | some _, none => .lt
  | none, some _ => .gt
  | none, none => .eq

namespace Index

def order (index : Index) (sort : SortField) (left right : Nat) : Ordering :=
  (compareKeys sort.descending (sortKey? (index.documentAt left) sort.field)
    (sortKey? (index.documentAt right) sort.field)).then (compare left right)

def sorted (index : Index) (sort : Option SortField) (numbers : List Nat) : List Nat :=
  match sort with
  | none => numbers
  | some sort => numbers.mergeSort fun left right => (index.order sort left right).isLE

def limited (limit : Option Nat) (numbers : List Nat) : List Nat :=
  match limit with
  | none => numbers
  | some limit => numbers.take limit

def search (index : Index) (query : Query) (options : Options) : List NodeKey :=
  (limited options.limit (index.sorted options.sort (index.hits query).numbers)).filterMap
    (index.keys[·]?)

end Index

end NodeQuery.Search
