import NodeQuery.OrderedMap
import NodeQuery.Search.Document
import NodeQuery.Search.DocumentSet

/-!
The search index. Every stored version of a node gets the next document number; a later version
retires the earlier one, whose document is emptied and whose number is not used again. For each
field the index keeps the terms in ascending order, each with the numbers of the live documents that
hold it.
-/

namespace NodeQuery.Search

abbrev Postings := OrderedMap String DocumentSet

structure Index where
  keys : Array NodeKey
  documents : Array Document
  liveByKey : List (NodeKey × Nat)
  fields : OrderedMap String Postings
  live : DocumentSet
  deriving DecidableEq

/-- There are this many document numbers. -/
def documentLimit : Nat := UInt32.size

structure IndexFull where
  documents : Nat
  deriving Repr, DecidableEq

def IndexFull.message (full : IndexFull) : String :=
  "index is full (" ++ Text.naturalText full.documents ++ " documents)"

namespace Index

def empty : Index := ⟨#[], #[], [], .empty, .empty⟩

instance : Inhabited Index := ⟨empty⟩

def size (index : Index) : Nat := index.live.size

def isEmpty (index : Index) : Bool := index.live.isEmpty

def liveNumber? (index : Index) (key : NodeKey) : Option Nat :=
  (index.liveByKey.find? (·.1 = key)).map (·.2)

/-- The document under a number, which is empty unless the number is live. -/
def documentAt (index : Index) (number : Nat) : Document := (index.documents[number]?).getD []

def post (fields : OrderedMap String Postings) (field term : String) (number : Nat) :
    OrderedMap String Postings :=
  fields.upsert field fun postings =>
    (postings.getD .empty).upsert term fun numbers => (numbers.getD .empty).insert number

/-- The postings without a number under a term, and without the term once no number is left. -/
def Postings.withdraw (postings : Postings) (term : String) (number : Nat) : Postings :=
  match postings.get? term with
  | none => postings
  | some numbers =>
    let left := numbers.erase number
    if left.isEmpty then postings.erase term else postings.insert term left

def withdraw (fields : OrderedMap String Postings) (field term : String) (number : Nat) :
    OrderedMap String Postings :=
  match fields.get? field with
  | none => fields
  | some postings => fields.insert field (Postings.withdraw postings term number)

/-- Forget the live version of a key; tells whether there was one. -/
def retire (index : Index) (key : NodeKey) : Index × Bool :=
  match index.liveNumber? key with
  | none => (index, false)
  | some number =>
    ({ index with
        documents := index.documents.setIfInBounds number []
        liveByKey := index.liveByKey.filter (·.1 != key)
        fields := (index.documentAt number).foldl
          (fun fields (field, term) => withdraw fields field term number) index.fields
        live := index.live.erase number }, true)

/-- Store a document under the next number. -/
def add (index : Index) (key : NodeKey) (document : Document) : Index where
  keys := index.keys.push key
  documents := index.documents.push document
  liveByKey := (key, index.keys.size) :: index.liveByKey
  fields := document.foldl
    (fun fields (field, term) => post fields field term index.keys.size) index.fields
  live := index.live.insert index.keys.size

/-- Store a node. The earlier version is retired first, also when no document number is left for
the new one. -/
def insert (index : Index) (node : Node) : Index × Option IndexFull :=
  let retired := (index.retire node.key).1
  if retired.keys.size < documentLimit then (retired.add node.key (document node.key node), none)
  else (retired, some ⟨retired.keys.size⟩)

def remove (index : Index) (key : NodeKey) : Index × Bool := index.retire key

def insertAll (index : Index) : List Node → Index × Option IndexFull
  | [] => (index, none)
  | node :: nodes =>
    match index.insert node with
    | (index, none) => index.insertAll nodes
    | failed => failed

def ofNodes (nodes : List Node) : Index × Option IndexFull := empty.insertAll nodes

/-- The terms of a field from the first one that a predicate lets in to the last one before
another predicate fails. -/
def scan (postings : Postings) (reached within : String → Bool) : DocumentSet :=
  .unions (((postings.entries.dropWhile fun entry => !reached entry.1).takeWhile fun entry =>
    within entry.1).map (·.2))

def starting (postings : Postings) (start : String) : DocumentSet :=
  scan postings (fun term => (compare start term).isLE) fun term =>
    start.toList.isPrefixOf term.toList

def between (postings : Postings) (lower upper : Option String) : DocumentSet :=
  scan postings (fun term => lower.all fun lower => (compare lower term).isLE) fun term =>
    upper.all fun upper => (compare term upper).isLE

/-- The documents of a boolean query, given those of its clauses. -/
def combined (hits : List (Occurrence × DocumentSet)) : DocumentSet :=
  let having (occurrence : Occurrence) : List DocumentSet :=
    (hits.filter (·.1 = occurrence)).map (·.2)
  let wanted := match having .must with
    | first :: others => others.foldl DocumentSet.inter first
    | [] => .unions (having .should)
  wanted.diff (.unions (having .mustNot))

mutual

def hits (index : Index) : Query → DocumentSet
  | .everything => index.live
  | .term field value => (((index.fields.get? field).bind (·.get? value))).getD .empty
  | .starts field start => ((index.fields.get? field).map (starting · start)).getD .empty
  | .between field lower upper =>
    ((index.fields.get? field).map (between · lower upper)).getD .empty
  | .exists field =>
    ((index.fields.get? field).map fun postings => .unions postings.values).getD .empty
  | .boolean clauses => combined (clauseHits index clauses)

def clauseHits (index : Index) : List (Occurrence × Query) → List (Occurrence × DocumentSet)
  | [] => []
  | (occurrence, query) :: clauses => (occurrence, hits index query) :: clauseHits index clauses

end

end Index

end NodeQuery.Search
