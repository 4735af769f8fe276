import NodeQuery.Criterion.Reading

/-!
Reading queries. `OR` binds looser than `AND`, `AND` looser than `NOT`, and parentheses group; the
keywords stand between blanks, except that a parenthesis may follow `NOT` at once.
-/

namespace NodeQuery.Specification.Reading

open Text Text.Reader

/-- A keyword between blanks. -/
def keyword (name : String) : Reader Unit :=
  before someBlanks (before (literal name) someBlanks)

/-- A single clause stands for itself. -/
def composite (compose : List NodeSpecification → NodeSpecification) :
    List NodeSpecification → NodeSpecification
  | [only] => only
  | clauses => compose clauses

def conjunctionOf (factor : Reader NodeSpecification) : Reader NodeSpecification :=
  map (composite .conjunction) (separated (keyword "AND") factor)

def disjunctionOf (factor : Reader NodeSpecification) : Reader NodeSpecification :=
  map (composite .disjunction) (separated (keyword "OR") (conjunctionOf factor))

def negationMark : Reader Unit :=
  followedBy (literal "NOT") (firstOf [someBlanks, ahead (literal "(")])

def parenthesized (inner : Reader NodeSpecification) : Reader NodeSpecification :=
  followedBy (before (before (literal "(") blanks) inner) (before blanks (literal ")"))

/-- A negation, a query in parentheses or a criterion, given how the first two go on and how a
criterion is read. -/
def factorOver (inner : Reader NodeSpecification) (criterion : Reader Criterion) :
    Reader NodeSpecification :=
  firstOf [
    map .negation (before negationMark inner),
    parenthesized (disjunctionOf inner),
    map .leaf criterion]

/-- A factor with at most so many negations and parentheses one within the other. -/
def factor : Nat → Reader NodeSpecification
  | 0, text => .missed text
  | nesting + 1, text =>
    factorOver (factor nesting) (Criterion.Reading.criterion (nesting + 1)) text

/-- Every negation, parenthesis and reference takes a character, so a text cannot nest them deeper
than it is long. -/
def query : Reader NodeSpecification := fun text => disjunctionOf (factor (text.length + 1)) text

end NodeQuery.Specification.Reading

namespace NodeQuery.NodeSpecification

def read (text : String) : Except Text.Misreading NodeSpecification :=
  Specification.Reading.query.readAll text

end NodeQuery.NodeSpecification

/-- The message for a text that is no query. -/
def NodeQuery.Text.Misreading.queryMessage (misreading : NodeQuery.Text.Misreading) : String :=
  "invalid node query at offset " ++ toString misreading.offset ++ " near `" ++
    misreading.fragment ++ "`"
