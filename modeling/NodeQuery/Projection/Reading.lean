import NodeQuery.Criterion.Reading
import NodeQuery.Projection.Select

/-!
Reading projections: selects between commas. A name that could also be a field or a group stands for
that only where the text cannot go on with it.
-/

namespace NodeQuery.Select

open Text Text.Reader

namespace Reading

open Criterion.Reading (isCodeChar isUuidChar code)

/-- A name that does not go on. -/
def keyword (name : String) : Reader Unit :=
  followedBy (literal name) (notNext fun char => isCodeChar char || char == '.')

/-- The fields of nodes, each with its spellings. -/
def fieldNames : List (String × List String) :=
  [("code", ["code"]), ("uri", ["uri"]), ("number", ["number", "n"]), ("createdBy", ["createdBy"]),
    ("createdDate", ["createdDate"]), ("lastModifiedBy", ["lastModifiedBy"]),
    ("lastModifiedDate", ["lastModifiedDate"])]

def field : Reader Select :=
  firstOf (fieldNames.map fun (name, spellings) =>
    map (fun _ => .field name) (firstOf (spellings.map keyword)))

/-- A hyphenated UUID. -/
def uuid : Reader Uuid :=
  mapIf (fun text => if text.length = 36 then Uuid.ofText? text else none) (run isUuidChar)

def depth? (digits : List Char) : Option Nat :=
  let depth := decimalValue digits
  if 0 < depth ∧ depth ≤ largestDepth then some depth else none

/-- A depth after a colon, or the default. -/
def depth : Reader Nat :=
  map (fun depth => depth.getD defaultDepth)
    (optional (before (literal ":") (mapIf depth? (run isDigit))))

def named (part : String → Nat → Part) : Reader Part := fun text =>
  (code text).andThen fun name => map (part name) depth

/-- The attributes of a group: all of them, or one by its name. -/
def group (spellings : List String) (all : Part) (one : Reader Part) : Reader Part :=
  before (firstOf (spellings.map literal)) (firstOf [map (fun _ => all) (literal "*"), one])

def groups : List (Reader Part) :=
  [group ["properties.", "props.", "p."] .allProperties (map .property code),
    group ["references.", "refs.", "r."] .allReferences (named .reference),
    group ["referrers.", "refrs."] .allReferrers (named .referrer)]

def part : Reader Part := firstOf groups

def graphQualifier : Reader Qualifier := fun text =>
  (followedBy uuid (literal ".") text).andThen fun graph =>
    map (.typeInGraph graph) (followedBy code (literal "."))

def typeQualifier : Reader Qualifier := map .typeNamed (followedBy code (literal "."))

/-- A group as it stands, which is meant for any type. -/
def unqualified : Reader Select := map (fun part => .scoped ⟨.any, part⟩) part

def qualified (qualifier : Reader Qualifier) : Reader Select := fun text =>
  (qualifier text).andThen fun qualifier => map (qualifiedBy qualifier) unqualified

/-- The selects that ask for what every node has. -/
def unscoped : List (Reader Select) :=
  [map (fun _ => .everything) (literal "*"),
    map (fun _ => .nodeId) (firstOf (["node.id", "nodeId", "id"].map keyword)),
    field,
    map (fun _ => .nodeType) (keyword "type")]

def select : Reader Select :=
  firstOf (unscoped ++ [qualified graphQualifier, qualified typeQualifier, unqualified])

def comma : Reader Unit := before blanks (followedBy (literal ",") blanks)

def selects : Reader (List Select) := separatedIfAny comma select

end Reading

def readList (text : String) : Except Misreading (List Select) := Reading.selects.readAll text

end NodeQuery.Select

/-- The message for a text that is no list of selects. -/
def NodeQuery.Text.Misreading.selectMessage (misreading : NodeQuery.Text.Misreading) : String :=
  "invalid select at offset " ++ toString misreading.offset ++ " near `" ++
    misreading.fragment ++ "`"
