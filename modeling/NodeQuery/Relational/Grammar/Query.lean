import NodeQuery.Relational.Grammar.Table

/-!
Queries: selections with what may follow their condition, set operations between them, order and
limits, and the changes of a table that may stand in the place of a query.
-/

namespace NodeQuery.Relational.Grammar

namespace Parts

variable (parts : Parts)

/-- Expressions in parentheses, or none. -/
def bundle : Parser Unit := parenthesized do
  unless ← announces (symbol ")") do several parts.skipped

def bundleOrOne : Parser Unit := do
  if ← announces (symbol "(") then parts.bundle else parts.skipped

def groupItem : Parser Unit := do
  if ← accepts (keywords ["GROUPING", "SETS"]) then parenthesized (several parts.bundle)
  else if ← accepts (anyKeyword ["CUBE", "ROLLUP"]) then
    parenthesized (several parts.bundleOrOne)
  else parts.skipped

def namedWindow : Parser Unit := do
  identifier
  keyword "AS"
  symbol "("
  parts.window

/-- What may follow the condition of a selection. -/
def grouped : Parser Unit := do
  if ← accepts (keywords ["GROUP", "BY"]) then
    unless ← accepts (keyword "ALL") do several parts.groupItem
  clause ["CLUSTER", "BY"] (several parts.skipped)
  clause ["DISTRIBUTE", "BY"] (several parts.skipped)
  clause ["SORT", "BY"] (several parts.skipped)
  clause ["HAVING"] parts.skipped
  clause ["WINDOW"] (several parts.namedWindow)
  clause ["QUALIFY"] parts.skipped

/-- The number of rows to begin with. -/
def top : Parser Unit := do
  if ← announces (symbol "(") then parenthesized parts.skipped else wholeNumber
  optionally (keyword "PERCENT")
  optionally (keywords ["WITH", "TIES"])

def target : Parser Unit := do
  optionally (anyKeyword ["TEMP", "TEMPORARY"])
  optionally (keyword "UNLOGGED")
  optionally (keyword "TABLE")
  path

def lateralView : Parser Unit := do
  optionally (keyword "OUTER")
  parts.skipped
  path
  several (discard (aliasBut ["WHERE", "GROUP", "CLUSTER", "HAVING", "LATERAL"]))

/-- A selection after its first keyword. -/
def selection : Parser Unit := do
  parts.distinction
  clause ["TOP"] parts.top
  several parts.selectItem
  clause ["INTO"] target
  clause ["FROM"] parts.someTables
  allOf (keywords ["LATERAL", "VIEW"] *> parts.lateralView)
  clause ["WHERE"] parts.skipped
  parts.grouped

/-- A table named in the place of a selection. The two tokens after the name go with it, whatever
they are. -/
def wholeTable : Parser Unit
  | .word _ _ :: .symbol "." :: .word _ _ :: rest => some ((), rest)
  | .word _ _ :: .symbol "." :: _ => none
  | .word _ _ :: rest => some ((), rest.drop 2)
  | _ => none

/-- A selection, or a query in parentheses. -/
def queryTerm : Parser Unit :=
  byKeyword
    [(["SELECT"], parts.selection), (["VALUES"], parts.rows), (["TABLE"], wholeTable)]
    (parenthesized parts.query)

def unionKind : Parser Unit := do
  unless ← accepts (keywords ["DISTINCT", "BY", "NAME"] <|> keywords ["BY", "NAME"]) do
    if ← accepts (keyword "ALL") then optionally (keywords ["BY", "NAME"])
    else optionally (keyword "DISTINCT")

/-- Further selections, joined by set operations. -/
def united : Parser (List Unit) :=
  repeated do
    if ← accepts (keyword "UNION") then
      unionKind
      return some (← parts.queryTerm)
    else if ← accepts (anyKeyword ["EXCEPT", "INTERSECT"]) then
      optionally (anyKeyword ["ALL", "DISTINCT"])
      return some (← parts.queryTerm)
    else return none

def offset : Parser Unit := do
  parts.skipped
  optionally (anyKeyword ["ROW", "ROWS"])

/-- A limit, and whether it gives a number. -/
def limit : Parser Bool := do
  if ← accepts (keyword "ALL") then return false
  else
    parts.skipped
    return true

/-- A limit and an offset, either of which may be there already. A second number after the limit
makes an offset of the first one. -/
def portion (limited shifted : Bool) : Parser (Bool × Bool) := do
  let mut limited := limited
  let mut shifted := shifted
  if !limited then
    if ← accepts (keyword "LIMIT") then limited ← parts.limit
  if !shifted then
    if ← accepts (keyword "OFFSET") then
      parts.offset
      shifted := true
  if limited && !shifted then
    if ← accepts (symbol ",") then
      parts.skipped
      shifted := true
  return (limited, shifted)

def fetch : Parser Unit := do
  anyKeyword ["FIRST", "NEXT"]
  unless ← accepts (anyKeyword ["ROW", "ROWS"]) do
    value
    optionally (keyword "PERCENT")
    anyKeyword ["ROW", "ROWS"]
  keyword "ONLY" <|> keywords ["WITH", "TIES"]

def lock : Parser Unit := do
  anyKeyword ["UPDATE", "SHARE"]
  clause ["OF"] path
  optionally (keyword "NOWAIT" <|> keywords ["SKIP", "LOCKED"])

def textInParentheses : Parser Unit := parenthesized (discard literalText)

/-- The form of a document to give the answer in. -/
def document : Parser Unit := do
  if ← accepts (keyword "XML") then
    if ← accepts (anyKeyword ["RAW", "PATH"]) then
      if ← announces (symbol "(") then textInParentheses
    else anyKeyword ["AUTO", "EXPLICIT"]
    discard <| furtherBy "," do
      if ← accepts (keyword "BINARY") then keyword "BASE64"
      else if ← accepts (keyword "ROOT") then textInParentheses
      else optionally (anyKeyword ["ELEMENTS", "TYPE"])
  else if ← accepts (keyword "JSON") then
    anyKeyword ["AUTO", "PATH"]
    discard <| furtherBy "," do
      if ← accepts (keyword "ROOT") then textInParentheses
      else optionally (anyKeyword ["INCLUDE_NULL_VALUES", "WITHOUT_ARRAY_WRAPPER"])
  else keyword "BROWSE"

/-- Order, limit and offset, and what the answer is for. -/
def arranged : Parser Unit := do
  parts.ordered
  let (limited, shifted) ← parts.portion false false
  discard (parts.portion limited shifted)
  clause ["BY"] (several parts.skipped)
  clause ["FETCH"] fetch
  allOf (keyword "FOR" *> lock)
  clause ["FOR"] document

def returning : Parser Unit := clause ["RETURNING"] (several parts.selectItem)

/-- An assignment; whatever stands before the equals sign is taken for a name. -/
def assignment : Parser Unit := do
  modify (·.dropWhile (!·.isSymbol "="))
  symbol "="
  parts.skipped

/-- What to do when a row is there already. -/
def conflict : Parser Unit := do
  if ← accepts (keyword "CONFLICT") then
    if ← accepts (keywords ["ON", "CONSTRAINT"]) then path
    else
      if ← announces (symbol "(") then nameList
    keyword "DO"
    unless ← accepts (keyword "NOTHING") do
      keywords ["UPDATE", "SET"]
      several parts.assignment
      clause ["WHERE"] parts.skipped
  else
    keywords ["DUPLICATE", "KEY", "UPDATE"]
    several parts.assignment

/-- An insertion after its first keyword. -/
def insertion : Parser Unit := do
  optionally (anyKeyword ["LOW_PRIORITY", "DELAYED", "HIGH_PRIORITY"])
  optionally (keyword "IGNORE")
  optionally (anyKeyword ["INTO", "OVERWRITE"])
  optionally (keyword "LOCAL")
  optionally (keyword "TABLE")
  path
  unless ← accepts (keywords ["DEFAULT", "VALUES"]) do
    optionally nameList
    clause ["PARTITION"] (parenthesized (several parts.skipped))
    parts.query
  clause ["ON"] parts.conflict
  parts.returning

/-- An update after its first keyword. -/
def update : Parser Unit := do
  discard parts.tables
  keyword "SET"
  several parts.assignment
  clause ["FROM"] (discard parts.tables)
  clause ["WHERE"] parts.skipped
  parts.returning

/-- A query under a name of its own. -/
def commonTable : Parser Unit := do
  identifier
  unless ← announces (keyword "AS") do
    if ← announces (symbol "(") then nameList
  keyword "AS"
  parenthesized parts.query
  clause ["FROM"] identifier

/-- A query, or a change in the place of one. -/
def wholeQuery : Parser Unit := do
  if ← accepts (keyword "WITH") then
    optionally (keyword "RECURSIVE")
    several parts.commonTable
  byKeyword [(["INSERT"], parts.insertion), (["UPDATE"], parts.update)] do
    parts.queryTerm
    discard parts.united
    parts.arranged

end Parts

/-- What may stand inside when so many levels are left. -/
def Enclosed.within : Nat → Enclosed
  | 0 => ⟨failure, failure⟩
  | levels + 1 =>
    let parts := (Enclosed.within levels).parts
    ⟨parts.operand (.over 0), parts.wholeQuery⟩

/-- The parts of something that leaves so many levels. -/
def Parts.within (levels : Nat) : Parts := (Enclosed.within levels).parts

end NodeQuery.Relational.Grammar
