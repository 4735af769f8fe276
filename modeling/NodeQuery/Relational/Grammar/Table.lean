import NodeQuery.Relational.Grammar.Expression

/-!
The tables that a query selects from: named tables, calls, subqueries and joins of them, with their
aliases.
-/

namespace NodeQuery.Relational.Grammar

/-- What is known of a table when it turns out to stand in parentheses. -/
structure TableShape where
  joined : Bool
  aliased : Bool

namespace Parts

variable (parts : Parts)

/-- Another name, which needs `AS` before it if it could be one of the keywords. -/
def aliasBut (reserved : List String) : Parser Bool := do
  if ← accepts (keyword "AS") then
    identifier
    return true
  else accepts (discard (token isAlias))
where
  isAlias : Token → Bool
    | .word name delimiter => !reserved.any (Token.word name delimiter).isKeyword
    | .quoted _ => true
    | _ => false

/-- Another name for a table, and possibly for its columns. -/
def tableAlias : Parser Bool := do
  let aliased ← aliasBut Keyword.afterTable
  if aliased then
    if ← announces (symbol "(") then nameList
  return aliased

def pivot : Parser Bool := do
  parenthesized do
    word
    symbol "("
    parts.call
    keyword "FOR"
    path
    keyword "IN"
    parenthesized (several value)
  tableAlias

def unpivot : Parser Bool := do
  parenthesized do
    identifier
    keyword "FOR"
    identifier
    keyword "IN"
    nameList
  tableAlias

/-- A table that may be turned, which gives it another alias each time. -/
def turned (aliased : Bool) : Parser TableShape := do
  let turns ← repeated do
    if ← accepts (keyword "PIVOT") then return some (← parts.pivot)
    else if ← accepts (keyword "UNPIVOT") then return some (← unpivot)
    else return none
  return ⟨false, turns.getLastD aliased⟩

def derived : Parser Bool := do
  parenthesized parts.query
  tableAlias

/-- A table with an alias that cannot be turned. -/
def plain (table : Parser Unit) : Parser TableShape := do
  table
  return ⟨false, ← tableAlias⟩

def rows : Parser Unit := several do
  optionally (keyword "ROW")
  parenthesized (several parts.skipped)

def unnested : Parser TableShape := do
  parenthesized (several parts.skipped)
  let aliased ← tableAlias
  if ← accepts (keywords ["WITH", "OFFSET"]) then discard (aliasBut Keyword.afterValue)
  return ⟨false, aliased⟩

def namedTable : Parser TableShape := do
  path
  if ← accepts (keyword "PARTITION") then parenthesized (several identifier)
  if ← accepts (symbol "(") then parts.arguments
  let aliased ← tableAlias
  if ← accepts (keyword "WITH" *> symbol "(") then
    several parts.skipped
    symbol ")"
  parts.turned aliased

/-- A table in parentheses, after the opening one: a join is a table without an alias of its own,
and a single table has one alias at most. -/
def enclosedTable (joins : Parser TableShape) : Parser TableShape := do
  let inner ← joins
  symbol ")"
  let aliased ← tableAlias
  if inner.joined then return ⟨true, aliased⟩
  else
    guard !(inner.aliased && aliased)
    return ⟨false, inner.aliased || aliased⟩

def lateral : Parser TableShape := do
  if ← announces (symbol "(") then return ⟨false, ← parts.derived⟩
  else plain do
    path
    symbol "("
    parts.arguments

def factor (joins : Parser TableShape) : Parser TableShape :=
  byKeyword
    [(["LATERAL"], parts.lateral),
      (["TABLE"], plain (parenthesized parts.skipped)),
      (["VALUES"], plain parts.rows),
      (["UNNEST"], parts.unnested)]
    ((do parts.turned (← parts.derived)) <|> do
      if ← accepts (symbol "(") then enclosedTable joins else parts.namedTable)

/-- The kind of a join, and whether it is one that may have a condition. -/
def joinKind : Parser Bool := do
  if ← accepts (keyword "CROSS") then
    anyKeyword ["JOIN", "APPLY"]
    return false
  else if ← accepts (keyword "OUTER") then
    keyword "APPLY"
    return false
  else
    let natural ← accepts (keyword "NATURAL")
    if ← accepts (keyword "INNER") then keyword "JOIN"
    else if ← accepts (anyKeyword ["LEFT", "RIGHT"]) then
      optionally (anyKeyword ["OUTER", "SEMI", "ANTI"])
      keyword "JOIN"
    else
      if ← accepts (keyword "FULL") then optionally (keyword "OUTER")
      keyword "JOIN"
    return !natural

def joinCondition : Parser Unit := do
  if ← accepts (keyword "ON") then parts.skipped
  else if ← accepts (keyword "USING") then nameList

def joinNames : List String :=
  ["CROSS", "OUTER", "NATURAL", "INNER", "JOIN", "LEFT", "RIGHT", "FULL"]

/-- A table with everything that is joined to it. -/
def tables : Parser TableShape := recursive (fun inner (_ : Unit) => do
  let first ← parts.factor (inner ())
  let joins ← repeated do
    if ← announces (anyKeyword joinNames) then
      let conditional ← joinKind
      discard (parts.factor (inner ()))
      if conditional then parts.joinCondition
      return some ()
    else return none
  return ⟨first.joined || !joins.isEmpty, first.aliased⟩) ()

def someTables : Parser Unit := several (discard parts.tables)

/-- What changes the columns that a star stands for. -/
def starOptions : Parser Unit := do
  if ← accepts (keyword "EXCLUDE") then identifier <|> nameList
  if ← accepts (keyword "EXCEPT") then identifier <|> nameList
  if ← accepts (keyword "RENAME") then newName <|> parenthesized (several newName)
  clause ["REPLACE"] <| parenthesized <| several do
    parts.skipped
    optionally (keyword "AS")
    identifier
where
  newName : Parser Unit := do
    identifier
    keyword "AS"
    identifier

def selectItem : Parser Unit := do
  if ← accepts star then parts.starOptions
  else
    parts.skipped
    discard (aliasBut Keyword.afterValue)

end Parts

end NodeQuery.Relational.Grammar
