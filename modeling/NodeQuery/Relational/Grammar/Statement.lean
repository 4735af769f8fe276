import NodeQuery.Relational.Grammar.Definition

/-!
Reading a template as the condition of a selection, with whatever may follow a condition there:
grouping, set operations, order and limits, and further statements. Expressions of their own and
queries nest at most so deep: a statement, a query and every parenthesis or argument list within
them take one of the levels that are left, whereas the operands of one expression take none.
-/

namespace NodeQuery.Relational.Grammar

namespace Parts

variable (parts : Parts)

def deletion : Parser Unit := do
  unless ← announces (keyword "FROM") do several path
  keyword "FROM"
  parts.someTables
  clause ["USING"] parts.someTables
  clause ["WHERE"] parts.skipped
  parts.returning
  parts.ordered
  if ← accepts (keyword "LIMIT") then discard parts.limit

def truncation : Parser Unit := do
  optionally (keyword "TABLE")
  path
  clause ["PARTITION"] (parenthesized (several parts.skipped))

def isolation : Parser Unit :=
  firstOf [keywords ["READ", "UNCOMMITTED"], keywords ["READ", "COMMITTED"],
    keywords ["REPEATABLE", "READ"], keyword "SERIALIZABLE"]

def transactionMode : Parser Unit := do
  if ← accepts (keywords ["ISOLATION", "LEVEL"]) then isolation
  else keywords ["READ", "ONLY"] <|> keywords ["READ", "WRITE"]

/-- Modes of a transaction, with or without commas between them. -/
def transactionModes : Parser Unit :=
  discard <| repeated do
    if ← announces (keyword "ISOLATION" <|> keyword "READ") then
      transactionMode
      if ← accepts (symbol ",") then
        unless ← announces (keyword "ISOLATION" <|> keyword "READ") do failure
      return some ()
    else return none

def beginning : Parser Unit := do
  optionally (anyKeyword ["DEFERRED", "IMMEDIATE", "EXCLUSIVE"])
  optionally (anyKeyword ["TRANSACTION", "WORK"])
  transactionModes

/-- The end of a transaction, with or without another one after it. -/
def ending : Parser Unit := do
  optionally (anyKeyword ["TRANSACTION", "WORK"])
  if ← accepts (keyword "AND") then
    optionally (keyword "NO")
    keyword "CHAIN"

def retreat : Parser Unit := do
  ending
  if ← accepts (keyword "TO") then
    optionally (keyword "SAVEPOINT")
    identifier

/-- The setting of a variable, or of something that reads like one. -/
def setting : Parser Unit := do
  optionally (anyKeyword ["SESSION", "LOCAL"])
  if ← accepts (keyword "ROLE") then keyword "NONE" <|> identifier
  else if ← accepts (keywords ["TIME", "ZONE"]) then
    optionally (symbol "=" <|> keyword "TO")
    parts.skipped
  else if ← accepts (keyword "TRANSACTION") then
    if ← accepts (keyword "SNAPSHOT") then value else transactionModes
  else if ← accepts (keywords ["CHARACTERISTICS", "AS", "TRANSACTION"]) then transactionModes
  else if ← accepts (keyword "NAMES" <|> namesWord) then
    unless ← accepts (keyword "DEFAULT") do
      discard literalText
      clause ["COLLATE"] (discard literalText)
  else
    path
    symbol "=" <|> keyword "TO"
    several parts.skipped
where
  /-- The word is no keyword otherwise. -/
  namesWord : Parser Unit := discard <| token fun
    | .word name _ => Keyword.spells name "NAMES"
    | _ => false

/-- What is shown, by its name or by a pattern. -/
def shownFilter : Parser Unit := do
  if ← accepts (anyKeyword ["LIKE", "ILIKE"]) then discard literalText
  else clause ["WHERE"] parts.skipped

def showing : Parser Unit := do
  let detailed ← accepts (keyword "EXTENDED")
  let full ← accepts (keyword "FULL")
  if ← accepts (anyKeyword ["COLUMNS", "FIELDS"]) then
    anyKeyword ["FROM", "IN"]
    path
    if ← accepts (anyKeyword ["FROM", "IN"]) then identifier
    parts.shownFilter
  else if ← accepts (keyword "TABLES") then
    if ← accepts (anyKeyword ["FROM", "IN"]) then identifier
    parts.shownFilter
  else
    guard !(detailed || full)
    if ← accepts (keyword "CREATE") then
      anyKeyword ["TABLE", "TRIGGER", "FUNCTION", "PROCEDURE", "EVENT", "VIEW"]
      path
    else if ← accepts (anyKeyword ["FUNCTIONS", "COLLATION", "VARIABLES"]) then
      parts.shownFilter
    else modify (·.dropWhile (!·.isSymbol "="))

def calling : Parser Unit := do
  path
  if ← accepts (symbol "(") then parts.call

def analysis : Parser Unit := do
  keyword "TABLE"
  path
  clause ["PARTITION"] (parenthesized (several parts.skipped))
  clause ["FOR", "COLUMNS"] (optionally (several identifier))
  clause ["COMPUTE"] (keyword "STATISTICS")

def execution : Parser Unit := do
  identifier
  if ← announces (symbol "(") then parenthesized (several parts.skipped)

def assertion : Parser Unit := do
  parts.skipped
  clause ["AS"] parts.skipped

def cursor : Parser Unit := do
  identifier
  optionally (keyword "BINARY")
  optionally (anyKeyword ["INSENSITIVE", "ASENSITIVE"])
  optionally (keyword "SCROLL" <|> keywords ["NO", "SCROLL"])
  keyword "CURSOR"
  optionally (keywords ["WITH", "HOLD"] <|> keywords ["WITHOUT", "HOLD"])
  keyword "FOR"
  parts.query

def pragma : Parser Unit := do
  path
  if ← announces (symbol "(") then parenthesized value
  else if ← accepts (symbol "=") then value

/-- A right, possibly to some columns only. -/
def privilege : Parser Unit := do
  if ← accepts (anyKeyword ["INSERT", "REFERENCES", "SELECT", "UPDATE"]) then
    if ← announces (symbol "(") then nameList
  else
    anyKeyword
      ["CONNECT", "CREATE", "DELETE", "EXECUTE", "TEMPORARY", "TRIGGER", "TRUNCATE", "USAGE"]

/-- Rights and what they are rights to. -/
def privileges : Parser Unit := do
  if ← accepts (keyword "ALL") then optionally (keyword "PRIVILEGES") else several privilege
  keyword "ON"
  optionally <| firstOf [keywords ["ALL", "TABLES", "IN", "SCHEMA"],
    keywords ["ALL", "SEQUENCES", "IN", "SCHEMA"], anyKeyword ["SEQUENCE", "SCHEMA", "TABLE"]]
  several path

def grantor : Parser Unit := clause ["GRANTED", "BY"] identifier

def granting : Parser Unit := do
  privileges
  keyword "TO"
  several identifier
  optionally (keywords ["WITH", "GRANT", "OPTION"])
  grantor

def revocation : Parser Unit := do
  privileges
  keyword "FROM"
  several identifier
  grantor
  optionally (anyKeyword ["CASCADE", "RESTRICT"])

/-- The statements that begin with a keyword, apart from those that hold another statement. -/
def statements : List (List String × Parser Unit) :=
  [(["INSERT", "REPLACE"], parts.insertion), (["UPDATE"], parts.update),
    (["DELETE"], parts.deletion),
    (["CREATE"], parts.definition), (["ALTER"], parts.alteration), (["DROP"], drop),
    (["TRUNCATE"], parts.truncation),
    (["BEGIN"], beginning), (["START"], keyword "TRANSACTION" *> transactionModes),
    (["COMMIT", "END"], ending), (["ROLLBACK"], retreat), (["SAVEPOINT"], identifier),
    (["RELEASE"], do optionally (keyword "SAVEPOINT"); identifier),
    (["SET"], parts.setting), (["SHOW"], parts.showing), (["USE"], identifier),
    (["CALL"], parts.calling), (["ANALYZE"], parts.analysis), (["ASSERT"], parts.assertion),
    (["EXECUTE"], parts.execution),
    (["DEALLOCATE"], do optionally (keyword "PREPARE"); identifier),
    (["DECLARE"], parts.cursor), (["CLOSE"], keyword "ALL" <|> identifier),
    (["DISCARD"], anyKeyword ["ALL", "PLANS", "SEQUENCES", "TEMP", "TEMPORARY"]),
    (["KILL"], do optionally (anyKeyword ["CONNECTION", "QUERY", "MUTATION"]); wholeNumber),
    (["PRAGMA"], pragma), (["GRANT"], granting), (["REVOKE"], revocation)]

/-- A statement that explains another one, or a table. -/
def explanation (statement : Parser Bool) : Parser Bool := do
  optionally (keyword "ANALYZE")
  optionally (keyword "VERBOSE")
  clause ["FORMAT"] (anyKeyword ["TEXT", "GRAPHVIZ", "JSON"])
  let nested ← (some <$> statement) <|> (path *> pure none)
  guard (nested != some true)
  return true

/-- A statement to be executed later. -/
def preparation (statement : Parser Bool) : Parser Bool := do
  identifier
  if ← announces (symbol "(") then parenthesized (several typeName)
  keyword "AS"
  discard statement
  return false

/-- A statement that leaves so many levels to its parts; tells whether it is an explanation, since
none of these stands inside another one. -/
def statement : Nat → Parser Bool
  | 0 => failure
  | levels + 1 =>
    let parts := Parts.within levels
    byKeyword
      ([(["EXPLAIN", "DESCRIBE", "DESC"], explanation (statement levels)),
          (["PREPARE"], preparation (statement levels))] ++
        parts.statements.map fun form => (form.1, form.2 *> pure false)) do
      guard (← announces (symbol "(" <|> anyKeyword ["SELECT", "WITH", "VALUES"]))
      parts.query
      return false

end Parts

/-- The levels of a text of statements. -/
def allLevels : Nat := 50

/-- Further statements after a semicolon; their number. A word `END` ends the text. -/
def furtherStatements (tokens : List Token) : Option Nat :=
  match tokens with
  | [] => some 0
  | token :: rest =>
    if token.isKeyword "END" then some 0
    else if token.isSymbol ";" then
      match rest.dropWhile (·.isSymbol ";") with
      | [] => some 0
      | next =>
        match Parts.statement allLevels next with
        | none => none
        | some (_, after) =>
          if _shorter : after.length < (token :: rest).length then
            (furtherStatements after).map (· + 1)
          else none
    else none
termination_by tokens.length
decreasing_by exact _shorter

inductive TemplateError where
  | unreadable
  | notOneCondition
  deriving Repr, DecidableEq

/-- The condition that a template stands for in a selection of nodes. The statement and the query
that the condition is part of take a level each. -/
def condition (template : List Char) : Except TemplateError Expression :=
  let parts := Parts.within (allLevels - 2)
  let reading : Parser (Expression × List Unit) := do
    let expression ← parts.expression
    parts.grouped
    let others ← parts.united
    parts.arranged
    return (expression, others)
  let parsed : Option (Expression × Bool) := do
    let ((expression, united), rest) ← reading (← Token.ofText? template)
    let others ← furtherStatements rest
    return (expression, united.isEmpty && others = 0)
  match parsed with
  | none => .error .unreadable
  | some (expression, alone) => if alone then .ok expression else .error .notOneCondition

end NodeQuery.Relational.Grammar
