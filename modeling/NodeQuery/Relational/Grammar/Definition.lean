import NodeQuery.Relational.Grammar.Query

/-!
Statements that define tables, views and the like, and those that change or drop them.
-/

namespace NodeQuery.Relational.Grammar

namespace Parts

variable (parts : Parts)

def ifMissing : Parser Unit := optionally (keywords ["IF", "NOT", "EXISTS"])

def ifThere : Parser Unit := optionally (keywords ["IF", "EXISTS"])

/-- What happens to a row when the row that it refers to changes. -/
def consequence : Parser Unit :=
  firstOf [keyword "RESTRICT", keyword "CASCADE", keywords ["SET", "NULL"],
    keywords ["NO", "ACTION"], keywords ["SET", "DEFAULT"]]

def foreignKey : Parser Unit := do
  path
  if ← announces (symbol "(") then nameList
  allOf (keyword "ON" *> anyKeyword ["DELETE", "UPDATE"] *> consequence)

def columnOption : Parser Unit := do
  clause ["CONSTRAINT"] identifier
  byKeyword
    [(["NOT"], keyword "NULL"),
      (["NULL"], return),
      (["DEFAULT"], parts.skipped),
      (["PRIMARY"], keyword "KEY"),
      (["UNIQUE"], return),
      (["REFERENCES"], foreignKey),
      (["CHECK"], parenthesized parts.skipped),
      (["COMMENT"], quotedText),
      (["AUTO_INCREMENT", "AUTOINCREMENT"], return),
      (["CHARACTER"], keyword "SET" *> path)]
    failure

def column : Parser Unit := do
  identifier
  typeName
  clause ["COLLATE"] path
  discard <| repeated do
    if ← announces (anyKeyword optionNames) then return some (← parts.columnOption)
    else return none
where
  optionNames : List String :=
    ["CONSTRAINT", "NOT", "NULL", "DEFAULT", "PRIMARY", "UNIQUE", "REFERENCES", "CHECK",
      "COMMENT", "AUTO_INCREMENT", "AUTOINCREMENT", "CHARACTER"]

/-- A rule for the rows of a table, after its name if it has one. -/
def tableRule : Parser Unit :=
  byKeyword
    [(["UNIQUE"], nameList),
      (["PRIMARY"], keyword "KEY" *> nameList),
      (["FOREIGN"], do keyword "KEY"; nameList; keyword "REFERENCES"; foreignKey),
      (["CHECK"], parenthesized parts.skipped)]
    failure

def ruleNames : List String := ["CONSTRAINT", "UNIQUE", "PRIMARY", "FOREIGN", "CHECK"]

def namedRule : Parser Unit := do
  clause ["CONSTRAINT"] identifier
  parts.tableRule

def columnOrRule : Parser Unit := do
  if ← announces (anyKeyword ruleNames) then parts.namedRule else parts.column

/-- Columns in parentheses; the last one may be followed by a comma. -/
def columns : Parser Unit := do
  symbol "("
  unless ← accepts (symbol ")") do
    parts.columnOrRule
    discard <| repeated do
      if ← announces (symbol "," *> symbol ")") then return none
      else if ← accepts (symbol ",") then return some (← parts.columnOrRule)
      else return none
    optionally (symbol ",")
    symbol ")"

def tableDefinition : Parser Unit := do
  ifMissing
  path
  clause ["LIKE"] path
  clause ["CLONE"] path
  if ← announces (symbol "(") then parts.columns
  clause ["AS"] parts.query

def viewDefinition : Parser Unit := do
  ifMissing
  path
  if ← announces (symbol "(") then nameList
  keyword "AS"
  parts.query

def indexDefinition : Parser Unit := do
  optionally (keyword "CONCURRENTLY")
  ifMissing
  unless ← accepts (keyword "ON") do
    path
    keyword "ON"
  path
  clause ["USING"] identifier
  parenthesized (several parts.orderItem)
  clause ["WHERE"] parts.skipped

def schemaDefinition : Parser Unit := do
  ifMissing
  unless ← announces (keyword "AUTHORIZATION") do path
  clause ["AUTHORIZATION"] identifier

def definition : Parser Unit := do
  let replacing ← accepts (keywords ["OR", "REPLACE"])
  optionally (anyKeyword ["LOCAL", "GLOBAL"])
  optionally (keyword "TRANSIENT")
  optionally (anyKeyword ["TEMP", "TEMPORARY"])
  let replaceable := [(["TABLE"], parts.tableDefinition), (["VIEW"], parts.viewDefinition),
    (["MATERIALIZED"], keyword "VIEW" *> parts.viewDefinition)]
  let others := [(["INDEX"], parts.indexDefinition),
    (["UNIQUE"], keyword "INDEX" *> parts.indexDefinition),
    (["SCHEMA"], schemaDefinition), (["DATABASE"], ifMissing *> path)]
  byKeyword (if replacing then replaceable else replaceable ++ others) failure

def columnChange : Parser Unit :=
  firstOf [keywords ["SET", "NOT", "NULL"], keywords ["DROP", "NOT", "NULL"],
    keywords ["SET", "DEFAULT"] *> parts.skipped, keywords ["DROP", "DEFAULT"],
    (keywords ["SET", "DATA", "TYPE"] <|> keyword "TYPE") *> typeName]

def addition : Parser Unit := do
  if ← announces (anyKeyword ruleNames) then parts.namedRule
  else
    optionally (keyword "COLUMN")
    ifMissing
    parts.column

def newName : Parser Unit := do
  if ← accepts (keyword "TO") then path
  else
    optionally (keyword "CONSTRAINT" <|> keyword "COLUMN")
    identifier
    keyword "TO"
    identifier

def removal : Parser Unit := do
  optionally (keyword "CONSTRAINT" <|> keyword "COLUMN")
  ifThere
  identifier
  optionally (keyword "CASCADE")

def tableChange : Parser Unit :=
  byKeyword
    [(["ADD"], parts.addition), (["RENAME"], newName), (["DROP"], removal),
      (["ALTER"], do optionally (keyword "COLUMN"); identifier; parts.columnChange)]
    failure

def alteration : Parser Unit := do
  keyword "TABLE"
  ifThere
  optionally (keyword "ONLY")
  path
  several parts.tableChange

/-- What is dropped; dependent things are dropped with it, or keep it from being dropped. -/
def drop : Parser Unit := do
  optionally (keyword "TEMPORARY")
  let role ← accepts (keyword "ROLE")
  unless role do
    anyKeyword ["TABLE", "VIEW", "INDEX", "SCHEMA", "SEQUENCE", "STAGE"]
  ifThere
  several path
  unless role do
    optionally (keyword "CASCADE" <|> keyword "RESTRICT")
    optionally (keyword "PURGE")

end Parts

end NodeQuery.Relational.Grammar
