import NodeQuery.Relational.Grammar.Precedence

/-!
The parts that a form of expression is made of. An expression of its own and a query stand one level
deeper than what they are part of; an operand stands on the same level.
-/

namespace NodeQuery.Relational.Grammar

/-- What may stand one level deeper. -/
structure Enclosed where
  expression : Parser Expression
  query : Parser Unit

structure Parts extends Enclosed where
  operand : Reach → Parser Expression

/-- Whether a query stands here, and not an expression. -/
def queryAhead : Parser Bool := announces (anyKeyword ["SELECT", "WITH"])

/-- A form that no store evaluates. -/
def unsupported (form : Parser Unit) : Parser Expression := do
  form
  return .unsupported

namespace Parts

variable (parts : Parts)

/-- An expression that does not matter. -/
def skipped : Parser Unit := discard parts.expression

def skippedOver (precedence : Nat) : Parser Unit := discard (parts.operand (.over precedence))

def orderItem : Parser Unit := do
  parts.skipped
  optionally (anyKeyword ["ASC", "DESC"])
  optionally (keywords ["NULLS", "FIRST"] <|> keywords ["NULLS", "LAST"])

def ordered : Parser Unit := clause ["ORDER", "BY"] (several parts.orderItem)

/-- Either `ALL` or `DISTINCT`, the latter possibly by some expressions only. -/
def distinction : Parser Unit := do
  let all ← accepts (keyword "ALL")
  if ← accepts (keyword "DISTINCT") then
    guard !all
    if ← accepts (keyword "ON") then
      parenthesized do
        unless ← announces (symbol ")") do several parts.skipped

/-- A duration: a value, its unit, and the finer unit up to which it goes. -/
def duration : Parser Unit := do
  discard (parts.operand .duration)
  let fine ← accepts (keyword "SECOND")
  unless fine do
    optionally (anyKeyword (Keyword.dateFields.filter (· != "DATE")))
  if fine then optionally <| parenthesized do
    wholeNumber
    if ← accepts (symbol ",") then wholeNumber
  else
    optionally (parenthesized wholeNumber)
    if ← accepts (keyword "TO") then
      if ← accepts (keyword "SECOND") then optionally (parenthesized wholeNumber)
      else anyKeyword Keyword.dateFields

/-- One end of a frame of rows. -/
def frameBound : Parser Unit := do
  unless ← accepts (keywords ["CURRENT", "ROW"]) do
    unless ← accepts (keyword "UNBOUNDED") do
      if ← announces (quotedText) then parts.duration else parts.skipped
    anyKeyword ["PRECEDING", "FOLLOWING"]

/-- A window of rows, after its opening parenthesis. -/
def window : Parser Unit := do
  clause ["PARTITION", "BY"] (several parts.skipped)
  parts.ordered
  unless ← accepts (symbol ")") do
    anyKeyword ["ROWS", "RANGE", "GROUPS"]
    if ← accepts (keyword "BETWEEN") then
      parts.frameBound
      keyword "AND"
    parts.frameBound
    symbol ")"

/-- A star, possibly after a path. -/
def star : Parser Unit := do
  allOf (identifier *> symbol ".")
  symbol "*"

def argument : Parser Unit := do
  optionally (identifier *> symbol "=>")
  star <|> parts.skipped

/-- The arguments of a call, after its opening parenthesis. -/
def arguments : Parser Unit := do
  unless ← accepts (symbol ")") do
    several parts.argument
    symbol ")"

def orderedArguments : Parser Unit := do
  unless ← accepts (symbol ")") do
    several parts.argument
    parts.ordered
    symbol ")"

/-- A call after the name of the function and the opening parenthesis. -/
def call : Parser Unit := do
  parts.distinction
  parts.orderedArguments
  clause ["RESPECT"] (keyword "NULLS")
  clause ["IGNORE"] (keyword "NULLS")
  if ← accepts (keyword "OVER") then
    if ← accepts (symbol "(") then parts.window else identifier

end Parts

end NodeQuery.Relational.Grammar
