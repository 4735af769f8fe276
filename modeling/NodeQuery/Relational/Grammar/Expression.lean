import NodeQuery.Relational.Grammar.Parts
import NodeQuery.Relational.Grammar.Type

/-!
Reading expressions. Connectives of one precedence associate to the left. Forms that no store
evaluates are read all the same, so that the place where they end is known.
-/

namespace NodeQuery.Relational.Grammar

namespace Parts

variable (parts : Parts)

/-- A text after a name that says how it is encoded. -/
def encodedText (first : String) : Parser Unit := do
  guard (first.toList.head? == some '_')
  discard <| token fun
    | .quoted _ => true
    | .hexadecimal => true
    | _ => false

/-- A column; a qualified name and a function call are unsupported. -/
def named (first : String) : Parser Expression := do
  let further ← furtherBy "." identifier
  if ← accepts (symbol "(") then unsupported parts.call
  else if !further.isEmpty then return .unsupported
  else if ← accepts (encodedText first) then return .unsupported
  else return .column first

def existence : Parser Unit := parenthesized parts.query

def negated : Parser Expression := do
  if ← accepts (keyword "EXISTS") then unsupported parts.existence
  else return .negation (← parts.operand (.over Precedence.not))

/-- The alternatives of a case distinction. -/
def caseDistinction : Parser Unit := do
  unless ← announces (keyword "WHEN") do parts.skipped
  alternative
  discard <| repeated do
    if ← announces (keyword "WHEN") then return some (← alternative) else return none
  clause ["ELSE"] parts.skipped
  keyword "END"
where
  alternative : Parser Unit := do
    keyword "WHEN"
    parts.skipped
    keyword "THEN"
    parts.skipped

def cast : Parser Unit := parenthesized do
  parts.skipped
  keyword "AS"
  typeName
  if ← accepts (keyword "FORMAT") then
    value
    clause ["AT", "TIME", "ZONE"] value

def conversion : Parser Unit := parenthesized do
  parts.skipped
  if ← accepts (keyword "USING") then path
  else
    symbol ","
    typeName
    clause ["CHARACTER", "SET"] path

def extraction : Parser Unit := parenthesized do
  anyKeyword Keyword.dateFields
  keyword "FROM"
  parts.skipped

def rounding : Parser Unit := parenthesized do
  parts.skipped
  clause ["TO"] (anyKeyword Keyword.dateFields)

def position : Parser Unit := parenthesized do
  parts.skippedOver Precedence.comparison
  keyword "IN"
  parts.skipped

def substring : Parser Unit := parenthesized do
  parts.skipped
  if ← accepts (symbol "," <|> keyword "FROM") then parts.skipped
  if ← accepts (keyword "FOR" <|> symbol ",") then parts.skipped

def overlay : Parser Unit := parenthesized do
  parts.skipped
  keyword "PLACING"
  parts.skipped
  keyword "FROM"
  parts.skipped
  clause ["FOR"] parts.skipped

def trimming : Parser Unit := parenthesized do
  optionally (anyKeyword ["BOTH", "LEADING", "TRAILING"])
  parts.skipped
  if ← accepts (keyword "FROM") then parts.skipped
  else if ← accepts (symbol ",") then several parts.skipped

/-- What becomes of a list of texts that grows too long. -/
def overflow : Parser Unit := do
  unless ← accepts (keyword "ERROR") do
    keyword "TRUNCATE"
    unless ← announces (anyKeyword ["WITH", "WITHOUT"]) do
      if ← announces (discard (token isFiller)) then parts.skipped else failure
    anyKeyword ["WITH", "WITHOUT"]
    keyword "COUNT"
where
  isFiller : Token → Bool
    | .quoted _ => true
    | .escaped _ => true
    | .hexadecimal => true
    | .specialLiteral => true
    | _ => false

def textList : Parser Unit := do
  parenthesized do
    parts.distinction
    parts.skipped
    if ← accepts (symbol ",") then parts.skipped
    clause ["ON", "OVERFLOW"] parts.overflow
  clause ["WITHIN", "GROUP"] <| parenthesized do
    keywords ["ORDER", "BY"]
    several parts.orderItem

def collection : Parser Unit := parenthesized do
  optionally (keyword "DISTINCT")
  parts.skipped
  parts.ordered
  if ← accepts (keyword "LIMIT") then
    unless ← accepts (keyword "ALL") do parts.skipped

/-- An array after its opening bracket. -/
def elements : Parser Unit := do
  unless ← accepts (symbol "]") do
    several parts.skipped
    symbol "]"

def array (first : String) : Parser Expression := do
  if ← accepts (symbol "[") then unsupported parts.elements
  else if ← announces (symbol "(") then unsupported (parenthesized parts.query)
  else parts.named first

/-- A search for words in columns. -/
def wordSearch : Parser Unit := do
  nameList
  keyword "AGAINST"
  parenthesized do
    value
    if ← accepts (keywords ["IN", "NATURAL", "LANGUAGE", "MODE"]) then expansion
    else if ← accepts (keywords ["IN", "BOOLEAN", "MODE"]) then return
    else expansion
where
  expansion : Parser Unit := optionally (keywords ["WITH", "QUERY", "EXPANSION"])

/-- A record after its first keyword; only one without a type names its fields. -/
def record : Parser Unit := do
  let typed ← announces (symbol "<")
  let last ← TypeEnd.fields TypeEnd.reading
  guard !last.closesOuter
  parenthesized <| several do
    parts.skipped
    if ← accepts (keyword "AS") then
      guard !typed
      identifier

/-- A moment, with or without arguments. -/
def moment : Parser Unit := do
  if ← accepts (symbol "(") then parts.orderedArguments

/-- The forms that begin with a keyword. -/
def forms (first : String) : List (List String × Parser Expression) :=
  [(["TRUE"], return .boolean true),
    (["FALSE"], return .boolean false),
    (["NULL"], return .null),
    (["NOT"], parts.negated),
    (["EXISTS"], unsupported parts.existence),
    (["CASE"], unsupported parts.caseDistinction),
    (["CAST", "TRY_CAST", "SAFE_CAST"], unsupported parts.cast),
    (["CONVERT"], unsupported parts.conversion),
    (["EXTRACT"], unsupported parts.extraction),
    (["CEIL", "FLOOR"], unsupported parts.rounding),
    (["POSITION"], do
      if ← announces (symbol "(") then unsupported parts.position else parts.named first),
    (["SUBSTRING"], unsupported parts.substring),
    (["OVERLAY"], unsupported parts.overlay),
    (["TRIM"], unsupported parts.trimming),
    (["INTERVAL"], unsupported parts.duration),
    (["LISTAGG"], unsupported parts.textList),
    (["ARRAY_AGG"], unsupported parts.collection),
    (["ARRAY"], parts.array first),
    (["MATCH"], unsupported wordSearch),
    (["STRUCT"], unsupported parts.record),
    (["CURRENT_TIMESTAMP", "CURRENT_TIME", "CURRENT_DATE", "LOCALTIME", "LOCALTIMESTAMP"],
      unsupported parts.moment),
    (["CURRENT_CATALOG", "CURRENT_USER", "SESSION_USER", "USER"], return .unsupported)]

/-- One expression in parentheses is that expression nested, several are a row. -/
def rowOf : List Expression → Expression
  | [only] => .nested only
  | _ => .unsupported

/-- A parenthesized expression, a row of several, or a subquery, after the opening parenthesis. -/
def grouping : Parser Expression := do
  let inner ←
    if ← queryAhead then unsupported parts.query else rowOf <$> items parts.expression
  symbol ")"
  if ← accepts (symbol ".") then unsupported word else return inner

/-- The beginning of an expression, before any connective. -/
def primary : Parser Expression
  | .word first delimiter :: rest =>
    byKeyword (parts.forms first) (fun _ => parts.named first rest) (.word first delimiter :: rest)
  | .number digits :: rest => some (.number digits, rest)
  | .quoted text :: rest => some (.text text, rest)
  | .escaped _ :: rest => some (.unsupported, rest)
  | .hexadecimal :: rest => some (.unsupported, rest)
  | .specialLiteral :: rest => some (.unsupported, rest)
  | .placeholder mark :: rest => some (.placeholder mark, rest)
  | .symbol text :: rest =>
    if text = "(" then parts.grouping rest
    else if text = "[" then unsupported parts.elements rest
    else if text = "+" || text = "-" then unsupported (parts.skippedOver Precedence.product) rest
    else unsupported namedPlaceholder (.symbol text :: rest)
  | [] => none

/-- A text after its type. -/
def typedText : Parser Expression := do
  guard (← typed)
  unsupported (discard literalText)

/-- An operand, possibly with a collation. -/
def collated : Parser Expression := do
  let inner ← parts.primary
  if ← accepts (keyword "COLLATE") then unsupported path else return inner

def isTest (left : Expression) : Parser Expression := do
  if ← accepts (keyword "NULL") then return .isNull left
  else if ← accepts (keywords ["NOT", "NULL"]) then return .isNotNull left
  else
    optionally (keyword "NOT")
    unless ← accepts (anyKeyword ["TRUE", "FALSE", "UNKNOWN"]) do
      keywords ["DISTINCT", "FROM"]
      parts.skipped
    return .unsupported

def membership : Parser Unit := do
  if ← accepts (keyword "UNNEST") then parenthesized parts.skipped
  else parenthesized do
    if ← queryAhead then parts.query else several parts.skipped

def range : Parser Unit := do
  parts.skippedOver Precedence.comparison
  keyword "AND"
  parts.skippedOver Precedence.comparison

/-- A pattern, possibly with a character that takes away the meaning of the next one. -/
def escapablePattern : Parser Unit := do
  parts.skippedOver Precedence.like
  if ← accepts (keyword "ESCAPE") then
    let text ← literalText
    guard (text.utf8ByteSize = 1)

/-- A membership, range or pattern test. -/
def negatableTest : Parser Unit := do
  optionally (keyword "NOT")
  byKeyword
    [(["REGEXP"], do optionally (keyword "RLIKE"); parts.skippedOver Precedence.like),
      (["RLIKE"], parts.skippedOver Precedence.like),
      (["IN"], parts.membership),
      (["BETWEEN"], parts.range),
      (["LIKE", "ILIKE"], parts.escapablePattern),
      (["SIMILAR"], do keyword "TO"; parts.escapablePattern)]
    failure

/-- The right side of an operator; that of a comparison may be quantified. -/
def rightSide (operator : Operator) (precedence : Nat) (left : Expression) :
    Parser Expression := do
  if ← accepts (anyKeyword ["ANY", "ALL"]) then
    parenthesized (parts.skippedOver precedence)
    match operator with
    | .compare _ => return .unsupported
    | _ => failure
  else return .binary operator left (← parts.operand (.over precedence))

/-- The name of an operator between parentheses: tokens with points between them. -/
def operatorName : Parser Unit := parenthesized do
  let part : Parser Unit := discard (token fun _ => true)
  part
  discard (furtherBy "." part)

/-- A place in an array, after the opening bracket. -/
def place : Parser Unit := do
  parts.skipped
  symbol "]"

/-- An expression that goes on after `left` with a token of the given precedence. -/
def continuation (left : Expression) (precedence : Nat) : Parser Expression
  | .symbol text :: rest =>
    if text = "::" then unsupported typeName rest
    else if text = ":" then unsupported value rest
    else if text = "!" then some (.unsupported, rest)
    else if text = "[" then unsupported parts.place rest
    else if documentSymbols.contains text then unsupported parts.skipped rest
    else
      match comparisonOf text with
      | some comparison => parts.rightSide (.compare comparison) precedence left rest
      | none => parts.rightSide .unsupported precedence left rest
  | tokens =>
    byKeyword
      [(["AND"], parts.rightSide .and precedence left),
        (["OR"], parts.rightSide .or precedence left),
        (["XOR", "DIV"], parts.rightSide .unsupported precedence left),
        (["OPERATOR"], do operatorName; parts.rightSide .unsupported precedence left),
        (["IS"], parts.isTest left),
        (["AT"], unsupported do keywords ["TIME", "ZONE"]; quotedText)]
      (unsupported parts.negatableTest) tokens

/-- The whole expression that begins with `left`, as far as it reaches. -/
def continued (reach : Reach) (left : Expression) (tokens : List Token) :
    Option (Expression × List Token) :=
  if reach.passes tokens then
    match parts.continuation left (nextPrecedence tokens) tokens with
    | none => none
    | some (longer, rest) =>
      if _shorter : rest.length < tokens.length then continued reach longer rest else none
  else some (left, tokens)
termination_by tokens.length

def reaching (reach : Reach) : Parser Expression := do
  let left ← typedText <|> parts.collated
  parts.continued reach left

end Parts

/-- What an expression on this level is made of. -/
def Enclosed.parts (enclosed : Enclosed) : Parts :=
  ⟨enclosed, recursive fun operand => Parts.reaching ⟨enclosed, operand⟩⟩

end NodeQuery.Relational.Grammar
