import NodeQuery.Relational.Grammar.Parser

/-!
Types, with their lengths and precisions. Two closing angle brackets in a row are one symbol, so a
type within another may take away the bracket of the outer one, too.
-/

namespace NodeQuery.Relational.Grammar

/-- What the end of a type tells: whether a text may stand after the type as a value of it, and
whether the last symbol of the type closed the type around it as well. -/
structure TypeEnd where
  takesText : Bool
  closesOuter : Bool

namespace TypeEnd

def length : Parser Unit := optionally (parenthesized wholeNumber)

def lengthAndScale : Parser Unit := optionally <| parenthesized do
  wholeNumber
  if ← accepts (symbol ",") then wholeNumber

/-- A length counted in characters or bytes. -/
def textLength : Parser Unit := optionally <| parenthesized do
  unless ← accepts (keyword "MAX") do
    wholeNumber
    optionally (anyKeyword ["CHARACTERS", "OCTETS"])

def characters : Parser Unit := do
  if ← accepts (keyword "VARYING") then textLength
  else if ← accepts (keywords ["LARGE", "OBJECT"]) then length
  else textLength

def momentInZone : Parser Unit := do
  length
  if ← accepts (anyKeyword ["WITH", "WITHOUT"]) then keywords ["TIME", "ZONE"]

def isModifier : Token → Bool
  | .word _ _ => true
  | .number _ => true
  | .quoted _ => true
  | .symbol text => text = ","
  | _ => false

/-- A type that is known by its name only. -/
def foreign : Parser TypeEnd := do
  guard (← announces word)
  path
  optionally (parenthesized (allOf (discard (token isModifier))))
  return ⟨false, false⟩

/-- The bracket that closes a type around another one. -/
def closing (last : TypeEnd) : Parser TypeEnd := do
  if last.closesOuter then return ⟨true, false⟩
  else if ← accepts (symbol ">") then return ⟨true, false⟩
  else
    symbol ">>"
    return ⟨true, true⟩

/-- The type of a field, after its name unless the next word is a keyword. -/
def field (inner : Parser TypeEnd) : Parser TypeEnd := do
  unless ← announces (discard (token isKeywordName)) do identifier
  inner
where
  isKeywordName : Token → Bool
    | .word name delimiter => !(Token.word name delimiter).isPlainName
    | _ => false

/-- The fields of a record; a record type need not name them. -/
def fields (inner : Parser TypeEnd) : Parser TypeEnd := do
  if ← accepts (symbol "<") then
    let ends ← items (field inner)
    guard (ends.dropLast.all (!·.closesOuter))
    closing (ends.getLastD ⟨true, false⟩)
  else return ⟨true, false⟩

/-- A type that a text may stand after, with what belongs to its name. -/
def named (details : Parser Unit) : Parser TypeEnd := do
  details
  return ⟨true, false⟩

def forms (inner : Parser TypeEnd) : List (List String × Parser TypeEnd) :=
  [(["BOOLEAN", "BOOL", "REAL", "FLOAT4", "FLOAT64", "FLOAT8", "INT64", "UUID", "DATE", "JSON",
      "JSONB", "REGCLASS", "TEXT", "BYTEA"], named (pure ())),
    (["FLOAT", "NVARCHAR", "CLOB", "BINARY", "VARBINARY", "BLOB", "BYTES", "DATETIME",
      "TIMESTAMPTZ", "TIMETZ", "STRING"], named length),
    (["TINYINT", "INT2", "SMALLINT", "MEDIUMINT", "INT", "INT4", "INTEGER", "BIGINT", "INT8"],
      named do length; optionally (keyword "UNSIGNED")),
    (["NUMERIC", "DECIMAL", "DEC", "BIGNUMERIC", "BIGDECIMAL"], named lengthAndScale),
    (["DOUBLE"], named (optionally (keyword "PRECISION"))),
    (["VARCHAR"], named textLength),
    (["CHAR", "CHARACTER"], named characters),
    (["TIMESTAMP", "TIME"], named momentInZone),
    (["ENUM", "SET"], named (parenthesized (several (quotedText)))),
    (["INTERVAL"], return ⟨false, false⟩),
    (["ARRAY"], do symbol "<"; closing (← inner)),
    (["STRUCT"], fields inner)]

/-- A type, which may be that of arrays of another one. -/
def reading : Parser TypeEnd := recursive (fun inner (_ : Unit) => do
  let last ← byKeyword (forms (inner ())) foreign
  let arrays ← repeated do
    if ← accepts (symbol "[") then
      symbol "]"
      return some ()
    else return none
  return ⟨last.takesText || !arrays.isEmpty, last.closesOuter⟩) ()

end TypeEnd

/-- A whole type; tells whether a text may stand after it as a value of it. -/
def typed : Parser Bool := do
  let last ← TypeEnd.reading
  guard !last.closesOuter
  return last.takesText

def typeName : Parser Unit := discard typed

end NodeQuery.Relational.Grammar
