import NodeQuery.Relational.Token

/-!
Reading at the front of a list of tokens: keywords, symbols, names, values, lists and parentheses.
The failure of a reading is that of everything around it, unless `accepts` or `<|>` tries it.
-/

namespace NodeQuery.Relational.Grammar

/-- What was read at the front of the tokens, and the tokens after it. -/
abbrev Parser := StateT (List Token) Option

section Combinators

variable {α : Type}

/-- Whether something could be read, which is then taken away. -/
def accepts (parser : Parser Unit) : Parser Bool := fun tokens =>
  match parser tokens with
  | some (_, rest) => some (true, rest)
  | none => some (false, tokens)

/-- Whether something could be read, without taking it away. -/
def announces (parser : Parser Unit) : Parser Bool := fun tokens =>
  some ((parser tokens).isSome, tokens)

def optionally (parser : Parser Unit) : Parser Unit := discard (accepts parser)

/-- The first of several readings that succeeds. -/
def firstOf (parsers : List (Parser α)) : Parser α := fun tokens => parsers.findSome? (· tokens)

/-- What a step reads time after time until it reads nothing. -/
def repeated (step : Parser (Option α)) (tokens : List Token) : Option (List α × List Token) :=
  match step tokens with
  | none => none
  | some (none, rest) => some ([], rest)
  | some (some value, rest) =>
    if _shorter : rest.length < tokens.length then
      (repeated step rest).map fun (values, rest) => (value :: values, rest)
    else none
termination_by tokens.length

/-- As many readings as succeed. -/
def allOf (parser : Parser Unit) : Parser Unit :=
  discard <| repeated do
    if ← accepts parser then return some () else return none

/-- What a step reads when it may read parts of the same kind after its first token. -/
def recursive {ι : Type} (step : (ι → Parser α) → ι → Parser α) (index : ι)
    (tokens : List Token) : Option (α × List Token) :=
  step
    (fun index rest =>
      if _shorter : rest.length < tokens.length then recursive step index rest else none)
    index tokens
termination_by tokens.length

end Combinators

/-- The next token, if it satisfies a condition. -/
def token (condition : Token → Bool) : Parser Token
  | token :: rest => if condition token then some (token, rest) else none
  | [] => none

def keyword (name : String) : Parser Unit := discard (token (·.isKeyword name))

def keywords (names : List String) : Parser Unit := names.forM keyword

def anyKeyword (names : List String) : Parser Unit :=
  discard (token fun token => names.any (token.isKeyword ·))

def symbol (text : String) : Parser Unit := discard (token (·.isSymbol text))

/-- What follows one of the keywords in a table of readings, or another reading if none of them is
at the front. -/
def byKeyword {α : Type} (forms : List (List String × Parser α)) (otherwise : Parser α) :
    Parser α
  | token :: rest =>
    match forms.find? fun form => form.1.any (token.isKeyword ·) with
    | some form => form.2 rest
    | none => otherwise (token :: rest)
  | [] => otherwise []

/-- A name, which may also stand between single quotes. -/
def identifier : Parser Unit
  | .word _ _ :: rest => some ((), rest)
  | .quoted _ :: rest => some ((), rest)
  | _ => none

def word : Parser Unit
  | .word _ _ :: rest => some ((), rest)
  | _ => none

def quotedText : Parser Unit
  | .quoted _ :: rest => some ((), rest)
  | _ => none

/-- A further item after each separator. -/
def furtherBy {α : Type} (separator : String) (item : Parser α) : Parser (List α) :=
  repeated do
    if ← accepts (symbol separator) then return some (← item) else return none

/-- One or more items with commas between them. -/
def items {α : Type} (item : Parser α) : Parser (List α) := do
  let first ← item
  let further ← furtherBy "," item
  return first :: further

def several (item : Parser Unit) : Parser Unit := discard (items item)

/-- Names with points between them. -/
def path : Parser Unit := do
  identifier
  discard (furtherBy "." identifier)

/-- Something between parentheses. -/
def parenthesized {α : Type} (inner : Parser α) : Parser α := do
  symbol "("
  let value ← inner
  symbol ")"
  return value

def nameList : Parser Unit := parenthesized (several identifier)

/-- Something after keywords that need not be there. -/
def clause (names : List String) (body : Parser Unit) : Parser Unit := do
  if ← accepts (keywords names) then body

/-- A text that stands for itself, with or without quotes. -/
def literalText : Parser String
  | .word name delimiter :: rest =>
    if (Token.word name delimiter).isPlainName then some (name, rest) else none
  | .quoted text :: rest => some (text, rest)
  | .escaped text :: rest => some (text, rest)
  | _ => none

/-- A number of at most 64 bits. -/
def wholeNumber : Parser Unit
  | .number digits :: rest =>
    if digits.toList.all Text.isDigit && Text.decimalValue digits.toList < UInt64.size then
      some ((), rest)
    else none
  | _ => none

/-- A placeholder whose name stands apart from its mark. -/
def namedPlaceholder : Parser Unit
  | .symbol mark :: .word _ _ :: rest => if [":", "@"].contains mark then some ((), rest) else none
  | .symbol mark :: .number _ :: rest => if [":", "@"].contains mark then some ((), rest) else none
  | _ => none

/-- The keywords that may be values all the same. -/
def valueKeywords : List String :=
  ["TRUE", "FALSE", "NULL", "LOCATION", "TYPE", "DATE", "START", "END"]

/-- Whether a token is a value by itself. Between backticks a name is no value. -/
def isValue : Token → Bool
  | .word name delimiter =>
    delimiter != some '`' &&
      ((Token.word name delimiter).isPlainName ||
        valueKeywords.any (Token.word name delimiter).isKeyword)
  | .symbol _ => false
  | _ => true

def value : Parser Unit := discard (token isValue) <|> namedPlaceholder

end NodeQuery.Relational.Grammar
