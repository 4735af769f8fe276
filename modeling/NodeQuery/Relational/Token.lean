import NodeQuery.Relational.Keyword
import NodeQuery.Text.Alphanumeric
import NodeQuery.Text.Blank
import NodeQuery.Text.Decimal

/-!
The tokens of a condition template. Names may stand between double quotes or backticks, which makes
them mere names; otherwise a name may be a keyword, in any letter case. A number sign or an at sign
that begins no symbol begins a name, and takes the next character into it whatever that is.
-/

namespace NodeQuery.Relational

open Text

inductive Token where
  | word (name : String) (delimiter : Option Char)
  | number (digits : String)
  | quoted (text : String)
  | escaped (text : String)
  | hexadecimal
  | specialLiteral
  | placeholder (mark : String)
  | symbol (text : String)
  deriving Repr, DecidableEq

namespace Token

def isNameStart (char : Char) : Bool :=
  isAlphabetic char || char == '_' || char == '#' || char == '@'

def isNamePart (char : Char) : Bool := isNameStart char || isDigit char || char == '$'

def isHexDigit (char : Char) : Bool :=
  isDigit char || ('a' ≤ char && char ≤ 'f') || ('A' ≤ char && char ≤ 'F')

/-- The text up to a closing mark, which is written twice to stand for itself. -/
def enclosed (close : Char) : List Char → Option (List Char × List Char)
  | [] => none
  | char :: rest =>
    if char = close then
      match rest with
      | next :: after =>
        if next = close then (enclosed close after).map fun (text, rest) => (close :: text, rest)
        else some ([], next :: after)
      | [] => some ([], [])
    else (enclosed close rest).map fun (text, rest) => (char :: text, rest)

/-- The text after the end of a comment, which may hold further comments. Its marks are two
neighbouring characters each, and `previous` may be the second of one and the first of another. -/
def afterComment (depth : Nat) (previous : Char) : List Char → Option (List Char)
  | [] => none
  | char :: rest =>
    if previous = '/' && char = '*' then afterComment (depth + 1) char rest
    else if previous = '*' && char = '/' then
      match depth with
      | 0 => some rest
      | depth + 1 => afterComment depth char rest
    else afterComment depth char rest

/-- What a letter after a backslash stands for. -/
def escapedChar (char : Char) : Char :=
  if char = 'r' then '\r' else if char = 'n' then '\n' else if char = 't' then '\t' else char

/-- A quotation in which a backslash protects the next character, and what follows it. -/
def escapedText : List Char → Option (List Char × List Char)
  | '\\' :: char :: rest =>
    (escapedText rest).map fun (text, rest) => (escapedChar char :: text, rest)
  | '\'' :: '\'' :: rest => (escapedText rest).map fun (text, rest) => ('\'' :: text, rest)
  | '\'' :: rest => some ([], rest)
  | char :: rest => (escapedText rest).map fun (text, rest) => (char :: text, rest)
  | [] => none

/-- The text after the first two dollar signs in a row. -/
def afterDollars : List Char → Option (List Char)
  | '$' :: '$' :: rest => some rest
  | _ :: rest => afterDollars rest
  | [] => none

/-- An exponent, if digits follow its letter. -/
def exponent : List Char → List Char × List Char
  | [] => ([], [])
  | letter :: rest =>
    let (sign, unsigned) := match rest with
      | '+' :: unsigned => (['+'], unsigned)
      | '-' :: unsigned => (['-'], unsigned)
      | unsigned => ([], unsigned)
    let digits := unsigned.takeWhile isDigit
    if (letter == 'e' || letter == 'E') && !digits.isEmpty then
      (letter :: sign ++ digits, unsigned.dropWhile isDigit)
    else ([], letter :: rest)

/-- Digits with an optional point among them and an optional exponent; a point alone is a symbol. -/
def decimalToken (text : List Char) : Token × List Char :=
  let whole := text.takeWhile isDigit
  let (point, rest) := match text.dropWhile isDigit with
    | '.' :: rest => (['.'], rest)
    | rest => ([], rest)
  let digits := whole ++ point ++ rest.takeWhile isDigit
  if digits = ['.'] then (.symbol ".", rest)
  else
    let (power, rest) := exponent (rest.dropWhile isDigit)
    (.number (String.ofList (digits ++ power)), if rest.head? = some 'L' then rest.tail else rest)

def numberToken : List Char → Token × List Char
  | '0' :: 'x' :: rest => (.hexadecimal, rest.dropWhile isHexDigit)
  | text => decimalToken text

/-- The symbols of more than one character, longer ones before their beginnings. -/
def longSymbols : List String :=
  ["<=>", "->>", "!~~*", "!~~", "!~*", "!~", "!!", "!=", "||/", "||", "|/", "=>", "==", "<=", "<>",
    "<<", "<@", ">=", ">>", "->", "//", "::", ":=", "&&", "^@", "~~*", "~~", "~*"]

def symbolToken (char : Char) (rest : List Char) : Token × List Char :=
  match longSymbols.findSome? fun text =>
      (text.toList.isPrefixOf? (char :: rest)).map fun after => (text, after) with
  | some (text, after) => (.symbol text, after)
  | none => (.symbol (String.singleton char), rest)

/-- A name after its first characters. -/
def nameToken (first : List Char) (rest : List Char) : Token × List Char :=
  (.word (String.ofList (first ++ rest.takeWhile isNamePart)) none, rest.dropWhile isNamePart)

/-- A symbol that begins with a number sign, or a name. -/
def numberSignToken : List Char → Token × List Char
  | '-' :: rest => (.symbol "#-", rest)
  | '>' :: '>' :: rest => (.symbol "#>>", rest)
  | '>' :: rest => (.symbol "#>", rest)
  | ' ' :: rest => (.symbol "#", ' ' :: rest)
  | char :: rest => nameToken ['#', char] rest
  | [] => (.symbol "#", [])

/-- A symbol that begins with an at sign, or a name. -/
def atSignToken : List Char → Token × List Char
  | '>' :: rest => (.symbol "@>", rest)
  | '?' :: rest => (.symbol "@?", rest)
  | '@' :: ' ' :: rest => (.symbol "@@", ' ' :: rest)
  | '@' :: char :: rest => nameToken ['@', '@', char] rest
  | '@' :: [] => (.symbol "@@", [])
  | ' ' :: rest => (.symbol "@", ' ' :: rest)
  | char :: rest => nameToken ['@', char] rest
  | [] => (.symbol "@", [])

/-- A placeholder with a name, or a text between two equal tags. With a name in the tags, the text
holds no dollar sign. -/
def dollarToken (rest : List Char) : Option (Token × List Char) :=
  let isTag (char : Char) : Bool := isAlphanumeric char || char == '_'
  let tag := rest.takeWhile isTag
  match rest.dropWhile isTag with
  | '$' :: body =>
    let after := if tag.isEmpty then afterDollars body
      else ('$' :: tag ++ ['$']).isPrefixOf? (body.dropWhile (· != '$'))
    after.map fun after => (.specialLiteral, after)
  | after => some (.placeholder (String.ofList ('$' :: tag)), after)

/-- What follows a letter that makes a special literal of the quotation after it. -/
def prefixedLiteral (letter : Char) (rest : List Char) : Option (Option (Token × List Char)) :=
  match rest with
  | '\'' :: body =>
    if ['e', 'E'].contains letter then
      some ((escapedText body).map fun (text, after) => (.escaped (String.ofList text), after))
    else if ['x', 'X'].contains letter then
      some ((enclosed '\'' body).map fun (_, after) => (.hexadecimal, after))
    else if ['n', 'N', 'b', 'B', 'r', 'R'].contains letter then
      some ((enclosed '\'' body).map fun (_, after) => (.specialLiteral, after))
    else none
  | '"' :: body =>
    if ['b', 'B', 'r', 'R'].contains letter then
      some ((enclosed '"' body).map fun (_, after) => (.specialLiteral, after))
    else none
  | _ => none

def lexeme (char : Char) (rest : List Char) : Option (Token × List Char) :=
  match prefixedLiteral char rest with
  | some literal => literal
  | none =>
    if char == '#' then some (numberSignToken rest)
    else if char == '@' then some (atSignToken rest)
    else if isNameStart char then some (nameToken [char] rest)
    else if isDigit char || char == '.' then some (numberToken (char :: rest))
    else if char == '\'' then
      (enclosed char rest).map fun (text, after) => (.quoted (String.ofList text), after)
    else if char == '"' || char == '`' then
      (enclosed char rest).map fun (name, after) =>
        (.word (String.ofList name) (some char), after)
    else if char == '?' then
      some (.placeholder (String.ofList ('?' :: rest.takeWhile isNumeric)),
        rest.dropWhile isNumeric)
    else if char == '$' then dollarToken rest
    else some (symbolToken char rest)

/-- One step from the front of a text; blanks and comments give no token. -/
def step (char : Char) (rest : List Char) : Option (Option Token × List Char) :=
  if isWhiteSpace char then some (none, rest)
  else if char == '-' && rest.head? == some '-' then some (none, rest.dropWhile (· != '\n'))
  else if char == '/' && rest.head? == some '*' then
    (afterComment 0 ' ' rest.tail).map fun after => (none, after)
  else (lexeme char rest).map fun (token, after) => (some token, after)

/-- The tokens of a text, unless a quotation or a comment in it does not end. -/
def ofText? (text : List Char) : Option (List Token) :=
  match text with
  | [] => some []
  | char :: rest =>
    match step char rest with
    | none => none
    | some (token, after) =>
      if _shorter : after.length < (char :: rest).length then
        (ofText? after).map (token.toList ++ ·)
      else none
termination_by text.length
decreasing_by exact _shorter

def isKeyword (keyword : String) : Token → Bool
  | .word name none => Keyword.spells name keyword
  | _ => false

/-- A name that is no keyword. -/
def isPlainName : Token → Bool
  | .word name delimiter => delimiter.isSome || !Keyword.all.any (Keyword.spells name)
  | _ => false

def isSymbol (text : String) (token : Token) : Bool := token == .symbol text

end Token

end NodeQuery.Relational
