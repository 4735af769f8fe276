import NodeQuery.Json.Basic
import NodeQuery.Text.Decimal
import NodeQuery.Text.Hexadecimal

/-!
JSON as text: on one line, or spread over lines with the contents of arrays and objects indented.
Quotes, backslashes and control characters are escaped, all other characters stand for themselves.
-/

namespace NodeQuery.Json

open Text

def escaped (char : Char) : List Char :=
  if char = '"' then ['\\', '"']
  else if char = '\\' then ['\\', '\\']
  else if char = '\n' then ['\\', 'n']
  else if char = '\r' then ['\\', 'r']
  else if char = '\t' then ['\\', 't']
  else if char = '\x08' then ['\\', 'b']
  else if char = '\x0c' then ['\\', 'f']
  else if char.toNat < 32 then
    ['\\', 'u'] ++ hexDigits 4 char.toNat
  else [char]

def quoted (text : String) : String := "\"" ++ String.ofList (text.toList.flatMap escaped) ++ "\""

def braced (contents : String) : String := "\x7b" ++ contents ++ "\x7d"

def bracketed (contents : String) : String := "[" ++ contents ++ "]"

mutual

/-- On one line, without blanks. -/
def text : Json → String
  | .null => "null"
  | .boolean truth => if truth then "true" else "false"
  | .integer number => integerText number
  | .decimal numeral => numeral
  | .string text => quoted text
  | .array items => bracketed (",".intercalate (itemTexts items))
  | .object fields => braced (",".intercalate (fieldTexts fields))

def itemTexts : List Json → List String
  | [] => []
  | item :: items => text item :: itemTexts items

def fieldTexts : List (String × Json) → List String
  | [] => []
  | (name, value) :: fields => (quoted name ++ ":" ++ text value) :: fieldTexts fields

end

def newLine (level : Nat) : String := "\n" ++ String.ofList (List.replicate (2 * level) ' ')

/-- One entry a line, one level further in than the brackets; nothing for no entries. -/
def spread (level : Nat) (entries : List String) : String :=
  if entries.isEmpty then ""
  else newLine (level + 1) ++ ("," ++ newLine (level + 1)).intercalate entries ++ newLine level

mutual

/-- Over several lines, where the first one is indented already. -/
def indentedText (level : Nat) : Json → String
  | .array items => bracketed (spread level (indentedItems (level + 1) items))
  | .object fields => braced (spread level (indentedFields (level + 1) fields))
  | scalar => text scalar

def indentedItems (level : Nat) : List Json → List String
  | [] => []
  | item :: items => indentedText level item :: indentedItems level items

def indentedFields (level : Nat) : List (String × Json) → List String
  | [] => []
  | (name, value) :: fields =>
    (quoted name ++ ": " ++ indentedText level value) :: indentedFields level fields

end

/-- Over several lines. -/
def prettyText (json : Json) : String := indentedText 0 json

end NodeQuery.Json
