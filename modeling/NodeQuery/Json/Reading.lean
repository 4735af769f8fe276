import NodeQuery.Json.Basic
import NodeQuery.Text.Decimal
import NodeQuery.Text.Hexadecimal
import NodeQuery.Text.Reader

/-!
Reading JSON. Escapes have to stand for whole characters, control characters have to be escaped,
and arrays and objects may be nested only so deep.
-/

namespace NodeQuery.Json

open Text Text.Reader

namespace Reading

/-- A code unit of four hexadecimal digits. -/
def unit? (digits : List Char) : Option Nat :=
  if digits.length = 4 then hexNumber? 0 digits else none

def isLeading (unit : Nat) : Bool := 0xD800 ≤ unit && unit < 0xDC00

def isTrailing (unit : Nat) : Bool := 0xDC00 ≤ unit && unit < 0xE000

/-- The character of a code unit that is no half of a pair. -/
def single? (unit : Nat) : Option Char :=
  if isLeading unit || isTrailing unit then none else some (Char.ofNat unit)

/-- The character of a pair of code units. -/
def paired? (leading trailing : Nat) : Option Char :=
  if isLeading leading && isTrailing trailing then
    some (Char.ofNat (0x10000 + (leading - 0xD800) * 0x400 + (trailing - 0xDC00)))
  else none

def shorthand? (char : Char) : Option Char :=
  [('"', '"'), ('\\', '\\'), ('/', '/'), ('b', '\x08'), ('f', '\x0c'), ('n', '\n'), ('r', '\r'),
    ('t', '\t')].lookup char

/-- The character of an escape after its backslash, and how many characters the escape takes. -/
def escape? : List Char → Option (Char × Nat)
  | 'u' :: rest => do
    let unit ← unit? (rest.take 4)
    match single? unit with
    | some char => return (char, 5)
    | none =>
      if (rest.drop 4).take 2 = ['\\', 'u'] then
        let trailing ← unit? ((rest.drop 6).take 4)
        let char ← paired? unit trailing
        return (char, 11)
      else none
  | char :: _ => (shorthand? char).map (·, 1)
  | [] => none

/-- The rest of a string after its opening quote; `skipped` characters belong to an escape that has
been read already. -/
def stringFrom (found : List Char) : Nat → List Char → Option (List Char × List Char)
  | _, [] => none
  | skipped + 1, _ :: rest => stringFrom found skipped rest
  | 0, char :: rest =>
    if char = '"' then some (found.reverse, rest)
    else if char = '\\' then
      match escape? rest with
      | some (escaped, length) => stringFrom (escaped :: found) length rest
      | none => none
    else if char.toNat < 32 then none
    else stringFrom (char :: found) 0 rest

def string : Reader String
  | '"' :: rest =>
    match stringFrom [] 0 rest with
    | some (letters, rest) => .read (String.ofList letters) rest
    | none => .missed rest
  | text => .missed text

/-- A zero, or digits that do not start with one. -/
def wholePart : Reader (List Char)
  | '0' :: rest => .read ['0'] rest
  | text => run isDigit text

def fraction : Reader Unit := map (fun _ => ()) (before (literal ".") (run isDigit))

def exponent : Reader Unit :=
  map (fun _ => ())
    (before (firstOf [literal "e", literal "E"])
      (before (optional (firstOf [literal "+", literal "-"])) (run isDigit)))

/-- An integer of 64 bits, signed or not; a negative zero is none. -/
def integer? (negative : Bool) (magnitude : Nat) : Option Int :=
  if negative then
    if 0 < magnitude ∧ Int64.minValue.toInt ≤ -(magnitude : Int) then some (-(magnitude : Int))
    else none
  else if magnitude < UInt64.size then some magnitude else none

/-- A numeral, and the integer that it stands for if it stands for one of 64 bits. -/
def numeral : Reader (Option Int) :=
  (optional (literal "-")).bind fun sign => wholePart.bind fun digits =>
    (optional fraction).bind fun fraction => map (fun exponent =>
      if fraction.isNone && exponent.isNone then integer? sign.isSome (decimalValue digits)
      else none) (optional exponent)

def number : Reader Json := fun text =>
  (numeral text).andThen fun integer rest =>
    match integer with
    | some integer => .read (.integer integer) rest
    | none => .read (.decimal (String.ofList (text.take (text.length - rest.length)))) rest

def word : Reader Json :=
  firstOf [map (fun _ => .null) (literal "null"), map (fun _ => .boolean true) (literal "true"),
    map (fun _ => .boolean false) (literal "false")]

def scalar : Reader Json := firstOf [word, map .string string, number]

def comma : Reader Unit := before blanks (followedBy (literal ",") blanks)

def enclosed {α : Type} (opening closing : String) (item : Reader α) : Reader (List α) :=
  followedBy (before (before (literal opening) blanks) (separatedIfAny comma item))
    (before blanks (literal closing))

def field (value : Reader Json) : Reader (String × Json) := fun text =>
  (followedBy string (before blanks (followedBy (literal ":") blanks)) text).andThen fun name =>
    map (name, ·) value

/-- A value with at most so many arrays and objects one within the other. -/
def value : Nat → Reader Json
  | 0, text => scalar text
  | nesting + 1, text =>
    firstOf [map .array (enclosed "[" "]" (value nesting)),
      map .object (enclosed "\x7b" "\x7d" (field (value nesting))), scalar] text

end Reading

def nestingLimit : Nat := 127

/-- Read a text that is one JSON value. -/
def read? (text : String) : Option Json :=
  match (Reading.value nestingLimit).whole text.toList with
  | .read json _ => some json
  | _ => none

end NodeQuery.Json
