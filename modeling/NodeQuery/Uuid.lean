import NodeQuery.Text.Hexadecimal

/-!
Universally unique identifiers: 128 bits, written as 32 lower-case hexadecimal digits in groups of
8, 4, 4, 4 and 12. Read in either letter case, with hyphens or without; with hyphens also in braces
or after the scheme `urn:uuid:`.
-/

namespace NodeQuery

open Text

structure Uuid where
  bits : BitVec 128
  deriving Repr, DecidableEq

namespace Uuid

def ofNat (number : Nat) : Uuid := ⟨BitVec.ofNat 128 number⟩

instance : Ord Uuid where
  compare := compareOn (·.bits.toNat)

instance : Std.TransOrd Uuid :=
  inferInstanceAs (Std.TransCmp (compareOn fun uuid : Uuid => uuid.bits.toNat))

theorem eq_of_toNat_eq {left right : Uuid} (same : left.bits.toNat = right.bits.toNat) :
    left = right := by
  cases left; cases right
  exact congrArg Uuid.mk (BitVec.eq_of_toNat_eq same)

instance : Std.LawfulEqOrd Uuid where
  eq_of_compare {_ _} same := eq_of_toNat_eq (Std.LawfulEqOrd.eq_of_compare (α := Nat) same)

def groupSizes : List Nat := [8, 4, 4, 4, 12]

/-- Hyphens between groups of the given sizes. -/
def hyphenated : List Nat → List Char → List Char
  | [], digits => digits
  | [_], digits => digits
  | size :: sizes, digits => digits.take size ++ '-' :: hyphenated sizes (digits.drop size)

/-- The digits, if the hyphens stand exactly between groups of the given sizes. -/
def unhyphenated? : List Nat → List Char → Option (List Char)
  | [], text => if text.isEmpty then some [] else none
  | [size], text => if text.length = size then some text else none
  | size :: sizes, text =>
    match text.drop size with
    | '-' :: rest => (unhyphenated? sizes rest).map (text.take size ++ ·)
    | _ => none

def chars (uuid : Uuid) : List Char := hyphenated groupSizes (hexDigits 32 uuid.bits.toNat)

def text (uuid : Uuid) : String := String.ofList uuid.chars

instance : ToString Uuid := ⟨text⟩

def ofDigits? (digits : List Char) : Option Uuid :=
  if digits.length = 32 then (hexNumber? 0 digits).map ofNat else none

def ofHyphenated? (text : List Char) : Option Uuid :=
  (unhyphenated? groupSizes text).bind ofDigits?

def ofBraced? : List Char → Option Uuid
  | '{' :: rest =>
    if rest.getLast? = some '}' then ofHyphenated? rest.dropLast else none
  | _ => none

def scheme : List Char := ['u', 'r', 'n', ':', 'u', 'u', 'i', 'd', ':']

def ofUrn? (text : List Char) : Option Uuid :=
  if (text.take scheme.length).map Char.toLower = scheme then
    ofHyphenated? (text.drop scheme.length)
  else none

def ofText? (text : List Char) : Option Uuid :=
  ofDigits? text <|> ofHyphenated? text <|> ofBraced? text <|> ofUrn? text

end Uuid

end NodeQuery
