import NodeQuery.Text.Blank
import NodeQuery.Text.Decimal
import NodeQuery.Timestamp.Basic

/-!
The written forms of timestamps: the text form with a `T` between date and time, the same with a
space for relational parameters, and an index term of fixed width whose order as a text is the
order of time.
-/

namespace NodeQuery.Timestamp

open Text

/-- Four digits; beyond them, and before year 0, a sign comes first. -/
def yearDigits (year : Int) : List Char :=
  if 0 ≤ year ∧ year ≤ 9999 then fixedDigits 4 year.natAbs
  else (if year < 0 then '-' else '+') :: paddedDigits 4 year.natAbs

/-- The fewest of 0, 3, 6 and 9 places that are exact. -/
def fractionDigits (nanosecond : Nat) : List Char :=
  if nanosecond = 0 then []
  else if nanosecond % 1000000 = 0 then '.' :: fixedDigits 3 (nanosecond / 1000000)
  else if nanosecond % 1000 = 0 then '.' :: fixedDigits 6 (nanosecond / 1000)
  else '.' :: fixedDigits 9 nanosecond

def monthDayDigits (timestamp : Timestamp) : List Char :=
  '-' :: fixedDigits 2 timestamp.month ++ '-' :: fixedDigits 2 timestamp.day

def clockDigits (timestamp : Timestamp) : List Char :=
  fixedDigits 2 timestamp.hour ++ ':' :: fixedDigits 2 timestamp.minute ++
    ':' :: fixedDigits 2 timestamp.second

def charsWith (separator : Char) (timestamp : Timestamp) : List Char :=
  yearDigits timestamp.year ++ timestamp.monthDayDigits ++
    separator :: timestamp.clockDigits ++ fractionDigits timestamp.nanosecond

def text (timestamp : Timestamp) : String := String.ofList (timestamp.charsWith 'T')

def spacedText (timestamp : Timestamp) : String := String.ofList (timestamp.charsWith ' ')

/-- Added to the year of an index term, so that it is positive and has six digits. -/
def termYearOffset : Int := 262144

def term (timestamp : Timestamp) : String :=
  String.ofList (fixedDigits 6 (timestamp.year + termYearOffset).toNat ++
    timestamp.monthDayDigits ++ 'T' :: timestamp.clockDigits ++
    '.' :: fixedDigits 9 timestamp.nanosecond)

def skipWhiteSpace (text : List Char) : List Char := text.dropWhile isWhiteSpace

def expectMark (mark : Char) (text : List Char) : Option (List Char) :=
  match skipWhiteSpace text with
  | char :: rest => if char = mark then some rest else none
  | [] => none

/-- Up to four digits, or any number of them after a sign. -/
def leadingYear (text : List Char) : Option (Int × List Char) :=
  match skipWhiteSpace text with
  | '-' :: rest => (leadingNumber rest.length rest).map fun (year, rest) => (-(year : Int), rest)
  | '+' :: rest => (leadingNumber rest.length rest).map fun (year, rest) => ((year : Int), rest)
  | unsigned => (leadingNumber 4 unsigned).map fun (year, rest) => ((year : Int), rest)

def leadingPair (text : List Char) : Option (Nat × List Char) :=
  leadingNumber 2 (skipWhiteSpace text)

/-- Nothing, or a point and at least one digit; digits after the ninth do not count. -/
def leadingFraction : List Char → Option (Nat × List Char)
  | '.' :: rest =>
    match rest.takeWhile isDigit with
    | [] => none
    | digits =>
      some (decimalValue ((digits ++ List.replicate 9 '0').take 9), rest.dropWhile isDigit)
  | text => some (0, text)

def leadingDate (text : List Char) : Option ((Int × Nat × Nat) × List Char) := do
  let (year, text) ← leadingYear text
  let text ← expectMark '-' text
  let (month, text) ← leadingPair text
  let text ← expectMark '-' text
  let (day, text) ← leadingPair text
  return ((year, month, day), text)

def ofDateTime? (text : List Char) : Option Timestamp := do
  let ((year, month, day), text) ← leadingDate text
  let text ← expectMark 'T' text
  let (hour, text) ← leadingPair text
  let text ← expectMark ':' text
  let (minute, text) ← leadingPair text
  let text ← expectMark ':' text
  let (second, text) ← leadingPair text
  let (nanosecond, text) ← leadingFraction text
  if (skipWhiteSpace text).isEmpty then ofFields? year month day hour minute second nanosecond
  else none

/-- A date alone stands for its first moment. -/
def ofDate? (text : List Char) : Option Timestamp := do
  let ((year, month, day), text) ← leadingDate text
  if text.isEmpty then ofFields? year month day 0 0 0 0 else none

end NodeQuery.Timestamp
