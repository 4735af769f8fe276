/-!
Numbers in decimal: without leading zeros, with a fixed number of digits, and read back from
digits.
-/

namespace NodeQuery.Text

def isDigit (char : Char) : Bool := '0' ≤ char && char ≤ '9'

def digitChar (digit : Nat) : Char := Char.ofNat ('0'.toNat + digit)

def digitValue (char : Char) : Nat := char.toNat - '0'.toNat

/-- Without leading zeros. -/
def decimalDigits (number : Nat) : List Char :=
  if number < 10 then [digitChar number]
  else decimalDigits (number / 10) ++ [digitChar (number % 10)]
termination_by number
decreasing_by omega

/-- The last `width` digits, with leading zeros. -/
def fixedDigits : Nat → Nat → List Char
  | 0, _ => []
  | width + 1, number => fixedDigits width (number / 10) ++ [digitChar (number % 10)]

/-- At least `width` digits, with leading zeros where fewer are needed. -/
def paddedDigits (width number : Nat) : List Char :=
  List.replicate (width - (decimalDigits number).length) '0' ++ decimalDigits number

def decimalValue (digits : List Char) : Nat :=
  digits.foldl (fun value char => 10 * value + digitValue char) 0

def naturalText (number : Nat) : String := String.ofList (decimalDigits number)

def integerText (number : Int) : String :=
  if number < 0 then "-" ++ naturalText number.natAbs else naturalText number.natAbs

/-- A number of at most `most` digits at the front of a text, and what follows it. -/
def leadingNumber (most : Nat) (text : List Char) : Option (Nat × List Char) :=
  match (text.take most).takeWhile isDigit with
  | [] => none
  | digits => some (decimalValue digits, text.drop digits.length)

end NodeQuery.Text
