/-!
Hexadecimal digits: written in lower case, read in either letter case.
-/

namespace NodeQuery.Text

def hexDigit (digit : Nat) : Char :=
  if digit < 10 then Char.ofNat ('0'.toNat + digit) else Char.ofNat ('a'.toNat + (digit - 10))

def hexValue? (char : Char) : Option Nat :=
  if '0' ≤ char && char ≤ '9' then some (char.toNat - '0'.toNat)
  else if 'a' ≤ char && char ≤ 'f' then some (char.toNat - 'a'.toNat + 10)
  else if 'A' ≤ char && char ≤ 'F' then some (char.toNat - 'A'.toNat + 10)
  else none

/-- The number after `value` has been extended by further digits. -/
def hexNumber? (value : Nat) : List Char → Option Nat
  | [] => some value
  | char :: rest => (hexValue? char).bind fun digit => hexNumber? (16 * value + digit) rest

/-- The last `width` hexadecimal digits of a number. -/
def hexDigits : Nat → Nat → List Char
  | 0, _ => []
  | width + 1, number => hexDigits width (number / 16) ++ [hexDigit (number % 16)]

end NodeQuery.Text
