/-!
Text between double quotes. A backslash stands before every quote and every backslash of the text;
on reading, a backslash gives the character after it, whichever that is.
-/

namespace NodeQuery.Text.Quoted

def escape : List Char → List Char
  | [] => []
  | char :: rest =>
    if char = '"' ∨ char = '\\' then '\\' :: char :: escape rest else char :: escape rest

def encode (text : String) : String := "\"" ++ String.ofList (escape text.toList) ++ "\""

/-- The text up to the closing quote, and what follows that quote. -/
def unescape : List Char → Option (List Char × List Char)
  | [] => none
  | '"' :: rest => some ([], rest)
  | ['\\'] => none
  | '\\' :: char :: rest => (unescape rest).map fun (text, after) => (char :: text, after)
  | char :: rest => (unescape rest).map fun (text, after) => (char :: text, after)

theorem unescape_escape (text after : List Char) :
    unescape (escape text ++ '"' :: after) = some (text, after) := by
  induction text with
  | nil => simp [escape, unescape]
  | cons char rest ih =>
    unfold escape
    split
    · simp [unescape, ih]
    · next plain =>
      rw [not_or] at plain
      simp only [List.cons_append]
      rw [unescape] <;> simp_all

end NodeQuery.Text.Quoted
