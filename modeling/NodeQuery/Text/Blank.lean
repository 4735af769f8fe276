import NodeQuery.Text.CodeRun

/-!
White space: the White_Space property, which ends an unquoted value, and the four characters that
may separate the parts of a query.
-/

namespace NodeQuery.Text

def whiteSpaceRuns : List CodeRun :=
  [⟨9, 13, 1⟩, ⟨32, 32, 1⟩, ⟨133, 133, 1⟩, ⟨160, 160, 1⟩, ⟨5760, 5760, 1⟩, ⟨8192, 8202, 1⟩,
  ⟨8232, 8233, 1⟩, ⟨8239, 8239, 1⟩, ⟨8287, 8287, 1⟩, ⟨12288, 12288, 1⟩]

def isWhiteSpace (char : Char) : Bool := covered whiteSpaceRuns char.toNat

def isBlank (char : Char) : Bool := char == ' ' || char == '\t' || char == '\r' || char == '\n'

end NodeQuery.Text
