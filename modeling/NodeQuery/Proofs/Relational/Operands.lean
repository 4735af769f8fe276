import NodeQuery.Proofs.Relational.Combinators
import NodeQuery.Relational.Query

/-! How the operands of a template begin: a column, a number, a placeholder, an expression in
parentheses or the negation of one. Each of them is read up to the token behind it, which is a
connective, a closing parenthesis or the end of the template. -/

namespace NodeQuery.Relational.Grammar

/-- The tokens that stand behind an operand in a template. -/
def followers : List Token :=
  [.symbol ")", .word "AND" none, .word "OR" none, .word "IS" none, .symbol "=", .symbol "<=",
    .symbol ">="]

/-- An operand may end before these tokens. -/
def Halts (rest : List Token) : Prop := ∀ token ∈ rest.head?, token ∈ followers

theorem halts_nil : Halts [] := fun _ head => nomatch head

theorem halts_cons {token : Token} {rest : List Token} (follows : token ∈ followers) :
    Halts (token :: rest) := by
  intro other head
  cases head
  exact follows

theorem token_of_halts {kind : Token → Bool} {rest : List Token} (halts : Halts rest)
    (others : followers.all (!kind ·) = true) : token kind rest = none := by
  cases rest with
  | nil => rfl
  | cons first rest =>
    have other := List.all_eq_true.mp others first (halts first rfl)
    simp only [Bool.not_eq_true'] at other
    simp [token, other]

theorem symbol_of_halts (mark : String) {rest : List Token} (halts : Halts rest)
    (others : followers.all (!·.isSymbol mark) = true) : symbol mark rest = none :=
  discard_of_none (token_of_halts halts others)

theorem keyword_of_halts {name : String} {rest : List Token} (halts : Halts rest)
    (others : followers.all (!·.isKeyword name) = true) : keyword name rest = none :=
  discard_of_none (token_of_halts halts others)

/-! A text after its type is no operand of a template. -/

theorem typedText_of_typed {tokens rest : List Token} (read : typed tokens = some (false, rest)) :
    Parts.typedText tokens = none := by
  rw [Parts.typedText, bind_of_some _ read]
  rfl

theorem typedText_of_none {tokens : List Token} (failed : typed tokens = none) :
    Parts.typedText tokens = none := by
  rw [Parts.typedText, bind_of_none _ failed]

/-- The keywords that types begin with. -/
def typeWords : List (List String) := (TypeEnd.forms failure).map (·.1)

theorem forms_of_plain {first : Token} {tokens : List Token}
    (plain : typeWords.all (fun names => !names.any (first.isKeyword ·)) = true)
    (inner : Parser TypeEnd) : byKeyword (TypeEnd.forms inner) TypeEnd.foreign (first :: tokens) =
      TypeEnd.foreign (first :: tokens) :=
  byKeyword_of_none TypeEnd.foreign plain

theorem typed_of_foreign {first : Token} {tokens rest : List Token}
    (plain : typeWords.all (fun names => !names.any (first.isKeyword ·)) = true)
    (foreign : TypeEnd.foreign (first :: tokens) = some (⟨false, false⟩, rest))
    (single : symbol "[" rest = none) : typed (first :: tokens) = some (false, rest) := by
  have noArray : repeated (do
      if ← accepts (symbol "[") then
        symbol "]"
        return some ()
      else return none) rest = some ([], rest) := by
    apply repeated_of_none
    rw [bind_of_some _ (accepts_of_none single)]
    rfl
  have read : TypeEnd.reading (first :: tokens) = some (⟨false, false⟩, rest) := by
    rw [TypeEnd.reading, recursive_eq,
      bind_of_some _ ((forms_of_plain plain _).trans foreign), bind_of_some _ noArray]
    rfl
  rw [typed, bind_of_some _ read]
  rfl

theorem typed_of_no_word {first : Token} {tokens : List Token}
    (plain : typeWords.all (fun names => !names.any (first.isKeyword ·)) = true)
    (noWord : word (first :: tokens) = none) : typed (first :: tokens) = none := by
  have failed : TypeEnd.reading (first :: tokens) = none := by
    rw [TypeEnd.reading, recursive_eq, bind_of_none]
    rw [forms_of_plain plain, TypeEnd.foreign, bind_of_some _ (announces_of_none noWord)]
    rfl
  rw [typed, bind_of_none _ failed]

/-- A word before anything but a point names a type, possibly with modifiers in parentheses. -/
theorem foreign_word {name : String} {delimiter : Option Char} {tokens : List Token}
    (noPoint : symbol "." tokens = none)
    (noModifiers : parenthesized (allOf (discard (token TypeEnd.isModifier))) tokens = none) :
    TypeEnd.foreign (.word name delimiter :: tokens) = some (⟨false, false⟩, tokens) := by
  have read : path (.word name delimiter :: tokens) = some ((), tokens) := by
    rw [path, bind_of_some _ (show _ = some ((), tokens) from rfl)]
    exact discard_of_some (furtherBy_of_none identifier noPoint)
  rw [TypeEnd.foreign,
    bind_of_some _ (show _ = some (true, .word name delimiter :: tokens) from rfl),
    bind_of_some _ (show _ = some (PUnit.unit, .word name delimiter :: tokens) from rfl),
    bind_of_some _ read, bind_of_some _ (optionally_of_none noModifiers)]
  rfl

/-- The keywords that expressions begin with. -/
def formWords : List (List String) :=
  ((Parts.mk ⟨failure, failure⟩ fun _ => failure).forms "").map (·.1)

theorem column_plain (column : Column) :
    typeWords.all (fun names =>
        !names.any ((Token.word column.name none).isKeyword ·)) = true ∧
      formWords.all (fun names =>
        !names.any ((Token.word column.name none).isKeyword ·)) = true := by
  cases column <;> exact ⟨by decide +kernel, by decide +kernel⟩

namespace Parts

variable (parts : Parts) {tokens rest : List Token} {expression : Expression} (reach : Reach)

theorem reaching_of_primary (untyped : typedText tokens = none)
    (read : parts.primary tokens = some (expression, rest)) (halts : Halts rest) :
    parts.reaching reach tokens = parts.continued reach expression rest := by
  have collated : parts.collated tokens = some (expression, rest) := by
    rw [Parts.collated, bind_of_some _ read,
      bind_of_some _ (accepts_of_none (keyword_of_halts halts rfl))]
    rfl
  rw [reaching, bind_of_some _ ((orElse_of_none _ untyped).trans collated)]

theorem reaching_of_no_primary (untyped : typedText tokens = none)
    (failed : parts.primary tokens = none) : parts.reaching reach tokens = none := by
  have uncollated : parts.collated tokens = none := by
    rw [Parts.collated, bind_of_none _ failed]
  rw [reaching, bind_of_none _ ((orElse_of_none _ untyped).trans uncollated)]

theorem reaching_column (column : Column) (halts : Halts rest) :
    parts.reaching reach (.word column.name none :: rest) =
      parts.continued reach (.column column.name) rest := by
  have single := symbol_of_halts "[" halts rfl
  have noPoint := symbol_of_halts "." halts rfl
  have noCall := symbol_of_halts "(" halts rfl
  have untyped : typedText (.word column.name none :: rest) = none := by
    have noModifiers : parenthesized (allOf (discard (token TypeEnd.isModifier))) rest = none := by
      rw [parenthesized, bind_of_none _ noCall]
    exact typedText_of_typed (typed_of_foreign (column_plain column).1
      (foreign_word noPoint noModifiers) single)
  have unencoded : encodedText column.name rest = none := by
    cases column <;> rfl
  refine parts.reaching_of_primary reach untyped ?_ halts
  have words : (parts.forms column.name).map (·.1) = formWords := by
    simp only [formWords, forms, List.map_cons, List.map_nil]
  have noForm : byKeyword (parts.forms column.name) (fun _ => parts.named column.name rest)
      (.word column.name none :: rest) = parts.named column.name rest :=
    byKeyword_of_none _ (by rw [words]; exact (column_plain column).2)
  rw [primary, noForm, named, bind_of_some _ (furtherBy_of_none identifier noPoint),
    bind_of_some _ (accepts_of_none noCall)]
  simp only [Bool.false_eq_true, if_false, List.isEmpty_nil, Bool.not_true]
  rw [bind_of_some _ (accepts_of_none unencoded)]
  rfl

theorem reaching_number (digits : String) (halts : Halts rest) :
    parts.reaching reach (.number digits :: rest) = parts.continued reach (.number digits) rest :=
  parts.reaching_of_primary reach (typedText_of_none (typed_of_no_word rfl rfl)) rfl halts

theorem reaching_placeholder (mark : String) (halts : Halts rest) :
    parts.reaching reach (.placeholder mark :: rest) =
      parts.continued reach (.placeholder mark) rest :=
  parts.reaching_of_primary reach (typedText_of_none (typed_of_no_word rfl rfl)) rfl halts

/-- Something in parentheses that does not begin like a query is nested. -/
theorem reaching_nested (condition : queryAhead tokens = some (false, tokens))
    (inner : parts.expression tokens = some (expression, .symbol ")" :: rest))
    (halts : Halts rest) : parts.reaching reach (.symbol "(" :: tokens) =
      parts.continued reach (.nested expression) rest := by
  refine parts.reaching_of_primary reach (typedText_of_none (typed_of_no_word rfl rfl)) ?_ halts
  have single : items parts.expression tokens = some ([expression], .symbol ")" :: rest) :=
    items_of_some inner rfl
  have row := map_of_some rowOf single
  change parts.grouping tokens = _
  rw [grouping, bind_of_some _ condition]
  simp only [Bool.false_eq_true, if_false]
  rw [bind_of_some _ row, bind_of_some _ (show _ = some ((), rest) from rfl),
    bind_of_some _ (accepts_of_none (symbol_of_halts _ halts rfl))]
  rfl

/-- What is nested has to be readable. -/
theorem reaching_nested_of_none (condition : queryAhead tokens = some (false, tokens))
    (failed : parts.expression tokens = none) :
    parts.reaching reach (.symbol "(" :: tokens) = none := by
  refine parts.reaching_of_no_primary reach (typedText_of_none (typed_of_no_word rfl rfl)) ?_
  have row : (rowOf <$> items parts.expression) tokens = none :=
    map_of_none rowOf (items_of_none failed)
  change parts.grouping tokens = _
  rw [grouping, bind_of_some _ condition]
  simp only [Bool.false_eq_true, if_false]
  rw [bind_of_none _ row]

/-- `NOT` could be the name of a type with modifiers, unless something else stands between the
parentheses behind it. -/
theorem untyped_negation (others : symbol ")" (tokens.dropWhile TypeEnd.isModifier) = none) :
    typedText (.word "NOT" none :: .symbol "(" :: tokens) = none := by
  refine typedText_of_typed (typed_of_foreign (by decide +kernel) (foreign_word rfl ?_) rfl)
  rw [parenthesized, bind_of_some _ (show _ = some ((), tokens) from rfl),
    bind_of_some _ (allOf_token _ _), bind_of_none _ others]

/-- `NOT` takes what is nested behind it. -/
theorem reaching_negated (others : symbol ")" (tokens.dropWhile TypeEnd.isModifier) = none)
    (inner : parts.operand (.over Precedence.not) (.symbol "(" :: tokens) = some (expression, rest))
    (halts : Halts rest) :
    parts.reaching reach (.word "NOT" none :: .symbol "(" :: tokens) =
      parts.continued reach (.negation expression) rest := by
  refine parts.reaching_of_primary reach (untyped_negation others) ?_ halts
  change parts.negated (.symbol "(" :: tokens) = _
  rw [negated, bind_of_some _ (accepts_of_none rfl)]
  simp only [Bool.false_eq_true, if_false]
  rw [bind_of_some _ inner]
  rfl

theorem reaching_negated_of_none (others : symbol ")" (tokens.dropWhile TypeEnd.isModifier) = none)
    (failed : parts.operand (.over Precedence.not) (.symbol "(" :: tokens) = none) :
    parts.reaching reach (.word "NOT" none :: .symbol "(" :: tokens) = none := by
  refine parts.reaching_of_no_primary reach (untyped_negation others) ?_
  change parts.negated (.symbol "(" :: tokens) = _
  rw [negated, bind_of_some _ (accepts_of_none rfl)]
  simp only [Bool.false_eq_true, if_false]
  rw [bind_of_none _ failed]

end Parts

end NodeQuery.Relational.Grammar
