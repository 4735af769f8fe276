import Mathlib
import NodeQuery.Relational.Query
import NodeQuery.Relational.Token

/-! The tokens of templates. Words, question marks, digits and comparisons end before a space or a
closing parenthesis, so the tokens of a template are those of its parts. -/

namespace NodeQuery.Relational.Token

open Text

set_option maxRecDepth 4000

/-- What every part of a template ends before. -/
def Breaks (rest : List Char) : Prop := ∀ char ∈ rest.head?, char = ' ' ∨ char = ')'

/-- A text is read as tokens, whatever is read behind it. -/
def Spells (text : List Char) (tokens : List Token) : Prop :=
  ∀ rest, Breaks rest → ofText? (text ++ rest) = (ofText? rest).map (tokens ++ ·)

theorem ofText?_cons {char : Char} {rest after : List Char} {token : Option Token}
    (stepped : step char rest = some (token, after)) (shorter : after.length < rest.length + 1) :
    ofText? (char :: rest) = (ofText? after).map (token.toList ++ ·) := by
  rw [ofText?, stepped]
  simp [shorter]

theorem ofText?_space (rest : List Char) : ofText? (' ' :: rest) = ofText? rest := by
  rw [ofText?_cons (show _ = some (none, rest) from rfl) (by omega)]
  cases ofText? rest <;> rfl

theorem breaks_space (rest : List Char) : Breaks (' ' :: rest) := by
  simp [Breaks]

theorem breaks_closing (rest : List Char) : Breaks (')' :: rest) := by
  simp [Breaks]

/-- Away from quotation marks no letter begins a special literal. -/
theorem prefixedLiteral_eq_none {letter : Char} {rest : List Char}
    (noQuote : ∀ char ∈ rest.head?, char ≠ '\'' ∧ char ≠ '"') :
    prefixedLiteral letter rest = none := by
  unfold prefixedLiteral
  split
  · exact absurd rfl (noQuote _ rfl).1
  · exact absurd rfl (noQuote _ rfl).2
  · rfl

theorem step_parenthesis (rest : List Char) :
    step '(' rest = some (some (.symbol "("), rest) ∧
      step ')' rest = some (some (.symbol ")"), rest) := by
  have none (char : Char) (plain : char = '(' ∨ char = ')') : prefixedLiteral char rest = none := by
    unfold prefixedLiteral
    rcases plain with rfl | rfl <;> split <;> rfl
  constructor
  · unfold step
    rw [lexeme, none '(' (.inl rfl)]
    rfl
  · unfold step
    rw [lexeme, none ')' (.inr rfl)]
    rfl

namespace Spells

theorem spaced {left right : List Char} {leftTokens rightTokens : List Token}
    (first : Spells left leftTokens) (second : Spells right rightTokens) :
    Spells (left ++ ' ' :: right) (leftTokens ++ rightTokens) := by
  intro rest breaks
  rw [List.append_assoc, List.cons_append, first _ (breaks_space _), ofText?_space,
    second rest breaks, Option.map_map]
  congr 1
  funext tokens
  simp

theorem parenthesized {text : List Char} {tokens : List Token} (inner : Spells text tokens) :
    Spells ('(' :: text ++ [')']) (.symbol "(" :: tokens ++ [.symbol ")"]) := by
  intro rest breaks
  have opening : ofText? ('(' :: (text ++ ')' :: rest)) =
      (ofText? (text ++ ')' :: rest)).map ([Token.symbol "("] ++ ·) :=
    ofText?_cons (step_parenthesis _).1 (by omega)
  have closing : ofText? (')' :: rest) = (ofText? rest).map ([Token.symbol ")"] ++ ·) :=
    ofText?_cons (step_parenthesis _).2 (by omega)
  simp only [List.cons_append, List.append_assoc, List.nil_append]
  rw [opening, inner _ (breaks_closing rest), closing, Option.map_map, Option.map_map]
  congr 1

/-- A text that is one token before a space, before a closing parenthesis and at the end. -/
theorem of_step {char : Char} {text : List Char} {token : Token}
    (stepped : ∀ rest, Breaks rest → step char (text ++ rest) = some (some token, rest)) :
    Spells (char :: text) [token] := by
  intro rest breaks
  refine ofText?_cons (stepped rest breaks) ?_
  rw [List.length_append]
  omega

theorem of_step_cases {char : Char} {text : List Char} {token : Token}
    (atEnd : step char text = some (some token, []))
    (space : ∀ rest, step char (text ++ ' ' :: rest) = some (some token, ' ' :: rest))
    (closing : ∀ rest, step char (text ++ ')' :: rest) = some (some token, ')' :: rest)) :
    Spells (char :: text) [token] := by
  refine of_step fun rest breaks => ?_
  cases rest with
  | nil => rwa [List.append_nil]
  | cons next rest =>
    rcases breaks next rfl with rfl | rfl
    · exact space rest
    · exact closing rest

theorem equal : Spells ['='] [.symbol "="] :=
  of_step_cases rfl (fun _ => rfl) fun _ => rfl

theorem lessOrEqual : Spells ['<', '='] [.symbol "<="] :=
  of_step_cases rfl (fun _ => rfl) fun _ => rfl

theorem greaterOrEqual : Spells ['>', '='] [.symbol ">="] :=
  of_step_cases rfl (fun _ => rfl) fun _ => rfl

theorem placeholder : Spells ['?'] [.placeholder "?"] :=
  of_step_cases rfl (fun _ => rfl) fun _ => rfl

theorem zero : Spells ['0'] [.number "0"] :=
  of_step_cases rfl (fun _ => rfl) fun _ => rfl

theorem one : Spells ['1'] [.number "1"] :=
  of_step_cases rfl (fun _ => rfl) fun _ => rfl

theorem word {first : Char} (others : List Char) (start : isNameStart first = true)
    (parts : others.all isNamePart = true)
    (plain : first ≠ '#' ∧ first ≠ '@' ∧ isWhiteSpace first = false ∧ first ≠ '-' ∧ first ≠ '/') :
    Spells (first :: others) [.word (String.ofList (first :: others)) none] := by
  rw [List.all_eq_true] at parts
  refine of_step fun rest breaks => ?_
  have ended : ∀ char ∈ rest.head?, isNamePart char = false ∧ char ≠ '\'' ∧ char ≠ '"' := by
    intro char head
    rcases breaks char head with rfl | rfl <;> decide
  have noQuote : ∀ char ∈ (others ++ rest).head?, char ≠ '\'' ∧ char ≠ '"' := by
    intro char head
    cases others with
    | nil => exact (ended char head).2
    | cons other others =>
      have part := parts other List.mem_cons_self
      cases head
      constructor
      · intro same
        subst same
        exact absurd part (by decide)
      · intro same
        subst same
        exact absurd part (by decide)
  have named : (others ++ rest).takeWhile isNamePart = others ∧
      (others ++ rest).dropWhile isNamePart = rest := by
    rw [List.takeWhile_append_of_pos parts, List.dropWhile_append_of_pos parts]
    cases rest with
    | nil => simp
    | cons char rest => simp [(ended char rfl).1]
  unfold step
  rw [lexeme, prefixedLiteral_eq_none noQuote]
  simp [plain, start, nameToken, named]

end Spells

theorem spells_column (column : Column) : Spells column.name.toList [.word column.name none] := by
  cases column with
  | id => exact Spells.word ['d'] rfl rfl (by decide)
  | graphId => exact Spells.word ['r', 'a', 'p', 'h', '_', 'i', 'd'] rfl rfl (by decide)
  | typeId => exact Spells.word ['y', 'p', 'e', '_', 'i', 'd'] rfl rfl (by decide)
  | code => exact Spells.word ['o', 'd', 'e'] rfl rfl (by decide)
  | uri => exact Spells.word ['r', 'i'] rfl rfl (by decide)
  | number => exact Spells.word ['u', 'm', 'b', 'e', 'r'] rfl rfl (by decide)
  | createdDate =>
    exact Spells.word ['r', 'e', 'a', 't', 'e', 'd', '_', 'd', 'a', 't', 'e'] rfl rfl
      (by decide)
  | lastModifiedDate =>
    exact Spells.word ['a', 's', 't', '_', 'm', 'o', 'd', 'i', 'f', 'i', 'e', 'd', '_',
      'd', 'a', 't', 'e'] rfl rfl (by decide)

theorem spells_and : Spells "AND".toList [.word "AND" none] :=
  Spells.word ['N', 'D'] rfl rfl (by decide)

theorem spells_or : Spells "OR".toList [.word "OR" none] :=
  Spells.word ['R'] rfl rfl (by decide)

theorem spells_is : Spells "IS".toList [.word "IS" none] :=
  Spells.word ['S'] rfl rfl (by decide)

theorem spells_not : Spells "NOT".toList [.word "NOT" none] :=
  Spells.word ['O', 'T'] rfl rfl (by decide)

theorem spells_null : Spells "NULL".toList [.word "NULL" none] :=
  Spells.word ['U', 'L', 'L'] rfl rfl (by decide)

end NodeQuery.Relational.Token
