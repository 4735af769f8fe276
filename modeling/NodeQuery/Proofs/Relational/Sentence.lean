import NodeQuery.Proofs.Relational.Connectives
import NodeQuery.Proofs.Relational.Tokens
import NodeQuery.Relational.Condition

/-! The sentences that templates are made of. A sentence is a relational query together with
everything that becomes of it: its tokens, the expression they are read as, the condition that its
parameters are bound in, and what the condition says of a node. Each form of query makes a sentence
of its parts, so that nothing has to be known about a sentence but its nesting. -/

namespace NodeQuery.Relational

open Grammar

/-- The most parentheses that are open at a time, where some are open before the text. -/
def nestingFrom (opened : Nat) : List Char → Nat
  | [] => opened
  | char :: rest =>
    if char = '(' then nestingFrom (opened + 1) rest
    else if char = ')' then max opened (nestingFrom (opened - 1) rest)
    else nestingFrom opened rest

/-- The most parentheses that are open at a time in the template. -/
def Query.nesting (query : Query) : Nat := nestingFrom 0 query.template.toList

theorem le_nestingFrom (opened : Nat) (text : List Char) : opened ≤ nestingFrom opened text := by
  induction text generalizing opened with
  | nil => exact le_refl _
  | cons char rest ih =>
    unfold nestingFrom
    split
    · exact (Nat.le_succ _).trans (ih _)
    · split
      · exact le_max_left _ _
      · exact ih _

/-- A text with balanced parentheses that nest so deep. -/
def Nests (text : List Char) (depth : Nat) : Prop :=
  ∀ opened rest, nestingFrom opened (text ++ rest) = max (opened + depth) (nestingFrom opened rest)

namespace Nests

variable {text left right : List Char} {depth leftDepth rightDepth : Nat}

theorem plain (text : List Char) (free : (text.all fun char => char != '(' && char != ')') = true) :
    Nests text 0 := by
  intro opened rest
  induction text with
  | nil => exact (max_eq_right (le_nestingFrom opened rest)).symm
  | cons char text ih =>
    simp only [List.all_cons, Bool.and_eq_true, bne_iff_ne] at free
    rw [List.cons_append, nestingFrom, if_neg free.1.1, if_neg free.1.2, ih free.2]

theorem append (first : Nests left leftDepth) (second : Nests right rightDepth) :
    Nests (left ++ right) (max leftDepth rightDepth) := by
  intro opened rest
  rw [List.append_assoc, first, second]
  omega

theorem parenthesized (inner : Nests text depth) : Nests ('(' :: text ++ [')']) (depth + 1) := by
  intro opened rest
  rw [List.cons_append, List.cons_append, nestingFrom, if_pos rfl, List.append_assoc, inner,
    List.singleton_append, nestingFrom, if_neg (by decide), if_pos rfl, Nat.add_sub_cancel]
  have := le_nestingFrom opened rest
  omega

end Nests

theorem Query.nesting_eq {query : Query} {depth : Nat} (nests : Nests query.template.toList depth) :
    query.nesting = depth := by
  have whole := nests 0 []
  rwa [List.append_nil, nestingFrom, Nat.zero_add, Nat.max_zero] at whole

theorem map_toLower_name (column : Column) : column.name.map Char.toLower = column.name := by
  apply String.toList_injective
  rw [String.toList_map]
  cases column <;> rfl

/-- A row has a value for each column. -/
theorem lookUp_row (key : NodeKey) (node : Node) (column : Column) :
    lookUp (row key node) column.name = .ok (column.value key node) := by
  have found : (row key node).find? (fun entry =>
      entry.1.map Char.toLower == column.name.map Char.toLower) =
        some (column.name, column.value key node) := by
    unfold row
    rw [List.find?_map]
    simp only [Function.comp_def, map_toLower_name]
    cases column <;> rfl
  unfold lookUp
  rw [found]

namespace Condition

variable {left right inner : Condition} {operand : Operand} {row : Row}

theorem evaluate_both {leftTruth rightTruth : Option Bool}
    (first : left.evaluate row = .ok leftTruth) (second : right.evaluate row = .ok rightTruth) :
    (both left right).evaluate row = .ok (Truth.both leftTruth rightTruth) := by
  simp only [evaluate, first, second, bind, Except.bind]
  rfl

theorem evaluate_either {leftTruth rightTruth : Option Bool}
    (first : left.evaluate row = .ok leftTruth) (second : right.evaluate row = .ok rightTruth) :
    (either left right).evaluate row = .ok (Truth.either leftTruth rightTruth) := by
  simp only [evaluate, first, second, bind, Except.bind]
  rfl

theorem evaluate_negation {truth : Option Bool} (decided : inner.evaluate row = .ok truth) :
    (negation inner).evaluate row = .ok (truth.map (!·)) := by
  simp only [evaluate, decided, bind, Except.bind]
  rfl

theorem evaluate_isEmpty {value : Option Value} (found : operand.evaluate row = .ok value) :
    (isEmpty operand).evaluate row = .ok (some value.isNone) := by
  simp only [evaluate, found, bind, Except.bind]
  rfl

theorem evaluate_compared {comparison : Comparison} {left right : Operand}
    {leftValue rightValue : Value} {order : Ordering}
    (first : left.evaluate row = .ok (some leftValue))
    (second : right.evaluate row = .ok (some rightValue))
    (comparable : leftValue.compare? rightValue = some order) :
    (compared comparison left right).evaluate row = .ok (some (comparison.accepts order)) := by
  simp only [evaluate, first, second, bind, Except.bind, comparable]
  rfl

/-- A comparison with an empty column is undecided. -/
theorem evaluate_compared_none {comparison : Comparison} {left right : Operand}
    {rightValue : Option Value} (first : left.evaluate row = .ok none)
    (second : right.evaluate row = .ok rightValue) :
    (compared comparison left right).evaluate row = .ok none := by
  simp only [evaluate, first, second, bind, Except.bind]
  rfl

end Condition

/-- An operand of a comparison: a column, a parameter or a number. -/
structure Part where
  text : String
  token : Token
  expression : Expression
  parameters : List Value
  operand : Operand
  value : NodeKey → Node → Option Value
  atom : Atom token expression
  spelled : Token.Spells text.toList [token]
  nests : Nests text.toList 0
  bound : ∀ position more, bindOperand expression ⟨position, parameters ++ more⟩ =
    .ok (operand, ⟨position + parameters.length, more⟩)
  evaluated : ∀ key node, operand.evaluate (row key node) = .ok (value key node)

namespace Part

def column (column : Column) : Part where
  text := column.name
  token := .word column.name none
  expression := .column column.name
  parameters := []
  operand := .stored column.name
  value := fun key node => column.value key node
  atom := .column column
  spelled := Token.spells_column column
  nests := by cases column <;> exact .plain _ rfl
  bound := fun _ _ => rfl
  evaluated := fun key node => lookUp_row key node column

def parameter (value : Value) : Part where
  text := "?"
  token := .placeholder "?"
  expression := .placeholder "?"
  parameters := [value]
  operand := .known (some value)
  value := fun _ _ => some value
  atom := .placeholder "?"
  spelled := Token.Spells.placeholder
  nests := .plain _ rfl
  bound := fun _ _ => rfl
  evaluated := fun _ _ => rfl

/-- The number one, or zero. -/
def bit (truth : Bool) : Part where
  text := if truth then "1" else "0"
  token := .number (if truth then "1" else "0")
  expression := .number (if truth then "1" else "0")
  parameters := []
  operand := .known (some (.integer (if truth then 1 else 0)))
  value := fun _ _ => some (.integer (if truth then 1 else 0))
  atom := .number _
  spelled := by
    cases truth
    · exact Token.Spells.zero
    · exact Token.Spells.one
  nests := by cases truth <;> exact .plain _ rfl
  bound := fun _ _ => by cases truth <;> rfl
  evaluated := fun _ _ => rfl

end Part

/-- The sign of a comparison. -/
structure Sign where
  text : String
  comparison : Comparison
  spelled : Token.Spells text.toList [.symbol text]
  nests : Nests text.toList 0
  connective : (.symbol text, .compare comparison, Precedence.comparison) ∈ connectives
  noModifier : ∀ rest, symbol ")" ((.symbol text :: rest).dropWhile TypeEnd.isModifier) = none

namespace Sign

def equal : Sign := ⟨"=", .equal, Token.Spells.equal, .plain _ rfl, by decide, fun _ => rfl⟩

def lessOrEqual : Sign :=
  ⟨"<=", .lessOrEqual, Token.Spells.lessOrEqual, .plain _ rfl, by decide, fun _ => rfl⟩

def greaterOrEqual : Sign :=
  ⟨">=", .greaterOrEqual, Token.Spells.greaterOrEqual, .plain _ rfl, by decide, fun _ => rfl⟩

end Sign

/-- A comparison of two operands. -/
structure Compared where
  left : Part
  sign : Sign
  right : Part

namespace Compared

variable (compared : Compared)

def text : List Char :=
  compared.left.text.toList ++
    ' ' :: (compared.sign.text.toList ++ ' ' :: compared.right.text.toList)

def tokens : List Token := [compared.left.token, .symbol compared.sign.text, compared.right.token]

def expression : Expression :=
  .binary (.compare compared.sign.comparison) compared.left.expression compared.right.expression

def parameters : List Value := compared.left.parameters ++ compared.right.parameters

def condition : Condition :=
  .compared compared.sign.comparison compared.left.operand compared.right.operand

theorem spelled : Token.Spells compared.text compared.tokens :=
  compared.left.spelled.spaced (compared.sign.spelled.spaced compared.right.spelled)

theorem nests : Nests compared.text 0 :=
  compared.left.nests.append ((Nests.plain [' '] rfl).append
    (compared.sign.nests.append ((Nests.plain [' '] rfl).append compared.right.nests)))

theorem bound (position : Nat) (more : List Value) :
    bindCondition compared.expression ⟨position, compared.parameters ++ more⟩ =
      .ok (compared.condition, ⟨position + compared.parameters.length, more⟩) := by
  simp only [expression, bindCondition, parameters, List.append_assoc, compared.left.bound, bind,
    Except.bind, compared.right.bound, List.length_append, Nat.add_assoc]
  rfl

end Compared

theorem Grammar.Atom.noQuery {token : Token} {expression : Expression}
    (atom : Atom token expression) (tokens : List Token) : NoQuery (token :: tokens) := by
  intro rest
  cases atom with
  | column column => cases column <;> rfl
  | number digits => rfl
  | placeholder mark => rfl

theorem Grammar.Atom.noModifiers {token : Token} {expression : Expression}
    (atom : Atom token expression) {tokens : List Token}
    (later : symbol ")" (tokens.dropWhile TypeEnd.isModifier) = none) :
    symbol ")" ((token :: tokens).dropWhile TypeEnd.isModifier) = none := by
  cases atom with
  | column column => exact later
  | number digits => exact later
  | placeholder mark => rfl

/-- A relational query with all that becomes of it. -/
structure Sentence where
  query : Query
  tokens : List Token
  expression : Expression
  depth : Nat
  condition : Condition
  meaning : NodeKey → Node → Bool
  spelled : Token.Spells query.template.toList tokens
  nests : Nests query.template.toList depth
  noQuery : NoQuery tokens
  noModifiers : ∀ rest, symbol ")" ((tokens ++ rest).dropWhile TypeEnd.isModifier) = none
  read : ∀ levels, depth ≤ levels → Reads levels 0 tokens expression
  refused : ∀ levels < depth, Refuses levels tokens
  bound : ∀ position more, bindCondition expression ⟨position, query.parameters ++ more⟩ =
    .ok (condition, ⟨position + query.parameters.length, more⟩)
  decided : ∀ key node, condition.evaluate (row key node) = .ok (some (meaning key node))

namespace Sentence

def compared (compared : Compared) (query : Query) (meaning : NodeKey → Node → Bool)
    (text : query.template.toList = compared.text)
    (parameters : query.parameters = compared.parameters)
    (decided : ∀ key node,
      compared.condition.evaluate (row key node) = .ok (some (meaning key node))) : Sentence where
  query
  tokens := compared.tokens
  expression := compared.expression
  depth := 0
  condition := compared.condition
  meaning
  spelled := text ▸ compared.spelled
  nests := text ▸ compared.nests
  noQuery := compared.left.atom.noQuery _
  noModifiers := fun _ => compared.left.atom.noModifiers (compared.sign.noModifier _)
  read := fun _ _ => reads_compared _ compared.left.atom compared.right.atom
    compared.sign.connective (by decide)
  refused := fun _ few => absurd few (Nat.not_lt_zero _)
  bound := parameters ▸ compared.bound
  decided

/-- Two comparisons joined by `AND`. -/
def bothCompared (first second : Compared) (query : Query) (meaning : NodeKey → Node → Bool)
    (text : query.template.toList = first.text ++ ' ' :: ("AND".toList ++ ' ' :: second.text))
    (parameters : query.parameters = first.parameters ++ second.parameters)
    (decided : ∀ key node, (Condition.both first.condition second.condition).evaluate
      (row key node) = .ok (some (meaning key node))) : Sentence where
  query
  tokens := first.tokens ++ ([.word "AND" none] ++ second.tokens)
  expression := .binary .and first.expression second.expression
  depth := 0
  condition := .both first.condition second.condition
  meaning
  spelled := text ▸ first.spelled.spaced (Token.spells_and.spaced second.spelled)
  nests := text ▸ first.nests.append ((Nests.plain " AND ".toList rfl).append second.nests)
  noQuery := first.left.atom.noQuery _
  noModifiers := fun _ => first.left.atom.noModifiers (first.sign.noModifier _)
  read := fun _ _ => reads_bothCompared first.left.atom first.right.atom first.sign.connective
    second.left.atom second.right.atom second.sign.connective
  refused := fun _ few => absurd few (Nat.not_lt_zero _)
  bound := fun position more => by
    simp only [bindCondition, parameters, List.append_assoc, first.bound, bind, Except.bind,
      second.bound, List.length_append, Nat.add_assoc]
    rfl
  decided

/-- A comparison of a column that may be empty, which is false where it is. -/
def presentAndCompared (column : Column) (sign : Sign) (right : Part) (query : Query)
    (meaning : NodeKey → Node → Bool)
    (text : query.template.toList = column.name.toList ++ ' ' :: ("IS".toList ++ ' ' ::
      ("NOT".toList ++ ' ' :: ("NULL".toList ++ ' ' :: ("AND".toList ++ ' ' ::
        (Compared.mk (.column column) sign right).text)))))
    (parameters : query.parameters = right.parameters)
    (decided : ∀ key node, (Condition.both (.negation (.isEmpty (.stored column.name)))
      (Compared.mk (.column column) sign right).condition).evaluate (row key node) =
        .ok (some (meaning key node))) : Sentence where
  query
  tokens := [.word column.name none, .word "IS" none, .word "NOT" none, .word "NULL" none,
    .word "AND" none] ++ (Compared.mk (.column column) sign right).tokens
  expression := .binary .and (.isNotNull (.column column.name))
    (Compared.mk (.column column) sign right).expression
  depth := 0
  condition := .both (.negation (.isEmpty (.stored column.name)))
    (Compared.mk (.column column) sign right).condition
  meaning
  spelled := text ▸ (Token.spells_column column).spaced (Token.spells_is.spaced
    (Token.spells_not.spaced (Token.spells_null.spaced (Token.spells_and.spaced
      (Compared.mk (.column column) sign right).spelled))))
  nests := text ▸ (Part.column column).nests.append
    ((Nests.plain " IS NOT NULL AND ".toList rfl).append
      (Compared.mk (.column column) sign right).nests)
  noQuery := (Atom.column column).noQuery _
  noModifiers := fun _ => (Atom.column column).noModifiers (sign.noModifier _)
  read := fun _ _ => reads_presentAndCompared column right.atom sign.connective
  refused := fun _ few => absurd few (Nat.not_lt_zero _)
  bound := fun position more => by
    have second : bindCondition _ ⟨position, right.parameters ++ more⟩ =
        .ok (_, ⟨position + right.parameters.length, more⟩) :=
      (Compared.mk (.column column) sign right).bound position more
    simp only [bindCondition, bindOperand, parameters, bind, Except.bind, pure, Except.pure, second]
  decided

def negate (inner : Sentence) : Sentence where
  query := inner.query.negate
  tokens := [.word "NOT" none] ++ nestedTokens inner.tokens
  expression := .negation (.nested inner.expression)
  depth := inner.depth + 1
  condition := .negation inner.condition
  meaning := fun key node => !inner.meaning key node
  spelled := by
    have text : inner.query.negate.template.toList =
        "NOT".toList ++ ' ' :: ('(' :: inner.query.template.toList ++ [')']) := by
      simp [Query.negate]
    exact text ▸ Token.spells_not.spaced inner.spelled.parenthesized
  nests := by
    have text : inner.query.negate.template.toList =
        "NOT ".toList ++ ('(' :: inner.query.template.toList ++ [')']) := by
      simp [Query.negate]
    have nests := (Nests.plain "NOT ".toList rfl).append inner.nests.parenthesized
    rwa [← text, Nat.zero_max] at nests
  noQuery := fun _ => rfl
  noModifiers := fun _ => rfl
  read := fun levels enough => by
    obtain ⟨levels, rfl⟩ := Nat.exists_eq_add_of_le' (Nat.le_of_add_left_le enough)
    exact reads_negated (inner.read levels (by omega)) inner.noQuery inner.noModifiers
  refused := fun _ few =>
    refuses_negated (blocks_nested inner.refused inner.noQuery few) inner.noModifiers
  bound := fun position more => by
    have read := inner.bound position more
    simp only [bindCondition, Query.negate, bind, Except.bind, read]
    rfl
  decided := fun key node => Condition.evaluate_negation (inner.decided key node)

end Sentence

end NodeQuery.Relational
