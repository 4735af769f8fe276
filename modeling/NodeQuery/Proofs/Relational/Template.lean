import NodeQuery.Proofs.Relational.Junction

/-! Templates as whole conditions. Nothing follows the condition of a template, so the template of a
sentence that nests no deeper than the grammar admits is read back as the expression of the
sentence, and its parameters are bound in the condition. A template that nests deeper is not
read. -/

namespace NodeQuery.Relational

namespace Grammar

variable (parts : Parts)

theorem grouped_nil : parts.grouped [] = some ((), []) := rfl

theorem united_nil : parts.united [] = some ([], []) := repeated_of_none rfl

theorem arranged_nil : parts.arranged [] = some ((), []) := by
  have noLock : allOf (keyword "FOR" *> Parts.lock) [] = some ((), []) :=
    discard_of_some (repeated_of_none rfl)
  unfold Parts.arranged
  rw [bind_of_some _ (show _ = some ((), []) from rfl),
    bind_of_some _ (show _ = some ((false, false), []) from rfl)]
  dsimp only
  rw [bind_of_some _ (show _ = some (PUnit.unit, []) from rfl),
    bind_of_some _ (show _ = some ((), []) from rfl),
    bind_of_some _ (show _ = some ((), []) from rfl),
    bind_of_some _ noLock]
  rfl

/-- The nesting that is left for parentheses: a level each goes to the statement, to the query and
to the condition itself. -/
def nestingLimit : Nat := allLevels - 3

/-- A condition with all that may follow it in the query around it. -/
def wholeReading : Parser (Expression × List Unit) := do
  let parts := Parts.within (allLevels - 2)
  let expression ← parts.expression
  parts.grouped
  let others ← parts.united
  parts.arranged
  return (expression, others)

theorem condition_of_spelled {template : List Char} {tokens : List Token}
    (spelled : Token.ofText? template = some tokens) :
    condition template =
      match (do
        let ((expression, united), rest) ← wholeReading tokens
        let others ← furtherStatements rest
        return (expression, united.isEmpty && others = 0) : Option (Expression × Bool)) with
      | none => .error .unreadable
      | some (expression, alone) => if alone then .ok expression else .error .notOneCondition := by
  unfold condition
  rw [spelled]
  rfl

theorem condition_of_reads {template : List Char} {tokens : List Token} {expression : Expression}
    (spelled : Token.ofText? template = some tokens)
    (read : (Parts.within nestingLimit).operand (.over 0) tokens = some (expression, [])) :
    condition template = .ok expression := by
  have inner : (Parts.within (allLevels - 2)).expression tokens = some (expression, []) := read
  have whole : wholeReading tokens = some ((expression, []), []) := by
    unfold wholeReading
    rw [bind_of_some _ inner, bind_of_some _ (grouped_nil _), bind_of_some _ (united_nil _),
      bind_of_some _ (arranged_nil _)]
    rfl
  rw [condition_of_spelled spelled, whole]
  simp only [Option.bind_eq_bind, Option.bind_some]
  unfold furtherStatements
  rfl

theorem condition_of_refuses {template : List Char} {tokens : List Token}
    (spelled : Token.ofText? template = some tokens) (refused : Refuses nestingLimit tokens) :
    condition template = .error .unreadable := by
  have inner : (Parts.within (allLevels - 2)).expression tokens = none := by
    have failed := refused [] (stops_nil 0)
    rwa [List.append_nil] at failed
  have whole : wholeReading tokens = none := bind_of_none _ inner
  rw [condition_of_spelled spelled, whole]
  rfl

end Grammar

/-- The query of a sentence is compiled to its condition. -/
theorem Sentence.ofQuery (sentence : Sentence)
    (shallow : sentence.query.nesting ≤ Grammar.nestingLimit) :
    Condition.ofQuery sentence.query = .ok sentence.condition := by
  rw [Query.nesting_eq sentence.nests] at shallow
  have spelled := sentence.spelled [] fun _ head => nomatch head
  have read := sentence.read _ shallow [] (Grammar.stops_nil 0)
  rw [List.append_nil] at spelled read
  have bound := sentence.bound 0 []
  rw [List.append_nil] at bound
  rw [Condition.ofQuery, Grammar.condition_of_reads (spelled.trans (by simp [Token.ofText?])) read]
  simp only [bound, bind, Except.bind]
  rfl

/-- The query of a sentence that nests deeper than the grammar admits is not read at all. -/
theorem Sentence.ofQuery_of_deep (sentence : Sentence)
    (deep : Grammar.nestingLimit < sentence.query.nesting) :
    Condition.ofQuery sentence.query = .error .unreadableTemplate := by
  rw [Query.nesting_eq sentence.nests] at deep
  have spelled := sentence.spelled [] fun _ head => nomatch head
  rw [List.append_nil] at spelled
  rw [Condition.ofQuery, Grammar.condition_of_refuses (spelled.trans (by simp [Token.ofText?]))
    (sentence.refused _ deep)]

end NodeQuery.Relational
