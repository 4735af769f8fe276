import NodeQuery.Relational.Grammar.Statement
import NodeQuery.Relational.Query

/-!
Conditions with their parameters bound, and their truth on a row. Truth has three values: a
comparison with an empty value is undecided, and the connectives decide what they can. Binding goes
from left to right and reports the first part that is unsupported; columns and the kinds of values
are looked at on a row only, on both sides of a connective.
-/

namespace NodeQuery.Relational

inductive QueryError where
  | unreadableTemplate
  | notOneCondition (template : String)
  | unsupportedCondition
  | unsupportedOperator
  | unsupportedOperand
  | integerLiteral (digits : String)
  | missingParameter (position : Nat)
  | parameterCount (template : String) (placeholders parameters : Nat)
  | unknownColumn (name : String)
  | incomparable (left right : Value)
  deriving DecidableEq

def tableName : String := "node"

def QueryError.message : QueryError → String
  | .unreadableTemplate => "unreadable template"
  | .notOneCondition template => "template `" ++ template ++ "` is not a single condition"
  | .unsupportedCondition => "unsupported condition"
  | .unsupportedOperator => "unsupported operator"
  | .unsupportedOperand => "unsupported operand"
  | .integerLiteral digits => "integer literal `" ++ digits ++ "`"
  | .missingParameter position =>
    "placeholder " ++ Text.naturalText position ++ " has no parameter"
  | .parameterCount template placeholders parameters =>
    "template `" ++ template ++ "` has " ++ Text.naturalText placeholders ++
      " placeholders but " ++ Text.naturalText parameters ++ " parameters"
  | .unknownColumn name => "unknown column `" ++ name ++ "` in table `" ++ tableName ++ "`"
  | .incomparable left right => "cannot compare " ++ left.literal ++ " with " ++ right.literal

inductive Operand where
  | stored (name : String)
  | known (value : Option Value)
  deriving DecidableEq

inductive Condition where
  | constant (truth : Option Bool)
  | both (left right : Condition)
  | either (left right : Condition)
  | negation (inner : Condition)
  | isEmpty (operand : Operand)
  | compared (comparison : Comparison) (left right : Operand)
  deriving DecidableEq

/-- A number literal has digits only, and fits 64 bits. -/
def integerOf? (digits : String) : Option Int64 :=
  if digits.toList.all Text.isDigit && !digits.isEmpty &&
      (Text.decimalValue digits.toList : Int) ≤ Int64.maxValue.toInt then
    some (Int64.ofNat (Text.decimalValue digits.toList))
  else none

/-- The parameters that are not yet bound, after a number of bound ones. -/
structure Unbound where
  position : Nat
  parameters : List Value

abbrev Binding (α : Type) := Unbound → Except QueryError (α × Unbound)

def bindOperand : Expression → Binding Operand
  | .nested inner => bindOperand inner
  | .column name => fun unbound => .ok (.stored name, unbound)
  | .placeholder mark => fun unbound =>
    if mark = "?" then
      match unbound.parameters with
      | parameter :: rest => .ok (.known (some parameter), ⟨unbound.position + 1, rest⟩)
      | [] => .error (.missingParameter (unbound.position + 1))
    else .error .unsupportedOperand
  | .number digits => fun unbound =>
    match integerOf? digits with
    | some number => .ok (.known (some (.integer number)), unbound)
    | none => .error (.integerLiteral digits)
  | .text text => fun unbound => .ok (.known (some (.text text)), unbound)
  | .null => fun unbound => .ok (.known none, unbound)
  | _ => fun _ => .error .unsupportedOperand

def bindCondition : Expression → Binding Condition
  | .nested inner => bindCondition inner
  | .negation inner => fun unbound => do
    let (inner, unbound) ← bindCondition inner unbound
    return (.negation inner, unbound)
  | .isNull inner => fun unbound => do
    let (operand, unbound) ← bindOperand inner unbound
    return (.isEmpty operand, unbound)
  | .isNotNull inner => fun unbound => do
    let (operand, unbound) ← bindOperand inner unbound
    return (.negation (.isEmpty operand), unbound)
  | .boolean truth => fun unbound => .ok (.constant (some truth), unbound)
  | .null => fun unbound => .ok (.constant none, unbound)
  | .binary .and left right => fun unbound => do
    let (left, unbound) ← bindCondition left unbound
    let (right, unbound) ← bindCondition right unbound
    return (.both left right, unbound)
  | .binary .or left right => fun unbound => do
    let (left, unbound) ← bindCondition left unbound
    let (right, unbound) ← bindCondition right unbound
    return (.either left right, unbound)
  | .binary (.compare comparison) left right => fun unbound => do
    let (left, unbound) ← bindOperand left unbound
    let (right, unbound) ← bindOperand right unbound
    return (.compared comparison left right, unbound)
  | .binary .unsupported _ _ => fun _ => .error .unsupportedOperator
  | _ => fun _ => .error .unsupportedCondition

namespace Condition

def ofQuery (query : Query) : Except QueryError Condition :=
  match Grammar.condition query.template.toList with
  | .error .unreadable => .error .unreadableTemplate
  | .error .notOneCondition => .error (.notOneCondition query.template)
  | .ok expression => do
    let (condition, unbound) ← bindCondition expression ⟨0, query.parameters⟩
    if unbound.parameters.isEmpty then return condition
    else .error (.parameterCount query.template unbound.position query.parameters.length)

end Condition

/-- Column names are compared without regard to the case of ASCII letters. -/
def lookUp (row : Row) (name : String) : Except QueryError (Option Value) :=
  match row.find? fun entry => entry.1.map Char.toLower == name.map Char.toLower with
  | some entry => .ok entry.2
  | none => .error (.unknownColumn name)

def Operand.evaluate (row : Row) : Operand → Except QueryError (Option Value)
  | .stored name => lookUp row name
  | .known value => .ok value

def Value.compare? : Value → Value → Option Ordering
  | .integer left, .integer right => some (compare left.toInt right.toInt)
  | .text left, .text right => some (compare left right)
  | .uuid left, .uuid right => some (compare left right)
  | .timestamp left, .timestamp right => some (compare left right)
  | _, _ => none

def Comparison.accepts : Comparison → Ordering → Bool
  | .equal, order => order == .eq
  | .notEqual, order => order != .eq
  | .less, order => order == .lt
  | .lessOrEqual, order => order != .gt
  | .greater, order => order == .gt
  | .greaterOrEqual, order => order != .lt

namespace Truth

def both : Option Bool → Option Bool → Option Bool
  | some false, _ => some false
  | _, some false => some false
  | some true, some true => some true
  | _, _ => none

def either : Option Bool → Option Bool → Option Bool
  | some true, _ => some true
  | _, some true => some true
  | some false, some false => some false
  | _, _ => none

end Truth

def Condition.evaluate (row : Row) : Condition → Except QueryError (Option Bool)
  | .constant truth => .ok truth
  | .both left right => do
    let left ← left.evaluate row
    let right ← right.evaluate row
    return Truth.both left right
  | .either left right => do
    let left ← left.evaluate row
    let right ← right.evaluate row
    return Truth.either left right
  | .negation inner => do
    let truth ← inner.evaluate row
    return truth.map (!·)
  | .isEmpty operand => do
    let value ← operand.evaluate row
    return some value.isNone
  | .compared comparison left right => do
    let left ← left.evaluate row
    let right ← right.evaluate row
    match left, right with
    | some left, some right =>
      match left.compare? right with
      | some order => return some (comparison.accepts order)
      | none => .error (.incomparable left right)
    | _, _ => return none

end NodeQuery.Relational
