import NodeQuery.Relational.Expression
import NodeQuery.Relational.Grammar.Parser

/-!
How tightly the connectives of a template bind, from `OR` up to casts. `NOT` before an expression
stands between `AND` and `IS`; before a membership, range or pattern test it binds as that test
does.
-/

namespace NodeQuery.Relational.Grammar

namespace Precedence

def or : Nat := 5
def and : Nat := 10
def not : Nat := 15
def isTest : Nat := 17
def like : Nat := 19
def comparison : Nat := 20
def bitOr : Nat := 21
def bitShift : Nat := 22
def bitAnd : Nat := 23
def exclusiveOr : Nat := 24
def sum : Nat := 30
def product : Nat := 40
def access : Nat := 50

end Precedence

/-- The symbols that reach into a document. -/
def documentSymbols : List String := ["->", "->>", "#>", "#>>", "#-", "@>", "<@", "@?", "@@"]

/-- The symbols that stand between two operands. -/
def symbolPrecedence (text : String) : Nat :=
  if ["=", "==", "<>", "!=", "<", "<=", ">", ">=", "<=>", "~", "~*", "!~", "!~*", "~~", "~~*",
    "!~~", "!~~*"].contains text then Precedence.comparison
  else if text = "|" then Precedence.bitOr
  else if ["^", "<<", ">>"].contains text then Precedence.bitShift
  else if text = "&" then Precedence.bitAnd
  else if ["+", "-"].contains text then Precedence.sum
  else if ["*", "/", "//", "%", "||"].contains text then Precedence.product
  else if ["::", ":", "!", "[", "&&", "^@"].contains text || documentSymbols.contains text then
    Precedence.access
  else 0

def keywordPrecedences : List (String × Nat) :=
  [("OR", Precedence.or), ("AND", Precedence.and), ("XOR", Precedence.exclusiveOr),
    ("IS", Precedence.isTest), ("IN", Precedence.comparison), ("BETWEEN", Precedence.comparison),
    ("LIKE", Precedence.like), ("ILIKE", Precedence.like), ("RLIKE", Precedence.like),
    ("REGEXP", Precedence.like), ("SIMILAR", Precedence.like),
    ("OPERATOR", Precedence.comparison), ("DIV", Precedence.product)]

def keywordPrecedence (token : Token) : Nat :=
  ((keywordPrecedences.find? fun entry => token.isKeyword entry.1).map (·.2)).getD 0

/-- The tests that `NOT` may stand before. -/
def negatableTests : List String :=
  ["IN", "BETWEEN", "LIKE", "ILIKE", "RLIKE", "REGEXP", "SIMILAR"]

/-- How tightly the next tokens bind to an expression before them; 0 if they do not go on with
it. -/
def nextPrecedence : List Token → Nat
  | [] => 0
  | .symbol text :: _ => symbolPrecedence text
  | token :: rest =>
    if token.isKeyword "NOT" then
      match rest with
      | test :: _ => if negatableTests.any test.isKeyword then keywordPrecedence test else 0
      | [] => 0
    else if token.isKeyword "AT" then
      if (keywords ["TIME", "ZONE"] rest).isSome then Precedence.comparison else 0
    else keywordPrecedence token

/-- How far an expression goes on: as long as its connectives bind tighter than a precedence, or, in
a duration, up to a logical connective. -/
inductive Reach where
  | over (precedence : Nat)
  | duration

/-- Whether a connective of some precedence goes on with an expression. -/
def Reach.passes : Reach → List Token → Bool
  | .over precedence, tokens => precedence < nextPrecedence tokens
  | .duration, tokens =>
    0 < nextPrecedence tokens && (anyKeyword ["AND", "OR", "XOR"] tokens).isNone

def comparisonOf (text : String) : Option Comparison :=
  if text = "=" || text = "==" then some .equal
  else if text = "<>" || text = "!=" then some .notEqual
  else if text = "<" then some .less
  else if text = "<=" then some .lessOrEqual
  else if text = ">" then some .greater
  else if text = ">=" then some .greaterOrEqual
  else none

end NodeQuery.Relational.Grammar
