import NodeQuery.Distinct
import NodeQuery.Specification.Basic

/-!
Simplification. Constants are folded, nested composites of one kind are flattened, equal clauses
are kept once, composites of one clause become that clause, and negations are pushed down to the
leaves.
-/

namespace NodeQuery.Specification

variable {α : Type}

inductive Connective where
  | and
  | or
  deriving Repr, DecidableEq

namespace Connective

/-- The constant that decides a composite on its own. -/
def absorbing : Connective → Specification α
  | .and => .nothing
  | .or => .everything

/-- The constant that changes nothing in a composite. -/
def neutral : Connective → Specification α
  | .and => .everything
  | .or => .nothing

def compose : Connective → List (Specification α) → Specification α
  | .and => .conjunction
  | .or => .disjunction

/-- The clauses that a specification contributes to a composite of this kind. -/
def flattened : Connective → Specification α → List (Specification α)
  | .and, .conjunction clauses => clauses
  | .or, .disjunction clauses => clauses
  | _, clause => [clause]

end Connective

/-- The composite of simplified clauses. Without any clause it matches nothing; if all its clauses
are neutral it is neutral itself. -/
def combine [DecidableEq α] (connective : Connective) (clauses : List (Specification α)) :
    Specification α :=
  let parts := clauses.flatMap connective.flattened
  if connective.absorbing ∈ parts then connective.absorbing
  else match distinct (parts.filter (· ≠ connective.neutral)) with
    | [] => if parts.isEmpty then .nothing else connective.neutral
    | [only] => only
    | several => connective.compose several

mutual

/-- The negation of a simplified specification. The negated clauses are combined again, and are
simplified already. -/
def negated [DecidableEq α] : Specification α → Specification α
  | .everything => .nothing
  | .nothing => .everything
  | .leaf value => .negation (.leaf value)
  | .negation inner => inner
  | .conjunction clauses => combine .or (allNegated clauses)
  | .disjunction clauses => combine .and (allNegated clauses)

def allNegated [DecidableEq α] : List (Specification α) → List (Specification α)
  | [] => []
  | clause :: clauses => negated clause :: allNegated clauses

end

mutual

def simplify [DecidableEq α] : Specification α → Specification α
  | .everything => .everything
  | .nothing => .nothing
  | .leaf value => .leaf value
  | .negation inner => negated (simplify inner)
  | .conjunction clauses => combine .and (allSimplified clauses)
  | .disjunction clauses => combine .or (allSimplified clauses)

def allSimplified [DecidableEq α] : List (Specification α) → List (Specification α)
  | [] => []
  | clause :: clauses => simplify clause :: allSimplified clauses

end

end NodeQuery.Specification
