import NodeQuery.Specification.Basic

/-!
Conjunctive and disjunctive normal forms. Negations are first pushed down to the leaves, then the
inner connective is distributed over the outer one. Distribution multiplies clause counts, so every
transformation has a clause limit, and the product is estimated before it is built.
-/

namespace NodeQuery.Specification

variable {α : Type}

mutual

/-- The specification, or its negation, with negations only at the leaves and no empty
composites. -/
def pushed (negated : Bool) : Specification α → Specification α
  | .everything => if negated then .nothing else .everything
  | .nothing => if negated then .everything else .nothing
  | .leaf value => if negated then .negation (.leaf value) else .leaf value
  | .negation inner => pushed (!negated) inner
  | .conjunction clauses =>
    if clauses.isEmpty then (if negated then .everything else .nothing)
    else if negated then .disjunction (allPushed negated clauses)
    else .conjunction (allPushed negated clauses)
  | .disjunction clauses =>
    if clauses.isEmpty then (if negated then .everything else .nothing)
    else if negated then .conjunction (allPushed negated clauses)
    else .disjunction (allPushed negated clauses)

def allPushed (negated : Bool) : List (Specification α) → List (Specification α)
  | [] => []
  | clause :: clauses => pushed negated clause :: allPushed negated clauses

end

/-- Which connective stands outside. -/
inductive Form where
  | conjunctive
  | disjunctive
  deriving Repr, DecidableEq

/-- The groups of literals of a normal form: the clauses of a conjunctive one, the terms of a
disjunctive one. -/
abbrev Groups (α : Type) := List (List (Specification α))

def Form.compose : Form → Groups α → Specification α
  | .conjunctive, groups => .conjunction (groups.map .disjunction)
  | .disjunctive, groups => .disjunction (groups.map .conjunction)

structure ClauseOverflow where
  estimate : Nat
  limit : Nat
  deriving Repr, DecidableEq

def ClauseOverflow.message (overflow : ClauseOverflow) : String :=
  "normal form would need at least " ++ toString overflow.estimate ++ " clauses (limit " ++
    toString overflow.limit ++ ")"

/-- The largest count; larger products count as this one. -/
def largestCount : Nat := UInt64.size - 1

def estimatedCount (parts : List (Groups α)) : Nat :=
  parts.foldl (fun count part => min (count * part.length) largestCount) 1

/-- Every choice of one group from each part, joined; the first part varies slowest. -/
def crossed (parts : List (Groups α)) : Groups α :=
  parts.foldl (fun chosen part => chosen.flatMap fun group => part.map (group ++ ·)) [[]]

def distributed (limit : Nat) (parts : List (Groups α)) : Except ClauseOverflow (Groups α) :=
  if limit < estimatedCount parts then .error ⟨estimatedCount parts, limit⟩
  else .ok (crossed parts)

mutual

/-- The groups of a specification whose negations are pushed down. -/
def grouped (form : Form) (limit : Nat) : Specification α → Except ClauseOverflow (Groups α)
  | .conjunction clauses =>
    match form with
    | .conjunctive => gathered form limit [] clauses
    | .disjunctive => allGrouped form limit clauses >>= distributed limit
  | .disjunction clauses =>
    match form with
    | .disjunctive => gathered form limit [] clauses
    | .conjunctive => allGrouped form limit clauses >>= distributed limit
  | .everything => .ok [[.everything]]
  | .nothing => .ok [[.nothing]]
  | .leaf value => .ok [[.leaf value]]
  | .negation inner => .ok [[.negation inner]]

/-- The groups found so far and those of the remaining clauses, within the limit after each. -/
def gathered (form : Form) (limit : Nat) (found : Groups α) :
    List (Specification α) → Except ClauseOverflow (Groups α)
  | [] => .ok found
  | clause :: clauses =>
    match grouped form limit clause with
    | .error overflow => .error overflow
    | .ok groups =>
      if limit < (found ++ groups).length then .error ⟨(found ++ groups).length, limit⟩
      else gathered form limit (found ++ groups) clauses

def allGrouped (form : Form) (limit : Nat) :
    List (Specification α) → Except ClauseOverflow (List (Groups α))
  | [] => .ok []
  | clause :: clauses =>
    match grouped form limit clause with
    | .error overflow => .error overflow
    | .ok groups =>
      match allGrouped form limit clauses with
      | .error overflow => .error overflow
      | .ok rest => .ok (groups :: rest)

end

/-- The groups of a normal form with at most `limit` of them. -/
def normalForm (form : Form) (limit : Nat) (specification : Specification α) :
    Except ClauseOverflow (Groups α) :=
  grouped form limit (pushed false specification)

end NodeQuery.Specification
