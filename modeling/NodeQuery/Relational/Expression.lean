/-!
Conditions as they are written. Whatever a condition may say but a store does not evaluate is one of
the two unsupported forms.
-/

namespace NodeQuery.Relational

inductive Comparison where
  | equal
  | notEqual
  | less
  | lessOrEqual
  | greater
  | greaterOrEqual
  deriving Repr, DecidableEq

inductive Operator where
  | and
  | or
  | compare (comparison : Comparison)
  | unsupported
  deriving Repr, DecidableEq

inductive Expression where
  | column (name : String)
  | number (digits : String)
  | text (value : String)
  | placeholder (mark : String)
  | boolean (value : Bool)
  | null
  | nested (inner : Expression)
  | negation (inner : Expression)
  | isNull (inner : Expression)
  | isNotNull (inner : Expression)
  | binary (operator : Operator) (left right : Expression)
  | unsupported
  deriving Repr, DecidableEq

end NodeQuery.Relational
