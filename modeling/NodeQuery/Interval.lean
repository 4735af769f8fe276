/-!
Intervals with inclusive bounds, each of which may be open.
-/

namespace NodeQuery

structure Interval (α : Type) where
  lower : Option α
  upper : Option α
  deriving Repr, DecidableEq

namespace Interval

def contains {α : Type} [Ord α] (interval : Interval α) (value : α) : Bool :=
  interval.lower.all (fun lower => (compare lower value).isLE) &&
    interval.upper.all fun upper => (compare value upper).isLE

/-- The bounds in brackets, with an asterisk for an open one. -/
def text {α : Type} (boundText : α → String) (interval : Interval α) : String :=
  let bound (value : Option α) := (value.map boundText).getD "*"
  "[" ++ bound interval.lower ++ " TO " ++ bound interval.upper ++ "]"

end Interval

end NodeQuery
