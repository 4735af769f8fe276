/-!
Sets of characters given as runs of code points. A run is an arithmetic progression: step 1 for a
block of neighbours, step 2 where upper-case and lower-case letters alternate. The tables of this
library list their runs in ascending order.
-/

namespace NodeQuery.Text

structure CodeRun where
  first : Nat
  last : Nat
  step : Nat
  deriving Repr, DecidableEq

def CodeRun.covers (run : CodeRun) (code : Nat) : Bool :=
  run.first ≤ code && code ≤ run.last && (code - run.first) % run.step == 0

/-- The search ends at the first run that starts beyond the code point. -/
def covered : List CodeRun → Nat → Bool
  | [], _ => false
  | run :: rest, code => if code < run.first then false else run.covers code || covered rest code

end NodeQuery.Text
