import NodeQuery.Projection.Qualification

/-!
The settings of an engine.
-/

namespace NodeQuery

structure Config where
  /-- The largest normal form that is built, in clauses. -/
  maxClauses : Nat
  /-- The limit of searches that set none. -/
  defaultLimit : Nat
  mode : Projection.Mode
  /-- Whether every reference has to range over a type of the snapshot. -/
  strict : Bool
  deriving Repr, DecidableEq

def Config.standard : Config := ⟨4096, 100, .transitive, false⟩

end NodeQuery
