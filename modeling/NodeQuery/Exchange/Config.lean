import NodeQuery.Config
import NodeQuery.Exchange.Projection

/-!
Settings in JSON, in sections. Settings that are missing are the standard ones.
-/

namespace NodeQuery.Config

variable {α : Type}

/-- The single setting of a section. -/
def setting? (name : String) (standard : α) (decode : Json → Option α) (json : Json) :
    Option α := do
  let record ← json.record? [name]
  record.orDefault name standard decode

def toJson (config : Config) : Json :=
  .object [
    ("normal_form", .object [("max_clauses", .natural config.maxClauses)]),
    ("index", .object [("default_limit", .natural config.defaultLimit)]),
    ("select", .object [("mode", config.mode.toJson)]),
    ("schema", .object [("strict", .boolean config.strict)])]

def ofJson? (json : Json) : Option Config := do
  let record ← json.record? ["normal_form", "index", "select", "schema"]
  let maxClauses ← record.orDefault "normal_form" standard.maxClauses
    (setting? "max_clauses" standard.maxClauses Json.limit?)
  let defaultLimit ← record.orDefault "index" standard.defaultLimit
    (setting? "default_limit" standard.defaultLimit Json.limit?)
  let mode ← record.orDefault "select" standard.mode
    (setting? "mode" standard.mode Projection.Mode.ofJson?)
  let strict ← record.orDefault "schema" standard.strict
    (setting? "strict" standard.strict Json.truth?)
  return ⟨maxClauses, defaultLimit, mode, strict⟩

end NodeQuery.Config
