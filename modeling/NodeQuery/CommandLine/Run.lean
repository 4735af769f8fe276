import NodeQuery.CommandLine.Command
import NodeQuery.Engine
import NodeQuery.Exchange.Config
import NodeQuery.Exchange.Query
import NodeQuery.Exchange.Specification
import NodeQuery.Json.Printing
import NodeQuery.Json.Reading
import NodeQuery.Specification.Reading
import NodeQuery.Specification.Simplification

/-!
Running a command, given how files are read. Settings are read before the command is looked at. The
result is JSON, or with pretty output the written forms.
-/

namespace NodeQuery.CommandLine

inductive Document where
  | config
  | schema
  deriving Repr, DecidableEq

def Document.name : Document → String
  | .config => "config"
  | .schema => "schema"

inductive RunError where
  | reading (document : Document) (path reason : String)
  | parsing (document : Document) (path : String)
  | query (misreading : Text.Misreading)
  | selects (misreading : Text.Misreading)
  | unsupported (cause : Unsupported)
  | overflow (cause : Specification.ClauseOverflow)
  | snapshot (cause : SnapshotError)
  deriving DecidableEq

def RunError.message : RunError → String
  | .reading document path reason => "reading " ++ document.name ++ " " ++ path ++ ": " ++ reason
  | .parsing document path => "parsing " ++ document.name ++ " " ++ path
  | .query misreading => misreading.queryMessage
  | .selects misreading => misreading.selectMessage
  | .unsupported cause => cause.message
  | .overflow cause => cause.message
  | .snapshot cause => cause.message

/-- What the program leaves behind. -/
structure Report where
  code : Nat
  output : String
  complaint : String
  deriving Repr, DecidableEq

def Report.success (output : String) : Report := ⟨0, output, ""⟩

def Report.failure (code : Nat) (reason : String) : Report := ⟨code, "", "error: " ++ reason⟩

def programName : String := "termql"

def versionText : String := programName ++ " 0.6.0"

def helpText : String :=
  "\n".intercalate [
    "Usage: " ++ programName ++ " [--config FILE] [--pretty] [-v] COMMAND",
    "",
    "Commands:",
    "  query compile (--sql | --index) QUERY",
    "  query normalize (--cnf | --dnf) QUERY",
    "  query simplify QUERY",
    "  select parse SELECTS",
    "  select qualify --schema FILE --domain TYPE... [--mode MODE] SELECTS"]

/-- A result with its pretty form. -/
structure Result where
  json : Json
  pretty : String

def Result.text (isPretty : Bool) (result : Result) : String :=
  if isPretty then result.pretty else result.json.prettyText

def readQuery (text : String) : Except RunError NodeSpecification :=
  (NodeSpecification.read text).mapError .query

def lines (texts : List String) : String := "\n".intercalate texts

def compiled (backend : Backend) (query : String) : Except RunError Result := do
  let specification ← readQuery query
  match backend with
  | .relational =>
    let query ← specification.relational.mapError .unsupported
    return ⟨query.toJson, query.listing⟩
  | .index =>
    let query ← specification.search.mapError .unsupported
    return ⟨query.toJson, query.text⟩

def normalized (config : Config) (form : Specification.Form) (query : String) :
    Except RunError Result := do
  let specification ← readQuery query
  let groups ← (Engine.normalForm ⟨config, .empty⟩ form specification).mapError .overflow
  return ⟨.array (groups.map fun group => .array (group.map NodeSpecification.toJson)),
    NodeSpecification.text (form.compose groups)⟩

def simplified (query : String) : Except RunError Result := do
  let specification : NodeSpecification := (← readQuery query).simplify
  return ⟨specification.toJson, specification.text⟩

def selectList (selects : String) : Except RunError Result := do
  let selects ← (Select.readList selects).mapError .selects
  return ⟨.array (selects.map (·.toJson)), lines (selects.map (·.text))⟩

def qualified (config : Config) (types : List EntityType) (domain : List TypeId)
    (selects : String) : Except RunError Result := do
  let engine ← (Engine.ofTypes config types).mapError .snapshot
  let selection ← (engine.select selects domain).mapError .selects
  return ⟨.object [("selects", .array (selection.selects.map (·.toJson))),
    ("plan", selection.plan.toJson)], lines (selection.selects.map (·.text))⟩

variable {m : Type → Type} [Monad m]

/-- A document from a file, where `readFile` gives the text or why it cannot be read. -/
def load {α : Type} (readFile : String → m (Except String String)) (document : Document)
    (path : String) (decode : Json → Option α) : ExceptT RunError m α := do
  match ← readFile path with
  | .error reason => throw (.reading document path reason)
  | .ok text =>
    match (Json.read? text).bind decode with
    | some value => return value
    | none => throw (.parsing document path)

def Command.result (readFile : String → m (Except String String)) (config : Config) :
    Command → ExceptT RunError m Result
  | .compile backend query => liftExcept (compiled backend query)
  | .normalize form query => liftExcept (normalized config form query)
  | .simplify query => liftExcept (simplified query)
  | .parseSelects selects => liftExcept (selectList selects)
  | .qualify schemaPath domain mode selects => do
    let types ← load readFile .schema schemaPath EntityType.listOfJson?
    liftExcept (qualified { config with mode := mode.getD config.mode } types domain selects)

def Invocation.result (readFile : String → m (Except String String)) (invocation : Invocation) :
    ExceptT RunError m Result := do
  let config ← match invocation.configPath with
    | some path => load readFile .config path Config.ofJson?
    | none => pure .standard
  invocation.command.result readFile config

def run (readFile : String → m (Except String String)) (arguments : List String) : m Report := do
  match Request.read arguments with
  | .help => return .success helpText
  | .version => return .success versionText
  | .refused error => return .failure 2 error.message
  | .invocation invocation =>
    match ← (invocation.result readFile).run with
    | .ok result => return .success (result.text invocation.isPretty)
    | .error error => return .failure 1 error.message

end NodeQuery.CommandLine
