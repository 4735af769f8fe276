import NodeQuery.CommandLine.Arguments
import NodeQuery.Compilation
import NodeQuery.Projection.Qualification
import NodeQuery.Specification.NormalForm

/-!
The commands, in two groups: those on queries and those on projections. Settings and the choice of
the output form may be given at every level; settings that are given at several levels are those of
the innermost one.
-/

namespace NodeQuery.CommandLine

inductive Command where
  | compile (backend : Backend) (query : String)
  | normalize (form : Specification.Form) (query : String)
  | simplify (query : String)
  | parseSelects (selects : String)
  | qualify (schemaPath : String) (domain : List TypeId) (mode : Option Projection.Mode)
      (selects : String)
  deriving Repr, DecidableEq

structure Invocation where
  configPath : Option String
  isPretty : Bool
  command : Command
  deriving Repr, DecidableEq

inductive Request where
  | invocation (invocation : Invocation)
  | help
  | version
  | refused (error : UsageError)
  deriving Repr, DecidableEq

/-- A command of a group: what it takes, and what it makes of it. -/
structure Action where
  flags : List String
  options : List ValueOption
  command : List Given → Except UsageError Command

def requiredText (what : String) (given : List Given) : Except UsageError String :=
  match Given.text? given with
  | some text => .ok text
  | none => .error (.missing what)

/-- The one of two flags that is given. -/
def choice {α : Type} (first second : String × α) (given : List Given) : Except UsageError α :=
  if .flag first.1 ∈ given then
    if .flag second.1 ∈ given then .error (.conflict first.1 second.1) else .ok first.2
  else if .flag second.1 ∈ given then .ok second.2
  else .error (.missing ("--" ++ first.1 ++ " or --" ++ second.1))

def compileAction : Action where
  flags := ["sql", "index"]
  options := []
  command := fun given => do
    let backend ← choice ("sql", Backend.relational) ("index", Backend.index) given
    return .compile backend (← requiredText "query" given)

def normalizeAction : Action where
  flags := ["cnf", "dnf"]
  options := []
  command := fun given => do
    let form ← choice ("cnf", Specification.Form.conjunctive)
      ("dnf", Specification.Form.disjunctive) given
    return .normalize form (← requiredText "query" given)

def simplifyAction : Action where
  flags := []
  options := []
  command := fun given => return .simplify (← requiredText "query" given)

def parseAction : Action where
  flags := []
  options := []
  command := fun given => return .parseSelects (← requiredText "selects" given)

def pathOption (name : String) : ValueOption := ⟨name, false, fun path => !path.isEmpty⟩

def domainOption : ValueOption := ⟨"domain", true, fun text => (TypeId.read text).toOption.isSome⟩

def modeOption : ValueOption :=
  ⟨"mode", false, fun text => (Projection.Mode.read text).toOption.isSome⟩

def qualifyAction : Action where
  flags := []
  options := [pathOption "schema", domainOption, modeOption]
  command := fun given => do
    let domain := (Given.values "domain" given).filterMap fun text => (TypeId.read text).toOption
    let mode := (Given.values "mode" given).head?.bind fun text =>
      (Projection.Mode.read text).toOption
    match Given.values "schema" given with
    | [] => .error (.missing "--schema")
    | schemaPath :: _ =>
      if domain.isEmpty then .error (.missing "--domain")
      else return .qualify schemaPath domain mode (← requiredText "selects" given)

def groups : List (String × List (String × Action)) :=
  [("query", [("compile", compileAction), ("normalize", normalizeAction),
      ("simplify", simplifyAction)]),
    ("select", [("parse", parseAction), ("qualify", qualifyAction)])]

def configOption : ValueOption := pathOption "config"

/-- A level at which a command has to be named. -/
def menuLevel (commands : List String) (tellsVersion : Bool) : Level :=
  ⟨["pretty"], [configOption], commands, false, tellsVersion⟩

def actionLevel (action : Action) : Level :=
  ⟨"pretty" :: action.flags, configOption :: action.options, [], true, false⟩

/-- What the levels together ask for, from the outermost one. -/
def Invocation.ofLevels (levels : List (List Given)) (command : Command) : Invocation where
  configPath := (Given.values "config" levels.flatten).getLast?
  isPretty := levels.flatten.contains (.flag "pretty")
  command

/-- Go on with the command named at a level. -/
def Scan.enter (scan : Scan) (next : String → List Given → List String → Request) : Request :=
  match scan with
  | .entered command given rest => next command given rest
  | .finished _ => .refused (.missing "command")
  | .help => .help
  | .version => .version
  | .refused error => .refused error

/-- Go on with all that is given at a level without commands. -/
def Scan.finish (scan : Scan) (next : List Given → Request) : Request :=
  match scan with
  | .finished given => next given
  | .entered command _ _ => .refused (.unexpected command)
  | .help => .help
  | .version => .version
  | .refused error => .refused error

def Request.read (arguments : List String) : Request :=
  ((menuLevel (groups.map (·.1)) true).read arguments).enter fun group outer rest =>
    let actions := (groups.lookup group).getD []
    ((menuLevel (actions.map (·.1)) false).read rest).enter fun name middle rest =>
      match actions.lookup name with
      | none => .refused (.unexpected name)
      | some action =>
        ((actionLevel action).read rest).finish fun inner =>
          match action.command inner with
          | .ok command => .invocation (.ofLevels [outer, middle, inner] command)
          | .error error => .refused error

end NodeQuery.CommandLine
