import NodeQuery.Projection.Scope

/-!
Qualification: binding the scoped selects of a projection to the attributes that they ask for, on
the types to which the projection applies. The result holds no select twice, and those that are
bound to attributes come first.
-/

namespace NodeQuery

namespace Projection

/-- How far a projection applies: to everything its named references reach, or layer by layer, as
far as the depth of each select goes. -/
inductive Mode where
  | transitive
  | depthBounded
  deriving Repr, DecidableEq

structure UnknownMode where
  name : String
  deriving Repr, DecidableEq

def UnknownMode.message (unknown : UnknownMode) : String :=
  "unknown qualifier mode `" ++ unknown.name ++ "` (expected `transitive` or `depth_bounded`)"

namespace Mode

def text : Mode → String
  | .transitive => "transitive"
  | .depthBounded => "depth_bounded"

def ofText? (text : String) : Option Mode :=
  [transitive, depthBounded].find? (·.text = text)

/-- Reading a mode that a person wrote, who may also join the words by a hyphen. -/
def read (text : String) : Except UnknownMode Mode :=
  match ofText? text with
  | some mode => .ok mode
  | none => if text = "depth-bounded" then .ok .depthBounded else .error ⟨text⟩

end Mode

/-- What a select for everything adds to a projection. -/
def wildcards : List Select :=
  [.scoped ⟨.any, .allProperties⟩, .scoped ⟨.any, .allReferences⟩, .scoped ⟨.any, .allReferrers⟩]

/-- Each select once, with the wildcards if everything is asked for. -/
def expand (selects : List Select) : List Select :=
  if .everything ∈ selects then distinct (selects ++ wildcards) else distinct selects

variable (schema : Schema) (selects : List ScopedSelect) (domain : List TypeId)

/-- The attributes on some types that the selects ask for, select by select. -/
def attributesOn (types : List EntityType) (selects : List ScopedSelect) : List QualifiedSelect :=
  selects.flatMap fun select => types.flatMap fun entityType => select.qualified schema entityType

def transitiveAttributes : List QualifiedSelect :=
  attributesOn schema (reachable schema selects domain) selects

/-- How far a projection has come layer by layer: the number of the layer under way, its types, the
selects that apply there, and what the layers before it ask for. -/
structure Descent where
  layer : Nat
  types : List EntityType
  selects : List ScopedSelect
  found : List QualifiedSelect

namespace Descent

/-- Before the first layer, which is the domain. -/
def start : Descent := ⟨1, schema.knownTypes domain, selects, []⟩

/-- There is nothing to ask for, or nothing to ask it of. -/
def IsOver (descent : Descent) : Prop := descent.types = [] ∨ descent.selects = []

instance (descent : Descent) : Decidable descent.IsOver :=
  inferInstanceAs (Decidable (descent.types = [] ∨ descent.selects = []))

/-- With what the layer asks for, one layer further. -/
def next (descent : Descent) : Descent where
  layer := descent.layer + 1
  types := beyond schema descent.types descent.selects
  selects := lasting descent.layer descent.selects
  found := (attributesOn schema descent.types descent.selects).foldl addNew descent.found

/-- After the last layer. -/
def finished (descent : Descent) : Descent :=
  if _over : descent.IsOver then descent else (descent.next schema).finished
termination_by (totalLeft descent.layer descent.selects, descent.types.length)
decreasing_by exact shrinks schema descent.selects fun none => _over (.inl none)

end Descent

def layeredAttributes : List QualifiedSelect :=
  ((Descent.start schema selects domain).finished schema).found

def Mode.attributes : Mode → List QualifiedSelect
  | .transitive => transitiveAttributes schema selects domain
  | .depthBounded => layeredAttributes schema selects domain

end Projection

def Schema.qualify (schema : Schema) (mode : Projection.Mode) (domain : List TypeId)
    (selects : List Select) : List QualifiedSelect :=
  let expanded := Projection.expand selects
  distinct <|
    mode.attributes schema (expanded.filterMap Select.scoped?) domain ++
      expanded.filterMap Select.unscoped?

/-- The types that the selects reach as they stand, without what a select for everything adds. -/
def Schema.reachableTypes (schema : Schema) (domain : List TypeId) (selects : List Select) :
    List TypeId :=
  (Projection.reachable schema (selects.filterMap Select.scoped?) domain).map (·.id)

end NodeQuery
