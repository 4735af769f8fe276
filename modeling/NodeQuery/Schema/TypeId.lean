import NodeQuery.Uuid

/-!
Identifiers of entity types. A type is named within a graph; its written form is the graph, a point,
and the name, and a name written so holds no point.
-/

namespace NodeQuery

structure TypeId where
  graph : Uuid
  name : String
  deriving Repr, DecidableEq

namespace TypeId

instance : Ord TypeId where
  compare := compareLex (compareOn (·.graph)) (compareOn (·.name))

instance : Std.TransOrd TypeId := inferInstanceAs (Std.TransCmp (compareLex _ _))

def text (id : TypeId) : String := id.graph.text ++ "." ++ id.name

instance : ToString TypeId := ⟨text⟩

inductive ReadError where
  | shape (text : String)
  | graph (text : String)
  deriving Repr, DecidableEq

def ReadError.message : ReadError → String
  | .shape text => "type id `" ++ text ++ "` must have the form `<graph uuid>.<type id>`"
  | .graph text => "invalid graph id in `" ++ text ++ "`"

/-- The graph ends at the first point, and no other point follows. -/
def read (text : String) : Except ReadError TypeId :=
  match text.toList.dropWhile (· != '.') with
  | [] => .error (.shape text)
  | _ :: name =>
    if name.isEmpty || name.contains '.' then .error (.shape text)
    else match Uuid.ofText? (text.toList.takeWhile (· != '.')) with
      | some graph => .ok ⟨graph, String.ofList name⟩
      | none => .error (.graph text)

end TypeId

/-- An attribute is named within the type that declares it, or, seen from the other end of a
reference, within the type it points at. -/
structure AttributeId where
  domain : TypeId
  name : String
  deriving Repr, DecidableEq

def AttributeId.text (id : AttributeId) : String := id.domain.text ++ "." ++ id.name

end NodeQuery
