import NodeQuery.OrderedMap
import NodeQuery.Schema.TypeId
import NodeQuery.Timestamp.Basic

/-!
Nodes: the typed records that queries select. A node is addressed by its own id together with its
type; its attribute values stand in the order of the attribute names.
-/

namespace NodeQuery

structure NodeKey where
  id : Uuid
  typeId : TypeId
  deriving Repr, DecidableEq

def NodeKey.text (key : NodeKey) : String := key.id.text ++ " " ++ key.typeId.text

/-- A text with its language tag, which is empty for a text of no particular language. -/
structure LanguageText where
  language : String
  value : String
  deriving Repr, DecidableEq

/-- A text attribute, in one language or, if the tag is empty, in any. -/
structure PropertyPath where
  name : String
  language : String
  deriving Repr, DecidableEq

structure Node where
  id : Uuid
  typeId : TypeId
  code : Option String
  uri : Option String
  number : Int64
  createdBy : String
  createdDate : Timestamp
  lastModifiedBy : String
  lastModifiedDate : Timestamp
  properties : OrderedMap String (List LanguageText)
  references : OrderedMap String (List NodeKey)
  deriving DecidableEq

namespace Node

/-- A node with no values, last modified when it was created. -/
def fresh (id : Uuid) (typeId : TypeId) (created : Timestamp) : Node where
  id
  typeId
  code := none
  uri := none
  number := 0
  createdBy := ""
  createdDate := created
  lastModifiedBy := ""
  lastModifiedDate := created
  properties := .empty
  references := .empty

def key (node : Node) : NodeKey := ⟨node.id, node.typeId⟩

def addProperty (node : Node) (name : String) (text : LanguageText) : Node :=
  { node with properties := node.properties.upsert name fun texts => texts.getD [] ++ [text] }

def addReference (node : Node) (name : String) (target : NodeKey) : Node :=
  { node with
    references := node.references.upsert name fun targets => targets.getD [] ++ [target] }

def texts (node : Node) (name : String) : List LanguageText :=
  (node.properties.get? name).getD []

def targets (node : Node) (name : String) : List NodeKey :=
  (node.references.get? name).getD []

/-- The values of a property in the language asked for; the empty tag asks for all of them. -/
def values (node : Node) (property : PropertyPath) : List String :=
  ((node.texts property.name).filter fun text =>
    property.language.isEmpty || text.language == property.language).map (·.value)

end Node

end NodeQuery
