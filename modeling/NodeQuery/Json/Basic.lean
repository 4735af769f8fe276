/-!
JSON values. Numbers are kept apart by whether they are integers of 64 bits, and the fields of an
object stand in the order in which they were written, also where a name comes twice.
-/

namespace NodeQuery

inductive Json where
  | null
  | boolean (truth : Bool)
  | integer (number : Int)
  | decimal (numeral : String)
  | string (text : String)
  | array (items : List Json)
  | object (fields : List (String × Json))
  deriving Repr

namespace Json

instance : Inhabited Json := ⟨null⟩

def natural (number : Nat) : Json := .integer number

def strings (texts : List String) : Json := .array (texts.map .string)

def ofOption {α : Type} (encode : α → Json) (value : Option α) : Json :=
  (value.map encode).getD .null

mutual

/-- How many arrays and objects stand one within the other at most. -/
def depth : Json → Nat
  | .array items => 1 + itemDepth items
  | .object fields => 1 + fieldDepth fields
  | _ => 0

def itemDepth : List Json → Nat
  | [] => 0
  | item :: items => max (depth item) (itemDepth items)

def fieldDepth : List (String × Json) → Nat
  | [] => 0
  | (_, value) :: fields => max (depth value) (fieldDepth fields)

end

end Json

end NodeQuery
