import NodeQuery.Json.Basic
import NodeQuery.OrderedMap

/-!
Taking values out of JSON. A record is written as an object, or as an array of its fields in their
order; fields that it does not know are passed over, but no known field may come twice. A variant
is written as its name, or as an object whose only field has that name.
-/

namespace NodeQuery

namespace Json

variable {α : Type}

def text? : Json → Option String
  | .string text => some text
  | _ => none

def truth? : Json → Option Bool
  | .boolean truth => some truth
  | _ => none

def number? : Json → Option Int64
  | .integer number =>
    if Int64.minValue.toInt ≤ number ∧ number ≤ Int64.maxValue.toInt then
      some (Int64.ofInt number)
    else none
  | _ => none

/-- A natural number up to a largest one. -/
def upTo? (largest : Nat) : Json → Option Nat
  | .integer number => if 0 ≤ number ∧ number ≤ largest then some number.toNat else none
  | _ => none

/-- The largest limit on a count. -/
def largestLimit : Nat := UInt64.size - 1

def limit? : Json → Option Nat := upTo? largestLimit

def orNull? (decode : Json → Option α) : Json → Option (Option α)
  | .null => some none
  | json => (decode json).map some

def list? (decode : Json → Option α) : Json → Option (List α)
  | .array items => items.mapM decode
  | _ => none

/-- The values by name; a later value replaces an earlier one of the same name. -/
def map? (decode : Json → Option α) : Json → Option (OrderedMap String α)
  | .object fields =>
    (fields.mapM fun field => (decode field.2).map (field.1, ·)).map OrderedMap.ofList
  | _ => none

def ofMap (encode : α → Json) (map : OrderedMap String α) : Json :=
  .object (map.entries.map fun entry => (entry.1, encode entry.2))

/-- A name, with what stands under it if anything does. -/
def variant? : Json → Option (String × Option Json)
  | .string name => some (name, none)
  | .object [(name, value)] => some (name, some value)
  | _ => none

/-- A variant without contents may have null under its name. -/
def isVacant : Option Json → Bool
  | none => true
  | some .null => true
  | _ => false

/-- The fields that were given to a record; `inOrder` tells that they were given by position. -/
structure Record where
  inOrder : Bool
  fields : List (String × Json)

/-- A record with these fields. -/
def record? (names : List String) : Json → Option Record
  | .object fields =>
    let known := fields.filter (names.contains ·.1)
    if (known.map (·.1)).Nodup then some ⟨false, known⟩ else none
  | .array items => if items.length ≤ names.length then some ⟨true, names.zip items⟩ else none
  | _ => none

namespace Record

def get? (record : Record) (name : String) : Option Json :=
  (record.fields.find? (·.1 == name)).map (·.2)

def required (record : Record) (name : String) (decode : Json → Option α) : Option α :=
  (record.get? name).bind decode

def orDefault (record : Record) (name : String) (default : α) (decode : Json → Option α) :
    Option α :=
  match record.get? name with
  | none => some default
  | some json => decode json

/-- A value that may be null, or missing among named fields. -/
def optional (record : Record) (name : String) (decode : Json → Option α) : Option (Option α) :=
  match record.get? name with
  | none => if record.inOrder then none else some none
  | some json => orNull? decode json

end Record

/-- A record with a tag among its fields, or at the front of them: the tag, and the rest. -/
def tagged? (tag : String) : Json → Option (String × Json)
  | .object fields =>
    match fields.filter (·.1 == tag) with
    | [(_, .string name)] => some (name, .object (fields.filter (·.1 != tag)))
    | _ => none
  | .array (.string name :: rest) => some (name, .array rest)
  | _ => none

/-- Of fields with the same name the last one, here and within. -/
def lastOf (fields : List (String × Json)) : List (String × Json) :=
  (OrderedMap.ofList fields).entries

mutual

def withoutRepetitions : Json → Json
  | .array items => .array (itemsWithoutRepetitions items)
  | .object fields => .object (lastOf (fieldsWithoutRepetitions fields))
  | scalar => scalar

def itemsWithoutRepetitions : List Json → List Json
  | [] => []
  | item :: items => withoutRepetitions item :: itemsWithoutRepetitions items

def fieldsWithoutRepetitions : List (String × Json) → List (String × Json)
  | [] => []
  | (name, value) :: fields => (name, withoutRepetitions value) :: fieldsWithoutRepetitions fields

end

end Json

end NodeQuery
