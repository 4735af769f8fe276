import NodeQuery.Criterion
import NodeQuery.Text.Reader

/-!
Reading criteria. Every criterion begins with the name of a field and a colon; the value after it
may be quoted, or bare where the field allows it. The target of a reference is a criterion again.
-/

namespace NodeQuery.Criterion.Reading

open Text Text.Reader

def isCodeChar (char : Char) : Bool := char.isAlphanum || char == '_' || char == '-'

def isBareChar (char : Char) : Bool :=
  !isWhiteSpace char && !(['(', ')', '[', ']', '"', '*'].contains char)

def isUuidChar (char : Char) : Bool := (hexValue? char).isSome || char == '-'

def isDateChar (char : Char) : Bool :=
  char.isAlphanum || char == '-' || char == ':' || char == '.'

def code : Reader String := map String.ofList (run isCodeChar)

def bare : Reader String := map String.ofList (run isBareChar)

def quoted : Reader String
  | '"' :: rest =>
    match Quoted.unescape rest with
    | some (value, after) => .read (String.ofList value) after
    | none => .missed ('"' :: rest)
  | text => .missed text

def uuid : Reader Uuid := mapIf Uuid.ofText? (run isUuidChar)

def int64? (number : Int) : Option Int64 :=
  if Int64.minValue.toInt ≤ number ∧ number ≤ Int64.maxValue.toInt then some (Int64.ofInt number)
  else none

def natural : Reader Nat := map decimalValue (run isDigit)

/-- Digits, possibly after a minus sign, within 64 bits. -/
def integer : Reader Int64 := mapIf int64? fun
  | '-' :: rest => (natural rest).map fun number => -Int.ofNat number
  | text => (natural text).map Int.ofNat

/-- A date and time, or a date alone. -/
def timestamp : Reader Timestamp :=
  mapIf (fun text => Timestamp.ofDateTime? text <|> Timestamp.ofDate? text) (run isDateChar)

def openOr {α : Type} (bound : Reader α) : Reader (Option α) :=
  firstOf [map (fun _ => none) (literal "*"), map some bound]

def interval {α : Type} (bound : Reader α) : Reader (Interval α) :=
  before (before (literal "[") blanks) <| fun text =>
    (openOr bound text).andThen fun lower =>
      before (before someBlanks (before (literal "TO") someBlanks)) <| fun text =>
        (openOr bound text).andThen fun upper =>
          map (fun _ => ⟨lower, upper⟩) (before blanks (literal "]"))

/-- A field name in any of its spellings, and then its value. -/
def field {α : Type} (names : List String) (value : Reader α) : Reader α :=
  before (firstOf (names.map literal)) value

def starred (text : Reader String) : Reader (String × Bool) := fun input =>
  (text input).andThen fun value => map (fun star => (value, star.isSome)) (optional (literal "*"))

/-- The value of a whole text: an interval, a beginning, or the text itself. -/
def textValue (property : PropertyPath) : Reader Criterion := fun input =>
  match interval (firstOf [quoted, bare]) input with
  | .read bounds rest => .read (.textBetween property bounds) rest
  | _ => (starred (firstOf [quoted, bare]) input).map fun (value, star) =>
    if star then .textStarts property value else .textEquals property value

/-- Nothing, if an asterisk follows. -/
def nothingBeforeStar : Reader String := map (fun _ => "") (ahead (literal "*"))

/-- The value of words: a phrase, or the beginning of a word. -/
def wordsValue (property : PropertyPath) : Reader Criterion := fun input =>
  (starred (firstOf [quoted, bare, nothingBeforeStar]) input).map fun (value, star) =>
    if star then .wordStarts property value else .words property value

/-- What the parts of a property's name ask for. -/
def propertyValue : List String → Option (Reader Criterion)
  | [name] => some (wordsValue ⟨name, ""⟩)
  | [name, second] =>
    some (if second = "string" then textValue ⟨name, ""⟩ else wordsValue ⟨name, second⟩)
  | [name, language, "string"] => some (textValue ⟨name, language⟩)
  | _ => none

def propertyParts : Reader (List String) :=
  field ["properties.", "props.", "p."] (followedBy (separated (literal ".") code) (literal ":"))

/-- A property whose name has too many parts is refused. -/
def property : Reader Criterion := fun text =>
  (propertyParts text).andThen fun parts =>
    match propertyValue parts with
    | some value => value
    | none => fun _ => .refused text

/-- The target of a reference by its id, or no target at all. -/
def targetId : Reader (Option Uuid) :=
  before (literal "id:") (firstOf [map (fun _ => none) (literal "null"), map some uuid])

def reference (target : Reader Criterion) : Reader Criterion := fun text =>
  (followedBy (field ["references.", "refs.", "r."] code) (literal ".") text).andThen
    fun name rest =>
      match targetId rest with
      | .read (some id) after => .read (.references name id) after
      | .read none after => .read (.referencesNothing name) after
      | _ => (target rest).map (.referencesSuch name)

/-- The kinds of criteria, given how the target of a reference is read. -/
def alternatives (target : Reader Criterion) : List (Reader Criterion) :=
  [map .hasId (field ["urn:uuid:", "node.id:", "nodeId:", "id:"] uuid),
    map .inGraph (field ["type.graph.id:", "graph.id:", "graphId:"] uuid),
    map .hasType (field ["type.id:", "typeId:"] code),
    map .hasCode (field ["code:"] (firstOf [quoted, code])),
    map .hasUri (field ["uri:"] (firstOf [quoted, bare])),
    map .hasNumber (field ["number:", "n:"] integer),
    map .createdWithin (field ["createdDate:"] (interval timestamp)),
    map .modifiedWithin (field ["lastModifiedDate:"] (interval timestamp)),
    property,
    reference target]

def criterionOver (target : Reader Criterion) : Reader Criterion := firstOf (alternatives target)

/-- A criterion with at most so many references one within the other. -/
def criterion : Nat → Reader Criterion
  | 0, text => .missed text
  | nesting + 1, text => criterionOver (criterion nesting) text

end NodeQuery.Criterion.Reading
