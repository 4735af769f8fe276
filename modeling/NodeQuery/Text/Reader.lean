import NodeQuery.Text.Blank

/-!
Reading a value at the front of a text. A reading that fails names the place where it failed: after
a miss another way of reading the same text is tried, after a refusal none is. The place is always
what is left of the text, so the distance from the start can be told from it.
-/

namespace NodeQuery.Text

inductive Outcome (α : Type) where
  | read (value : α) (rest : List Char)
  | missed (place : List Char)
  | refused (place : List Char)
  deriving Repr, DecidableEq

abbrev Reader (α : Type) := List Char → Outcome α

namespace Outcome

/-- Continue with the value and the rest; a failure stays as it is. -/
def andThen {α β : Type} (outcome : Outcome α) (next : α → Reader β) : Outcome β :=
  match outcome with
  | .read value rest => next value rest
  | .missed place => .missed place
  | .refused place => .refused place

/-- Try another reading after a miss. -/
def orElse {α : Type} (outcome : Outcome α) (other : Unit → Outcome α) : Outcome α :=
  match outcome with
  | .missed _ => other ()
  | _ => outcome

def map {α β : Type} (f : α → β) : Outcome α → Outcome β
  | .read value rest => .read (f value) rest
  | .missed place => .missed place
  | .refused place => .refused place

end Outcome

namespace Reader

def bind {α β : Type} (reader : Reader α) (next : α → Reader β) : Reader β :=
  fun text => (reader text).andThen next

def map {α β : Type} (f : α → β) (reader : Reader α) : Reader β :=
  fun text => (reader text).map f

/-- Read with the first, then with the second, and keep what the second gives. -/
def before {α β : Type} (first : Reader α) (second : Reader β) : Reader β :=
  fun text => (first text).andThen fun _ => second

/-- Read with the first, then with the second, and keep what the first gives. -/
def followedBy {α β : Type} (first : Reader α) (second : Reader β) : Reader α :=
  fun text => (first text).andThen fun value rest => (second rest).map fun _ => value

/-- Exactly these characters. -/
def literal (expected : String) : Reader Unit := fun text =>
  match expected.toList.isPrefixOf? text with
  | some rest => .read () rest
  | none => .missed text

/-- The longest non-empty run of characters of a class. -/
def run (accepts : Char → Bool) : Reader (List Char) := fun text =>
  match text.takeWhile accepts with
  | [] => .missed text
  | letters => .read letters (text.dropWhile accepts)

/-- A conversion that may fail turns the reading into a miss at its own start. -/
def mapIf {α β : Type} (f : α → Option β) (reader : Reader α) : Reader β := fun text =>
  match reader text with
  | .read value rest =>
    match f value with
    | some result => .read result rest
    | none => .missed text
  | .missed place => .missed place
  | .refused place => .refused place

/-- The first reading that is not a miss; if all miss, the place of the last. -/
def firstOf {α : Type} : List (Reader α) → Reader α
  | [], text => .missed text
  | [last], text => last text
  | reader :: others, text => (reader text).orElse fun _ => firstOf others text

/-- A miss is read as nothing. -/
def optional {α : Type} (reader : Reader α) : Reader (Option α) := fun text =>
  match reader text with
  | .read value rest => .read (some value) rest
  | .missed _ => .read none text
  | .refused place => .refused place

/-- Read without moving on. -/
def ahead {α : Type} (reader : Reader α) : Reader α := fun text =>
  match reader text with
  | .read value _ => .read value text
  | other => other

/-- The next character is none of the class; nothing is consumed. -/
def notNext (excluded : Char → Bool) : Reader Unit := fun text =>
  match text with
  | [] => .read () []
  | char :: rest => if excluded char then .missed (char :: rest) else .read () (char :: rest)

/-- Blanks, possibly none. -/
def blanks : Reader Unit := fun text => .read () (text.dropWhile isBlank)

/-- At least one blank. -/
def someBlanks : Reader Unit := map (fun _ => ()) (run isBlank)

/-- Further items, each after a separator. The list ends quietly before a separator whose item
misses, and where nothing was consumed. -/
def furtherItems {α : Type} (separator : Reader Unit) (item : Reader α) (text : List Char) :
    Outcome (List α) :=
  match separator text with
  | .missed _ => .read [] text
  | .refused place => .refused place
  | .read _ afterSeparator =>
    match item afterSeparator with
    | .missed _ => .read [] text
    | .refused place => .refused place
    | .read value rest =>
      if _h : rest.length < text.length then
        (furtherItems separator item rest).map (value :: ·)
      else .read [value] rest
termination_by text.length

/-- One or more items between separators. -/
def separated {α : Type} (separator : Reader Unit) (item : Reader α) : Reader (List α) :=
  fun text => (item text).andThen fun value rest =>
    (furtherItems separator item rest).map (value :: ·)

/-- Items between separators, possibly none. -/
def separatedIfAny {α : Type} (separator : Reader Unit) (item : Reader α) : Reader (List α) :=
  fun text =>
    match item text with
    | .read value rest => (furtherItems separator item rest).map (value :: ·)
    | .missed _ => .read [] text
    | .refused place => .refused place

/-- Blanks are allowed around the value, and nothing may follow them. -/
def whole {α : Type} (reader : Reader α) : Reader α := fun text =>
  (followedBy (before blanks reader) blanks text).andThen fun value rest =>
    if rest.isEmpty then .read value [] else .missed rest

end Reader

/-- Where a text stopped being readable: the distance in bytes, and the text found there. -/
structure Misreading where
  offset : Nat
  fragment : String
  deriving Repr, DecidableEq

def utf8Length : List Char → Nat
  | [] => 0
  | char :: rest => char.utf8Size + utf8Length rest

def fragmentLength : Nat := 24

def Misreading.at (text place : List Char) : Misreading where
  offset := utf8Length text - utf8Length place
  fragment :=
    if place.isEmpty then "<end of input>" else String.ofList (place.take fragmentLength)

/-- Read a whole text, with the place of failure as a distance from its start. -/
def Reader.readAll {α : Type} (reader : Reader α) (text : String) : Except Misreading α :=
  match reader.whole text.toList with
  | .read value _ => .ok value
  | .missed place => .error (.at text.toList place)
  | .refused place => .error (.at text.toList place)

end NodeQuery.Text
