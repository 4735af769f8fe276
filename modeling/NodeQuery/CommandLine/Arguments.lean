/-!
Arguments, as they are given to one level of commands: flags, options with a value, one text, and
the name of a command of the next level, at which the level ends. After two dashes alone every
argument is a text. What asks for help or for the version is answered at once, and so is the first
argument that cannot be understood.
-/

namespace NodeQuery.CommandLine

/-- An option takes the next argument as its value, or what follows an equals sign. -/
structure ValueOption where
  name : String
  isRepeatable : Bool
  accepts : String → Bool

structure Level where
  flags : List String
  options : List ValueOption
  commands : List String
  takesText : Bool
  tellsVersion : Bool

inductive Given where
  | flag (name : String)
  | value (option value : String)
  | text (text : String)
  deriving Repr, DecidableEq

inductive UsageError where
  | unexpected (argument : String)
  | repeated (name : String)
  | missingValue (option : String)
  | unexpectedValue (flag : String)
  | invalidValue (option value : String)
  | missing (what : String)
  | conflict (first second : String)
  deriving Repr, DecidableEq

def UsageError.message : UsageError → String
  | .unexpected argument => "unexpected argument '" ++ argument ++ "'"
  | .repeated name => "the argument '--" ++ name ++ "' cannot be used multiple times"
  | .missingValue option => "a value is required for '--" ++ option ++ "'"
  | .unexpectedValue flag => "the argument '--" ++ flag ++ "' takes no value"
  | .invalidValue option value => "invalid value '" ++ value ++ "' for '--" ++ option ++ "'"
  | .missing what => "missing " ++ what
  | .conflict first second =>
    "the argument '--" ++ first ++ "' cannot be used with '--" ++ second ++ "'"

inductive Scan where
  | finished (given : List Given)
  | entered (command : String) (given : List Given) (rest : List String)
  | help
  | version
  | refused (error : UsageError)

def isDashed (argument : String) : Bool := argument.startsWith "-" && argument != "-"

/-- The name of an option and the value after an equals sign, of an argument after its dashes. -/
def splitValue (letters : List Char) : String × Option String :=
  (String.ofList (letters.takeWhile (· != '=')),
    match letters.dropWhile (· != '=') with
    | [] => none
    | _ :: value => some (String.ofList value))

namespace Level

def addFlag (name : String) (given : List Given) : Except UsageError (List Given) :=
  if .flag name ∈ given then .error (.repeated name) else .ok (given ++ [.flag name])

def isGiven (name : String) : Given → Bool
  | .value option _ => option == name
  | _ => false

def addValue (option : ValueOption) (value : String) (given : List Given) :
    Except UsageError (List Given) :=
  if !option.isRepeatable && given.any (isGiven option.name) then .error (.repeated option.name)
  else if option.accepts value then .ok (given ++ [.value option.name value])
  else .error (.invalidValue option.name value)

def isText : Given → Bool
  | .text _ => true
  | _ => false

def addText (level : Level) (text : String) (given : List Given) :
    Except UsageError (List Given) :=
  if level.takesText && !given.any isText then .ok (given ++ [.text text])
  else .error (.unexpected text)

/-- What a single argument means. -/
inductive Meaning where
  | added (given : List Given)
  | awaiting (option : ValueOption)
  | command (name : String)
  | textsFollow
  | help
  | version
  | refused (error : UsageError)

def Meaning.ofResult : Except UsageError (List Given) → Meaning
  | .ok given => .added given
  | .error error => .refused error

/-- Single letters that may share a dash. -/
def short (level : Level) (argument : String) (given : List Given) : List Char → Meaning
  | [] => .added given
  | letter :: letters =>
    if letter = 'v' then short level argument given letters
    else if letter = 'h' then .help
    else if letter = 'V' && level.tellsVersion then .version
    else .refused (.unexpected argument)

def long (level : Level) (argument : String) (given : List Given) (letters : List Char) : Meaning :=
  let (name, value?) := splitValue letters
  match level.options.find? (·.name == name), value? with
  | some option, some value => .ofResult (addValue option value given)
  | some option, none => .awaiting option
  | none, value? =>
    if name = "help" || name = "verbose" || name = "version" && level.tellsVersion ||
        level.flags.contains name then
      if value?.isSome then .refused (.unexpectedValue name)
      else if name = "help" then .help
      else if name = "verbose" then .added given
      else if name = "version" then .version
      else .ofResult (addFlag name given)
    else .refused (.unexpected argument)

def meaning (level : Level) (argument : String) (given : List Given) : Meaning :=
  match argument.toList with
  | ['-', '-'] => .textsFollow
  | '-' :: '-' :: letters => level.long argument given letters
  | '-' :: letter :: letters => level.short argument given (letter :: letters)
  | _ =>
    if level.commands.contains argument then .command argument
    else if argument = "help" && !level.commands.isEmpty then .help
    else .ofResult (level.addText argument given)

/-- Go through the arguments; `pending` is an option that awaits its value, and `textsOnly` tells
that two dashes alone came before. -/
def scan (level : Level) (pending : Option ValueOption) (textsOnly : Bool) (given : List Given) :
    List String → Scan
  | [] =>
    match pending with
    | some option => .refused (.missingValue option.name)
    | none => .finished given
  | argument :: rest =>
    match pending with
    | some option =>
      if isDashed argument then .refused (.missingValue option.name)
      else match addValue option argument given with
        | .ok given => scan level none textsOnly given rest
        | .error error => .refused error
    | none =>
      if textsOnly then
        match level.addText argument given with
        | .ok given => scan level none true given rest
        | .error error => .refused error
      else match level.meaning argument given with
        | .added given => scan level none false given rest
        | .awaiting option => scan level (some option) false given rest
        | .command name => .entered name given rest
        | .textsFollow => scan level none true given rest
        | .help => .help
        | .version => .version
        | .refused error => .refused error

def read (level : Level) (arguments : List String) : Scan := level.scan none false [] arguments

end Level

namespace Given

def values (name : String) (given : List Given) : List String :=
  given.filterMap fun
    | .value option given => if option = name then some given else none
    | _ => none

def text? (given : List Given) : Option String :=
  given.findSome? fun
    | .text given => some given
    | _ => none

end Given

end NodeQuery.CommandLine
