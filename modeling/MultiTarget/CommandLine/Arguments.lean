import MultiTarget.Json.Entry

/-!
# `MultiTarget.CommandLine.Arguments`: words of a command line

Words are read from left to right:

* `--name value` and `--name=value` give an option a value, `-n value`,
  `-nvalue` and `-n=value` do the same for its short name, and flags with
  short names may be written together, as in `-abc`;
* after `--` every word stands for itself;
* any other word is the name of a command where there are commands, and
  else the value of the place for one.

The value of an option or a place is looked at when the next one is met,
so a word that nobody knows is reported before a bad value in front of it.

Specification X.6.16 names the commands and X.4 their input; how words are
read is the custom of command lines.
-/

set_option autoImplicit false

namespace MultiTarget.CommandLine

/-- What may be given as a value. -/
inductive ValueKind where
  /-- Any text. -/
  | text
  /-- A path, which is not empty. -/
  | path
  /-- One of some words. -/
  | choice (words : List String)
  deriving DecidableEq, Repr

namespace ValueKind

/-- The words to choose from. -/
def words : ValueKind → List String
  | choice words => words
  | _ => []

/-- A value is of the kind. -/
def accepts : ValueKind → String → Bool
  | text, _ => true
  | path, value => !value.isEmpty
  | choice words, value => words.contains value

end ValueKind

/-- A parameter of a command. -/
inductive Parameter where
  /-- An option without a value. -/
  | flag (name : String) (short : Char)
  /-- An option with a value. -/
  | option (name : String) (short : Option Char) (kind : ValueKind)
  /-- A place for a value that may be left out. -/
  | place (name : String) (kind : ValueKind)
  deriving DecidableEq, Repr

namespace Parameter

/-- The name of a parameter. -/
def name : Parameter → String
  | flag name _ | option name .. | place name _ => name

/-- What the values of a parameter must be. -/
def kind : Parameter → ValueKind
  | flag .. => .text
  | option _ _ kind | place _ kind => kind

/-- A parameter as it is shown. -/
def display : Parameter → String
  | flag name _ => "--" ++ name
  | option name .. => s!"--{name} <{name.toUpper}>"
  | place name _ => s!"[{name.toUpper}]"

/-- Whether an option has a long name. -/
def hasLong (written : String) : Parameter → Bool
  | flag name _ | option name .. => name == written
  | place .. => false

/-- Whether an option has a short name. -/
def hasShort (written : Char) : Parameter → Bool
  | flag _ short => short == written
  | option _ short _ => short == some written
  | place .. => false

end Parameter

/-- Why a command line is not understood. -/
inductive UsageError where
  | unexpectedArgument (word : String)
  | unexpectedValue (value : String) (parameter : Parameter)
  | invalidValue (value : String) (parameter : Parameter)
  | missingValue (parameter : Parameter)
  | repeatedArgument (parameter : Parameter)
  | missingArgument (parameter : Parameter)
  | unknownCommand (word : String)
  | missingCommand (program : String) (commands : List String)
  deriving DecidableEq, Repr

namespace UsageError

/-- A line that lists words, if there are any. -/
def wordsLine (title : String) (words : List String) : String :=
  if words.isEmpty then "" else s!"\n  [{title}: " ++ String.intercalate ", " words ++ "]"

/-- The error in words. An empty value counts as none. -/
def message : UsageError → String
  | unexpectedArgument word => s!"unexpected argument '{word}' found"
  | unexpectedValue value parameter =>
    s!"unexpected value '{value}' for '{parameter.display}' found; no more were expected"
  | invalidValue value parameter =>
    (if value.isEmpty then s!"a value is required for '{parameter.display}' but none was supplied"
      else s!"invalid value '{value}' for '{parameter.display}'") ++
    wordsLine "possible values" parameter.kind.words
  | missingValue parameter =>
    s!"a value is required for '{parameter.display}' but none was supplied" ++
    wordsLine "possible values" parameter.kind.words
  | repeatedArgument parameter => s!"the argument '{parameter.display}' cannot be used multiple times"
  | missingArgument parameter =>
    s!"the following required arguments were not provided:\n  {parameter.display}"
  | unknownCommand word => s!"unrecognized subcommand '{word}'"
  | missingCommand program commands =>
    s!"'{program}' requires a subcommand but one was not provided" ++
    wordsLine "subcommands" commands

end UsageError

/-- What may stand on a level of a command line. -/
structure Level where
  parameters : List Parameter
  /-- The names of the commands that may follow. -/
  commands : List String
  deriving DecidableEq, Repr

/-- What the words of a level say. -/
inductive Reading where
  /-- The values of parameters, and the command that follows with its
  words. -/
  | values (values : List (String × String)) (command : Option (String × List String))
  | help
  | version
  deriving DecidableEq, Repr

/-- The flag that asks for help. -/
def helpFlag : Parameter := .flag "help" 'h'

/-- The flag that asks for the version. -/
def versionFlag : Parameter := .flag "version" 'V'

namespace Level

/-- A parameter that was met, with its value if it is known by now. -/
structure Open where
  parameter : Parameter
  value : Option String
  deriving DecidableEq, Repr

/-- How far a level has been read. -/
structure Progress where
  /-- The values of parameters. -/
  values : List (String × String)
  /-- The parameter that was met last, if its value has not been looked
  at. -/
  pending : Option Open
  /-- The places that are left. -/
  places : List Parameter
  /-- Every word stands for itself from here on. -/
  trailing : Bool
  deriving DecidableEq, Repr

namespace Progress

/-- Give a parameter its value. -/
def give (progress : Progress) (parameter : Parameter) (value : String) :
    Except UsageError Progress :=
  if (progress.values.lookup parameter.name).isSome then .error (.repeatedArgument parameter)
  else if parameter.kind.accepts value then
    .ok { progress with values := progress.values ++ [(parameter.name, value)] }
  else .error (.invalidValue value parameter)

/-- Look at the value of the parameter that was met last. -/
def settle (progress : Progress) : Except UsageError Progress :=
  match progress.pending with
  | none => .ok progress
  | some ⟨parameter, none⟩ => .error (.missingValue parameter)
  | some ⟨parameter, some value⟩ => { progress with pending := none }.give parameter value

/-- The last parameter that was met waits for its value. -/
def isWaiting (progress : Progress) : Option Parameter :=
  match progress.pending with
  | some ⟨parameter, none⟩ => some parameter
  | _ => none

/-- Meet a parameter. -/
def meet (progress : Progress) (parameter : Parameter) (value : Option String) :
    Except UsageError Progress := do
  let progress ← progress.settle
  return { progress with pending := some ⟨parameter, value⟩ }

/-- Meet an option with its value. -/
def giveNow (progress : Progress) (parameter : Parameter) (value : String) :
    Except UsageError Progress := do
  (← progress.settle).give parameter value

end Progress

/-- Where reading a word leads. -/
inductive Step where
  | goOn (progress : Progress)
  | stop (reading : Reading)
  deriving DecidableEq, Repr

/-- Meet a flag. Reading stops at one that asks for something. -/
def readFlag (progress : Progress) (parameter : Parameter) : Except UsageError Step := do
  if parameter = helpFlag then
    let _ ← progress.settle
    return .stop .help
  else if parameter = versionFlag then
    let _ ← progress.settle
    return .stop .version
  else return .goOn (← progress.giveNow parameter "")

/-- Read a word with a long name, given without its two hyphens. -/
def readLong (level : Level) (progress : Progress) (name : String) (value : Option String) :
    Except UsageError Step :=
  match level.parameters.find? (·.hasLong name), value with
  | some (.flag name short), some value => .error (.unexpectedValue value (.flag name short))
  | some (.flag name short), none => readFlag progress (.flag name short)
  | some parameter, some value => .goOn <$> progress.giveNow parameter value
  | some parameter, none => .goOn <$> progress.meet parameter none
  | none, _ => .error (.unexpectedArgument ("--" ++ name))

/-- Read the short names of a word. -/
def readShort (level : Level) (progress : Progress) : List Char → Except UsageError Step
  | [] => .ok (.goOn progress)
  | c :: rest =>
    match level.parameters.find? (·.hasShort c) with
    | some (.flag name short) =>
      match readFlag progress (.flag name short) with
      | .ok (.goOn progress) => readShort level progress rest
      | outcome => outcome
    | some parameter =>
      match rest with
      | [] => .goOn <$> progress.meet parameter none
      | '=' :: value => .goOn <$> progress.giveNow parameter (String.ofList value)
      | value => .goOn <$> progress.giveNow parameter (String.ofList value)
    | none => .error (.unexpectedArgument (String.ofList ['-', c]))

/-- Read a word that stands for itself. -/
def readPlain (level : Level) (progress : Progress) (word : String) : Except UsageError Step :=
  match progress.places with
  | place :: places => .goOn <$> { progress with places }.meet place (some word)
  | [] =>
    if level.commands.isEmpty || (progress.trailing && level.commands.contains word) then
      .error (.unexpectedArgument word)
    else .error (.unknownCommand word)

/-- Read a word that names no command. -/
def readWord (level : Level) (progress : Progress) (word : String) : Except UsageError Step :=
  if progress.trailing then readPlain level progress word
  else
    match word.toList with
    | ['-', '-'] => .ok (.goOn { progress with trailing := true })
    | '-' :: '-' :: rest =>
      let (name, value) := rest.span (· ≠ '=')
      readLong level progress (String.ofList name)
        (if value.isEmpty then none else some (String.ofList (value.drop 1)))
    | '-' :: c :: rest => readShort level progress (c :: rest)
    | _ =>
      match progress.isWaiting with
      | some parameter => .ok (.goOn { progress with pending := some ⟨parameter, some word⟩ })
      | none => readPlain level progress word

/-- Whether a word names the command that follows. -/
def isCommand (level : Level) (progress : Progress) (word : String) : Bool :=
  !progress.trailing && progress.isWaiting.isNone && level.commands.contains word

/-- Read the words that are left. -/
def readFrom (level : Level) (progress : Progress) : List String → Except UsageError Reading
  | [] => do
    let progress ← progress.settle
    return .values progress.values none
  | word :: rest =>
    if level.isCommand progress word then do
      let progress ← progress.settle
      return .values progress.values (some (word, rest))
    else
      match readWord level progress word with
      | .error error => .error error
      | .ok (.stop reading) => .ok reading
      | .ok (.goOn progress) => readFrom level progress rest

/-- Whether a parameter is a place for a value. -/
def isPlace : Parameter → Bool
  | .place .. => true
  | _ => false

/-- Read the words of a level. -/
def read (level : Level) (words : List String) : Except UsageError Reading :=
  readFrom level ⟨[], none, level.parameters.filter isPlace, false⟩ words

end Level

end MultiTarget.CommandLine
