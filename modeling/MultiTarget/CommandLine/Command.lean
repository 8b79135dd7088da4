import MultiTarget.CommandLine.Arguments

/-!
# `MultiTarget.CommandLine.Command`: what can be asked for

The commands with their parameters, and how they are read from the words
of a command line.

Specification X.6.16: `build`, `k8s`, `names` and `create-services`.
-/

set_option autoImplicit false

namespace MultiTarget.CommandLine

/-- How results are written. -/
inductive OutputFormat where
  | text
  | json
  deriving DecidableEq, Repr

namespace OutputFormat

/-- The name of a format. -/
def name : OutputFormat → String
  | text => "text"
  | json => "json"

/-- The names of all formats. -/
def names : List String := [text, json].map name

/-- The format with a name. -/
def ofName? (written : String) : Option OutputFormat := [text, json].find? (·.name == written)

end OutputFormat

/-- The files that every command reads. -/
structure Inputs where
  descriptor : String
  /-- The file with the switches and the target. -/
  config : String
  /-- The file with the state of the previous deployment. -/
  deployed : Option String
  deriving DecidableEq, Repr

/-- A command. -/
inductive Command where
  /-- Build the model. -/
  | build (inputs : Inputs) (output : OutputFormat)
  /-- Write the manifests for a cluster. -/
  | manifests (inputs : Inputs)
  /-- Show the names of the services. -/
  | names (inputs : Inputs) (output : OutputFormat)
  /-- Create the managed services. -/
  | createServices (inputs : Inputs) (token : String)
  deriving DecidableEq, Repr

/-- What a command line asks for. -/
inductive Request where
  | perform (command : Command)
  | version
  | help
  /-- The command line says nothing. -/
  | nothing
  deriving DecidableEq, Repr

namespace Command

/-! ### Parameters -/

/-- The flag for more messages. -/
def verboseFlag : Parameter := .flag "verbose" 'v'

/-- The parameters for the files that are read. -/
def inputParameters : List Parameter := [
  .place "descriptor" .path,
  .option "config" (some 'c') .path,
  .option "deployed" none .path]

/-- The option for the format of the output. -/
def outputOption : Parameter := .option "output" (some 'o') (.choice OutputFormat.names)

/-- The option for the token of the caller. -/
def tokenOption : Parameter := .option "token" none .text

/-- The level of a command with parameters of its own. -/
def levelWith (parameters : List Parameter) : Level :=
  ⟨inputParameters ++ parameters ++ [verboseFlag, helpFlag], []⟩

/-- The name of the program. -/
def program : String := "cloudmodel"

/-- The level in front of a command. -/
def topLevel : Level :=
  ⟨[verboseFlag, helpFlag, versionFlag], ["build", "k8s", "names", "create-services", "help"]⟩

/-! ### Reading -/

/-- The files named by values. -/
def inputsOf (values : List (String × String)) : Inputs where
  descriptor := (values.lookup "descriptor").getD "mtad.yaml"
  config := (values.lookup "config").getD "cloudmodel.yaml"
  deployed := values.lookup "deployed"

/-- The format named by values. -/
def outputOf (standard : OutputFormat) (values : List (String × String)) : OutputFormat :=
  ((values.lookup "output").bind OutputFormat.ofName?).getD standard

/-- Read the words after the name of a command. -/
def readWith (parameters : List Parameter) (words : List String)
    (command : List (String × String) → Except UsageError Command) : Except UsageError Request := do
  match ← (levelWith parameters).read words with
  | .values values _ => return .perform (← command values)
  | .help => return .help
  | .version => return .version

/-- Read a request for help with a command. -/
def readHelp (words : List String) : Except UsageError Request :=
  match words.find? fun word => !topLevel.commands.contains word with
  | some word => .error (.unknownCommand word)
  | none => .ok .help

/-- Read a command with its words. The token may be given in advance. -/
def readNamed (token : Option String) (name : String) (words : List String) :
    Except UsageError Request :=
  match name with
  | "build" => readWith [outputOption] words fun values =>
    .ok (.build (inputsOf values) (outputOf .json values))
  | "k8s" => readWith [] words fun values => .ok (.manifests (inputsOf values))
  | "names" => readWith [outputOption] words fun values =>
    .ok (.names (inputsOf values) (outputOf .text values))
  | "create-services" => readWith [tokenOption] words fun values =>
    match (values.lookup "token").or token with
    | some token => .ok (.createServices (inputsOf values) token)
    | none => .error (.missingArgument tokenOption)
  | "help" => readHelp words
  | name => .error (.unknownCommand name)

end Command

/-- Read the words of a command line. -/
def Request.ofWords (token : Option String) (words : List String) : Except UsageError Request := do
  match ← Command.topLevel.read words with
  | .values _ (some (name, words)) => Command.readNamed token name words
  | .values [] none => return .nothing
  | .values _ none => throw (.missingCommand Command.program Command.topLevel.commands)
  | .help => return .help
  | .version => return .version

end MultiTarget.CommandLine
