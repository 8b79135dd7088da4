import MultiTarget.CloudModel
import MultiTarget.CommandLine.Command
import MultiTarget.Controller
import MultiTarget.Creation
import MultiTarget.Descriptor.Load
import MultiTarget.Json.Render
import MultiTarget.Kubernetes.Provision

/-!
# `MultiTarget.CommandLine.Run`: from words to a report

`run` reads the words of a command line, then the files that the command
names, and reports what is to be written and the exit code. Files and
clock are reached through the effects of a monad; all else is pure.

The exit code is 2 for a command line that is not understood and 1 for a
command that fails.

Specification X.6.16. `load` reads the settings, the descriptor and the
deployed state of X.4; `build`, `manifests`, `names` and `createServices` are
`cmd_build`, `cmd_k8s`, `cmd_names` and `cmd_create_services`.
-/

set_option autoImplicit false

namespace MultiTarget.CommandLine

/-- What a run needs from outside. -/
structure Surroundings (m : Type → Type) where
  /-- The text of a file, if it can be read. -/
  fileText : String → m (Option String)
  now : m Timestamp
  /-- The token of the caller, if it is known in advance. -/
  token : Option String
  /-- What controllers are reached through. -/
  client : Client
  /-- How many pages of one listing are fetched at most. -/
  pageLimit : Nat

/-- What a run came to. -/
structure Report where
  exitCode : Nat
  /-- The text of the standard output. -/
  output : String
  /-- The text of the error output. -/
  errors : String
  deriving DecidableEq, Repr

/-- Why a command fails. -/
structure Failure where
  /-- What could not be done. -/
  summary : String
  /-- Why, if more is known. -/
  cause : Option String
  deriving DecidableEq, Repr

/-- The failure in words. -/
def Failure.message (failure : Failure) : String :=
  "Error: " ++ failure.summary ++
    (match failure.cause with
    | some cause => "\n\nCaused by:\n    " ++ cause
    | none => "") ++ "\n"

/-! ### Files -/

/-- The settings of a file. -/
structure Settings where
  options : Options
  target : Target
  deriving DecidableEq, Repr

/-- The fields of settings in order. -/
def Settings.fields : List FieldName := Record.plainFields ["model", "system"]

/-- Read settings; `now` is the time of the target if it has none. -/
def Settings.read? {σ : Type} [Source σ] (now : Timestamp) (tree : σ) : Option Settings := do
  let r ← Record.read? fields tree
  return {
    options := ← r.orElse "model" Options.read? .standard
    target := ← r.required "system" (Target.read? now) }

/-- What is looked at of settings. -/
def Settings.outline : Outline :=
  .record Settings.fields [
    ("model", .record Options.fields []),
    ("system", .record Target.fields [])]

/-- What the files of a command hold. -/
structure Loaded where
  descriptor : Descriptor
  settings : Settings
  deployed : Option Deployed

variable {m : Type → Type} [Monad m]

/-- The descriptor of a file. -/
def loadDescriptor (surroundings : Surroundings m) (path : String) :
    ExceptT Failure m Descriptor := do
  let summary := s!"Failed to load descriptor: {path}"
  match ← surroundings.fileText path with
  | none => throw ⟨summary, some s!"failed to read descriptor {path}"⟩
  | some text =>
    match Descriptor.load text with
    | .ok descriptor => return descriptor
    | .error error => throw ⟨summary, some error.message⟩

/-- The content of a file, of which the outline is looked at. -/
def loadYaml {α : Type} (surroundings : Surroundings m) (outline : Outline)
    (read : Yaml.Tree → Option α) (path : String) : ExceptT Failure m α := do
  match ← surroundings.fileText path with
  | none => throw ⟨s!"Failed to read file: {path}", none⟩
  | some text =>
    match (Yaml.Tree.ofText? outline text).bind read with
    | some content => return content
    | none => throw ⟨s!"Failed to parse file: {path}", none⟩

/-- The files of a command, read in this order: of several that cannot be read
the first is reported. -/
def load (surroundings : Surroundings m) (inputs : Inputs) : ExceptT Failure m Loaded := do
  let descriptor ← loadDescriptor surroundings inputs.descriptor
  let now ← surroundings.now
  let settings ← loadYaml surroundings Settings.outline (Settings.read? now) inputs.config
  let deployed ← inputs.deployed.mapM (loadYaml surroundings Deployed.outline Deployed.read?)
  return { descriptor, settings, deployed }

/-! ### Commands -/

/-- The value of an outcome; its error is the cause of a failure. -/
def orFail {ε α : Type} (summary : String) (message : ε → String) : Except ε α → Except Failure α
  | .ok value => .ok value
  | .error error => .error ⟨summary, some (message error)⟩

/-- A report of success. -/
def succeed (output : String) : Report := ⟨0, output, ""⟩

/-- Text in lines, each with its end. -/
def lines (texts : List String) : String := String.join (texts.map (· ++ "\n"))

/-- The summary of a model. -/
def summaryLines (descriptor : Descriptor) (model : CloudModel) : List String :=
  let entries := model.entries.entries.foldl (fun size e => size + e.2.length) 0
  let hash := String.ofList (model.fingerprint.toList.take 12)
  [s!"✓ Built cloud model for {descriptor.id} ({hash})",
    s!"  Applications: {model.applications.length}",
    s!"  Services: {model.services.length}",
    s!"  Service keys: {model.serviceKeys.length}",
    s!"  Configuration entries: {entries}",
    "  Deployment order: " ++ String.intercalate ", " model.order.modules]

/-- Report the model. What its author wrote in vain goes to the error output,
so the output holds the model alone. -/
def build (loaded : Loaded) (path : String) (output : OutputFormat) : Except Failure Report := do
  let ⟨options, target⟩ := loaded.settings
  let model ← orFail s!"Failed to build cloud model: {path}" ContentError.message
    (CloudModel.ofDescriptor options target loaded.deployed loaded.descriptor).result
  let text := match output with
    | .json => lines [model.toJson.indented]
    | .text => lines (summaryLines loaded.descriptor model)
  return ⟨0, text, lines (model.warnings.map ("⚠ " ++ ·))⟩

/-- Report the manifests. -/
def manifests (loaded : Loaded) (path : String) : Except Failure Report := do
  let ⟨options, target⟩ := loaded.settings
  let manifests ← orFail s!"Failed to build Kubernetes manifests: {path}" ContentError.message
    (Kubernetes.manifestsFor options target loaded.descriptor)
  return succeed (Kubernetes.yaml manifests)

/-- Report the names of services. -/
def names (loaded : Loaded) (output : OutputFormat) : Except Failure Report := do
  let ⟨options, target⟩ := loaded.settings
  let names ← orFail "Failed to compute service names" ContentError.message
    (CloudModel.serviceNames options target loaded.descriptor)
  match output with
  | .json => return succeed (lines [(Json.ofMap (names.map .str)).indented])
  | .text =>
    if names.isEmpty then return succeed (lines ["• No service resources"])
    else return succeed (lines (names.entries.map fun (resource, name) => s!"{resource} → {name}"))

/-- Report the services created. -/
def createdReport (created : List CreatedService) : Report :=
  if created.isEmpty then succeed (lines ["• No managed services to create"])
  else succeed (lines (created.map fun c => s!"✓ Created {c.name} ({c.label})"))

/-- Create the managed services with a controller. A listing with more pages
than the limit is a failure of its own, since the platform gave none. -/
def createWith (controller : Controller) (services : List Service) :
    Except Failure (List CreatedService) :=
  let summary := "Failed to create services"
  match (Service.createAll controller.platform services).run [] with
  | none => .error ⟨summary, some s!"a listing has more than {controller.pageLimit} pages"⟩
  | some (creation, _) => orFail summary CreationError.message creation.result

/-- Create the managed services and report them. The previous deployment
plays no part. -/
def createServices (loaded : Loaded) (path token : String) (client : Client)
    (pageLimit : Nat) : Except Failure Report := do
  let ⟨options, target⟩ := loaded.settings
  -- Asked for first: without a space no model is built.
  match target.spaceGuid with
  | none => throw ⟨"Setting system.space-guid is required to create services", none⟩
  | some spaceGuid =>
    let model ← orFail s!"Failed to build cloud model: {path}" ContentError.message
      (CloudModel.ofDescriptor options target none loaded.descriptor).result
    let baseUrl := Controller.trimSlashes target.controllerUrl
    let controller : Controller := { client, baseUrl, token, spaceGuid, pageLimit }
    return createdReport (← createWith controller model.services)

/-- Carry out a command. -/
def perform (surroundings : Surroundings m) (command : Command) : ExceptT Failure m Report := do
  match command with
  | .build inputs output => build (← load surroundings inputs) inputs.descriptor output
  | .manifests inputs => manifests (← load surroundings inputs) inputs.descriptor
  | .names inputs output => names (← load surroundings inputs) output
  | .createServices inputs token =>
    createServices (← load surroundings inputs) inputs.descriptor token surroundings.client
      surroundings.pageLimit

/-! ### Runs -/

/-- What the program does, and how it is called. -/
def helpText : String := lines [
  s!"{Command.program} - Compile deployment descriptors into cloud models",
  "",
  s!"Usage: {Command.program} [OPTIONS] <COMMAND>",
  "",
  "Commands: " ++ String.intercalate ", " Command.topLevel.commands]

/-- Carry out the words of a command line. -/
def run (surroundings : Surroundings m) (words : List String) : m Report := do
  match Request.ofWords surroundings.token words with
  | .error error => return ⟨2, "", s!"error: {error.message}\n"⟩
  | .ok .nothing => return ⟨2, "", helpText⟩
  | .ok .help => return succeed helpText
  | .ok .version => return succeed s!"{Command.program} 0.7.0\n"
  | .ok (.perform command) =>
    match ← (perform surroundings command).run with
    | .ok report => return report
    | .error failure => return ⟨1, "", failure.message⟩

end MultiTarget.CommandLine
