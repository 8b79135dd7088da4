import MultiTarget.Json.Render
import MultiTarget.ParameterName
import MultiTarget.ScopeChain
import MultiTarget.Template

/-!
# `MultiTarget.Environment`: environments of applications

The environment of an application is made of layers. Where two layers
have the same key, the later one wins:

1. what the application and its module are, and its services;
2. the attributes of the module and the identifier of the deployment;
3. the properties of the module;
4. the properties of required dependencies without a group, of which the
   first with a key wins;
5. the groups: for every group the list of the dependencies in it.

Specification 4.5, with X.7 for repeated keys and groups. `ofModule` is
`build`; its layers are `add_metadata`, `add_attributes`, `add_properties`
and `add_dependencies`. `RestartTriggers.ofScopes` is `restart_parameters`,
and `texts` is `to_env_strings`.
-/

set_option autoImplicit false

namespace MultiTarget

/-- Variables with their values, which are arbitrary JSON. -/
abbrev Environment := OrderedMap Json

namespace Environment

/-- A map of the entries of a list. -/
def mapOf (entries : List (String × Json)) : Json := .ofMap (.ofList entries)

/-! ### Layers -/

/-- What the application and the module are. Dependencies that the module
provides are listed only if they are public. -/
def metadata (descriptor : Descriptor) (m : Module) (services : List String) :
    List (String × Json) := [
  ("MTA_METADATA", mapOf (
    Json.entry "id" (.str descriptor.id) ++
    Json.entry "version" (.str descriptor.version) ++
    Json.textEntry "description" descriptor.description ++
    Json.textEntry "provider" descriptor.provider ++
    Json.textEntry "copyright" descriptor.copyright)),
  ("MTA_MODULE_METADATA", mapOf (
    Json.entry "name" (.str m.name) ++
    Json.textEntry "description" m.description)),
  ("MTA_MODULE_PROVIDED_DEPENDENCIES",
    .ofStrings ((m.provides.filter (·.isPublic)).map (·.name))),
  ("MTA_SERVICES", .ofStrings services)]

/-- A value with placeholders in a text replaced. -/
def resolveText (values : Placeholder.Values) : Json → Json
  | .str text => .str (Template.substitute values text)
  | value => value

/-- A parameter with placeholders replaced in its text. A parameter that is
absent stays absent. -/
def resolveEntry (values : Placeholder.Values) (parameters : Parameters) (key : String) :
    Parameters :=
  match parameters.get? key with
  | some value => parameters.insert key (resolveText values value)
  | none => parameters

/-- The attributes of a module, placeholders replaced in the two that are
addresses. Only the scope of the module itself counts. -/
def attributes (values : Placeholder.Values) (m : Module) : Parameters :=
  ["service-url", "service-broker-url"].foldl (resolveEntry values) <|
    m.parameters.filter fun key _ => ParameterName.attributes.contains key

/-- The attributes and, if the module asks for it, the identifier of the
deployment. Without attributes, or without an identifier, the variable is left
out. -/
def deployment (values : Placeholder.Values) (deployId : Option String) (m : Module) :
    Except ContentError (List (String × Json)) := do
  let attributes := attributes values m
  -- A chain of one scope: what the descriptor says of this does not count.
  let checked ← ScopeChain.flag ⟨m.name, [m.parameters]⟩ "check-deploy-id" false
  return Json.mapEntry "DEPLOY_ATTRIBUTES" attributes ++
    Json.textEntry "DEPLOY_ID" (if checked then deployId else none)

/-- The properties of a module that are no attributes. One that bears the name
of an attribute is left out, although it is a property. -/
def properties (m : Module) : Parameters :=
  m.properties.filter fun key _ => !ParameterName.attributes.contains key

/-- The properties of the dependencies without a group; of several values of
one key the first stays. -/
def flattened (m : Module) : Parameters :=
  (m.requires.filter (·.destinationGroups.isEmpty)).foldr
    -- From the end: each dependency is laid over those that follow it.
    (fun dependency later => later.overlay dependency.properties) ∅

/-- What a group holds for a dependency: its name, overlaid with its
properties. -/
def groupRecord (dependency : RequiredDependency) : Json :=
  .ofMap <| (OrderedMap.ofList [("name", .str dependency.name)]).overlay dependency.properties

/-- The groups with a dependency in each, as often as it names them. A
dependency that names a group twice is in it twice. -/
def groupMembers (m : Module) : List (String × Json) :=
  m.requires.flatMap fun dependency =>
    dependency.destinationGroups.map fun group => (group, groupRecord dependency)

/-- The values of each key of a list, in order. -/
def collect (members : List (String × Json)) : OrderedMap (List Json) :=
  -- Appending keeps the members of a group in the order in which they are required.
  members.foldl (fun m e => m.insert e.1 ((m.get? e.1).getD [] ++ [e.2])) ∅

/-- The groups with their members. -/
def groups (m : Module) : Parameters := (collect (groupMembers m)).map .arr

/-- The environment of a module with services. The layers are laid over each
other in the order above, each hiding what has the same key; only the parameter
that asks for the identifier can be at fault. -/
def ofModule (values : Placeholder.Values) (deployId : Option String) (descriptor : Descriptor)
    (m : Module) (services : List String) : Except ContentError Environment := do
  -- Read first: it is the one layer that can fail.
  let deployment ← deployment values deployId m
  return (((OrderedMap.ofList (metadata descriptor m services)).insertAll deployment).overlay
    (properties m)).overlay (flattened m) |>.overlay (groups m)

/-! ### Text -/

/-- A value as the text of a variable: a string as it is, all else as
JSON. -/
def valueText (pretty : Bool) : Json → String
  | .str text => text
  | value => if pretty then value.indented else value.compact

/-- The environment as texts. -/
def texts (env : Environment) (pretty : Bool) : OrderedMap String := env.map (valueText pretty)

end Environment

/-- The changes of the environment that restart an application. -/
structure RestartTriggers where
  onApplicationChange : Bool
  onServicesChange : Bool
  onUserProvidedChange : Bool
  deriving DecidableEq, Repr

namespace RestartTriggers

/-- The triggers of a module; every change restarts the application
unless the module says otherwise. -/
def ofScopes (chain : ScopeChain) : Except ContentError RestartTriggers := do
  let key := "restart-on-env-change"
  let entries := (← chain.map? key).getD []
  return {
    onApplicationChange := ← chain.innerFlag key entries "vcap-application" true
    onServicesChange := ← chain.innerFlag key entries "vcap-services" true
    onUserProvidedChange := ← chain.innerFlag key entries "user-provided" true }

/-- Triggers as JSON. -/
def toJson (t : RestartTriggers) : Json := .obj <|
  Json.entry "on-vcap-application-change" (.bool t.onApplicationChange) ++
  Json.entry "on-vcap-services-change" (.bool t.onServicesChange) ++
  Json.entry "on-user-provided-change" (.bool t.onUserProvidedChange)

end RestartTriggers

end MultiTarget
