import MultiTarget.Descriptor.Read
import MultiTarget.Json.Entry
import MultiTarget.ParameterName
import MultiTarget.ServiceNaming

/-!
# `MultiTarget.Service`: services of resources

Every active resource of a service kind becomes at most one service: a
managed one with its offering and plan, a user-provided one with
credentials alone, or an existing one that is only bound to. A resource
that stands for a key of an existing service becomes none.

Specification 4.6, X.6.3 and X.6.4. `service` is `build_service`, `services`
is `build`, `serviceKeys` is `build_service_keys`, `checkParameters` is
`check_required_parameters`, and `candidates` is `candidate_labels`.
-/

set_option autoImplicit false

namespace MultiTarget

/-- What is left alone when a service exists already. -/
structure SkippedUpdates where
  parameters : Bool
  tags : Bool
  plan : Bool
  syslogDrainUrl : Bool
  deriving DecidableEq, Repr

/-- A service that is created, updated or bound to. -/
structure Service where
  /-- The name on the platform. -/
  name : String
  resourceName : String
  kind : ServiceKind
  /-- The offering of a managed service. -/
  label : Option String
  plan : Option String
  provider : Option String
  broker : Option String
  version : Option String
  /-- Offerings to try after the label. -/
  alternatives : List String
  credentials : Parameters
  tags : List String
  syslogDrainUrl : Option String
  isOptional : Bool
  /-- The service belongs to the deployment. -/
  isManaged : Bool
  ignoreUpdateErrors : Bool
  skippedUpdates : SkippedUpdates
  deriving DecidableEq, Repr

/-- A key to be created for a service. -/
structure ServiceKey where
  name : String
  serviceName : String
  config : Parameters
  deriving DecidableEq, Repr

namespace Service

/-- The offerings that are tried in turn. -/
def candidates (service : Service) : List String := service.label.toList ++ service.alternatives

/-- The known parameters of a resource. -/
def knownParameters : List (List String) := [ParameterName.service, ParameterName.shared]

/-- The first parameter that a resource of a kind must have and has not. A
parameter that is null is there: it is found missing only by the reader that
needs its text, if any does. -/
def missingParameter? (kind : ServiceKind) (chain : ScopeChain) : Option String :=
  kind.requiredParameters.find? fun parameter => !chain.contains parameter

/-- A resource has the parameters that its kind needs, with values of any
shape. -/
def checkParameters (resource : Resource) (kind : ServiceKind) (chain : ScopeChain) :
    Except ContentError Unit :=
  match missingParameter? kind chain with
  | some parameter => .error (.missingParameter resource.name kind.name parameter)
  | none => .ok ()

/-- The credentials of a service. Absent or null they are empty; no other value
but a map stands for credentials. -/
def credentialsOf (name : String) (chain : ScopeChain) : Except ContentError Parameters :=
  match chain.get? "config" with
  | none | some .null => .ok ∅
  | some (.obj entries) => .ok (.ofList entries)
  | some value => .error (.invalidServiceConfig name value.kind)

/-- What a resource leaves alone. Whatever its map does not name is updated. -/
def skippedUpdatesOf (chain : ScopeChain) : Except ContentError SkippedUpdates := do
  let key := "skip-service-updates"
  let entries := (← chain.map? key).getD []
  return {
    parameters := ← chain.innerFlag key entries "parameters" false
    tags := ← chain.innerFlag key entries "tags" false
    plan := ← chain.innerFlag key entries "plan" false
    syslogDrainUrl := ← chain.innerFlag key entries "syslog-drain-url" false }

/-- What services of every kind have in common. A resource that is optional by
its attribute is not asked for the parameter, so a parameter of the wrong shape
is no fault there. -/
def base (name : String) (resource : Resource) (kind : ServiceKind) (chain : ScopeChain) :
    Except ContentError Service := do
  return {
    name
    resourceName := resource.name
    kind
    label := none
    plan := none
    provider := none
    broker := none
    version := none
    alternatives := []
    credentials := ∅
    tags := []
    syslogDrainUrl := none
    -- The attribute decides before the parameter is looked at.
    isOptional := ← if resource.isOptional then pure true else chain.flag "optional" false
    isManaged := false
    ignoreUpdateErrors := ← chain.flag "ignore-update-errors" false
    skippedUpdates := ← skippedUpdatesOf chain }

/-- A managed service. Label and plan are looked up as texts once more, so
either may be absent here although the check of required parameters passed. -/
def managed (base : Service) (chain : ScopeChain) : Except ContentError Service := do
  return { base with
    label := ← chain.text? "service"
    plan := ← chain.text? "service-plan"
    provider := ← chain.text? "service-provider"
    broker := ← chain.text? "service-broker"
    version := ← chain.text? "service-version"
    alternatives := ← chain.texts "service-alternatives"
    credentials := ← credentialsOf base.name chain
    tags := ← chain.texts "service-tags"
    isManaged := true }

/-- A user-provided service, whose label is ignored with a warning. The warning
is raised before its credentials are read. -/
def userProvided (base : Service) (chain : ScopeChain) : Build Service := do
  if let some label ← chain.text? "service" then
    Build.warn [.ignoredLabel base.name label]
  return { base with
    credentials := ← credentialsOf base.name chain
    tags := ← chain.texts "service-tags"
    syslogDrainUrl := ← chain.text? "syslog-drain-url"
    isManaged := true }

/-- The service of a resource of a kind. What is missing is reported before
anything is warned of, and warnings are raised before the rest is read; a key
of an existing service passes all of this and gives no service. -/
def ofKind (naming : ServiceNaming) (resource : Resource) (chain : ScopeChain)
    (kind : ServiceKind) : Build (Option Service) := do
  -- Without these nothing else is looked at, not even what is unsupported.
  checkParameters resource kind chain
  chain.warnUnsupported knownParameters
  let base ← base (← naming.name resource) resource kind chain
  match kind with
  | .managed => return some (← managed base chain)
  | .userProvided => return some (← userProvided base chain)
  -- Bound to, never created: what is common to all services is all it has.
  | .existing => return some base
  -- Checked like the others, but the key belongs to the modules that require it.
  | .existingKey => return none

end Service

namespace Descriptor

/-- The service of a resource, active or not; `services` asks for active ones
only. -/
def service (descriptor : Descriptor) (naming : ServiceNaming) (resource : Resource) :
    Build (Option Service) := do
  match ← resource.serviceKind with
  | none => return none
  | some kind => Service.ofKind naming resource (descriptor.resourceScopes resource) kind

/-- The active resources. -/
def activeResources (descriptor : Descriptor) : List Resource :=
  descriptor.resources.filter (·.isActive)

/-- The services of all active resources in order of declaration. Two resources
may give services of one name. -/
def services (descriptor : Descriptor) (naming : ServiceNaming) : Build (List Service) := do
  let found ← Build.forEach (descriptor.service naming) descriptor.activeResources
  return found.filterMap fun service => service

end Descriptor

/-! ### Keys -/

namespace ServiceKey

/-- The name of a key. Unlike most parameters it may not be null. -/
def nameOf (resource : Resource) (entries : List (String × Json)) : Except ContentError String :=
  match Entries.lookup "name" entries with
  | some (.str name) => .ok name
  | some _ => .error (.invalidType resource.name "service-keys" "string key name")
  | none => .error (.missingParameter resource.name "service-keys" "name")

/-- The parameters of a key. -/
def configOf (resource : Resource) (entries : List (String × Json)) :
    Except ContentError Parameters :=
  match Entries.lookup "config" entries with
  | none | some .null => .ok ∅
  | some (.obj config) => .ok (.ofList config)
  | some _ => .error (.invalidType resource.name "service-keys" "map of key config")

/-- The key of an entry. -/
def ofJson (resource : Resource) (serviceName : String) : Json → Except ContentError ServiceKey
  | .obj entries => do
    return {
      name := ← nameOf resource entries
      serviceName
      config := ← configOf resource entries }
  | _ => .error (.invalidType resource.name "service-keys" "list of maps")

/-- A key as JSON. -/
def toJson (key : ServiceKey) : Json := .obj <|
  Json.entry "name" (.str key.name) ++
  Json.entry "service-name" (.str key.serviceName) ++
  Json.mapEntry "config" key.config

end ServiceKey

namespace Descriptor

/-- The keys of the service of a resource. Only managed and existing services
have keys. The name of the service is built only if keys are declared, so it
can be at fault only then. -/
def keysOf (descriptor : Descriptor) (naming : ServiceNaming) (resource : Resource) :
    Except ContentError (List ServiceKey) := do
  match ← resource.serviceKind with
  | some .managed | some .existing =>
    match ← (descriptor.resourceScopes resource).list? "service-keys" with
    | none => return []
    -- An empty list of keys still names the service, and so may fail.
    | some entries =>
      let serviceName ← naming.name resource
      entries.mapM (ServiceKey.ofJson resource serviceName)
  | _ => return []

/-- The keys of the services of all active resources. -/
def serviceKeys (descriptor : Descriptor) (naming : ServiceNaming) :
    Except ContentError (List ServiceKey) :=
  return (← descriptor.activeResources.mapM (descriptor.keysOf naming)).flatten

end Descriptor

/-! ### Reading and writing -/

/-- Read what is left alone. -/
def SkippedUpdates.read? {σ : Type} [Source σ] (tree : σ) : Option SkippedUpdates := do
  let r ← Record.read? (Record.plainFields ["parameters", "tags", "plan", "syslog-drain-url"]) tree
  return {
    parameters := ← r.required "parameters" Source.flag?
    tags := ← r.required "tags" Source.flag?
    plan := ← r.required "plan" Source.flag?
    syslogDrainUrl := ← r.required "syslog-drain-url" Source.flag? }

/-- What is left alone as JSON. -/
def SkippedUpdates.toJson (s : SkippedUpdates) : Json := .obj <|
  Json.entry "parameters" (.bool s.parameters) ++
  Json.entry "tags" (.bool s.tags) ++
  Json.entry "plan" (.bool s.plan) ++
  Json.entry "syslog-drain-url" (.bool s.syslogDrainUrl)

/-- The fields of a service in order. -/
def Service.fields : List FieldName :=
  Record.plainFields ["name", "resource-name", "kind", "label", "plan", "provider", "broker",
    "version", "alternative-labels", "credentials", "tags", "syslog-drain-url", "optional",
    "managed", "ignore-update-errors", "skip-updates"]

/-- Read a service. -/
def Service.read? {σ : Type} [Source σ] (tree : σ) : Option Service := do
  let r ← Record.read? Service.fields tree
  return {
    name := ← r.required "name" Source.text?
    resourceName := ← r.required "resource-name" Source.text?
    kind := ← r.required "kind" ServiceKind.read?
    label := ← r.optional "label" Source.text?
    plan := ← r.optional "plan" Source.text?
    provider := ← r.optional "provider" Source.text?
    broker := ← r.optional "broker" Source.text?
    version := ← r.optional "version" Source.text?
    alternatives := ← r.orElse "alternative-labels" Source.texts? []
    credentials := ← r.orElse "credentials" Source.parameters? ∅
    tags := ← r.orElse "tags" Source.texts? []
    syslogDrainUrl := ← r.optional "syslog-drain-url" Source.text?
    isOptional := ← r.required "optional" Source.flag?
    isManaged := ← r.required "managed" Source.flag?
    ignoreUpdateErrors := ← r.required "ignore-update-errors" Source.flag?
    skippedUpdates := ← r.required "skip-updates" SkippedUpdates.read? }

/-- A service as JSON. -/
def Service.toJson (s : Service) : Json := .obj <|
  Json.entry "name" (.str s.name) ++
  Json.entry "resource-name" (.str s.resourceName) ++
  Json.entry "kind" (.str s.kind.name) ++
  Json.textEntry "label" s.label ++
  Json.textEntry "plan" s.plan ++
  Json.textEntry "provider" s.provider ++
  Json.textEntry "broker" s.broker ++
  Json.textEntry "version" s.version ++
  Json.listEntry "alternative-labels" (s.alternatives.map .str) ++
  Json.mapEntry "credentials" s.credentials ++
  Json.listEntry "tags" (s.tags.map .str) ++
  Json.textEntry "syslog-drain-url" s.syslogDrainUrl ++
  Json.entry "optional" (.bool s.isOptional) ++
  Json.entry "managed" (.bool s.isManaged) ++
  Json.entry "ignore-update-errors" (.bool s.ignoreUpdateErrors) ++
  Json.entry "skip-updates" s.skippedUpdates.toJson

end MultiTarget
