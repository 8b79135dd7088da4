import MultiTarget.Application
import MultiTarget.ConfigurationEntry
import MultiTarget.DeploymentOrder
import MultiTarget.Digest.Fingerprint
import MultiTarget.Service

/-!
# `MultiTarget.CloudModel`: all that is needed to deploy a descriptor

The model of a descriptor for a target: its applications in the order in
which they are deployed, its services with their keys, the entries it
publishes, and what its author wrote in vain. The descriptor is prepared
for the target first, so the same input always gives the same model.

Specification X.6.12. `ofDescriptor` is `prepare` followed by `build`,
`serviceNames` is `service_names`, and `unsupportedParameters` is
`unsupported_parameters`. The fields of the model are built in the order in
which they stand in it.
-/

set_option autoImplicit false

namespace MultiTarget

/-- The model of a descriptor. -/
structure CloudModel where
  /-- The applications in the order of deployment. -/
  applications : List Application
  services : List Service
  serviceKeys : List ServiceKey
  /-- Published entries by the names of modules. -/
  entries : OrderedMap (List ConfigurationEntry)
  order : DeploymentOrder
  /-- One message for each unsupported parameter. -/
  warnings : List String
  deriving DecidableEq, Repr

namespace CloudModel

/-- The messages about unsupported parameters, those of modules first. They are
taken from the declarations alone, so those of inactive resources are among
them, although building such a resource warns of nothing. -/
def unsupportedParameters (descriptor : Descriptor) : List String :=
  let ofModules := descriptor.modules.flatMap fun m =>
    ((descriptor.moduleScopes m).unsupported ApplicationPlan.knownParameters).map fun key =>
      s!"unsupported parameter \"{key}\" in module \"{m.name}\""
  let ofResources := (descriptor.resources.filter (·.isService)).flatMap fun resource =>
    ((descriptor.resourceScopes resource).unsupported Service.knownParameters).map fun key =>
      s!"unsupported parameter \"{key}\" in resource \"{resource.name}\""
  ofModules ++ ofResources

/-- The model of a descriptor that is prepared for its target. Of several
faults the one is reported that is met first: order, applications, services,
keys, entries. -/
def ofPrepared (options : Options) (target : Target) (deployed : Option Deployed)
    (descriptor : Descriptor) : Build CloudModel := do
  let naming := ServiceNaming.ofOptions options descriptor
  let plan : ApplicationPlan :=
    { descriptor, options, values := target.placeholderValues, naming, deployed }
  -- Before anything is built: applications stand in the order of deployment.
  let order ← DeploymentOrder.ofDescriptor descriptor
  -- An order has names, and each stands for the first module that bears it.
  let applications ← Build.forEach plan.application (order.modules.filterMap descriptor.module?)
  return {
    applications
    services := ← descriptor.services naming
    serviceKeys := ← descriptor.serviceKeys naming
    entries := ← ConfigurationEntry.ofDescriptor target descriptor
    order
    -- Computed apart from the warnings raised while building, and in its own order.
    warnings := unsupportedParameters descriptor }

/-- The model of a descriptor. -/
def ofDescriptor (options : Options) (target : Target) (deployed : Option Deployed)
    (descriptor : Descriptor) : Build CloudModel :=
  ofPrepared options target deployed (target.prepare descriptor)

/-- The name of the service of a resource with the name of the resource. -/
def namedService (naming : ServiceNaming) (resource : Resource) :
    Except ContentError (String × String) := do
  return (resource.name, ← naming.name resource)

/-- The names of the services of a descriptor by the names of their resources.
Only active resources of a service kind have one. A name is built even for a
key of an existing service, which is no service of its own. -/
def serviceNames (options : Options) (target : Target) (descriptor : Descriptor) :
    Except ContentError (OrderedMap String) := do
  -- Prepared here as well, since preparation gives resources the names of their services.
  let prepared := target.prepare descriptor
  let resources := prepared.activeResources.filter (·.isService)
  let names ← resources.mapM (namedService (ServiceNaming.ofOptions options prepared))
  return .ofList names

/-- A model as JSON. -/
def toJson (model : CloudModel) : Json := .obj <|
  Json.entry "applications" (.arr (model.applications.map Application.toJson)) ++
  Json.entry "services" (.arr (model.services.map Service.toJson)) ++
  Json.entry "service-keys" (.arr (model.serviceKeys.map ServiceKey.toJson)) ++
  Json.entry "configuration-entries" (.ofMap
    (model.entries.map fun entries => .arr (entries.map ConfigurationEntry.toJson))) ++
  Json.entry "deployment-order" model.order.toJson ++
  Json.entry "warnings" (.ofStrings model.warnings)

/-- The fingerprint of a model. -/
def fingerprint (model : CloudModel) : String := Digest.fingerprint model.toJson

end CloudModel

end MultiTarget
