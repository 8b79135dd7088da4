import MultiTarget.Kubernetes.Workload
import MultiTarget.Options
import MultiTarget.Target
import MultiTarget.Text.Base64
import MultiTarget.Yaml.Write

/-!
# `MultiTarget.Kubernetes.Provision`: manifests of resources

A resource becomes a secret, for pulling images or with arbitrary data,
or a service of the service catalog with a binding. `manifests` puts the
manifests of all modules before those of all active resources.

Specification 4.10 and X.6.15. `dockerSecret`, `dataSecret` and
`serviceInstance` are `docker_secret`, `opaque_secret` and
`service_instance`; `resourceManifests` is `build_resource`, `manifests` is
`build`, and `yaml` is `to_yaml`.
-/

set_option autoImplicit false

namespace MultiTarget.Kubernetes

namespace Synthesis

/-- A text that a resource must have, in any of its scopes. A null counts as
missing. -/
def requiredText (resource : Resource) (chain : ScopeChain) (type : ResourceType)
    (key : String) : Except ContentError String := do
  match ← chain.text? key with
  | some text => return text
  | none => throw (.missingParameter resource.name type.name key)

/-- The credentials of a registry of images, in the form in which such secrets
are read: user and password again as one word in base 64. -/
def registryAccess (registry username password : String) : Json :=
  .obj <| Json.entry "auths" <| .obj <| Json.entry registry <| .obj <|
    Json.entry "auth" (.str (Text.base64 (username ++ ":" ++ password))) ++
    Json.entry "password" (.str password) ++
    Json.entry "username" (.str username)

/-- The secret for pulling images from a registry. -/
def dockerSecret (resource : Resource) (chain : ScopeChain) (labels : Labels) :
    Except ContentError Secret := do
  let registry ← requiredText resource chain .dockerSecret "registry"
  let username ← requiredText resource chain .dockerSecret "username"
  let password ← requiredText resource chain .dockerSecret "password"
  let access := (registryAccess registry username password).compact
  return {
    metadata := .plain resource.name labels
    type := .dockerConfig
    data := .ofList [(".dockerconfigjson", Text.base64 access)] }

/-- A value as the text of a secret: a string as it is, all else as JSON. -/
def secretText : Json → String := Environment.valueText false

/-- A secret with the data of a resource, which are its own and not those of
the descriptor. Without data it is an empty secret; a null is no map. -/
def dataSecret (resource : Resource) (labels : Labels) : Except ContentError Secret := do
  -- Not through the chain: secrets of a resource do not come from the descriptor.
  let data ← match resource.parameters.get? "data" with
    | none => pure []
    | some (.obj entries) => pure entries
    | some value => throw (.invalidSecretData resource.name value.kind)
  return {
    metadata := .plain resource.name labels
    type := .opaqueData
    data := (OrderedMap.ofList data).map fun value => Text.base64 (secretText value) }

/-- The service of a resource. Its class may be given under a name of its own
or as the service; only the latter is named as missing. -/
def serviceInstance (resource : Resource) (chain : ScopeChain) (labels : Labels) :
    Except ContentError ServiceInstance := do
  let className ← match ← chain.text? "service-class" with
    | some name => pure name
    | none => requiredText resource chain .serviceInstance "service"
  return {
    metadata := .plain resource.name labels
    className
    planName := ← requiredText resource chain .serviceInstance "service-plan"
    parameters := .ofList ((← chain.map? "config").getD []) }

/-- The binding of the service of a resource. Its secret has the name of the
resource. -/
def serviceBinding (resource : Resource) (labels : Labels) : ServiceBinding where
  metadata := .plain (resource.name ++ "-binding") labels
  instanceName := resource.name
  secretName := resource.name

/-- The manifests of a resource of a type. Other than for services of an
application, a type that is not known is a fault. -/
def manifestsOfType (s : Synthesis) (resource : Resource) (type : String) :
    Except ContentError (List Manifest) := do
  let chain := s.descriptor.resourceScopes resource
  let labels := s.labels resource.name
  if type = ResourceType.dockerSecret.name then
    return [.secret (← dockerSecret resource chain labels)]
  else if type = ResourceType.secret.name then
    return [.secret (← dataSecret resource labels)]
  else if type = ResourceType.serviceInstance.name then
    return [.serviceInstance (← serviceInstance resource chain labels),
      .serviceBinding (serviceBinding resource labels)]
  else throw (.unknownResourceType resource.name type)

/-- The manifests of a resource, active or not; without a type it has
none. -/
def resourceManifests (s : Synthesis) (resource : Resource) :
    Except ContentError (List Manifest) := do
  match ← resource.declaredType with
  | none => return []
  | some type => s.manifestsOfType resource type

/-- The manifests of all modules and of all active resources, in order of
declaration. Modules come first, so a fault in one is reported before a fault
in a resource. -/
def manifests (s : Synthesis) : Except ContentError (List Manifest) := do
  let ofModules ← s.descriptor.modules.mapM s.moduleManifests
  let ofResources ←
    (s.descriptor.resources.filter (·.isActive)).mapM s.resourceManifests
  return ofModules.flatten ++ ofResources.flatten

end Synthesis

/-- The manifests of a descriptor for a target. Of the options only the
printing of values counts. -/
def manifestsFor (options : Options) (target : Target) (descriptor : Descriptor) :
    Except ContentError (List Manifest) :=
  Synthesis.manifests
    ⟨target.prepare descriptor, target.placeholderValues, options.prettyPrinting⟩

/-- Manifests as YAML, one document each. -/
def yaml (manifests : List Manifest) : String := Yaml.writeAll (manifests.map Manifest.toJson)

end MultiTarget.Kubernetes
