import MultiTarget.Digest.Fingerprint
import MultiTarget.Environment
import MultiTarget.Kubernetes.Write
import MultiTarget.Uri

/-!
# `MultiTarget.Kubernetes.Workload`: manifests of modules

A module is a deployment or a job. Either has a configuration with its
environment; a deployment also has a service, and an ingress if the
module lists routes. All manifests of a module have the same labels, and
pods are found by the label `app`.

Specification 4.10 and X.6.15. `configMap`, `podTemplate`, `deployment`,
`job`, `networkService` and `ingress` are `config_map`, `pod_template`,
`deployment`, `job`, `service` and `ingress`; `moduleManifests` is
`build_module`, and `requiredNames` is `required_of_type`.
-/

set_option autoImplicit false

namespace MultiTarget.Kubernetes

/-- The types of resources that become manifests. -/
inductive ResourceType where
  | dockerSecret
  | secret
  | serviceInstance
  deriving DecidableEq, Repr

/-- The name of a type of resources. -/
def ResourceType.name : ResourceType → String
  | dockerSecret => "docker-secret"
  | secret => "secret"
  | serviceInstance => "service-instance"

/-- What manifests are made from besides modules and resources. -/
structure Synthesis where
  descriptor : Descriptor
  values : Placeholder.Values
  prettyPrinting : Bool
  deriving DecidableEq, Repr

namespace Synthesis

/-- The labels of all manifests of a module or a resource. Only `app` tells
them apart within one descriptor. -/
def labels (s : Synthesis) (name : String) : Labels :=
  .ofList [("app", name), ("mta", s.descriptor.id), ("release", s.descriptor.version)]

/-- The labels that find the pods of a module. The version is not among them,
so that pods of an earlier one are found as well. -/
def appSelector (labels : Labels) : Labels := labels.filter fun key _ => key == "app"

/-- A resource is active and of a type. A type that is no text is no type here,
and the fault is left to the manifests of the resource. -/
def isOfType (type : ResourceType) (resource : Resource) : Bool :=
  resource.isActive && match resource.declaredType with
    | .ok (some name) => name == type.name
    | _ => false

/-- The names of the active resources of a type that a module requires, once
for every requirement: two requirements of one resource give its name twice. -/
def requiredNames (s : Synthesis) (m : Module) (type : ResourceType) : List String :=
  let required := m.requires.filterMap fun dependency => s.descriptor.resource? dependency.name
  (required.filter (isOfType type)).map (·.name)

/-- The configuration of a module: its environment as texts. Deployments to a
cluster have no identifier, so none is handed in. -/
def configMap (s : Synthesis) (m : Module) (labels : Labels) :
    Except ContentError ConfigMap := do
  let services := s.requiredNames m .serviceInstance
  let env ← Environment.ofModule s.values none s.descriptor m services
  return ⟨.plain m.name labels, env.texts s.prettyPrinting⟩

/-- The fingerprint of a configuration, metadata included. -/
def checksum (config : ConfigMap) : String := Digest.fingerprint (.obj config.fields)

/-- The template of the pods of a module. Its annotation changes with the
configuration, so that pods are replaced when it does. -/
def podTemplate (s : Synthesis) (m : Module) (chain : ScopeChain) (labels : Labels)
    (config : ConfigMap) (policy : RestartPolicy) (port : Option Nat) :
    Except ContentError PodTemplate := do
  match ← chain.text? "container-image" with
  | none => throw (.missingContainerImage m.name)
  | some image =>
    return {
      -- The name is left empty: pods are named by the workload they belong to.
      metadata := ⟨"", labels, .ofList [("mta/config-checksum", checksum config)]⟩
      containerName := m.name
      image
      containerPort := port
      configMapName := config.metadata.name
      restartPolicy := policy
      pullSecrets := s.requiredNames m .dockerSecret }

/-- A number that fits into 32 bits, or a value for its absence. Defaults of
other names are not looked at. -/
def count (m : Module) (chain : ScopeChain) (key : String) (absent : Nat) :
    Except ContentError Nat := do
  match ← chain.integer? key with
  | none => return absent
  | some n =>
    if 0 ≤ n && n < 0x100000000 then return n.toNat
    else throw (.invalidType m.name key "non-negative integer")

/-- The deployment of a module. -/
def deployment (s : Synthesis) (m : Module) (chain : ScopeChain) (labels : Labels)
    (config : ConfigMap) (port : Nat) : Except ContentError Deployment := do
  return {
    metadata := .plain m.name labels
    replicas := ← count m chain "instances" 1
    matchLabels := appSelector labels
    template := ← s.podTemplate m chain labels config .always (some port) }

/-- The job of a module. -/
def job (s : Synthesis) (m : Module) (chain : ScopeChain) (labels : Labels)
    (config : ConfigMap) : Except ContentError Job := do
  return {
    metadata := .plain m.name labels
    retries := ← count m chain "retries" 0
    template := ← s.podTemplate m chain labels config .never none }

/-- The port of services. -/
def servicePort : Nat := 80

/-- The port of a container; a module that names none has the usual one. Zero
is refused here. -/
def containerPort (chain : ScopeChain) : Except ContentError Nat := do
  match ← chain.integer? "port" with
  | none => return 8080
  | some port =>
    if 0 < port && port < 0x10000 then return port.toNat
    else throw (chain.invalid "port" "port number")

/-- The service of a module. -/
def networkService (m : Module) (labels : Labels) (port : Nat) : NetworkService where
  metadata := .plain m.name labels
  selector := appSelector labels
  port := servicePort
  targetPort := port

/-- The host of a route, without scheme, port and path. It may be empty, and
then the route has no rule. -/
def routeHost (route : String) : String :=
  String.ofList ((Uri.withoutScheme route.toList).takeWhile fun c => c ≠ '/' && c ≠ ':')

/-- The route of an entry of a list of routes. -/
def routeOf? : Json → Option (List String)
  | .str route => some [route]
  | .obj entries => some ((Entries.lookup "route" entries).bind Json.text?).toList
  | _ => none

/-- The routes that a module lists. -/
def listedRoutes (m : Module) (chain : ScopeChain) : Except ContentError (List String) := do
  let single ← chain.text? "route"
  let entries := (← chain.list? "routes").getD []
  match entries.mapM routeOf? with
  | some routes => return single.toList ++ routes.flatten
  | none => throw (.invalidType m.name "routes" "list of routes")

/-- The hosts of routes, each once. Values are put in place of placeholders
first, so that a port or a path may come with one. -/
def routeHosts (s : Synthesis) (routes : List String) : List String :=
  let hosts := routes.map fun route => routeHost (Template.substitute s.values route)
  (hosts.filter (!·.isEmpty)).eraseDups

/-- The ingress of a module that lists routes. Routes without a host make it an
ingress without rules; only a module without routes has none. -/
def ingress (s : Synthesis) (m : Module) (chain : ScopeChain) (labels : Labels) :
    Except ContentError (Option Ingress) := do
  match ← listedRoutes m chain with
  | [] => return none
  | routes =>
    let rules := (s.routeHosts routes).map fun host => IngressRule.mk host m.name servicePort
    return some ⟨.plain m.name labels, rules⟩

/-- The manifests of a deployment: configuration, workload, service, and an
ingress if it has one. -/
def deploymentManifests (s : Synthesis) (m : Module) (chain : ScopeChain) (labels : Labels)
    (config : ConfigMap) : Except ContentError (List Manifest) := do
  -- Read once for the pods and the service, which must agree on it.
  let port ← containerPort chain
  let deployment ← s.deployment m chain labels config port
  let ingress ← s.ingress m chain labels
  return [.configMap config, .deployment deployment, .service (networkService m labels port)] ++
    (ingress.map Manifest.ingress).toList

/-- The manifests of a module. The configuration is made before the type
decides, so its faults are reported before an unknown type. -/
def moduleManifests (s : Synthesis) (m : Module) : Except ContentError (List Manifest) := do
  let chain := s.descriptor.moduleScopes m
  -- The parameter, in any scope; the type that is an attribute of the module does not count.
  let type := (← chain.text? "type").getD "deployment"
  let labels := s.labels m.name
  let config ← s.configMap m labels
  if type = "deployment" then s.deploymentManifests m chain labels config
  else if type = "job" then return [.configMap config, .job (← s.job m chain labels config)]
  else throw (.unknownModuleType m.name type)

end Synthesis

end MultiTarget.Kubernetes
