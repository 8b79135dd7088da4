import MultiTarget.Descriptor
import MultiTarget.HostLabel
import MultiTarget.Placeholder
import MultiTarget.Text.Cut
import MultiTarget.Timestamp

/-!
# `MultiTarget.Target`: where a descriptor is deployed to

A target is an organisation and a space of a platform with its domains
and endpoints. `Target.prepare` writes its values into the parameters of
a descriptor as defaults: what the author of the descriptor has set
stays.

Specification 6 (injected values) and X.4 (`SystemParameters`). `prepare` is
`inject_into`, `defaultHost` is `default_host`, and `placeholderValues` is
`placeholder_context`.
-/

set_option autoImplicit false

namespace MultiTarget

/-- The target of a deployment. -/
structure Target where
  org : String
  space : String
  orgGuid : Option String
  spaceGuid : Option String
  user : Option String
  defaultDomain : String
  defaultIdleDomain : Option String
  controllerUrl : String
  authorizationEndpoint : Option String
  deployServiceUrl : Option String
  /-- The protocol of routes if it is not that of the controller. -/
  routeProtocol : Option String
  routerPort : Option Nat
  timestamp : Timestamp
  deriving DecidableEq, Repr

namespace Target

/-- The protocol of routes: as given, else the scheme of the controller,
else `https`. -/
def protocol (target : Target) : String :=
  match target.routeProtocol with
  | some protocol => protocol
  | none =>
    match Text.cutFirst? "://".toList target.controllerUrl.toList with
    | some (c :: scheme, _) => String.ofList (c :: scheme)
    | _ => "https"

/-- The default host of a module: the label of organisation, space and module
together, cut at the limit of labels. -/
def defaultHost (target : Target) (moduleName : String) : String :=
  HostLabel.ofText (target.org ++ " " ++ target.space ++ " " ++ moduleName)

/-- The values of placeholders. Domain, protocol and controller are always
known; what the target leaves out stays a placeholder. -/
def placeholderValues (target : Target) : Placeholder.Values where
  defaultDomain := some target.defaultDomain
  defaultIdleDomain := target.defaultIdleDomain
  protocol := some target.protocol
  authorizationEndpoint := target.authorizationEndpoint
  deployServiceUrl := target.deployServiceUrl
  controllerEndpoint := some target.controllerUrl
  routerPort := target.routerPort.map toString

/-! ### Defaults -/

/-- A scope with the values of a list put in where it has none. A null of the
author counts as set. -/
def withDefaults (scope : Parameters) (defaults : List (String × Json)) : Parameters :=
  defaults.foldl (fun scope e => scope.insertNew e.1 e.2) scope

/-- The defaults in the scope of the descriptor. What the target leaves out is
no default. -/
def generalDefaults (target : Target) : List (String × Json) :=
  Json.entry "org" (.str target.org) ++
  Json.entry "space" (.str target.space) ++
  Json.entry "default-domain" (.str target.defaultDomain) ++
  Json.entry "controller-url" (.str target.controllerUrl) ++
  Json.entry "protocol" (.str target.protocol) ++
  Json.entry "timestamp" (.str target.timestamp.render) ++
  Json.textEntry "user" target.user ++
  Json.textEntry "default-idle-domain" target.defaultIdleDomain ++
  Json.textEntry "authorization-url" target.authorizationEndpoint ++
  Json.textEntry "deploy-url" target.deployServiceUrl

/-- The defaults of a module. They stand in its own scope, where they hide what
the descriptor says of the same keys. -/
def moduleDefaults (target : Target) (name : String) : List (String × Json) := [
  ("default-app-name", .str name),
  ("default-host", .str (target.defaultHost name)),
  -- The marker is part of what is cut, so a long name may lose it.
  ("default-idle-host", .str (target.defaultHost (name ++ "-idle"))),
  ("default-instances", .int 1)]

/-- The defaults of a resource. -/
def resourceDefaults (name : String) : List (String × Json) :=
  [("default-service-name", .str name)]

/-- A module with its defaults. Only its own scope is asked for what is set
already. -/
def prepareModule (target : Target) (m : Module) : Module :=
  { m with parameters := withDefaults m.parameters (target.moduleDefaults m.name) }

/-- A resource with its defaults. -/
def prepareResource (resource : Resource) : Resource :=
  { resource with
    parameters := withDefaults resource.parameters (resourceDefaults resource.name) }

/-- A descriptor with the values of the target as defaults. -/
def prepare (target : Target) (descriptor : Descriptor) : Descriptor :=
  { descriptor with
    parameters := withDefaults descriptor.parameters target.generalDefaults
    modules := descriptor.modules.map target.prepareModule
    resources := descriptor.resources.map prepareResource }

/-! ### Reading -/

/-- A timestamp of a tree. -/
def readTimestamp {σ : Type} [Source σ] (tree : σ) : Option Timestamp :=
  (Source.text? tree).bind Timestamp.parse?

/-- A port number of a tree. -/
def readPort {σ : Type} [Source σ] (tree : σ) : Option Nat :=
  (Source.number? tree).filter (· < 0x10000)

/-- The fields of a target in order. -/
def fields : List FieldName :=
  Record.plainFields ["org", "space", "org-guid", "space-guid", "user", "default-domain",
    "default-idle-domain", "controller-url", "authorization-endpoint", "deploy-service-url",
    "protocol", "router-port", "timestamp"]

/-- Read a target; its timestamp is `now` if left out. -/
def read? {σ : Type} [Source σ] (now : Timestamp) (tree : σ) : Option Target := do
  let r ← Record.read? fields tree
  return {
    org := ← r.required "org" Source.text?
    space := ← r.required "space" Source.text?
    orgGuid := ← r.optional "org-guid" Source.text?
    spaceGuid := ← r.optional "space-guid" Source.text?
    user := ← r.optional "user" Source.text?
    defaultDomain := ← r.required "default-domain" Source.text?
    defaultIdleDomain := ← r.optional "default-idle-domain" Source.text?
    controllerUrl := ← r.required "controller-url" Source.text?
    authorizationEndpoint := ← r.optional "authorization-endpoint" Source.text?
    deployServiceUrl := ← r.optional "deploy-service-url" Source.text?
    routeProtocol := ← r.optional "protocol" Source.text?
    routerPort := ← r.optional "router-port" readPort
    timestamp := ← r.orElse "timestamp" readTimestamp now }

end Target

end MultiTarget
