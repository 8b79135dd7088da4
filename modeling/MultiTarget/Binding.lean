import MultiTarget.ServiceNaming

/-!
# `MultiTarget.Binding`: services that modules are bound to

A module is bound to the services of the active resources it requires. A
resource that stands for a key of an existing service is no binding: its
key goes into the environment of the application.

Specification 4.8. `boundServices` and `ownServices` are `all_services` and
`creatable_services`; `bindingParameters` is `binding_parameters`, and
`injectedKeys` is `service_keys_to_inject`.
-/

set_option autoImplicit false

namespace MultiTarget

/-- A dependency that is met by the service of a resource. -/
structure Binding where
  dependency : RequiredDependency
  resource : Resource
  kind : ServiceKind
  deriving DecidableEq, Repr

/-- A key of an existing service that an application reads from a
variable. -/
structure InjectedKey where
  variableName : String
  serviceName : String
  keyName : String
  deriving DecidableEq, Repr

/-- A key as JSON. -/
def InjectedKey.toJson (key : InjectedKey) : Json := .obj <|
  Json.entry "env-var-name" (.str key.variableName) ++
  Json.entry "service-name" (.str key.serviceName) ++
  Json.entry "service-key-name" (.str key.keyName)

namespace Descriptor

/-- The first resource with a name, if it is active. A later resource of the
same name does not stand in for one that is not. -/
def activeResource? (descriptor : Descriptor) (name : String) : Option Resource :=
  (descriptor.resource? name).filter (·.isActive)

/-- The dependencies of a module on active resources. A name that is no
resource is passed over: it may be that of a provided dependency. -/
def activeRequirements (descriptor : Descriptor) (m : Module) :
    List (RequiredDependency × Resource) :=
  m.requires.filterMap fun dependency =>
    (descriptor.activeResource? dependency.name).map fun resource => (dependency, resource)

/-- The dependencies of a module on active services, with the kinds of the
services. Resources that describe no service drop out, but a type of the wrong
shape is a fault. -/
def serviceRequirements (descriptor : Descriptor) (m : Module) :
    Except ContentError (List Binding) := do
  -- All kinds are read before a requirement drops out, so the first fault is found anyway.
  let found ← (descriptor.activeRequirements m).mapM fun (dependency, resource) => do
    return (← resource.serviceKind).map fun kind => Binding.mk dependency resource kind
  return found.filterMap fun entry => entry

/-- The bindings of a module: all that it requires of services but keys of
existing ones. -/
def bindings (descriptor : Descriptor) (m : Module) : Except ContentError (List Binding) :=
  -- A key of an existing service goes into the environment and is bound to nothing.
  return (← descriptor.serviceRequirements m).filter (·.kind != .existingKey)

/-- The names of services, each once. Two resources may name the same service,
and then it is bound once. -/
def bindingNames (naming : ServiceNaming) (bindings : List Binding) :
    Except ContentError (List String) :=
  return (← bindings.mapM fun binding => naming.name binding.resource).eraseDups

/-- The names of all services that a module is bound to. -/
def boundServices (descriptor : Descriptor) (naming : ServiceNaming) (m : Module) :
    Except ContentError (List String) := do
  bindingNames naming (← descriptor.bindings m)

/-- The names of those services that do not exist already. These are the ones
the environment of the application tells of. -/
def ownServices (descriptor : Descriptor) (naming : ServiceNaming) (m : Module) :
    Except ContentError (List String) := do
  bindingNames naming ((← descriptor.bindings m).filter (·.kind != .existing))

/-- The binding parameters of a dependency, from its own scope alone. A null is
no map and is refused. -/
def bindingParametersOf (m : Module) (dependency : RequiredDependency) :
    Except ContentError (Option Parameters) :=
  match dependency.parameters.get? "config" with
  | none => .ok none
  | some (.obj entries) => .ok (some (.ofList entries))
  | some value => .error (.invalidBindingParameters m.name dependency.name value.kind)

/-- The binding parameters of one binding with the name of its service. The
name is built only where there are parameters to go with it. -/
def bindingEntry (naming : ServiceNaming) (m : Module) (binding : Binding) :
    Except ContentError (Option (String × Parameters)) := do
  match ← bindingParametersOf m binding.dependency with
  | none => return none
  | some parameters => return some (← naming.name binding.resource, parameters)

/-- The binding parameters of a module by the names of services. Where two
dependencies are met by one service, those of the later one stay. -/
def bindingParameters (descriptor : Descriptor) (naming : ServiceNaming) (m : Module) :
    Except ContentError (OrderedMap Parameters) := do
  let found ← (← descriptor.bindings m).mapM (bindingEntry naming m)
  return .ofList (found.filterMap fun entry => entry)

/-- The key that a dependency on a key of an existing service injects. The
service keeps the name it is declared with, since it exists already. -/
def injectedKey (descriptor : Descriptor) (m : Module) (dependency : RequiredDependency)
    (resource : Resource) : Except ContentError InjectedKey := do
  let chain := descriptor.resourceScopes resource
  match ← chain.text? "service-name" with
  | none => throw (.missingParameter resource.name ServiceKind.existingKey.name "service-name")
  | some serviceName =>
    let keyName := (← chain.text? "service-key-name").getD resource.name
    -- The variable is named by the dependency alone: the scopes of the module do not count.
    let own : ScopeChain := ⟨m.name ++ "#" ++ dependency.name, [dependency.parameters]⟩
    return { variableName := (← own.text? "env-var-name").getD keyName, serviceName, keyName }

/-- The keys that a module reads from its environment, in the order in which it
requires them. -/
def injectedKeys (descriptor : Descriptor) (m : Module) :
    Except ContentError (List InjectedKey) := do
  let found ← (descriptor.activeRequirements m).mapM fun (dependency, resource) => do
    if (← resource.serviceKind) = some .existingKey then
      return some (← descriptor.injectedKey m dependency resource)
    return none
  return found.filterMap fun entry => entry

end Descriptor

end MultiTarget
