import MultiTarget.Binding
import MultiTarget.Environment
import MultiTarget.Routing
import MultiTarget.Size
import MultiTarget.Staging

/-!
# `MultiTarget.Application`: applications of modules

Every module becomes one application: its name and size, how it is
staged, its routes, the services it is bound to and its environment.

Specification 4.8 (applications), with the sizes and tasks of X.6.7 and
X.6.8. `applicationOf` is `build_application`, and
`ApplicationPlan.applications` is `build`: the order of its steps decides
which of two faults is reported.
-/

set_option autoImplicit false

namespace MultiTarget

/-- A task that an application runs once. -/
structure AppTask where
  name : String
  command : String
  /-- Megabytes. -/
  memory : Option Nat
  /-- Megabytes. -/
  diskQuota : Option Nat
  deriving DecidableEq, Repr

/-- All that is needed to push, bind and start an application. -/
structure Application where
  name : String
  moduleName : String
  staging : Staging
  /-- Megabytes; zero leaves it to the platform. -/
  memory : Nat
  /-- Megabytes; zero leaves it to the platform. -/
  diskQuota : Nat
  instances : Nat
  uris : List String
  idleUris : List String
  domains : List String
  ports : List ApplicationPort
  services : List String
  injectedKeys : List InjectedKey
  /-- The parameters of bindings by the names of services. -/
  bindingParameters : OrderedMap Parameters
  tasks : List AppTask
  restart : RestartTriggers
  env : Environment
  deriving DecidableEq, Repr

namespace Application

/-- The megabytes of a parameter. The value is looked up as it is, so unlike
the typed readers this one does not pass over a null. -/
def megabytes? (chain : ScopeChain) (key : String) : Except ContentError (Option Nat) :=
  -- Not through `read?`: a null is a size that cannot be read, and no missing one.
  match chain.get? key with
  | none => .ok none
  | some value => some <$> Size.megabytes (chain.owner ++ "#" ++ key) value

/-- The number of instances: `instances`, else `default-instances`, else none.
It fits into 32 bits, and the complaint names the parameter that was read. -/
def instancesOf (chain : ScopeChain) : Except ContentError Nat := do
  -- The key goes along for the complaint, which is about the one that gave the number.
  let (key, n) ← match ← chain.integer? "instances" with
    | some n => pure ("instances", n)
    | none => pure ("default-instances", (← chain.integer? "default-instances").getD 0)
  if 0 ≤ n && n < 0x100000000 then return n.toNat
  else throw (chain.invalid key "non-negative integer")

end Application

namespace AppTask

/-- A text that a task must have. The complaint names the key, not the task
that lacks it. -/
def requiredText (chain : ScopeChain) (entries : List (String × Json)) (key : String) :
    Except ContentError String :=
  match Entries.lookup key entries with
  | some (.str text) => .ok text
  | _ => .error (chain.invalid ("tasks#" ++ key) "string")

/-- A size that a task may have. -/
def size? (chain : ScopeChain) (entries : List (String × Json)) (key : String) :
    Except ContentError (Option Nat) :=
  match Entries.lookup key entries with
  | none => .ok none
  | some value => some <$> Size.megabytes (chain.owner ++ "#tasks#" ++ key) value

/-- The task of an entry. -/
def ofJson (chain : ScopeChain) : Json → Except ContentError AppTask
  | .obj entries => do
    return {
      name := ← requiredText chain entries "name"
      command := ← requiredText chain entries "command"
      memory := ← size? chain entries "memory"
      diskQuota := ← size? chain entries "disk-quota" }
  | _ => .error (chain.invalid "tasks" "list of maps")

/-- The tasks of a module. -/
def ofScopes (chain : ScopeChain) : Except ContentError (List AppTask) := do
  ((← chain.list? "tasks").getD []).mapM (ofJson chain)

/-- A task as JSON. -/
def toJson (task : AppTask) : Json := .obj <|
  Json.entry "name" (.str task.name) ++
  Json.entry "command" (.str task.command) ++
  Json.numberEntry "memory" (task.memory.map Int.ofNat) ++
  Json.numberEntry "disk-quota" (task.diskQuota.map Int.ofNat)

end AppTask

/-- What applications are built from besides their modules. -/
structure ApplicationPlan where
  descriptor : Descriptor
  options : Options
  values : Placeholder.Values
  naming : ServiceNaming
  deployed : Option Deployed
  deriving DecidableEq, Repr

namespace ApplicationPlan

/-- How routes are computed. -/
def routing (plan : ApplicationPlan) : Routing := ⟨plan.options, plan.values, plan.deployed⟩

/-- The application of a module, without warnings. Of several faults the one is
reported that is met first in the order written here. -/
def applicationOf (plan : ApplicationPlan) (m : Module) : Except ContentError Application := do
  let descriptor := plan.descriptor
  let chain := descriptor.moduleScopes m
  -- Services and environment come first: their faults are reported before all others.
  let services ← descriptor.boundServices plan.naming m
  let own ← descriptor.ownServices plan.naming m
  -- The environment lists only what the deployment creates; a binding may be to more.
  let env ← Environment.ofModule plan.values plan.options.deployId descriptor m own
  return {
    name := ← Name.ofModule plan.options descriptor m chain
    moduleName := m.name
    staging := ← Staging.ofScopes chain
    memory := (← Application.megabytes? chain "memory").getD 0
    diskQuota := (← Application.megabytes? chain "disk-quota").getD 0
    instances := ← Application.instancesOf chain
    uris := ← plan.routing.uris m chain
    idleUris := ← plan.routing.idleUris chain
    domains := ← plan.routing.domains chain
    ports := ← Routing.ports chain
    services
    injectedKeys := ← descriptor.injectedKeys m
    bindingParameters := ← descriptor.bindingParameters plan.naming m
    tasks := ← AppTask.ofScopes chain
    restart := ← RestartTriggers.ofScopes chain
    env }

/-- The known parameters of a module. -/
def knownParameters : List (List String) :=
  [ParameterName.application, ParameterName.attributes, ParameterName.shared]

/-- The application of a module. Its unsupported parameters are warned of
before it is built, so they are known even if building fails. -/
def application (plan : ApplicationPlan) (m : Module) : Build Application := do
  (plan.descriptor.moduleScopes m).warnUnsupported knownParameters
  plan.applicationOf m

/-- The applications of all modules in order of declaration, which a model puts
into the order of deployment. -/
def applications (plan : ApplicationPlan) : Build (List Application) :=
  Build.forEach plan.application plan.descriptor.modules

end ApplicationPlan

/-- An application as JSON. -/
def Application.toJson (app : Application) : Json := .obj <|
  Json.entry "name" (.str app.name) ++
  Json.entry "module-name" (.str app.moduleName) ++
  Json.entry "staging" app.staging.toJson ++
  Json.entry "memory" (.int app.memory) ++
  Json.entry "disk-quota" (.int app.diskQuota) ++
  Json.entry "instances" (.int app.instances) ++
  Json.entry "uris" (.ofStrings app.uris) ++
  Json.entry "idle-uris" (.ofStrings app.idleUris) ++
  Json.entry "domains" (.ofStrings app.domains) ++
  Json.entry "ports" (.arr (app.ports.map ApplicationPort.toJson)) ++
  Json.entry "services" (.ofStrings app.services) ++
  Json.entry "service-keys-to-inject" (.arr (app.injectedKeys.map InjectedKey.toJson)) ++
  Json.entry "binding-parameters" (.ofMap (app.bindingParameters.map Json.ofMap)) ++
  Json.entry "tasks" (.arr (app.tasks.map AppTask.toJson)) ++
  Json.entry "restart" app.restart.toJson ++
  Json.entry "env" (.ofMap app.env)

end MultiTarget
