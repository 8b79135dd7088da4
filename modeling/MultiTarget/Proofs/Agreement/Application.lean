import MultiTarget.Application
import MultiTarget.Proofs.Agreement.Routing

/-!
# `MultiTarget.Proofs.Agreement.Application`: what an application is read from

Every part of an application is read from parameters of its own: how it is
staged (`Staging.names`), its routes (`Routing.names`), its size, its tasks
and its name. On chains that agree on these parts of both are the same.
`Application.names` has all of them.
-/

set_option autoImplicit false

namespace MultiTarget

variable {a b : ScopeChain}

/-! ### Staging -/

namespace Staging

/-- The parameters that the staging of a module is read from. The list is
checked by the proofs below: a reader whose key is missing could not be
rewritten. -/
abbrev names : List String := [
  "command", "buildpack", "buildpacks", "stack", "health-check-type", "health-check-timeout",
  "health-check-invocation-timeout", "health-check-http-endpoint", "enable-ssh", "lifecycle",
  "docker"]

/-- Two chains agree on the parameters that staging is read from. -/
abbrev Agree (a b : ScopeChain) : Prop := a.AgreeOn (· ∈ names) b

/-- The parameters that staging is read from besides the buildpacks. These two
are kept apart, since which of them is read depends on all scopes together. -/
abbrev settingNames : List String := [
  "command", "stack", "health-check-type", "health-check-timeout",
  "health-check-invocation-timeout", "health-check-http-endpoint", "enable-ssh", "lifecycle",
  "docker"]

section ReadAlike

variable (h : a.ReadAlikeOn (· ∈ settingNames) b)

include h

/-- The image of a container and its credentials are read from one map, so they
are the same on chains that are read alike. -/
theorem containerImage_congr : ContainerImage.ofScopes a = ContainerImage.ofScopes b := by
  simp (disch := simp) only [ContainerImage.ofScopes, h.map?, h.innerText?, h.invalid]

/-- The lifecycle is read from one text. A text that names none is refused, and
the refusal names the owner. -/
theorem lifecycle_congr : Lifecycle.ofScopes a = Lifecycle.ofScopes b := by
  simp (disch := simp) only [Lifecycle.ofScopes, h.text?, h.owner]

/-- Staging is the same with the same buildpacks, wherever these stand. So a
statement about buildpacks alone is one about staging. -/
theorem ofScopes_of_buildpacksOf_eq (hbuildpacks : buildpacksOf a = buildpacksOf b) :
    Staging.ofScopes a = Staging.ofScopes b := by
  simp (disch := simp) only [Staging.ofScopes, hbuildpacks, h.text?,
    containerImage_congr h, lifecycle_congr h, h.integer?, h.flag?, h.owner]

end ReadAlike

/-- The buildpacks are the same, and so is which of the two names they are read
from. It is decided by whether a scope contains the plural, hence the
hypothesis on values and not on what readers see. -/
theorem buildpacksOf_congr (h : a.SameValuesOn (· ∈ ["buildpack", "buildpacks"]) b) :
    buildpacksOf a = buildpacksOf b := by
  unfold buildpacksOf
  rw [h.contains (by simp)]
  split
  · exact h.texts (by simp)
  · exact h.texts (by simp)

/-- Staging does not see which scopes its parameters stand in, so it is the
same for a flattened chain. -/
theorem ofScopes_congr (h : a.SameValuesOn (· ∈ names) b) :
    Staging.ofScopes a = Staging.ofScopes b :=
  ofScopes_of_buildpacksOf_eq (h.readAlike.mono (by decide))
    (buildpacksOf_congr (h.mono (by decide)))

end Staging

/-! ### Size, tasks, restarts and names -/

namespace Application

/-- The parameters that an application is read from besides its staging and its
routes: its name, its size, its tasks and its triggers of restarts. -/
abbrev ownNames : List String := [
  "app-name", "default-app-name", "memory", "disk-quota", "instances", "default-instances",
  "tasks", "restart-on-env-change"]

/-- The names that a module declares in the singular and in the plural, those
of either family of routes and those of buildpacks. -/
abbrev pairNames : List (String × String) :=
  Routing.pairNames .live ++ Routing.pairNames .idle ++ [("buildpack", "buildpacks")]

/-- The pairs of a family are among them, whichever family it is. So what is
asked of all pairs is known of those of routes. -/
theorem mem_pairNames {family : RouteFamily} {names : String × String}
    (h : names ∈ Routing.pairNames family) : names ∈ pairNames := by
  cases family with
  | live => exact List.mem_append_left _ (List.mem_append_left _ h)
  | idle => exact List.mem_append_left _ (List.mem_append_right _ h)

/-- The parameters of a resource that an injected key is read from. They are
looked for in the scope of the descriptor as well. -/
abbrev keyNames : List String := ["service-name", "service-key-name"]

/-- The parameters that an application is read from. It has parameters of
resources too, since the keys that are injected into a module are named
there. -/
def names : List String :=
  ownNames ++ keyNames ++ Staging.names ++ Routing.keptNames ++ Routing.names .idle

/-- A parameter of an application belongs to one of its parts, by which an
agreement on all of them is handed to the parts. -/
theorem mem_names_iff {key : String} : key ∈ names ↔ key ∈ ownNames ∨ key ∈ keyNames ∨
    key ∈ Staging.names ∨ key ∈ Routing.keptNames ∨ key ∈ Routing.names .idle := by
  simp only [names, List.mem_append, or_assoc]

/-- A size is the same where its value is. Sizes are not read by a typed
reader: a null is refused as a size, so chains that are only read alike do not
suffice. -/
theorem megabytes?_congr {p : String → Prop} (h : a.SameValuesOn p b) {key : String}
    (hkey : p key) : megabytes? a key = megabytes? b key := by
  unfold megabytes?
  rw [h.get? hkey, h.owner]

/-- Two chains agree on the parameters that an application is read from besides
its staging and its routes. -/
abbrev Agree (a b : ScopeChain) : Prop := a.AgreeOn (· ∈ ownNames) b

/-- The parameters among these that are not sizes, and which typed readers read
one by one. -/
abbrev settingNames : List String :=
  ["app-name", "default-app-name", "instances", "default-instances", "tasks",
    "restart-on-env-change"]

/-- Two chains are read alike for all of an application but its sizes, its
staging and its routes. -/
abbrev ReadAlike (a b : ScopeChain) : Prop := a.ReadAlikeOn (· ∈ settingNames) b

namespace ReadAlike

/-- The number of instances is the same. It has a default of its own parameter,
which is in the class as well. -/
theorem instances (h : ReadAlike a b) : instancesOf a = instancesOf b := by
  simp (disch := simp) only [instancesOf, h.integer?, h.invalid]

/-- The tasks are the same. Of a list of tasks nothing but its complaints
depends on the chain. -/
theorem tasks (h : ReadAlike a b) : AppTask.ofScopes a = AppTask.ofScopes b := by
  -- A task is read from its own entry. The chain occurs in it as the owner of complaints.
  have htask : AppTask.ofJson a = AppTask.ofJson b := by
    funext entry
    cases entry <;>
      simp only [AppTask.ofJson, AppTask.requiredText, AppTask.size?, h.invalid, h.owner]
  simp (disch := simp) only [AppTask.ofScopes, h.list?, htask]

/-- The triggers of restarts are the same, as they are flags inside of one
map. -/
theorem restart (h : ReadAlike a b) :
    RestartTriggers.ofScopes a = RestartTriggers.ofScopes b := by
  simp (disch := simp) only [RestartTriggers.ofScopes, h.map?, h.innerFlag]

/-- The name is the same: that of the application, else the default one, else
that of the module. -/
theorem name (h : ReadAlike a b) (options : Options) (descriptor : Descriptor) (m : Module) :
    Name.ofModule options descriptor m a = Name.ofModule options descriptor m b := by
  simp (disch := simp) only [Name.ofModule, h.text?]

end ReadAlike

namespace Agree

/-- Chains that agree scope by scope are read alike, so the lemmas above
apply. -/
theorem readAlike (h : Agree a b) : ReadAlike a b := (h.mono (by decide)).values.readAlike

/-- The memory is the same. This needs the value itself and not only what is
given, see `megabytes?_congr`: a null is an error here. -/
theorem memory (h : Agree a b) : megabytes? a "memory" = megabytes? b "memory" :=
  megabytes?_congr h.values (by simp)

/-- The quota on the disk is the same, for the same reason as the memory. -/
theorem diskQuota (h : Agree a b) : megabytes? a "disk-quota" = megabytes? b "disk-quota" :=
  megabytes?_congr h.values (by simp)

end Agree

/-- Triggers of restarts are told by one map, so a chain with the same value of
its key suffices. No whole class is asked for, which a flattened chain could
not give. -/
theorem restart_congr {p : String → Prop} (h : a.SameValuesOn p b)
    (hkey : p "restart-on-env-change") :
    RestartTriggers.ofScopes a = RestartTriggers.ofScopes b := by
  unfold RestartTriggers.ofScopes
  simp only [h.map? hkey, h.innerFlag]

end Application

/-! ### Applications -/

variable {descriptor : Descriptor} {general : Parameters}

/-- The keys that a module injects are read from two parameters of resources.
Another scope of the descriptor that agrees on these injects the same keys. -/
theorem Descriptor.injectedKeys_withParameters
    (h : descriptor.parameters.AgreeOn (· ∈ Application.keyNames) general) (m : Module) :
    descriptor.injectedKeys m = (descriptor.withParameters general).injectedKeys m := by
  have hkey : ∀ dependency resource, descriptor.injectedKey m dependency resource
      = (descriptor.withParameters general).injectedKey m dependency resource := by
    intro dependency resource
    have hscopes := resourceScopes_withParameters h resource
    simp (disch := simp) only [injectedKey, hscopes.values.text?]
  -- Which resources are required is found without a look at any scope.
  unfold injectedKeys
  simp only [hkey]
  rfl

namespace ApplicationPlan

/-- Two plans have the same parts of an application for two modules, all but
its sizes. A proof that something does not change an application fills in this
list, and the order in which parts are computed is looked at in
`SameParts.applicationOf_eq` only. -/
structure SameParts (plan other : ApplicationPlan) (m n : Module) : Prop where
  moduleName : m.name = n.name
  services : plan.descriptor.boundServices plan.naming m
    = other.descriptor.boundServices other.naming n
  ownServices : plan.descriptor.ownServices plan.naming m
    = other.descriptor.ownServices other.naming n
  environment : ∀ own, Environment.ofModule plan.values plan.options.deployId plan.descriptor m own
    = Environment.ofModule other.values other.options.deployId other.descriptor n own
  name : Name.ofModule plan.options plan.descriptor m (plan.descriptor.moduleScopes m)
    = Name.ofModule other.options other.descriptor n (other.descriptor.moduleScopes n)
  staging : Staging.ofScopes (plan.descriptor.moduleScopes m)
    = Staging.ofScopes (other.descriptor.moduleScopes n)
  instances : Application.instancesOf (plan.descriptor.moduleScopes m)
    = Application.instancesOf (other.descriptor.moduleScopes n)
  uris : plan.routing.uris m (plan.descriptor.moduleScopes m)
    = other.routing.uris n (other.descriptor.moduleScopes n)
  idleUris : plan.routing.idleUris (plan.descriptor.moduleScopes m)
    = other.routing.idleUris (other.descriptor.moduleScopes n)
  domains : plan.routing.domains (plan.descriptor.moduleScopes m)
    = other.routing.domains (other.descriptor.moduleScopes n)
  ports : Routing.ports (plan.descriptor.moduleScopes m)
    = Routing.ports (other.descriptor.moduleScopes n)
  injectedKeys : plan.descriptor.injectedKeys m = other.descriptor.injectedKeys n
  bindingParameters : plan.descriptor.bindingParameters plan.naming m
    = other.descriptor.bindingParameters other.naming n
  tasks : AppTask.ofScopes (plan.descriptor.moduleScopes m)
    = AppTask.ofScopes (other.descriptor.moduleScopes n)
  restart : RestartTriggers.ofScopes (plan.descriptor.moduleScopes m)
    = RestartTriggers.ofScopes (other.descriptor.moduleScopes n)

namespace SameParts

variable {plan other : ApplicationPlan} {m n : Module}

/-- With the same parts and sizes, applications are the same. Sizes are
separate hypotheses, because there are changes that only they can see. -/
theorem applicationOf_eq (h : SameParts plan other m n)
    (hmemory : Application.megabytes? (plan.descriptor.moduleScopes m) "memory"
      = Application.megabytes? (other.descriptor.moduleScopes n) "memory")
    (hdisk : Application.megabytes? (plan.descriptor.moduleScopes m) "disk-quota"
      = Application.megabytes? (other.descriptor.moduleScopes n) "disk-quota") :
    plan.applicationOf m = other.applicationOf n := by
  unfold applicationOf
  simp only [h.services, h.ownServices, h.environment, h.name, h.staging, hmemory, hdisk,
    h.instances, h.uris, h.idleUris, h.domains, h.ports, h.injectedKeys, h.bindingParameters,
    h.tasks, h.restart, h.moduleName]

end SameParts

/-- **What an application is read from.** Another scope of the descriptor that
agrees on the parameters of applications changes none. So whatever else is
injected into a descriptor leaves its applications alone. -/
theorem applicationOf_withParameters (plan : ApplicationPlan)
    (h : plan.descriptor.parameters.AgreeOn (· ∈ Application.names) general) (m : Module) :
    plan.applicationOf m
      = applicationOf { plan with descriptor := plan.descriptor.withParameters general } m := by
  have hscopes := Descriptor.moduleScopes_withParameters h m
  -- The one hypothesis is handed to each part, narrowed down to its own parameters.
  have hown : Application.Agree _ _ :=
    hscopes.mono fun _ hkey => Application.mem_names_iff.2 (.inl hkey)
  have hkeys := h.mono (q := (· ∈ Application.keyNames)) fun _ hkey =>
    Application.mem_names_iff.2 (.inr (.inl hkey))
  have hstaging : Staging.Agree _ _ :=
    hscopes.mono fun _ hkey => Application.mem_names_iff.2 (.inr (.inr (.inl hkey)))
  have hkept := hscopes.mono (q := (· ∈ Routing.keptNames)) fun _ hkey =>
    Application.mem_names_iff.2 (.inr (.inr (.inr (.inl hkey))))
  have hlive : Routing.Agree .live _ _ := hkept.mono fun _ => List.mem_cons_of_mem _
  have hidle : Routing.Agree .idle _ _ :=
    hscopes.mono fun _ hkey => Application.mem_names_iff.2 (.inr (.inr (.inr (.inr hkey))))
  have hsettings := hown.readAlike
  -- Services, bindings and the environment are read from no scope of the descriptor.
  have hparts : SameParts plan { plan with descriptor := plan.descriptor.withParameters general }
      m m :=
    { moduleName := rfl
      services := rfl
      ownServices := rfl
      environment := fun _ => rfl
      name := hsettings.name _ _ m
      staging := Staging.ofScopes_congr hstaging.values
      instances := hsettings.instances
      uris := Routing.uris_congr hkept m
      idleUris := hidle.idleUris
      domains := hlive.domains
      ports := hlive.ports
      injectedKeys := Descriptor.injectedKeys_withParameters hkeys m
      bindingParameters := rfl
      tasks := hsettings.tasks
      restart := hsettings.restart }
  exact hparts.applicationOf_eq hown.memory hown.diskQuota

end ApplicationPlan

end MultiTarget
