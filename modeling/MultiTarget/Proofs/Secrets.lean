import MultiTarget.Proofs.Agreement.Service
import MultiTarget.Proofs.Applications
import MultiTarget.Proofs.Defaults

/-!
# `MultiTarget.Proofs.Secrets`: models of redacted descriptors

Five parameters of a resource hold what others must not see: the
credentials of a service, the data of a secret and the access to a
registry. A descriptor is redacted by giving each of them a fixed value in
every resource (`Descriptor.redacted`), which every reader accepts.

A model of a descriptor is a model of the redacted one, but for the
credentials of its services (`CloudModel.ofDescriptor_redacted`). The
argument follows the two ways in which a resource is read.

* By itself: its type, its kind and the name of its service are read from
  other parameters (`Resource.serviceKind_redacted`,
  `ServiceNaming.name_redacted`), so bindings name the same services.
* Through its scopes: these agree on all other parameters
  (`Descriptor.resourceScopes_redacted`), so what is read there is the same
  but for `config`.

Nothing is said of a descriptor without a model: an ill-shaped secret is an
error, and a redacted one is not.
-/

set_option autoImplicit false

namespace MultiTarget

/-! ### Resources -/

namespace Resource

/-- The parameters of a resource that hold secrets, whatever its type. Some of
them mean something for one type only. -/
abbrev secretNames : List String := ["config", "data", "password", "registry", "username"]

/-- What stands in the place of secrets: an empty map or an empty text, of the
kind that readers of the parameter accept. -/
def redactions : List (String × Json) := [
  ("config", .obj []), ("data", .obj []), ("password", .str ""), ("registry", .str ""),
  ("username", .str "")]

/-- The resource with all secrets replaced, those that it has not got included.
So a redacted resource does not tell which secrets there were. -/
def redacted (resource : Resource) : Resource :=
  { resource with parameters := resource.parameters.insertAll redactions }

variable (resource : Resource)

/-- A redacted resource has the replacements, and its own values of all other
parameters. Both cases of a look-up are told by one equation. -/
theorem get?_redacted (key : String) :
    resource.redacted.parameters.get? key
      = (Entries.lookup key redactions).or (resource.parameters.get? key) :=
  OrderedMap.get?_insertAll_of_ascending _ (by decide) key

/-- A resource and the redacted one agree on all parameters that are no
secrets. -/
theorem agreeOn_redacted :
    resource.parameters.AgreeOn (· ∉ secretNames) resource.redacted.parameters :=
  -- Replacements are put in under names of secrets alone.
  (OrderedMap.AgreeOn.refl _ _).insertAll_right_of_notMem (by decide)

/-- A resource keeps its type, which is no secret and is read from its own
scope. -/
@[simp] theorem declaredType_redacted :
    resource.redacted.declaredType = resource.declaredType := by
  have htype := resource.agreeOn_redacted "type" (by decide)
  unfold declaredType
  rw [htype]
  rfl

/-- A resource keeps its kind, as it is told by the type. -/
@[simp] theorem serviceKind_redacted :
    resource.redacted.serviceKind = resource.serviceKind := by
  unfold serviceKind
  rw [declaredType_redacted]

@[simp] theorem isService_redacted : resource.redacted.isService = resource.isService := by
  unfold isService
  rw [serviceKind_redacted]

end Resource

/-- A redacted resource has a service of the same name. Names may be set by
parameters, and none of these is a secret. -/
@[simp] theorem ServiceNaming.name_redacted (naming : ServiceNaming) (resource : Resource) :
    naming.name resource.redacted = naming.name resource := by
  have hshort : shortName resource.redacted = shortName resource := by
    have hname := resource.agreeOn_redacted "service-name" (by decide)
    have hdefault := resource.agreeOn_redacted "default-service-name" (by decide)
    unfold shortName
    simp only [hname, hdefault]
    rfl
  unfold name
  rw [Resource.serviceKind_redacted, hshort]

/-! ### Descriptors -/

namespace Descriptor

variable (descriptor : Descriptor) (naming : ServiceNaming) (m : Module) (resource : Resource)

/-- The descriptor with the secrets of all resources replaced. Its own scope
and its modules stay as they are. -/
def redacted (descriptor : Descriptor) : Descriptor :=
  { descriptor with resources := descriptor.resources.map Resource.redacted }

theorem resource?_redacted (name : String) :
    descriptor.redacted.resource? name = (descriptor.resource? name).map Resource.redacted :=
  List.find?_map

theorem activeResources_redacted :
    descriptor.redacted.activeResources = descriptor.activeResources.map Resource.redacted :=
  List.filter_map

/-- A module requires the same resources, each of them redacted, with the same
dependencies. -/
theorem activeRequirements_redacted :
    descriptor.redacted.activeRequirements m
      = (descriptor.activeRequirements m).map fun (dependency, resource) =>
          (dependency, resource.redacted) := by
  have hactive : ∀ name, descriptor.redacted.activeResource? name
      = (descriptor.activeResource? name).map Resource.redacted := by
    intro name
    unfold activeResource?
    rw [resource?_redacted, Option.filter_map]
    rfl
  unfold activeRequirements
  simp only [hactive, Option.map_map, List.map_filterMap]
  rfl

/-- The scopes of a resource agree on all that is no secret. The scope of the
descriptor is the same, and so is the owner. -/
theorem resourceScopes_redacted :
    (descriptor.resourceScopes resource).AgreeOn (· ∉ Resource.secretNames)
      (descriptor.redacted.resourceScopes resource.redacted) :=
  ⟨rfl, .cons (.refl _ _) (.cons resource.agreeOn_redacted .nil)⟩

/-- A replacement hides what the descriptor has for all resources. So a secret
in the scope of the descriptor is not read through a redacted resource. -/
theorem get?_resourceScopes_redacted {key : String} {value : Json}
    (hkey : Entries.lookup key Resource.redactions = some value) :
    (descriptor.redacted.resourceScopes resource.redacted).get? key = some value := by
  unfold resourceScopes
  rw [ScopeChain.get?_twoScopes, Resource.get?_redacted, hkey]
  rfl

end Descriptor

/-! ### Bindings -/

namespace Binding

/-- The binding to the redacted resource, for the same dependency. -/
def redacted (binding : Binding) : Binding :=
  { binding with resource := binding.resource.redacted }

/-- The binding of a dependency to a resource, if this describes a service. It
is the step of the traversal over requirements. -/
def ofRequirement (requirement : RequiredDependency × Resource) :
    Except ContentError (Option Binding) := do
  return (← requirement.2.serviceKind).map (Binding.mk requirement.1 requirement.2)

/-- A dependency has a binding to a redacted resource exactly if it has one to
the resource. -/
theorem ofRequirement_redacted (requirement : RequiredDependency × Resource) :
    ofRequirement (requirement.1, requirement.2.redacted)
      = Option.map redacted <$> ofRequirement requirement := by
  unfold ofRequirement
  simp only [Resource.serviceKind_redacted, map_bind, map_pure, Option.map_map]
  rfl

end Binding

namespace Descriptor

variable (descriptor : Descriptor) (naming : ServiceNaming) (m : Module)

/-- Bindings are the dependencies that have one. It names the step, so that one
can reason about it alone. -/
theorem serviceRequirements_eq : descriptor.serviceRequirements m
    = (List.filterMap fun binding => binding)
      <$> (descriptor.activeRequirements m).mapM Binding.ofRequirement := rfl

/-- A module has the same bindings, to redacted resources. Those to keys are
left out by kind, which is no secret. -/
theorem bindings_redacted :
    descriptor.redacted.bindings m = List.map Binding.redacted <$> descriptor.bindings m := by
  have hrequirements : descriptor.redacted.serviceRequirements m
      = List.map Binding.redacted <$> descriptor.serviceRequirements m := by
    rw [serviceRequirements_eq, serviceRequirements_eq, activeRequirements_redacted,
      Outcome.mapM_map_eq_map Binding.ofRequirement_redacted, Functor.map_map, Functor.map_map]
    simp only [List.filterMap_map, List.map_filterMap]
    rfl
  unfold bindings
  rw [hrequirements]
  simp only [bind_map_left, map_bind, map_pure, List.filter_map]
  rfl

theorem bindingNames_redacted (bindings : List Binding) :
    bindingNames naming (bindings.map Binding.redacted) = bindingNames naming bindings := by
  have hname : (fun binding : Binding => naming.name binding.resource) ∘ Binding.redacted
      = fun binding => naming.name binding.resource :=
    funext fun binding => naming.name_redacted binding.resource
  unfold bindingNames
  rw [List.mapM_map, hname]

theorem boundServices_redacted :
    descriptor.redacted.boundServices naming m = descriptor.boundServices naming m := by
  unfold boundServices
  simp only [bindings_redacted, bind_map_left, bindingNames_redacted]

/-- A module has the same services of its own, which are those that its
environment lists. -/
theorem ownServices_redacted :
    descriptor.redacted.ownServices naming m = descriptor.ownServices naming m := by
  unfold ownServices
  simp only [bindings_redacted, bind_map_left, List.filter_map, bindingNames_redacted]
  rfl

/-- A module has the same parameters of bindings. They are those of the
dependency and not of the resource. -/
theorem bindingParameters_redacted :
    descriptor.redacted.bindingParameters naming m = descriptor.bindingParameters naming m := by
  have hentry : bindingEntry naming m ∘ Binding.redacted = bindingEntry naming m := by
    funext binding
    show bindingEntry naming m binding.redacted = _
    unfold bindingEntry
    rw [← naming.name_redacted binding.resource]
    rfl
  unfold bindingParameters
  simp only [bindings_redacted, bind_map_left, List.mapM_map, hentry]

/-- A module is given the same keys. Their names may be set by parameters of
the resource that are no secrets. -/
theorem injectedKeys_redacted :
    descriptor.redacted.injectedKeys m = descriptor.injectedKeys m := by
  have hkey : ∀ dependency (resource : Resource),
      descriptor.redacted.injectedKey m dependency resource.redacted
        = descriptor.injectedKey m dependency resource := by
    intro dependency resource
    have hscopes := descriptor.resourceScopes_redacted resource
    unfold injectedKey
    simp (disch := decide) only [← hscopes.values.text?]
    rfl
  unfold injectedKeys
  rw [activeRequirements_redacted, List.mapM_map]
  simp only [Function.comp_def, Resource.serviceKind_redacted, hkey]

end Descriptor

namespace ApplicationPlan

/-- The plan of the redacted descriptor, with the same options, values and
names. -/
def redacted (plan : ApplicationPlan) : ApplicationPlan :=
  { plan with descriptor := plan.descriptor.redacted }

/-- An application is bound to resources and keeps none of their secrets. It is
the same, with its environment, or the error is. -/
theorem applicationOf_redacted (plan : ApplicationPlan) :
    plan.redacted.applicationOf = plan.applicationOf := by
  funext m
  unfold applicationOf redacted
  simp only [Descriptor.boundServices_redacted, Descriptor.ownServices_redacted,
    Descriptor.injectedKeys_redacted, Descriptor.bindingParameters_redacted]
  rfl

end ApplicationPlan

/-! ### Services -/

namespace Service

/-- The service without credentials. Two services are compared in this view. -/
def withoutCredentials (service : Service) : Service := { service with credentials := ∅ }

variable {a b : ScopeChain} {naming : ServiceNaming} {resource : Resource} {kind : ServiceKind}

/-- What services of every kind have in common has no credentials. So an
existing service is unchanged by this view. -/
theorem withoutCredentials_of_base {name : String} {common : Service}
    (h : base name resource kind a = .ok common) : common.withoutCredentials = common := by
  unfold Service.base at h
  split at h
  all_goals
    simp only [Outcome.bind_eq_ok, Outcome.pure_eq_ok] at h
    obtain ⟨_, -, _, -, _, -, rfl⟩ := h
    rfl

/-- A redacted chain: it agrees with another one on all that is no secret, and
has no credentials. It is what the builders of services need to know of a
redaction. -/
structure Redacts (a b : ScopeChain) : Prop where
  agree : a.AgreeOn (· ∉ Resource.secretNames) b
  config : b.get? "config" = some (.obj [])

namespace Redacts

/-- The credentials of a redacted chain can be read and are empty. -/
theorem credentials (h : Redacts a b) (name : String) : credentialsOf name b = .ok ∅ := by
  unfold credentialsOf
  rw [h.config]
  rfl

/-- The common part of a service is read from no secret, so that it is the
same. -/
theorem base (h : Redacts a b) (name : String) :
    base name resource.redacted kind b = base name resource kind a := by
  have hbase : BaseAgree a b := h.agree.mono (by decide)
  rw [hbase.base]
  rfl

/-- A managed service of a redacted chain is the same but for its credentials,
if there is one. A chain with ill-shaped credentials has none, and a redacted
one has. -/
theorem managed (h : Redacts a b) {common service : Service}
    (hok : managed common a = .ok service) :
    managed common b = .ok service.withoutCredentials := by
  unfold Service.managed at hok ⊢
  have hvalues := h.agree.values
  simp (disch := decide) only [hvalues.text?, hvalues.texts, Outcome.bind_eq_ok,
    Outcome.pure_eq_ok] at hok
  obtain ⟨label, hlabel, plan, hplan, provider, hprovider, broker, hbroker, version, hversion,
    alternatives, halternatives, credentials, -, tags, htags, rfl⟩ := hok
  rw [hlabel, hplan, hprovider, hbroker, hversion, halternatives, htags, h.credentials]
  rfl

/-- A user-provided service of a redacted chain is the same but for its
credentials, and the warning about its label is the same. -/
theorem userProvided (h : Redacts a b) {common service : Service}
    (hok : (userProvided common a).result = .ok service) :
    (userProvided common b).result = .ok service.withoutCredentials := by
  unfold Service.userProvided at hok ⊢
  have hvalues := h.agree.values
  simp (disch := decide) only [hvalues.text?, hvalues.texts] at hok
  rw [Build.result_bind] at hok ⊢
  obtain ⟨label?, hlabel, hok⟩ := Outcome.bind_eq_ok.1 hok
  rw [hlabel]
  -- A label is warned of; the service is built in the same way.
  cases label?
  all_goals
    simp only [Build.result_bind, Build.result_pure, Build.result_warn, Outcome.result_liftM,
      Outcome.bind_eq_ok, Except.ok.injEq, true_and, exists_const] at hok
    obtain ⟨credentials, -, tags, htags, url, hurl, rfl⟩ := hok
    simp only [h.credentials, htags, hurl]
    rfl

/-- A service of a redacted resource is that of the resource without
credentials. Where there is none, as for a key, there is none for either. -/
theorem ofKind (h : Redacts a b) {found : Option Service}
    (hok : (ofKind naming resource a kind).result = .ok found) :
    (ofKind naming resource.redacted b kind).result = .ok (found.map withoutCredentials) := by
  have hbase : BaseAgree a b := h.agree.mono (by decide)
  have hcheck : checkParameters resource.redacted kind b = checkParameters resource kind a := by
    rw [hbase.checkParameters]
    rfl
  unfold Service.ofKind at hok ⊢
  simp only [Build.result_bind, Outcome.result_liftM, Outcome.bind_eq_ok, hcheck,
    naming.name_redacted, h.base] at hok ⊢
  obtain ⟨_, hchecked, _, -, name, hname, common, hcommon, hok⟩ := hok
  refine ⟨_, hchecked, (), rfl, name, hname, common, hcommon, ?_⟩
  have hempty := withoutCredentials_of_base hcommon
  -- By the kind: the first two read credentials, and the others do not.
  cases kind with
  | managed =>
      simp only [Build.result_bind, Build.result_pure, Outcome.result_liftM, Outcome.bind_eq_ok,
        Except.ok.injEq] at hok ⊢
      obtain ⟨service, hservice, rfl⟩ := hok
      exact ⟨_, h.managed hservice, rfl⟩
  | userProvided =>
      simp only [Build.result_bind, Build.result_pure, Outcome.bind_eq_ok,
        Except.ok.injEq] at hok ⊢
      obtain ⟨service, hservice, rfl⟩ := hok
      exact ⟨_, h.userProvided hservice, rfl⟩
  | existing =>
      -- An existing service has no credentials in a descriptor.
      obtain rfl : some common = found := Except.ok.inj hok
      exact congrArg (Except.ok ∘ some) hempty.symm
  | existingKey =>
      obtain rfl : none = found := Except.ok.inj hok
      rfl

end Redacts

end Service

namespace Descriptor

variable (descriptor : Descriptor) (naming : ServiceNaming) (resource : Resource)

/-- The scopes of a redacted resource are redacted, whatever the scope of the
descriptor has. -/
theorem redacts_resourceScopes : Service.Redacts (descriptor.resourceScopes resource)
    (descriptor.redacted.resourceScopes resource.redacted) :=
  ⟨descriptor.resourceScopes_redacted resource,
    descriptor.get?_resourceScopes_redacted resource rfl⟩

/-- The services of a redacted descriptor are those of the descriptor without
credentials, in the same order. -/
theorem services_redacted {services : List Service}
    (h : (descriptor.services naming).result = .ok services) :
    (descriptor.redacted.services naming).result
      = .ok (services.map Service.withoutCredentials) := by
  -- Resource by resource: the kind is the same, and its builder sees a redacted chain.
  have hservice : ∀ resource found, (descriptor.service naming resource).result = .ok found →
      (descriptor.redacted.service naming resource.redacted).result
        = .ok (found.map Service.withoutCredentials) := by
    intro resource found hfound
    unfold service at hfound ⊢
    rw [Build.result_bind, Outcome.result_liftM] at hfound ⊢
    rw [Resource.serviceKind_redacted]
    obtain ⟨kind?, hkind, hfound⟩ := Outcome.bind_eq_ok.1 hfound
    rw [hkind]
    cases kind? with
    | none =>
        obtain rfl : none = found := Except.ok.inj hfound
        rfl
    | some kind => exact (descriptor.redacts_resourceScopes resource).ofKind hfound
  unfold Descriptor.services at h ⊢
  simp only [Build.result_bind, Build.result_pure, Outcome.result_forEach, Outcome.bind_eq_ok,
    Except.ok.injEq] at h ⊢
  obtain ⟨found, hfound, rfl⟩ := h
  refine ⟨found.map (Option.map Service.withoutCredentials), ?_, ?_⟩
  · -- One service for each resource, as before the redaction.
    rw [activeResources_redacted, Outcome.mapM_eq_ok_iff, List.forall₂_map_left_iff,
      List.forall₂_map_right_iff]
    exact (Outcome.mapM_eq_ok_iff.1 hfound).imp hservice
  · rw [List.filterMap_map, List.map_filterMap]
    rfl

/-- The keys of services are the same, since their lists are no secrets. -/
theorem serviceKeys_redacted :
    descriptor.redacted.serviceKeys naming = descriptor.serviceKeys naming := by
  have hkeys : descriptor.redacted.keysOf naming ∘ Resource.redacted
      = descriptor.keysOf naming := by
    funext resource
    have hscopes := descriptor.resourceScopes_redacted resource
    show descriptor.redacted.keysOf naming resource.redacted = _
    unfold keysOf
    simp (disch := decide) only [← hscopes.values.list?, Resource.serviceKind_redacted,
      naming.name_redacted]
    rfl
  unfold serviceKeys
  rw [activeResources_redacted, List.mapM_map, hkeys]

end Descriptor

/-! ### Models -/

/-- A preparation puts in the same defaults before and after a redaction. No
default is for a secret, so the order of the two does not matter. -/
theorem Target.prepare_redacted (target : Target) (descriptor : Descriptor) :
    target.prepare descriptor.redacted = (target.prepare descriptor).redacted := by
  have hresource : ∀ resource : Resource,
      prepareResource resource.redacted = (prepareResource resource).redacted := by
    intro resource
    have hparameters : withDefaults resource.redacted.parameters (resourceDefaults resource.name)
        = (prepareResource resource).redacted.parameters := by
      refine OrderedMap.ext_get? fun key => ?_
      rw [Resource.get?_redacted, get?_withDefaults, Resource.get?_redacted, Option.or_assoc,
        prepareResource, get?_withDefaults]
    exact congrArg (fun parameters => { resource with parameters }) hparameters
  have hresources : (descriptor.resources.map Resource.redacted).map prepareResource
      = (descriptor.resources.map prepareResource).map Resource.redacted := by
    rw [List.map_map, List.map_map]
    exact List.map_congr_left fun resource _ => hresource resource
  simp only [prepare, Descriptor.redacted, hresources]

namespace CloudModel

/-- The model without the credentials of its services. Nothing else in a model
is made from a secret. -/
def withoutCredentials (model : CloudModel) : CloudModel :=
  { model with services := model.services.map Service.withoutCredentials }

/-- The same parameters are unsupported: secrets are known to resources, and
modules have none. -/
theorem unsupportedParameters_redacted (descriptor : Descriptor) :
    unsupportedParameters descriptor.redacted = unsupportedParameters descriptor := by
  have hservices : (descriptor.resources.map Resource.redacted).filter (·.isService)
      = (descriptor.resources.filter (·.isService)).map Resource.redacted := by
    rw [List.filter_map]
    simp only [Function.comp_def, Resource.isService_redacted]
  have hkeys : ∀ resource : Resource,
      (descriptor.redacted.resourceScopes resource.redacted).unsupported Service.knownParameters
        = (descriptor.resourceScopes resource).unsupported Service.knownParameters := by
    intro resource
    have hagree := descriptor.resourceScopes_redacted resource
    refine (hagree.unsupported fun key hkey hsecret => ?_).symm
    have hknown : ∀ key ∈ Resource.secretNames, key ∈ Service.knownParameters.flatten := by
      decide
    exact hkey (hknown key hsecret)
  unfold unsupportedParameters
  show _ ++ (((descriptor.resources.map Resource.redacted).filter (·.isService)).flatMap _) = _
  rw [hservices, List.flatMap_map]
  simp only [hkeys]
  rfl

theorem planFor_redacted (options : Options) (target : Target) (deployed : Option Deployed)
    (descriptor : Descriptor) :
    planFor options target deployed descriptor.redacted
      = (planFor options target deployed descriptor).redacted := by
  unfold planFor
  rw [target.prepare_redacted]
  generalize target.prepare descriptor = prepared
  rfl

/-- What a model consists of is not redacted, but for the services. Part by
part, it is what the redacted plan gives. -/
theorem ConsistsOf.redacted {model : CloudModel} {target : Target} {plan : ApplicationPlan}
    (h : model.ConsistsOf target plan) :
    model.withoutCredentials.ConsistsOf target plan.redacted where
  -- The order and the entries are read from modules alone.
  order := h.order
  applications := by
    rw [plan.applicationOf_redacted]
    exact h.applications
  services := plan.descriptor.services_redacted plan.naming h.services
  serviceKeys := (plan.descriptor.serviceKeys_redacted plan.naming).trans h.serviceKeys
  entries := h.entries
  warnings := (unsupportedParameters_redacted plan.descriptor).trans h.warnings

/-- **Redaction.** A model of a descriptor is that of the redacted descriptor,
but for the credentials of services. Two descriptors that differ in secrets
have one redacted descriptor in common, so that their models are alike. -/
theorem ofDescriptor_redacted {options : Options} {target : Target} {deployed : Option Deployed}
    {descriptor : Descriptor} {model : CloudModel}
    (h : (ofDescriptor options target deployed descriptor).result = .ok model) :
    (ofDescriptor options target deployed descriptor.redacted).result
      = .ok model.withoutCredentials := by
  rw [ofDescriptor_eq_ok_iff] at h ⊢
  rw [planFor_redacted]
  exact h.redacted

end CloudModel

end MultiTarget
