import Mathlib.Data.List.Nodup
import MultiTarget.Proofs.Applications
import MultiTarget.Proofs.Defaults
import MultiTarget.Proofs.Support.Maps

/-!
# `MultiTarget.Proofs.ServiceNames`: names of services without a build

The names of services can be asked for without a model
(`CloudModel.serviceNames`). Both ways prepare the descriptor and go through
its active resources, but a build stops at a resource whose type cannot be
read, and the list of names passes over it.

`serviceNames_agree` says that this makes no difference where a build
succeeds: then every active resource of a service kind has a name
(`Descriptor.exists_name_of_mem`), that of a key included, which becomes no
service. Every service of the model comes from one of these resources
(`Descriptor.exists_resource_of_mem_services`). With distinct names of
resources none of them hides another one in the map of names
(`OrderedMap.get?_ofList_eq_some_iff`).
-/

set_option autoImplicit false

namespace MultiTarget

/-! ### Prepared resources -/

namespace Target

/-- The default that a resource gets says nothing about its kind, which is told
by the type. A resource without a type stays without one. -/
theorem serviceKind_prepareResource (resource : Resource) :
    (prepareResource resource).serviceKind = resource.serviceKind := by
  have htype : (prepareResource resource).parameters.get? "type"
      = resource.parameters.get? "type" := by
    unfold prepareResource
    rw [get?_withDefaults]
    exact Option.or_none
  unfold Resource.serviceKind Resource.declaredType
  rw [htype]
  rfl

theorem isService_prepareResource (resource : Resource) :
    (prepareResource resource).isService = resource.isService := by
  unfold Resource.isService
  rw [serviceKind_prepareResource]

/-- The same resources describe a service after a preparation, so that one may
filter before or after. -/
theorem filter_isService_map_prepareResource (resources : List Resource) :
    (resources.map prepareResource).filter (·.isService)
      = (resources.filter (·.isService)).map prepareResource := by
  rw [List.filter_map]
  exact congrArg _ (List.filter_congr fun resource _ => isService_prepareResource resource)

/-- The active resources of a prepared descriptor that describe a service are
those of the descriptor. The result is about the latter, and a build sees the
former. -/
theorem serviceResources_prepare (target : Target) (descriptor : Descriptor) :
    (target.prepare descriptor).activeResources.filter (·.isService)
      = (descriptor.activeResources.filter (·.isService)).map prepareResource := by
  unfold Descriptor.activeResources prepare
  rw [List.filter_map]
  exact filter_isService_map_prepareResource _

end Target

/-! ### Names of resources -/

/-- A resource describes a service exactly if it has a kind. A type that cannot
be read makes no service, and no error either. -/
theorem Resource.isService_iff {resource : Resource} :
    resource.isService = true ↔ ∃ kind, resource.serviceKind = .ok (some kind) := by
  unfold isService
  split
  · rename_i kind hkind
    exact iff_of_true rfl ⟨kind, hkind⟩
  · rename_i hnone
    exact iff_of_false Bool.false_ne_true fun ⟨kind, hkind⟩ => hnone kind hkind

/-- What is built for a resource has a name, even if no service comes of it. It
is the case of a key. -/
theorem Service.exists_name_of_ofKind {naming : ServiceNaming} {resource : Resource}
    {chain : ScopeChain} {kind : ServiceKind} {found : Option Service}
    (h : (ofKind naming resource chain kind).result = .ok found) :
    ∃ name, naming.name resource = .ok name := by
  unfold ofKind at h
  simp only [Build.result_bind, Outcome.bind_eq_ok, Outcome.result_liftM] at h
  -- The name is needed before the kind is looked at.
  obtain ⟨_, -, _, -, name, hname, -⟩ := h
  exact ⟨name, hname⟩

namespace Descriptor

variable {descriptor : Descriptor} {naming : ServiceNaming} {services : List Service}

/-- Where services are built, every active resource of a service kind has a
name. So the list of names can be made as well. -/
theorem exists_name_of_mem (h : (descriptor.services naming).result = .ok services)
    {resource : Resource} (hmem : resource ∈ descriptor.activeResources.filter (·.isService)) :
    ∃ name, naming.name resource = .ok name := by
  obtain ⟨hactive, hservice⟩ := List.mem_filter.1 hmem
  obtain ⟨kind, hkind⟩ := Resource.isService_iff.1 hservice
  unfold Descriptor.services at h
  rw [Build.result_bind, Outcome.result_forEach] at h
  obtain ⟨found, hfound, -⟩ := Outcome.bind_eq_ok.1 h
  obtain ⟨service?, -, hrun⟩ := Outcome.exists_result_of_mem hfound hactive
  rw [result_service hkind] at hrun
  exact Service.exists_name_of_ofKind hrun

/-- Every service comes from an active resource of a service kind and has its
name. It is the way back from a model to the descriptor. -/
theorem exists_resource_of_mem_services
    (h : (descriptor.services naming).result = .ok services) {service : Service}
    (hmem : service ∈ services) :
    ∃ resource ∈ descriptor.activeResources.filter (·.isService),
      service.resourceName = resource.name ∧ naming.name resource = .ok service.name := by
  unfold Descriptor.services at h
  rw [Build.result_bind, Outcome.result_forEach] at h
  simp only [Build.result_pure, Outcome.bind_eq_ok, Except.ok.injEq] at h
  obtain ⟨found, hfound, rfl⟩ := h
  obtain ⟨service?, hservice, hsome⟩ := List.mem_filterMap.1 hmem
  obtain ⟨resource, hactive, hrun⟩ := Outcome.exists_item_of_mem hfound hservice
  rw [hsome] at hrun
  obtain ⟨kind, name, hkind, hname, hstands, -⟩ := exists_kind_of_service hrun
  exact ⟨resource, List.mem_filter.2 ⟨hactive, Resource.isService_iff.2 ⟨kind, hkind⟩⟩,
    hstands.resourceName_eq, hstands.name_eq ▸ hname⟩

end Descriptor

/-! ### Names and models -/

namespace CloudModel

variable {options : Options} {target : Target} {deployed : Option Deployed}
  {descriptor : Descriptor} {model : CloudModel}

/-- An application is bound to services of its model only. This is known of
applications and is used here by the names alone. -/
theorem exists_service_of_bound
    (h : (ofDescriptor options target deployed descriptor).result = .ok model)
    {app : Application} (happ : app ∈ model.applications) {name : String}
    (hname : name ∈ app.services) : ∃ service ∈ model.services, service.name = name := by
  obtain ⟨m, hm, -, hrun⟩ := exists_module_of_mem h happ
  have hprepared : (target.prepare descriptor).module? m.name = some (target.prepareModule m) := by
    rw [Target.module?_prepare, hm, Option.map_some]
  have hclosed := ApplicationPlan.closed_of_applicationOf (m := target.prepareModule m)
    (ofDescriptor_eq_ok_iff.1 h).services hprepared hrun
  exact hclosed.services_exist name hname

/-- The names are those of the active resources of a service kind, each with
the name of its service. The list of entries has the names of the resources as
its keys, in order. -/
theorem serviceNames_eq_ok {named : List (String × String)}
    (h : ((target.prepare descriptor).activeResources.filter (·.isService)).mapM
      (namedService (ServiceNaming.ofOptions options (target.prepare descriptor))) = .ok named) :
    serviceNames options target descriptor = .ok (.ofList named) ∧
      named.map (·.1) = (descriptor.activeResources.filter (·.isService)).map (·.name) := by
  constructor
  · unfold serviceNames
    dsimp only
    rw [h]
    rfl
  · have hkey : ∀ resource entry, namedService
        (ServiceNaming.ofOptions options (target.prepare descriptor)) resource = .ok entry →
        entry.1 = resource.name :=
      fun _ _ hentry => (Outcome.named_eq_ok.1 hentry).1
    rw [Outcome.map_eq_map_of_mapM hkey h, Target.serviceResources_prepare, List.map_map]
    rfl

/-- **Names agree with the build.** Let the resources of a descriptor have
distinct names. If it has a model, it has names of services too: one for each
active resource of a service kind, which is the name of its service in the
model, if it has one. Applications are bound to services with these names only.

With two resources of one name the map has room for one of them, though the
model has services of both. -/
theorem serviceNames_agree (options : Options) (target : Target) (deployed : Option Deployed)
    (descriptor : Descriptor) (model : CloudModel)
    (hnames : (descriptor.resources.map (·.name)).Nodup)
    (h : (ofDescriptor options target deployed descriptor).result = .ok model) :
    ∃ names, serviceNames options target descriptor = .ok names ∧
      (∀ key, key ∈ names.keys ↔
        ∃ resource ∈ descriptor.activeResources, resource.isService = true ∧
          resource.name = key) ∧
      (∀ service ∈ model.services, names.get? service.resourceName = some service.name) ∧
      ∀ app ∈ model.applications, ∀ name ∈ app.services, name ∈ names.values := by
  have hservices := (ofDescriptor_eq_ok_iff.1 h).services
  have hall : ∀ resource ∈ (target.prepare descriptor).activeResources.filter (·.isService),
      ∃ entry, namedService (ServiceNaming.ofOptions options (target.prepare descriptor)) resource
        = .ok entry := by
    intro resource hmem
    obtain ⟨name, hname⟩ := Descriptor.exists_name_of_mem hservices hmem
    exact ⟨(resource.name, name), Outcome.bind_eq_ok.2 ⟨name, hname, rfl⟩⟩
  obtain ⟨named, hnamed⟩ := Outcome.exists_mapM_iff.2 hall
  obtain ⟨hrun, hkeys⟩ := serviceNames_eq_ok hnamed
  -- So the map of names has an entry for each of these resources.
  have hnodup : (named.map (·.1)).Nodup := by
    rw [hkeys]
    exact hnames.sublist ((List.filter_sublist.trans List.filter_sublist).map _)
  have hfound : ∀ service ∈ model.services,
      (OrderedMap.ofList named).get? service.resourceName = some service.name := by
    intro service hmem
    obtain ⟨resource, hresource, hsame, hname⟩ :=
      Descriptor.exists_resource_of_mem_services hservices hmem
    obtain ⟨entry, hentry, hpair⟩ := Outcome.exists_result_of_mem hnamed hresource
    obtain ⟨name, hname', hpair⟩ := Outcome.bind_eq_ok.1 hpair
    obtain rfl := Outcome.pure_eq_ok.1 hpair
    obtain rfl : service.name = name := Except.ok.inj (hname.symm.trans hname')
    rw [hsame]
    exact (OrderedMap.get?_ofList_eq_some_iff hnodup).2 hentry
  -- Keys are names of resources; what an application is bound to is a service, which has its name
  -- in the map.
  refine ⟨.ofList named, hrun, fun key => ?_, hfound, fun app happ name hname => ?_⟩
  · rw [OrderedMap.mem_keys_ofList_iff hnodup, hkeys]
    simp [and_assoc]
  · obtain ⟨service, hmem, rfl⟩ := exists_service_of_bound h happ hname
    exact OrderedMap.mem_values_of_get? (hfound service hmem)

/-- A module bound to a managed service. A key becomes no service, and neither
do an inactive resource and one of no service kind. -/
def library : Descriptor :=
  .plain ∅
    [{ Module.plain "web" ∅ with requires := [.plain "db" ∅, .plain "reader" ∅] }]
    [.plain "db" "managed-service" (.ofList [("service", .str "postgresql"),
        ("service-plan", .str "free"), ("service-name", .str "catalogue")]),
      .plain "reader" "existing-service-key" (.ofList [("service-name", .str "shared")]),
      { Resource.plain "cache" "managed-service" ∅ with isActive := false },
      .plain "api" "configuration" ∅]

/-- The library has a model with one service, and names of this and of the key.
The inactive resource has no name, although it is of a service kind. -/
theorem serviceNames_agree_library : ∃ model names,
    (library.resources.map (·.name)).Nodup ∧
    (ofDescriptor .standard .plain none library).result = .ok model ∧
    serviceNames .standard .plain library = .ok names ∧
    names.entries = [("db", "catalogue"), ("reader", "shared")] ∧
    model.services.map (·.name) = ["catalogue"] ∧
    (∀ key, key ∈ names.keys ↔
      ∃ resource ∈ library.activeResources, resource.isService = true ∧ resource.name = key) ∧
    (∀ service ∈ model.services, names.get? service.resourceName = some service.name) ∧
    ∀ app ∈ model.applications, ∀ name ∈ app.services, name ∈ names.values := by
  have hdistinct : (library.resources.map (·.name)).Nodup := by decide
  have hrun : ((ofDescriptor .standard .plain none library).result.map fun model =>
      model.services.map (·.name)) = .ok ["catalogue"] := by decide +kernel
  obtain ⟨model, hmodel, hservices⟩ := Outcome.map_eq_ok.1 hrun
  obtain ⟨names, hnames, hkeys, hfound, hbound⟩ :=
    serviceNames_agree .standard .plain none library model hdistinct hmodel
  have hentries : (serviceNames .standard .plain library).map (·.entries)
      = .ok [("db", "catalogue"), ("reader", "shared")] := by decide +kernel
  rw [hnames] at hentries
  exact ⟨model, names, hdistinct, hmodel, hnames, Except.ok.inj hentries, hservices, hkeys,
    hfound, hbound⟩

end CloudModel

end MultiTarget
