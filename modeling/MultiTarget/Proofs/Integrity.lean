import MultiTarget.CloudModel
import MultiTarget.Proofs.Binding
import MultiTarget.Proofs.Support.Plain

/-!
# `MultiTarget.Proofs.Integrity`: what a model refers to is part of it

Applications, services and keys of a model are built one apart from the
other, each from the resources of the descriptor. They refer to each other
by the names of services. `ofDescriptor_closed` says that these names
agree in every model that is built.

The proof goes from a name back to a resource and from there to the
service: a binding and a key are to an active resource of a service kind
(`Descriptor.outcome_bindings`,
`Descriptor.exists_resource_of_mem_serviceKeys`), and every such resource
has its service in the model, under the same name
(`Descriptor.exists_service_of_mem`).
-/

set_option autoImplicit false

namespace MultiTarget

/-- An application refers to services that exist. Its module is the first one
with the name that the application has noted, so the services of its
environment can be told from the plan. -/
structure Application.Closed (plan : ApplicationPlan) (services : List Service)
    (app : Application) : Prop where
  /-- What the application is bound to is a service. -/
  services_exist : ∀ name ∈ app.services, ∃ service ∈ services, service.name = name
  /-- Binding parameters are those of services that it is bound to. -/
  parameters_bound : ∀ name ∈ app.bindingParameters.keys, name ∈ app.services
  /-- It is bound to each service once. -/
  services_nodup : app.services.Nodup
  /-- The services that its environment lists are among those that it is
  bound to. -/
  own_bound : ∃ m own, plan.descriptor.module? app.moduleName = some m ∧
    plan.descriptor.ownServices plan.naming m = .ok own ∧
    Environment.ofModule plan.values plan.options.deployId plan.descriptor m own = .ok app.env ∧
    ∀ name ∈ own, name ∈ app.services

/-- A key belongs to a managed or to an existing service, which it names as the
service itself is named. -/
def ServiceKey.Closed (services : List Service) (key : ServiceKey) : Prop :=
  ∃ service ∈ services, service.name = key.serviceName ∧
    (service.kind = .managed ∨ service.kind = .existing)

namespace ApplicationPlan

variable {plan : ApplicationPlan} {m : Module} {app : Application}

/-- The steps of the construction of an application that deal with services,
and the name of its module. The other steps are left out, as no reference is
made there. -/
theorem outcome_applicationOf (h : plan.applicationOf m = .ok app) :
    app.moduleName = m.name ∧
    plan.descriptor.boundServices plan.naming m = .ok app.services ∧
    plan.descriptor.bindingParameters plan.naming m = .ok app.bindingParameters ∧
    ∃ own, plan.descriptor.ownServices plan.naming m = .ok own ∧
      Environment.ofModule plan.values plan.options.deployId plan.descriptor m own
        = .ok app.env := by
  unfold applicationOf at h
  simp only [Outcome.bind_eq_ok, Outcome.pure_eq_ok] at h
  obtain ⟨services, hservices, own, hown, env, henv, h⟩ := h
  obtain ⟨_, -, _, -, _, -, _, -, _, -, _, -, _, -, _, -, _, -, _, -, h⟩ := h
  obtain ⟨parameters, hparameters, _, -, _, -, rfl⟩ := h
  exact ⟨rfl, hservices, hparameters, own, hown, henv⟩

/-- The name of a binding is that of a service of the descriptor. A binding is
to no key, and every other active resource of a service kind has its
service. -/
theorem exists_service_of_binding {services : List Service}
    (hservices : (plan.descriptor.services plan.naming).result = .ok services)
    {bindings : List Binding} (hbindings : plan.descriptor.bindings m = .ok bindings)
    {binding : Binding} (hmem : binding ∈ bindings) {name : String}
    (hname : plan.naming.name binding.resource = .ok name) :
    ∃ service ∈ services, service.name = name := by
  obtain ⟨hactive, hkind, hkey⟩ := Descriptor.outcome_bindings hbindings hmem
  obtain ⟨service, hservice, name', hname', hstands⟩ :=
    Descriptor.exists_service_of_mem hservices hactive hkind hkey
  rw [hname] at hname'
  cases hname'
  exact ⟨service, hservice, hstands.name_eq⟩

/-- An application of the first module with its name refers to services that
exist. The services are those of the same plan, so both go by the same
names. -/
theorem closed_of_applicationOf {services : List Service}
    (hservices : (plan.descriptor.services plan.naming).result = .ok services)
    (hmodule : plan.descriptor.module? m.name = some m) (h : plan.applicationOf m = .ok app) :
    app.Closed plan services := by
  obtain ⟨hname, hbound, hparameters, own, hown, henv⟩ := outcome_applicationOf h
  obtain ⟨bindings, hbindings, hbound⟩ := Outcome.bind_eq_ok.1 hbound
  obtain ⟨hnodup, hnames⟩ := Descriptor.outcome_bindingNames hbound
  refine ⟨fun name hmem => ?_, fun name hmem => ?_, hnodup,
    m, own, hname ▸ hmodule, hown, henv, fun name hmem => ?_⟩
  · obtain ⟨binding, hbinding, hrun⟩ := (hnames name).1 hmem
    exact exists_service_of_binding hservices hbindings hbinding hrun
  · obtain ⟨bindings', hbindings', binding, hbinding, hrun⟩ :=
      Descriptor.exists_binding_of_mem_keys hparameters hmem
    rw [hbindings] at hbindings'
    cases hbindings'
    exact (hnames name).2 ⟨binding, hbinding, hrun⟩
  · -- The own services are those of some of the bindings.
    obtain ⟨bindings', hbindings', hown⟩ := Outcome.bind_eq_ok.1 hown
    rw [hbindings] at hbindings'
    cases hbindings'
    obtain ⟨binding, hbinding, hrun⟩ := ((Descriptor.outcome_bindingNames hown).2 name).1 hmem
    exact (hnames name).2 ⟨binding, (List.mem_filter.1 hbinding).1, hrun⟩

end ApplicationPlan

namespace CloudModel

/-- What applications are built from for a target: the prepared descriptor, and
what the target and the options say. -/
def planFor (options : Options) (target : Target) (deployed : Option Deployed)
    (descriptor : Descriptor) : ApplicationPlan :=
  let prepared := target.prepare descriptor
  { descriptor := prepared, options, values := target.placeholderValues
    naming := ServiceNaming.ofOptions options prepared, deployed }

/-- **What a model refers to is part of it.** In a model of a descriptor every
application is bound to services of the model only, to each of them once, with
binding parameters for none but these and no other ones listed in its
environment, and every key belongs to a managed or an existing service of the
model. -/
theorem ofDescriptor_closed (options : Options) (target : Target) (deployed : Option Deployed)
    (descriptor : Descriptor) (model : CloudModel)
    (h : (ofDescriptor options target deployed descriptor).result = .ok model) :
    (∀ app ∈ model.applications,
      app.Closed (planFor options target deployed descriptor) model.services) ∧
    ∀ key ∈ model.serviceKeys, key.Closed model.services := by
  unfold ofDescriptor ofPrepared at h
  simp only [Build.result_bind, Build.result_pure, Outcome.result_liftM,
    Outcome.result_forEach, Outcome.bind_eq_ok, Except.ok.injEq] at h
  obtain ⟨order, -, applications, happs, services, hservices, keys, hkeys, _, -, rfl⟩ := h
  constructor
  · intro app happ
    obtain ⟨m, hm, happ⟩ := Outcome.exists_item_of_mem happs happ
    -- The module was found by a name of the order, so it is the first one with its name.
    obtain ⟨name, -, hmodule⟩ := List.mem_filterMap.1 hm
    have hname : m.name = name := by simpa using List.find?_some hmodule
    unfold ApplicationPlan.application at happ
    simp only [Build.result_bind, Outcome.result_liftM, Outcome.bind_eq_ok] at happ
    obtain ⟨-, -, happ⟩ := happ
    exact ApplicationPlan.closed_of_applicationOf hservices (hname ▸ hmodule) happ
  · intro key hkey
    obtain ⟨resource, hactive, hname, kind, hkind, hkinds⟩ :=
      Descriptor.exists_resource_of_mem_serviceKeys hkeys hkey
    -- A resource with keys is no key itself, so it has a service.
    have hnotKey : kind ≠ .existingKey := by
      rcases hkinds with rfl | rfl <;> decide
    obtain ⟨service, hservice, name, hname', hstands⟩ :=
      Descriptor.exists_service_of_mem hservices hactive hkind hnotKey
    rw [hname] at hname'
    cases hname'
    exact ⟨service, hservice, hstands.name_eq, hstands.kind_eq ▸ hkinds⟩

/-- A module that requires a managed service with a key, the same one again
with parameters, and an existing service. -/
def shop : Descriptor :=
  .plain ∅
    [{ Module.plain "web" ∅ with
        requires := [.plain "db" (.ofList [("config", .obj [])]), .plain "shared" ∅,
          .plain "db" ∅] }]
    [.plain "db" "managed-service" (.ofList [("service", .str "postgresql"),
        ("service-plan", .str "free"),
        ("service-keys", .arr [.obj [("name", .str "reader")]])]),
      .plain "shared" "existing-service" ∅]

/-- The shop has a model with an application and a key, and what these refer to
is part of it. -/
theorem ofDescriptor_shop : ∃ model,
    (ofDescriptor .standard .plain none shop).result = .ok model ∧
    model.applications.map (·.services) = [["db", "shared"]] ∧
    model.serviceKeys.map (·.serviceName) = ["db"] ∧
    (∀ app ∈ model.applications,
      app.Closed (planFor .standard .plain none shop) model.services) ∧
    ∀ key ∈ model.serviceKeys, key.Closed model.services := by
  have hfacts : ((ofDescriptor .standard .plain none shop).result.map fun model =>
      (model.applications.map (·.services), model.serviceKeys.map (·.serviceName)))
        = .ok ([["db", "shared"]], ["db"]) := by decide +kernel
  cases hmodel : (ofDescriptor .standard .plain none shop).result with
  | error error =>
      rw [hmodel] at hfacts
      cases hfacts
  | ok model =>
      rw [hmodel] at hfacts
      obtain ⟨hservices, hkeys⟩ := Prod.mk.inj (Except.ok.inj hfacts)
      exact ⟨model, rfl, hservices, hkeys, ofDescriptor_closed _ _ _ _ model hmodel⟩

end CloudModel

end MultiTarget
