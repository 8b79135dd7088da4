import MultiTarget.Proofs.Support.Outcome
import MultiTarget.Service

/-!
# `MultiTarget.Proofs.Service`: what a built service keeps of its resource

A service has the kind of its resource and the name that the naming gives
the resource, whatever else its parameters say. So has every key the name
of the service it belongs to.
-/

set_option autoImplicit false

namespace MultiTarget

namespace Service

/-- A service stands for a resource: it has its kind, the name that it is
given, and it names the resource. Every other attribute comes from the
parameters. -/
structure StandsFor (service : Service) (name : String) (resource : Resource)
    (kind : ServiceKind) : Prop where
  name_eq : service.name = name
  resourceName_eq : service.resourceName = resource.name
  kind_eq : service.kind = kind

variable {naming : ServiceNaming} {resource : Resource} {kind : ServiceKind}
  {chain : ScopeChain} {name : String}

/-- The common part of a service stands for its resource. The other parts of it
are filled in by kind. -/
theorem standsFor_of_base {service : Service} (h : base name resource kind chain = .ok service) :
    service.StandsFor name resource kind := by
  unfold base at h
  -- An optional resource has one read less; the names are the same in either case.
  split at h
  all_goals
    simp only [Outcome.bind_eq_ok, Outcome.pure_eq_ok] at h
    obtain ⟨_, -, _, -, _, -, rfl⟩ := h
    exact ⟨rfl, rfl, rfl⟩

/-- A managed service stands for what its common part stands for, since only
attributes are added to it. -/
theorem standsFor_of_managed {common service : Service}
    (hcommon : common.StandsFor name resource kind) (h : managed common chain = .ok service) :
    service.StandsFor name resource kind := by
  unfold managed at h
  simp only [Outcome.bind_eq_ok, Outcome.pure_eq_ok] at h
  obtain ⟨_, -, _, -, _, -, _, -, _, -, _, -, _, -, _, -, rfl⟩ := h
  exact ⟨hcommon.name_eq, hcommon.resourceName_eq, hcommon.kind_eq⟩

/-- A user-provided service stands for what its common part stands for, with a
warning or without. -/
theorem standsFor_of_userProvided {common service : Service}
    (hcommon : common.StandsFor name resource kind)
    (h : (userProvided common chain).result = .ok service) :
    service.StandsFor name resource kind := by
  unfold userProvided at h
  rw [Build.result_bind] at h
  obtain ⟨label?, -, h⟩ := Outcome.bind_eq_ok.1 h
  -- A label is warned of; the service is built in the same way.
  cases label?
  all_goals
    simp only [Build.result_bind, Build.result_pure, Build.result_warn, Outcome.bind_eq_ok,
      Except.ok.injEq, true_and, exists_const] at h
    obtain ⟨_, -, _, -, _, -, rfl⟩ := h
    exact ⟨hcommon.name_eq, hcommon.resourceName_eq, hcommon.kind_eq⟩

/-- A resource of a kind other than that of a key has a service that stands for
it under the name that the naming gives the resource. A resource that stands
for a key has none. -/
theorem outcome_ofKind {found : Option Service}
    (h : (ofKind naming resource chain kind).result = .ok found) :
    (kind = .existingKey ∧ found = none) ∨
    (kind ≠ .existingKey ∧ ∃ service name, found = some service ∧
      naming.name resource = .ok name ∧ service.StandsFor name resource kind) := by
  unfold ofKind at h
  simp only [Build.result_bind, Outcome.bind_eq_ok, Outcome.result_liftM] at h
  obtain ⟨_, -, _, -, name, hname, common, hcommon, h⟩ := h
  have hstands := standsFor_of_base hcommon
  -- By the kind: the first two fill in more, the third nothing, and the last has no service.
  cases kind with
  | managed =>
      simp only [Build.result_bind, Build.result_pure, Outcome.result_liftM,
        Outcome.bind_eq_ok, Except.ok.injEq] at h
      obtain ⟨service, hservice, rfl⟩ := h
      exact .inr ⟨by decide, service, name, rfl, hname, standsFor_of_managed hstands hservice⟩
  | userProvided =>
      simp only [Build.result_bind, Build.result_pure, Outcome.bind_eq_ok, Except.ok.injEq] at h
      obtain ⟨service, hservice, rfl⟩ := h
      exact .inr
        ⟨by decide, service, name, rfl, hname, standsFor_of_userProvided hstands hservice⟩
  | existing =>
      simp only [Build.result_pure, Except.ok.injEq] at h
      exact .inr ⟨by decide, common, name, h.symm, hname, hstands⟩
  | existingKey =>
      simp only [Build.result_pure, Except.ok.injEq] at h
      exact .inl ⟨rfl, h.symm⟩

end Service

/-- A key belongs to the service that it is read for. No entry can name another
service. -/
theorem ServiceKey.serviceName_of_ofJson {resource : Resource} {serviceName : String}
    {entry : Json} {key : ServiceKey} (h : ofJson resource serviceName entry = .ok key) :
    key.serviceName = serviceName := by
  unfold ofJson at h
  cases entry with
  | obj entries =>
      simp only [Outcome.bind_eq_ok, Outcome.pure_eq_ok] at h
      obtain ⟨_, -, _, -, rfl⟩ := h
      rfl
  | _ => cases h

namespace Descriptor

variable {descriptor : Descriptor} {naming : ServiceNaming}

/-- The service of a resource of a kind is that of the kind. A resource of no
kind has none, which is another case. -/
theorem result_service {resource : Resource} {kind : ServiceKind}
    (hkind : resource.serviceKind = .ok (some kind)) :
    (descriptor.service naming resource).result
      = (Service.ofKind naming resource (descriptor.resourceScopes resource) kind).result := by
  unfold service
  rw [Build.result_bind, Outcome.result_liftM, hkind]
  rfl

/-- A service is built for a resource of a kind, and stands for it. What the
builder made of it is kept, for those who need more than its name. -/
theorem exists_kind_of_service {resource : Resource} {service : Service}
    (h : (descriptor.service naming resource).result = .ok (some service)) :
    ∃ kind name, resource.serviceKind = .ok (some kind) ∧ naming.name resource = .ok name ∧
      service.StandsFor name resource kind ∧
      (Service.ofKind naming resource (descriptor.resourceScopes resource) kind).result
        = .ok (some service) := by
  have hrun := h
  unfold Descriptor.service at hrun
  rw [Build.result_bind, Outcome.result_liftM] at hrun
  obtain ⟨kind?, hkind, hrun⟩ := Outcome.bind_eq_ok.1 hrun
  cases kind? with
  | none => cases hrun
  | some kind =>
      rw [result_service hkind] at h
      rcases Service.outcome_ofKind h with ⟨-, hnone⟩ | ⟨-, built, name, hbuilt, hname, hstands⟩
      · cases hnone
      · cases hbuilt
        exact ⟨kind, name, hkind, hname, hstands, h⟩

/-- Every active resource of a service kind, other than a key, has a service
among the services of the descriptor. It is the direction that bindings need:
what they name is there. -/
theorem exists_service_of_mem {services : List Service}
    (h : (descriptor.services naming).result = .ok services) {resource : Resource}
    (hactive : resource ∈ descriptor.activeResources) {kind : ServiceKind}
    (hkind : resource.serviceKind = .ok (some kind)) (hkey : kind ≠ .existingKey) :
    ∃ service ∈ services, ∃ name, naming.name resource = .ok name ∧
      service.StandsFor name resource kind := by
  unfold Descriptor.services at h
  rw [Build.result_bind, Outcome.result_forEach] at h
  simp only [Build.result_pure, Outcome.bind_eq_ok, Except.ok.injEq] at h
  obtain ⟨found, hfound, rfl⟩ := h
  obtain ⟨service?, hmem, hservice⟩ := Outcome.exists_result_of_mem hfound hactive
  rw [result_service hkind] at hservice
  rcases Service.outcome_ofKind hservice with ⟨rfl, -⟩ | ⟨-, service, name, rfl, hname, hstands⟩
  · exact absurd rfl hkey
  · exact ⟨service, List.mem_filterMap.2 ⟨_, hmem, rfl⟩, name, hname, hstands⟩

/-- The keys of the entries that a resource lists, if it lists any, name its
service. The lists of managed and of existing services are read alike. -/
theorem name_of_mem_listedKeys {resource : Resource} {entries? : Option (List Json)}
    {keys : List ServiceKey}
    (h : (match entries? with
      | none => pure []
      | some entries => do
        let serviceName ← naming.name resource
        entries.mapM (ServiceKey.ofJson resource serviceName)) = Except.ok keys)
    {key : ServiceKey} (hkey : key ∈ keys) : naming.name resource = .ok key.serviceName := by
  cases entries? with
  | none =>
      cases h
      cases hkey
  | some entries =>
      obtain ⟨serviceName, hname, h⟩ := Outcome.bind_eq_ok.1 h
      obtain ⟨entry, -, hentry⟩ := Outcome.exists_item_of_mem h hkey
      rw [hname, ServiceKey.serviceName_of_ofJson hentry]

/-- A key of a resource names the service of the resource, which is a managed
or an existing one. No other kind has keys. -/
theorem outcome_keysOf {resource : Resource} {keys : List ServiceKey}
    (h : descriptor.keysOf naming resource = .ok keys) {key : ServiceKey} (hkey : key ∈ keys) :
    naming.name resource = .ok key.serviceName ∧
      ∃ kind, resource.serviceKind = .ok (some kind) ∧ (kind = .managed ∨ kind = .existing) := by
  unfold keysOf at h
  obtain ⟨kind?, hkind, h⟩ := Outcome.bind_eq_ok.1 h
  split at h
  · obtain ⟨entries?, -, h⟩ := Outcome.bind_eq_ok.1 h
    exact ⟨name_of_mem_listedKeys h hkey, _, hkind, .inl rfl⟩
  · obtain ⟨entries?, -, h⟩ := Outcome.bind_eq_ok.1 h
    exact ⟨name_of_mem_listedKeys h hkey, _, hkind, .inr rfl⟩
  · -- A resource of another kind has no keys.
    cases h
    cases hkey

/-- A key of a descriptor names the service of an active resource, so that no
key is left without its service. -/
theorem exists_resource_of_mem_serviceKeys {keys : List ServiceKey}
    (h : descriptor.serviceKeys naming = .ok keys) {key : ServiceKey} (hkey : key ∈ keys) :
    ∃ resource ∈ descriptor.activeResources, naming.name resource = .ok key.serviceName ∧
      ∃ kind, resource.serviceKind = .ok (some kind) ∧ (kind = .managed ∨ kind = .existing) := by
  unfold serviceKeys at h
  simp only [Outcome.bind_eq_ok, Outcome.pure_eq_ok] at h
  obtain ⟨lists, hlists, rfl⟩ := h
  obtain ⟨keys, hmem, hkey⟩ := List.mem_flatten.1 hkey
  obtain ⟨resource, hresource, hkeys⟩ := Outcome.exists_item_of_mem hlists hmem
  exact ⟨resource, hresource, outcome_keysOf hkeys hkey⟩

end Descriptor

end MultiTarget
