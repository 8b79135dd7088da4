import MultiTarget.Binding
import MultiTarget.Proofs.Service
import MultiTarget.Proofs.Support.Distinct
import MultiTarget.Proofs.Support.Maps

/-!
# `MultiTarget.Proofs.Binding`: which services a module is bound to

A binding is a required dependency on an active resource of a service
kind other than that of a key (`outcome_bindings`). The names of the
services of a module are those of its bindings, each once
(`outcome_bindingNames`), and its binding parameters stand under some of
these names (`exists_binding_of_mem_keys`).
-/

set_option autoImplicit false

namespace MultiTarget

namespace Descriptor

variable {descriptor : Descriptor} {naming : ServiceNaming} {m : Module}

/-- The first resource with a name, if it is active, is an active resource. An
inactive one hides later ones with its name, so these are not looked for. -/
theorem mem_activeResources_of_activeResource? {name : String} {resource : Resource}
    (h : descriptor.activeResource? name = some resource) :
    resource ∈ descriptor.activeResources := by
  obtain ⟨hfind, hactive⟩ := Option.filter_eq_some_iff.1 h
  exact List.mem_filter.2 ⟨List.mem_of_find?_eq_some hfind, hactive⟩

/-- A binding is to an active resource of a service kind other than that of a
key. Resources that are no services drop out on the way, and keys are injected
instead of bound. -/
theorem outcome_bindings {bindings : List Binding} (h : descriptor.bindings m = .ok bindings)
    {binding : Binding} (hmem : binding ∈ bindings) :
    binding.resource ∈ descriptor.activeResources ∧
      binding.resource.serviceKind = .ok (some binding.kind) ∧
      binding.kind ≠ .existingKey := by
  unfold Descriptor.bindings serviceRequirements at h
  simp only [Outcome.bind_eq_ok, Outcome.pure_eq_ok] at h
  -- From the list of bindings back to the dependency: the filter for keys, the resources with a
  -- kind, and those that are required.
  obtain ⟨found, ⟨entries, hentries, rfl⟩, rfl⟩ := h
  obtain ⟨hmem, hkey⟩ := List.mem_filter.1 hmem
  obtain ⟨entry, hentry, hsome⟩ := List.mem_filterMap.1 hmem
  obtain ⟨⟨dependency, resource⟩, hrequired, hkind⟩ := Outcome.exists_item_of_mem hentries hentry
  simp only [Outcome.bind_eq_ok, Outcome.pure_eq_ok] at hkind
  obtain ⟨kind?, hkind, rfl⟩ := hkind
  obtain ⟨kind, rfl, rfl⟩ := Option.map_eq_some_iff.1 hsome
  obtain ⟨dependency', -, hresource⟩ := List.mem_filterMap.1 hrequired
  obtain ⟨resource', hactive, heq⟩ := Option.map_eq_some_iff.1 hresource
  cases heq
  exact ⟨mem_activeResources_of_activeResource? hactive, hkind, by simpa using hkey⟩

/-- The names of bindings are the names of their resources, each once. Two
resources may share a service, so a name can come from several bindings. -/
theorem outcome_bindingNames {bindings : List Binding} {names : List String}
    (h : bindingNames naming bindings = .ok names) :
    names.Nodup ∧
      ∀ name, name ∈ names ↔ ∃ binding ∈ bindings, naming.name binding.resource = .ok name := by
  unfold bindingNames at h
  simp only [Outcome.bind_eq_ok, Outcome.pure_eq_ok] at h
  obtain ⟨all, hall, rfl⟩ := h
  refine ⟨nodup_eraseDups all, fun name => ?_⟩
  rw [List.mem_eraseDups]
  constructor
  · intro hname
    exact Outcome.exists_item_of_mem hall hname
  · rintro ⟨binding, hbinding, hname⟩
    obtain ⟨name', hmem, hname'⟩ := Outcome.exists_result_of_mem hall hbinding
    rw [hname] at hname'
    cases hname'
    exact hmem

/-- Binding parameters stand under the name of the service of a binding, so
none of them is about a service that the module is not bound to. -/
theorem exists_binding_of_mem_keys {parameters : OrderedMap Parameters}
    (h : descriptor.bindingParameters naming m = .ok parameters) {name : String}
    (hname : name ∈ parameters.keys) :
    ∃ bindings, descriptor.bindings m = .ok bindings ∧
      ∃ binding ∈ bindings, naming.name binding.resource = .ok name := by
  unfold bindingParameters at h
  simp only [Outcome.bind_eq_ok, Outcome.pure_eq_ok] at h
  obtain ⟨bindings, hbindings, found, hfound, rfl⟩ := h
  obtain ⟨value, hvalue⟩ := OrderedMap.exists_mem_of_mem_keys_ofList hname
  obtain ⟨found?, hentry, hsome⟩ := List.mem_filterMap.1 hvalue
  obtain ⟨binding, hbinding, hrun⟩ := Outcome.exists_item_of_mem hfound hentry
  refine ⟨bindings, hbindings, binding, hbinding, ?_⟩
  unfold bindingEntry at hrun
  obtain ⟨parameters?, -, hrun⟩ := Outcome.bind_eq_ok.1 hrun
  subst hsome
  -- A binding without parameters of its own has no entry.
  cases parameters? with
  | none => cases hrun
  | some own =>
      simp only [Outcome.bind_eq_ok, Outcome.pure_eq_ok] at hrun
      obtain ⟨name', hname', heq⟩ := hrun
      cases heq
      exact hname'

end Descriptor

end MultiTarget
