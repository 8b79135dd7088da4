import MultiTarget.Proofs.Kubernetes.Manifests
import MultiTarget.Proofs.Secrets

/-!
# `MultiTarget.Proofs.Kubernetes.Secrets`: manifests of redacted descriptors

The manifests of a descriptor are those of the redacted one, but for the
data of secrets and the parameters of service instances
(`manifestsFor_redacted`). A module sees names and types of the resources
that it requires, and no more, so its manifests are the same with the
fingerprint of its configuration. A resource becomes the same objects with
other contents.
-/

set_option autoImplicit false

namespace MultiTarget.Kubernetes

open Outcome (bind_eq_ok pure_eq_ok)

/-- The object without what secrets are written into. Two synthesis runs are
compared by these views, as the contents differ on purpose. -/
def Manifest.withoutSecrets : Manifest → Manifest
  | .secret object => .secret { object with data := ∅ }
  | .serviceInstance object => .serviceInstance { object with parameters := ∅ }
  | manifest => manifest

namespace Synthesis

/-- The synthesis of the redacted descriptor. The values of placeholders are
those of the target and hold no secret. -/
def redacted (s : Synthesis) : Synthesis := { s with descriptor := s.descriptor.redacted }

variable (s : Synthesis) (m : Module) (resource : Resource)

/-! ### Modules -/

/-- A module requires the same names, since a redaction leaves the name, the
type and the activity of a resource as they are. -/
theorem requiredNames_redacted (type : ResourceType) :
    s.redacted.requiredNames m type = s.requiredNames m type := by
  have htype : isOfType type ∘ Resource.redacted = isOfType type := by
    funext resource
    show isOfType type resource.redacted = _
    unfold isOfType
    rw [Resource.declaredType_redacted]
    rfl
  -- Resources that are found in one descriptor are found, redacted, in the other one.
  have hrequired : (m.requires.filterMap fun dependency =>
        s.redacted.descriptor.resource? dependency.name)
      = (m.requires.filterMap fun dependency =>
        s.descriptor.resource? dependency.name).map Resource.redacted := by
    rw [List.map_filterMap]
    exact List.filterMap_congr fun dependency _ => s.descriptor.resource?_redacted dependency.name
  unfold requiredNames
  simp only [hrequired, List.filter_map, htype, List.map_map]
  rfl

/-- The manifests of a module are equal, not merely alike: its environment has
the names of services only. So the fingerprint of the configuration is the same
as well. -/
theorem moduleManifests_redacted : s.redacted.moduleManifests m = s.moduleManifests m := by
  have hconfig : ∀ labels, s.redacted.configMap m labels = s.configMap m labels := by
    intro labels
    unfold configMap
    rw [requiredNames_redacted]
    rfl
  have htemplate : ∀ chain labels config policy port,
      s.redacted.podTemplate m chain labels config policy port
        = s.podTemplate m chain labels config policy port := by
    intro chain labels config policy port
    unfold podTemplate
    simp only [requiredNames_redacted]
  unfold moduleManifests deploymentManifests deployment job
  simp only [hconfig, htemplate]
  rfl

/-! ### Resources -/

variable {s resource} {descriptor : Descriptor} {chain : ScopeChain} {labels : Labels}

/-- A secret for pulling images holds the access to its registry as data, and
says nothing of it elsewhere. The redacted texts are empty but there, so the
builder still succeeds. -/
theorem dockerSecret_redacted {secret : Secret}
    (h : dockerSecret resource chain labels = .ok secret) :
    ∃ data, dockerSecret resource.redacted
      (descriptor.redacted.resourceScopes resource.redacted) labels = .ok { secret with data } := by
  -- Each of the three texts is replaced by the empty one in both scopes.
  have hread : ∀ key, Entries.lookup key Resource.redactions = some (.str "") →
      requiredText resource.redacted (descriptor.redacted.resourceScopes resource.redacted)
        .dockerSecret key = .ok "" := by
    intro key hkey
    unfold requiredText
    rw [ScopeChain.text?_of_get?_eq_str (descriptor.get?_resourceScopes_redacted resource hkey)]
    rfl
  obtain ⟨metadata, type, data⟩ := secret
  obtain ⟨rfl, rfl⟩ := outcome_dockerSecret h
  unfold dockerSecret
  rw [hread "registry" rfl, hread "username" rfl, hread "password" rfl]
  exact ⟨_, rfl⟩

/-- A secret with data of a redacted resource has none. The redacted data are
an empty map, which the builder takes like any other. -/
theorem dataSecret_redacted {secret : Secret} (h : dataSecret resource labels = .ok secret) :
    dataSecret resource.redacted labels = .ok { secret with data := ∅ } := by
  have hdata : resource.redacted.parameters.get? "data" = some (.obj []) :=
    resource.get?_redacted "data"
  unfold dataSecret at h ⊢
  rw [hdata]
  split at h
  · obtain rfl := pure_eq_ok.1 h
    rfl
  · obtain rfl := pure_eq_ok.1 h
    rfl
  · cases h

/-- A service instance of a redacted resource has no parameters. Its class and
plan are read from names that a redaction leaves alone. -/
theorem serviceInstance_redacted {created : ServiceInstance}
    (h : serviceInstance resource (descriptor.resourceScopes resource) labels = .ok created) :
    serviceInstance resource.redacted (descriptor.redacted.resourceScopes resource.redacted) labels
      = .ok { created with parameters := ∅ } := by
  have hconfig : (descriptor.redacted.resourceScopes resource.redacted).map? "config"
      = .ok (some []) := by
    have hget : (descriptor.redacted.resourceScopes resource.redacted).get? "config"
        = some (.obj []) := descriptor.get?_resourceScopes_redacted resource rfl
    unfold ScopeChain.map? ScopeChain.read?
    rw [hget]
    rfl
  have hscopes := descriptor.resourceScopes_redacted resource
  have hrequired : ∀ key, key ∉ Resource.secretNames →
      requiredText resource.redacted (descriptor.redacted.resourceScopes resource.redacted)
          .serviceInstance key
        = requiredText resource (descriptor.resourceScopes resource) .serviceInstance key := by
    intro key hkey
    unfold requiredText
    rw [hscopes.values.text? hkey]
    rfl
  have hopen : "service-class" ∉ Resource.secretNames := by decide
  have hclass := hscopes.values.text? hopen
  unfold serviceInstance at h ⊢
  rw [← hclass, hrequired "service" (by decide), hrequired "service-plan" (by decide), hconfig]
  obtain ⟨class?, hclass, h⟩ := bind_eq_ok.1 h
  refine bind_eq_ok.2 ⟨class?, hclass, ?_⟩
  -- The class is read from one of two parameters; what follows is the same.
  cases class?
  all_goals
    simp only [bind_eq_ok, pure_eq_ok] at h ⊢
    obtain ⟨className, hname, plan, hplan, entries, -, rfl⟩ := h
    exact ⟨className, hname, plan, hplan, some [], rfl, rfl⟩

/-- The objects of a redacted resource are those of the resource with other
secrets. Success is part of the statement: no redacted value is one that a
builder refuses. -/
theorem manifestsOfType_redacted {type : String} {block : List Manifest}
    (h : s.manifestsOfType resource type = .ok block) :
    ∃ other, s.redacted.manifestsOfType resource.redacted type = .ok other ∧
      other.map Manifest.withoutSecrets = block.map Manifest.withoutSecrets := by
  unfold manifestsOfType at h ⊢
  dsimp only at h ⊢
  -- By the type, which is the same for both.
  split at h
  · rename_i hdocker
    obtain ⟨secret, hsecret, h⟩ := bind_eq_ok.1 h
    obtain ⟨data, hother⟩ := dockerSecret_redacted hsecret
    obtain rfl := pure_eq_ok.1 h
    rw [if_pos hdocker]
    exact ⟨_, bind_eq_ok.2 ⟨_, hother, rfl⟩, rfl⟩
  · rename_i hdocker
    split at h
    · rename_i hdata
      obtain ⟨secret, hsecret, h⟩ := bind_eq_ok.1 h
      obtain rfl := pure_eq_ok.1 h
      rw [if_neg hdocker, if_pos hdata]
      exact ⟨_, bind_eq_ok.2 ⟨_, dataSecret_redacted hsecret, rfl⟩, rfl⟩
    · rename_i hdata
      split at h
      · rename_i hservice
        obtain ⟨created, hcreated, h⟩ := bind_eq_ok.1 h
        obtain rfl := pure_eq_ok.1 h
        rw [if_neg hdocker, if_neg hdata, if_pos hservice]
        exact ⟨_, bind_eq_ok.2 ⟨_, serviceInstance_redacted hcreated, rfl⟩, rfl⟩
      · cases h

/-- The manifests of a redacted resource are those of the resource with other
secrets, and there are none if it declares no type. -/
theorem resourceManifests_redacted {block : List Manifest}
    (h : s.resourceManifests resource = .ok block) :
    ∃ other, s.redacted.resourceManifests resource.redacted = .ok other ∧
      other.map Manifest.withoutSecrets = block.map Manifest.withoutSecrets := by
  unfold resourceManifests at h ⊢
  rw [Resource.declaredType_redacted]
  obtain ⟨type?, htype, h⟩ := bind_eq_ok.1 h
  rw [htype]
  cases type? with
  | none =>
      obtain rfl := pure_eq_ok.1 h
      exact ⟨[], rfl, rfl⟩
  | some type => exact manifestsOfType_redacted h

/-! ### All manifests -/

/-- All manifests are the same but for secrets, in the same order. The
manifests of modules are equal, and those of resources are so owner by
owner. -/
theorem manifests_redacted {manifests : List Manifest} (h : s.manifests = .ok manifests) :
    ∃ others, s.redacted.manifests = .ok others ∧
      others.map Manifest.withoutSecrets = manifests.map Manifest.withoutSecrets := by
  obtain ⟨ofModules, ofResources, hmodules, hresources, rfl⟩ := manifests_eq_ok h
  have hsame : s.redacted.moduleManifests = s.moduleManifests := funext s.moduleManifests_redacted
  obtain ⟨others, hothers, hview⟩ := Outcome.exists_mapM_map
    (fun _ _ => resourceManifests_redacted) hresources
  have hblocks : others.flatten.map Manifest.withoutSecrets
      = ofResources.flatten.map Manifest.withoutSecrets := by
    rw [List.map_flatten, hview, ← List.map_flatten]
  refine ⟨ofModules.flatten ++ others.flatten, ?_, ?_⟩
  · unfold Synthesis.manifests
    rw [hsame]
    refine bind_eq_ok.2 ⟨ofModules, hmodules, bind_eq_ok.2 ⟨others, ?_, rfl⟩⟩
    -- A redaction makes no resource active or inactive.
    exact (congrArg (List.mapM _) s.descriptor.activeResources_redacted).trans hothers
  · rw [List.map_append, List.map_append, hblocks]

end Synthesis

/-- **Redaction.** The manifests of a descriptor are those of the redacted one,
but for the data of secrets and the parameters of service instances. Two
descriptors that differ in secrets have one redacted descriptor in common,
which is how this is used. -/
theorem manifestsFor_redacted {options : Options} {target : Target} {descriptor : Descriptor}
    {manifests : List Manifest} (h : manifestsFor options target descriptor = .ok manifests) :
    ∃ others, manifestsFor options target descriptor.redacted = .ok others ∧
      others.map Manifest.withoutSecrets = manifests.map Manifest.withoutSecrets := by
  unfold manifestsFor
  rw [target.prepare_redacted]
  exact Synthesis.manifests_redacted (s := .forTarget options target descriptor) h

end MultiTarget.Kubernetes
