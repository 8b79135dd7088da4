import MultiTarget.Kubernetes.Provision
import MultiTarget.Proofs.Agreement

/-!
# `MultiTarget.Proofs.Agreement.Kubernetes`: what manifests are read from

The manifests of a module are read from the parameters
`Kubernetes.workloadNames`, and those of a resource from
`Kubernetes.provisionNames`. The environment in a configuration, and so its
fingerprint, is read from no chain at all.
-/

set_option autoImplicit false

namespace MultiTarget.Kubernetes

/-- The parameters that the manifests of a module are read from, services and
ingresses included. -/
abbrev workloadNames : List String :=
  ["type", "container-image", "instances", "retries", "port", "route", "routes"]

/-- The parameters that the manifests of a resource are read from, which depend
on its type. -/
abbrev provisionNames : List String := [
  "registry", "username", "password", "service-class", "service", "service-plan", "config"]

namespace Synthesis

variable {s : Synthesis} {a b : ScopeChain} {general : Parameters}

/-! ### Modules -/

/-- Two chains agree on the parameters that the manifests of a module are read
from. -/
abbrev WorkloadAgree (a b : ScopeChain) : Prop := a.AgreeOn (· ∈ workloadNames) b

namespace WorkloadAgree

/-- The template of a pod is the same: of the chain it reads the image of its
container. -/
theorem podTemplate (h : WorkloadAgree a b) (m : Module) (labels : Labels) (config : ConfigMap)
    (policy : RestartPolicy) (port : Option Nat) :
    s.podTemplate m a labels config policy port = s.podTemplate m b labels config policy port := by
  simp (disch := simp) only [Synthesis.podTemplate, h.values.text?]

/-- The deployment is the same, since its template and its number of replicas
are. -/
theorem deployment (h : WorkloadAgree a b) (m : Module) (labels : Labels) (config : ConfigMap)
    (port : Nat) : s.deployment m a labels config port = s.deployment m b labels config port := by
  simp (disch := simp) only [Synthesis.deployment, count, h.values.integer?, h.podTemplate]

/-- The job is the same, with its template and its number of retries. -/
theorem job (h : WorkloadAgree a b) (m : Module) (labels : Labels) (config : ConfigMap) :
    s.job m a labels config = s.job m b labels config := by
  simp (disch := simp) only [Synthesis.job, count, h.values.integer?, h.podTemplate]

/-- The port of the container is the same, and so is the refusal of a number
that is none. -/
theorem containerPort (h : WorkloadAgree a b) : containerPort a = containerPort b := by
  simp (disch := simp) only [Synthesis.containerPort, h.values.integer?, h.values.invalid]

/-- The ingress is the same, or missing in both. It lists the hosts of the
routes that are written out and nothing else of routing. -/
theorem ingress (h : WorkloadAgree a b) (m : Module) (labels : Labels) :
    s.ingress m a labels = s.ingress m b labels := by
  simp (disch := simp) only [Synthesis.ingress, listedRoutes, h.values.text?, h.values.list?]

/-- The manifests of a module that runs are the same: the deployment, its
service and its ingress. -/
theorem deploymentManifests (h : WorkloadAgree a b) (m : Module) (labels : Labels)
    (config : ConfigMap) :
    s.deploymentManifests m a labels config = s.deploymentManifests m b labels config := by
  simp only [Synthesis.deploymentManifests, h.containerPort, h.deployment, h.ingress]

end WorkloadAgree

/-- **What the manifests of a module are read from.** Another scope of the
descriptor that agrees on their parameters changes none of them. Most
parameters of applications have no part in this. -/
theorem moduleManifests_withParameters
    (h : s.descriptor.parameters.AgreeOn (· ∈ workloadNames) general) (m : Module) :
    s.moduleManifests m
      = moduleManifests { s with descriptor := s.descriptor.withParameters general } m := by
  have hscopes := Descriptor.moduleScopes_withParameters h m
  have hagree : WorkloadAgree _ _ := hscopes
  -- Labels and the configuration are left: they name the descriptor, not its parameters.
  unfold moduleManifests
  simp (disch := simp) only [hscopes.values.text?, hagree.deploymentManifests, hagree.job]
  rfl

/-! ### Resources -/

/-- Two chains agree on the parameters that the manifests of a resource are
read from. -/
abbrev ProvisionAgree (a b : ScopeChain) : Prop := a.AgreeOn (· ∈ provisionNames) b

namespace ProvisionAgree

/-- The secret for a registry is the same, or the same parameter is missing in
both. -/
theorem dockerSecret (h : ProvisionAgree a b) (resource : Resource) (labels : Labels) :
    dockerSecret resource a labels = dockerSecret resource b labels := by
  simp (disch := simp) only [Synthesis.dockerSecret, requiredText, h.values.text?]

/-- The instance of a service is the same, with its class, its plan and its
configuration. -/
theorem serviceInstance (h : ProvisionAgree a b) (resource : Resource) (labels : Labels) :
    serviceInstance resource a labels = serviceInstance resource b labels := by
  simp (disch := simp) only [Synthesis.serviceInstance, requiredText, h.values.text?,
    h.values.map?]

end ProvisionAgree

/-- **What the manifests of a resource are read from.** Another scope of the
descriptor that agrees on their parameters changes none of them. -/
theorem resourceManifests_withParameters
    (h : s.descriptor.parameters.AgreeOn (· ∈ provisionNames) general) (resource : Resource) :
    s.resourceManifests resource
      = resourceManifests { s with descriptor := s.descriptor.withParameters general }
          resource := by
  have hagree : ProvisionAgree _ _ := Descriptor.resourceScopes_withParameters h resource
  -- Secret data are read from the resource itself, whatever the chain.
  unfold resourceManifests manifestsOfType
  simp only [hagree.dockerSecret, hagree.serviceInstance]
  rfl

/-- Another scope of the descriptor that agrees on the parameters of both
changes no manifest. The order stays too, since it is that of the
descriptor. -/
theorem manifests_withParameters
    (h : s.descriptor.parameters.AgreeOn (· ∈ workloadNames ++ provisionNames) general) :
    s.manifests = manifests { s with descriptor := s.descriptor.withParameters general } := by
  have hmodules : s.moduleManifests
      = moduleManifests { s with descriptor := s.descriptor.withParameters general } :=
    funext (moduleManifests_withParameters
      (h.mono fun _ hkey => List.mem_append_left _ hkey))
  have hresources : s.resourceManifests
      = resourceManifests { s with descriptor := s.descriptor.withParameters general } :=
    funext (resourceManifests_withParameters
      (h.mono fun _ hkey => List.mem_append_right _ hkey))
  unfold manifests
  rw [hmodules, hresources]
  rfl

end Synthesis

end MultiTarget.Kubernetes
