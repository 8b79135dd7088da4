import MultiTarget.Proofs.Kubernetes.Manifests

/-!
# `MultiTarget.Proofs.Kubernetes.References`: names that manifests refer to

Manifests refer to each other by name: pods to their configuration and to
secrets for pulling images, an ingress to a service and a binding to a
service instance (`Manifest.references`). The names are chosen while modules
are built, and the objects that a module needs from resources are built
later. `manifests_referencesMet` says that nothing is missing in the end.

Most references stay among the manifests of one module or of one resource.
The others are to resources that the module requires. These are looked up
with their type and found active (`exists_resource_of_mem_requiredNames`),
and it is just the active resources of that type that become what is
referred to (`exists_pullSecret`, `exists_serviceInstance`).
-/

set_option autoImplicit false

namespace MultiTarget.Kubernetes

/-- Something that a manifest names. Labels are not among it: selectors do not
name what they find. -/
inductive Reference where
  /-- A configuration for the environment of a container. -/
  | configMap (name : String)
  /-- A secret for pulling images. -/
  | pullSecret (name : String)
  /-- A service with one of its ports. -/
  | servicePort (name : String) (port : Nat)
  | serviceInstance (name : String)
  deriving DecidableEq, Repr

/-- What pods refer to: one configuration, and a secret for each requirement of
one, with repetitions. -/
def PodTemplate.references (t : PodTemplate) : List Reference :=
  .configMap t.configMapName :: t.pullSecrets.map .pullSecret

/-- What a manifest refers to. All kinds are listed, so that a new one has to
be decided upon here. -/
def Manifest.references : Manifest → List Reference
  | deployment d => d.template.references
  | job j => j.template.references
  | ingress i => i.rules.map fun rule => .servicePort rule.serviceName rule.servicePort
  | serviceBinding binding => [.serviceInstance binding.instanceName]
  | configMap _ | service _ | secret _ | serviceInstance _ => []

/-- A manifest is what is referred to: it has the kind and the name, a
secret also the type that images are pulled with, a service the port. -/
def Reference.IsMetBy : Reference → Manifest → Prop
  | configMap name, .configMap config => config.metadata.name = name
  | pullSecret name, .secret secret =>
    secret.metadata.name = name ∧ secret.type = .dockerConfig
  | servicePort name port, .service service =>
    service.metadata.name = name ∧ service.port = port
  | serviceInstance name, .serviceInstance created => created.metadata.name = name
  | _, _ => False

namespace Synthesis

variable {s : Synthesis} {m : Module} {resource : Resource} {chain : ScopeChain}
  {config : ConfigMap} {block manifests : List Manifest} {x : Manifest} {ref : Reference}
  {name : String}

/-! ### References to resources -/

/-- A secret that a module pulls images with is among all manifests. Its name
was found by looking for an active resource of the type, and such a resource
becomes that secret. -/
theorem exists_pullSecret (h : s.manifests = .ok manifests)
    (hname : name ∈ s.requiredNames m .dockerSecret) :
    ∃ y ∈ manifests, (Reference.pullSecret name).IsMetBy y := by
  obtain ⟨resource, hresource, hactive, htype, rfl⟩ :=
    exists_resource_of_mem_requiredNames hname
  obtain ⟨block, hblock, hsub⟩ := exists_block_of_isActive h hresource hactive
  -- The type was read twice, with one outcome: three of the four cases fall away.
  rcases resourceManifests_cases hblock with ⟨hother, -⟩ | ⟨-, secret, hsecret, hkind, rfl⟩ |
    ⟨hother, -⟩ | ⟨hother, -⟩
  · cases htype.symm.trans hother
  · exact ⟨_, hsub List.mem_cons_self, hsecret, hkind⟩
  · exact absurd (htype.symm.trans hother) (by decide)
  · exact absurd (htype.symm.trans hother) (by decide)

/-- A service instance that a module requires is among all manifests, and a
binding of it. Bindings are told here as well, because the environment of a
module relies on them. -/
theorem exists_serviceInstance (h : s.manifests = .ok manifests)
    (hname : name ∈ s.requiredNames m .serviceInstance) :
    (∃ y ∈ manifests, (Reference.serviceInstance name).IsMetBy y) ∧
      ∃ binding, .serviceBinding binding ∈ manifests ∧ binding.instanceName = name := by
  obtain ⟨resource, hresource, hactive, htype, rfl⟩ :=
    exists_resource_of_mem_requiredNames hname
  obtain ⟨block, hblock, hsub⟩ := exists_block_of_isActive h hresource hactive
  -- As above, the type leaves one case.
  rcases resourceManifests_cases hblock with ⟨hother, -⟩ | ⟨hother, -⟩ | ⟨hother, -⟩ |
    ⟨-, created, hcreated, rfl⟩
  · cases htype.symm.trans hother
  · exact absurd (htype.symm.trans hother) (by decide)
  · exact absurd (htype.symm.trans hother) (by decide)
  · have hcreated' : (Reference.serviceInstance resource.name).IsMetBy (.serviceInstance created) :=
      hcreated
    exact ⟨⟨_, hsub List.mem_cons_self, hcreated'⟩, _,
      hsub (List.mem_cons_of_mem _ List.mem_cons_self), rfl⟩

/-! ### References within one block -/

/-- The pods of a module refer to its configuration and to the secrets that it
requires. Only the second leave the block of the module. -/
theorem of_mem_references_podTemplate {policy : RestartPolicy} {port : Option Nat}
    {t : PodTemplate} {labels : Labels}
    (h : s.podTemplate m chain labels config policy port = .ok t) (href : ref ∈ t.references) :
    ref.IsMetBy (.configMap config) ∨
      ∃ name ∈ s.requiredNames m .dockerSecret, ref = .pullSecret name := by
  obtain ⟨-, -, hname, hsecrets⟩ := outcome_podTemplate h
  rw [PodTemplate.references, hname, hsecrets] at href
  rcases List.mem_cons.1 href with rfl | href
  · exact .inl rfl
  · obtain ⟨name, hname, rfl⟩ := List.mem_map.1 href
    exact .inr ⟨name, hname, rfl⟩

/-- What a manifest of a module refers to is another one of the module, or a
secret that the module requires. The first is met within the block, the second
by a resource. -/
theorem of_mem_references_moduleManifests (h : s.moduleManifests m = .ok block) (hx : x ∈ block)
    (href : ref ∈ x.references) :
    (∃ y ∈ block, ref.IsMetBy y) ∨
      ∃ name ∈ s.requiredNames m .dockerSecret, ref = .pullSecret name := by
  obtain ⟨type?, config, -, hconfig, hcases⟩ := moduleManifests_cases h
  -- Each manifest of the block in turn: configurations and services refer to nothing.
  rcases hcases with ⟨-, port, d, ingress?, hd, hingress, rfl⟩ | ⟨-, j, hj, rfl⟩
  · rcases List.mem_append.1 hx with hx | hx
    · simp only [List.mem_cons, List.not_mem_nil, or_false] at hx
      rcases hx with rfl | rfl | rfl
      · cases href
      · obtain ⟨-, -, -, htemplate⟩ := outcome_deployment hd
        refine (of_mem_references_podTemplate htemplate href).imp_left fun hmet => ?_
        exact ⟨_, by simp, hmet⟩
      · cases href
    · -- The ingress leads to the service, which has the port of all services.
      obtain ⟨ingress, rfl, rfl⟩ := Option.map_eq_some_iff.1 (Option.mem_toList.1 hx)
      obtain ⟨rule, hrule, rfl⟩ := List.mem_map.1 href
      obtain ⟨hname, hport⟩ := (outcome_ingress hingress).2 rule hrule
      have hmet : (Reference.servicePort rule.serviceName rule.servicePort).IsMetBy
          (.service (networkService m (s.labels m.name) port)) := ⟨hname.symm, hport.symm⟩
      exact .inl ⟨_, by simp, hmet⟩
  · rcases List.mem_pair.1 hx with rfl | rfl
    · cases href
    · obtain ⟨-, htemplate⟩ := outcome_job hj
      refine (of_mem_references_podTemplate htemplate href).imp_left fun hmet => ?_
      exact ⟨_, List.mem_cons_self, hmet⟩

/-- The configuration of a module is among its manifests, under the labels of
the module. -/
theorem exists_configMap_mem (h : s.moduleManifests m = .ok block) :
    ∃ config, s.configMap m (s.labels m.name) = .ok config ∧ .configMap config ∈ block := by
  obtain ⟨config, hconfig, hmem⟩ := exists_configMap_mem_iff h
  exact ⟨config, hconfig, (hmem config).2 rfl⟩

/-- A binding refers to the instance of its own resource, and no other manifest
of a resource refers to anything. So resources need nothing from outside. -/
theorem of_mem_references_resourceManifests (h : s.resourceManifests resource = .ok block)
    (hx : x ∈ block) (href : ref ∈ x.references) : ∃ y ∈ block, ref.IsMetBy y := by
  rcases resourceManifests_cases h with ⟨-, rfl⟩ | ⟨-, secret, -, -, rfl⟩ |
    ⟨-, secret, -, rfl⟩ | ⟨-, created, hcreated, rfl⟩
  · cases hx
  · cases List.mem_singleton.1 hx
    cases href
  · cases List.mem_singleton.1 hx
    cases href
  · rcases List.mem_pair.1 hx with rfl | rfl
    · cases href
    · obtain rfl := List.mem_singleton.1 href
      have hmet : (Reference.serviceInstance resource.name).IsMetBy (.serviceInstance created) :=
        hcreated
      exact ⟨_, List.mem_cons_self, hmet⟩

/-! ### All references -/

/-- **Nothing that manifests refer to is missing.** In every synthesis that
succeeds each reference of a manifest is met by one of the manifests. The
services that the environment of a module is made with are service
instances among them, each with a binding. -/
theorem manifests_referencesMet (h : s.manifests = .ok manifests) :
    (∀ x ∈ manifests, ∀ ref ∈ x.references, ∃ y ∈ manifests, ref.IsMetBy y) ∧
    ∀ m ∈ s.descriptor.modules,
      let services := s.requiredNames m .serviceInstance
      (∃ env, Environment.ofModule s.values none s.descriptor m services = .ok env ∧
        .configMap ⟨.plain m.name (s.labels m.name), env.texts s.prettyPrinting⟩ ∈ manifests) ∧
      ∀ name ∈ services, (∃ y ∈ manifests, (Reference.serviceInstance name).IsMetBy y) ∧
        ∃ binding, .serviceBinding binding ∈ manifests ∧ binding.instanceName = name := by
  constructor
  · intro x hx ref href
    -- A reference is met in the block of the manifest, or it is one to a secret for pulling.
    rcases exists_block_of_mem_manifests h hx with
      ⟨m, -, block, hblock, hsub, hx⟩ | ⟨resource, -, block, hblock, hsub, hx⟩
    · rcases of_mem_references_moduleManifests hblock hx href with
        ⟨y, hy, hmet⟩ | ⟨name, hname, rfl⟩
      · exact ⟨y, hsub hy, hmet⟩
      · exact exists_pullSecret h hname
    · obtain ⟨y, hy, hmet⟩ := of_mem_references_resourceManifests hblock hx href
      exact ⟨y, hsub hy, hmet⟩
  · intro m hm services
    refine ⟨?_, fun name hname => exists_serviceInstance h hname⟩
    obtain ⟨block, hblock, hsub⟩ := exists_block_of_mem h hm
    obtain ⟨config, hconfig, hmem⟩ := exists_configMap_mem hblock
    obtain ⟨hmetadata, env, henv, hdata⟩ := outcome_configMap hconfig
    refine ⟨env, henv, ?_⟩
    rw [← hmetadata, ← hdata]
    exact hsub hmem

/-- The manifests of the cluster hold references of every sort, and they are
all met, two of them by manifests of resources. -/
theorem manifests_referencesMet_cluster : ∃ manifests, cluster.manifests = .ok manifests ∧
    manifests.flatMap Manifest.references =
      [.configMap "web", .pullSecret "pull", .servicePort "web" 80, .configMap "api",
        .configMap "migrate", .serviceInstance "catalog"] ∧
    (∀ x ∈ manifests, ∀ ref ∈ x.references, ∃ y ∈ manifests, ref.IsMetBy y) ∧
    cluster.descriptor.modules.map (cluster.requiredNames · .serviceInstance) =
      [["catalog"], [], []] ∧
    ∃ binding, .serviceBinding binding ∈ manifests ∧ binding.instanceName = "catalog" := by
  have hfacts : (cluster.manifests.map fun manifests =>
      manifests.flatMap Manifest.references) =
      .ok [.configMap "web", .pullSecret "pull", .servicePort "web" 80, .configMap "api",
        .configMap "migrate", .serviceInstance "catalog"] := by decide +kernel
  obtain ⟨manifests, hmanifests, hfacts⟩ := Outcome.map_eq_ok.1 hfacts
  obtain ⟨hmet, hservices⟩ := manifests_referencesMet hmanifests
  refine ⟨manifests, hmanifests, hfacts, hmet, by decide +kernel, ?_⟩
  obtain ⟨-, hservices⟩ := hservices _ List.mem_cons_self
  exact (hservices "catalog" (by decide +kernel)).2

end Synthesis

end MultiTarget.Kubernetes
