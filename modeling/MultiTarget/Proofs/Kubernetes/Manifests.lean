import MultiTarget.Kubernetes.Provision
import MultiTarget.Proofs.Support.Outcome
import MultiTarget.Proofs.Support.Plain

/-!
# `MultiTarget.Proofs.Kubernetes.Manifests`: what a synthesis makes of what

A synthesis that succeeds has put together the manifests of all modules and
of all active resources (`mem_manifests_iff`). The manifests of a module
are those of a deployment or those of a job (`moduleManifests_cases`), and
those of a resource are told by its type (`resourceManifests_cases`). For
each object there is one lemma that says what it takes from the module or
the resource, so that no later proof opens a builder.
-/

set_option autoImplicit false

namespace MultiTarget.Kubernetes.Synthesis

open Outcome (bind_eq_ok pure_eq_ok)

variable {s : Synthesis} {m : Module} {resource : Resource} {chain : ScopeChain}
  {labels : Labels} {config : ConfigMap} {block manifests : List Manifest}

/-! ### Objects of modules -/

/-- A configuration holds the environment of the module, with the service
instances that the module requires. It never has the identifier of a
deployment. -/
theorem outcome_configMap (h : s.configMap m labels = .ok config) :
    config.metadata = .plain m.name labels ∧
      ∃ env, Environment.ofModule s.values none s.descriptor m
          (s.requiredNames m .serviceInstance) = .ok env ∧
        config.data = env.texts s.prettyPrinting := by
  unfold configMap at h
  simp only [bind_eq_ok, pure_eq_ok] at h
  obtain ⟨env, henv, rfl⟩ := h
  exact ⟨rfl, env, henv, rfl⟩

/-- A template has the labels and the port that it is given. It names the
configuration and the secrets for pulling images. What image it has is of no
interest to later proofs. -/
theorem outcome_podTemplate {policy : RestartPolicy} {port : Option Nat} {t : PodTemplate}
    (h : s.podTemplate m chain labels config policy port = .ok t) :
    t.metadata.labels = labels ∧ t.containerPort = port ∧
      t.configMapName = config.metadata.name ∧
      t.pullSecrets = s.requiredNames m .dockerSecret := by
  unfold podTemplate at h
  obtain ⟨image?, -, h⟩ := bind_eq_ok.1 h
  cases image? with
  | none => cases h
  | some image =>
      cases h
      exact ⟨rfl, rfl, rfl, rfl⟩

/-- A deployment finds its pods by the label `app` and runs as many of them as
the module asks for. Its template is built from the very same labels. -/
theorem outcome_deployment {port : Nat} {d : Deployment}
    (h : s.deployment m chain labels config port = .ok d) :
    d.metadata = .plain m.name labels ∧ d.matchLabels = appSelector labels ∧
      count m chain "instances" 1 = .ok d.replicas ∧
      s.podTemplate m chain labels config .always (some port) = .ok d.template := by
  unfold deployment at h
  simp only [bind_eq_ok, pure_eq_ok] at h
  obtain ⟨replicas, hreplicas, template, htemplate, rfl⟩ := h
  exact ⟨rfl, rfl, hreplicas, htemplate⟩

/-- A job has pods without a port, as no service leads to them, and with the
policy that a container is never started again. -/
theorem outcome_job {j : Job} (h : s.job m chain labels config = .ok j) :
    j.metadata = .plain m.name labels ∧
      s.podTemplate m chain labels config .never none = .ok j.template := by
  unfold job at h
  simp only [bind_eq_ok, pure_eq_ok] at h
  obtain ⟨retries, -, template, htemplate, rfl⟩ := h
  exact ⟨rfl, htemplate⟩

/-- All rules of an ingress lead to the service of the module. There may be no
rule at all, if every route lacks a host. -/
theorem outcome_ingress {ingress : Ingress} (h : s.ingress m chain labels = .ok (some ingress)) :
    ingress.metadata = .plain m.name labels ∧
      ∀ rule ∈ ingress.rules, rule.serviceName = m.name ∧ rule.servicePort = servicePort := by
  unfold Synthesis.ingress at h
  obtain ⟨routes, -, h⟩ := bind_eq_ok.1 h
  -- Without routes there is no ingress to speak of.
  cases routes with
  | nil => cases h
  | cons route routes =>
      simp only [pure_eq_ok, Option.some.injEq] at h
      subst h
      refine ⟨rfl, fun rule hrule => ?_⟩
      simp only [List.mem_map] at hrule
      obtain ⟨host, -, rfl⟩ := hrule
      exact ⟨rfl, rfl⟩

/-- A module is a deployment, with a service and perhaps an ingress, or a job,
and has a configuration in either case. Everything that a module can become is
said here, with the results of its builders, so no later proof opens them. -/
theorem moduleManifests_cases (h : s.moduleManifests m = .ok block) :
    let chain := s.descriptor.moduleScopes m
    let labels := s.labels m.name
    ∃ type? config, chain.text? "type" = .ok type? ∧ s.configMap m labels = .ok config ∧
      ((type?.getD "deployment" = "deployment" ∧ ∃ port d ingress?,
          s.deployment m chain labels config port = .ok d ∧
          s.ingress m chain labels = .ok ingress? ∧
          block = [.configMap config, .deployment d,
            .service (networkService m labels port)] ++ (ingress?.map Manifest.ingress).toList) ∨
        (type?.getD "deployment" = "job" ∧ ∃ j,
          s.job m chain labels config = .ok j ∧ block = [.configMap config, .job j])) := by
  unfold moduleManifests at h
  obtain ⟨type?, htype, h⟩ := bind_eq_ok.1 h
  obtain ⟨config, hconfig, h⟩ := bind_eq_ok.1 h
  refine ⟨type?, config, htype, hconfig, ?_⟩
  -- By the type: a deployment, a job, or an unknown one, which has no manifests.
  split at h
  · rename_i hdeployment
    unfold deploymentManifests at h
    simp only [bind_eq_ok, pure_eq_ok] at h
    obtain ⟨port, -, d, hd, ingress?, hingress, rfl⟩ := h
    exact .inl ⟨hdeployment, port, d, ingress?, hd, hingress, rfl⟩
  · split at h
    · rename_i hjob
      simp only [bind_eq_ok, pure_eq_ok] at h
      obtain ⟨j, hj, rfl⟩ := h
      exact .inr ⟨hjob, j, hj, rfl⟩
    · cases h

/-- The manifests of a module have its configuration and no other. Lookups of a
configuration by membership are therefore lookups of this one. -/
theorem exists_configMap_mem_iff (h : s.moduleManifests m = .ok block) :
    ∃ config, s.configMap m (s.labels m.name) = .ok config ∧
      ∀ c, .configMap c ∈ block ↔ c = config := by
  obtain ⟨type?, config, -, hconfig, hcases⟩ := moduleManifests_cases h
  refine ⟨config, hconfig, fun c => ?_⟩
  rcases hcases with ⟨-, port, d, ingress?, -, -, rfl⟩ | ⟨-, j, -, rfl⟩
  · cases ingress? <;> simp
  · simp

/-- The manifests of a module of the type of deployments. The type is read
through the scopes and may be absent, which stands for a deployment. -/
theorem exists_deployment_of_type (h : s.moduleManifests m = .ok block) {type? : Option String}
    (htype : (s.descriptor.moduleScopes m).text? "type" = .ok type?)
    (hdeployment : type?.getD "deployment" = "deployment") :
    let chain := s.descriptor.moduleScopes m
    let labels := s.labels m.name
    ∃ config port d ingress?, s.ingress m chain labels = .ok ingress? ∧
      block = [.configMap config, .deployment d,
        .service (networkService m labels port)] ++ (ingress?.map Manifest.ingress).toList := by
  obtain ⟨found?, config, hfound, -, hcases⟩ := moduleManifests_cases h
  obtain rfl : found? = type? := Except.ok.inj (hfound.symm.trans htype)
  rcases hcases with ⟨-, port, d, ingress?, -, hingress, rfl⟩ | ⟨hjob, -⟩
  · exact ⟨config, port, d, ingress?, hingress, rfl⟩
  · rw [hdeployment] at hjob
    exact absurd hjob (by decide)

/-- A module of the type of deployments has a deployment. It is stated apart
for proofs that need nothing else of the manifests. -/
theorem exists_deployment_mem (h : s.moduleManifests m = .ok block) {type? : Option String}
    (htype : (s.descriptor.moduleScopes m).text? "type" = .ok type?)
    (hdeployment : type?.getD "deployment" = "deployment") :
    ∃ d, Manifest.deployment d ∈ block := by
  obtain ⟨config, port, d, ingress?, -, rfl⟩ := exists_deployment_of_type h htype hdeployment
  exact ⟨d, by simp⟩

/-- A deployment of a module has its name, finds pods by its selector and runs
as many of them as its scopes say. It is the only one. -/
theorem of_deployment_mem {d : Deployment} (h : s.moduleManifests m = .ok block)
    (hd : .deployment d ∈ block) :
    d.metadata.name = m.name ∧ d.matchLabels = appSelector (s.labels m.name) ∧
      count m (s.descriptor.moduleScopes m) "instances" 1 = .ok d.replicas ∧
      ∀ d', Manifest.deployment d' ∈ block → d' = d := by
  obtain ⟨type?, config, -, -, hcases⟩ := moduleManifests_cases h
  rcases hcases with ⟨-, port, d₀, ingress?, hd₀, -, rfl⟩ | ⟨-, j, -, rfl⟩
  · have honly : ∀ d', Manifest.deployment d' ∈ [.configMap config, .deployment d₀,
        .service (networkService m (s.labels m.name) port)] ++
          (ingress?.map Manifest.ingress).toList → d' = d₀ := by
      cases ingress? <;> simp
    obtain rfl := honly d hd
    obtain ⟨hmetadata, hmatch, hreplicas, -⟩ := outcome_deployment hd₀
    exact ⟨by rw [hmetadata]; rfl, hmatch, hreplicas, honly⟩
  · simp at hd

/-! ### Objects of resources -/

/-- A secret for pulling images has the name of its resource and the type that
images are pulled with. A pod that names the secret asks for both. -/
theorem outcome_dockerSecret {secret : Secret}
    (h : dockerSecret resource chain labels = .ok secret) :
    secret.metadata = .plain resource.name labels ∧ secret.type = .dockerConfig := by
  unfold dockerSecret at h
  simp only [bind_eq_ok, pure_eq_ok] at h
  obtain ⟨_, -, _, -, _, -, rfl⟩ := h
  exact ⟨rfl, rfl⟩

/-- A secret with data has the name of its resource. Its data are not told
here, as no reference goes to them. -/
theorem outcome_dataSecret {secret : Secret} (h : dataSecret resource labels = .ok secret) :
    secret.metadata = .plain resource.name labels := by
  unfold dataSecret at h
  -- Only a map, or nothing at all, can be made into data.
  split at h
  · cases h
    rfl
  · cases h
    rfl
  · cases h

/-- A service instance has the name of its resource. The binding refers to it
by this name. -/
theorem outcome_serviceInstance {created : ServiceInstance}
    (h : serviceInstance resource chain labels = .ok created) :
    created.metadata = .plain resource.name labels := by
  unfold serviceInstance at h
  obtain ⟨class?, -, h⟩ := bind_eq_ok.1 h
  -- The class is read from one of two parameters; what follows is the same.
  cases class?
  all_goals
    simp only [bind_eq_ok, pure_eq_ok] at h
    obtain ⟨_, -, _, -, _, -, rfl⟩ := h
    rfl

/-- A resource is a secret, for pulling images or with data, or a service
instance with a binding. Without a type it is nothing. As for modules, this is
all that a resource can become. -/
theorem resourceManifests_cases (h : s.resourceManifests resource = .ok block) :
    (resource.declaredType = .ok none ∧ block = []) ∨
    (resource.declaredType = .ok (some ResourceType.dockerSecret.name) ∧ ∃ secret,
      secret.metadata.name = resource.name ∧ secret.type = .dockerConfig ∧
      block = [.secret secret]) ∨
    (resource.declaredType = .ok (some ResourceType.secret.name) ∧ ∃ secret,
      secret.metadata.name = resource.name ∧ block = [.secret secret]) ∨
    (resource.declaredType = .ok (some ResourceType.serviceInstance.name) ∧
      ∃ created, created.metadata.name = resource.name ∧
        block = [.serviceInstance created,
          .serviceBinding (serviceBinding resource (s.labels resource.name))]) := by
  unfold resourceManifests at h
  obtain ⟨type?, htype, h⟩ := bind_eq_ok.1 h
  rw [htype]
  -- By the type, in the order in which the builder asks for the three that it knows.
  cases type? with
  | none =>
      cases h
      exact .inl ⟨rfl, rfl⟩
  | some type =>
      refine .inr ?_
      simp only [manifestsOfType] at h
      split at h
      · rename_i hdocker
        simp only [bind_eq_ok, pure_eq_ok] at h
        obtain ⟨secret, hsecret, rfl⟩ := h
        obtain ⟨hmetadata, hkind⟩ := outcome_dockerSecret hsecret
        exact .inl ⟨by rw [hdocker], secret, by rw [hmetadata]; rfl, hkind, rfl⟩
      · refine .inr ?_
        split at h
        · rename_i hdata
          simp only [bind_eq_ok, pure_eq_ok] at h
          obtain ⟨secret, hsecret, rfl⟩ := h
          exact .inl ⟨by rw [hdata], secret, by rw [outcome_dataSecret hsecret]; rfl, rfl⟩
        · split at h
          · rename_i hservice
            simp only [bind_eq_ok, pure_eq_ok] at h
            obtain ⟨created, hcreated, rfl⟩ := h
            refine .inr ⟨by rw [hservice], created, ?_, rfl⟩
            rw [outcome_serviceInstance hcreated]
            rfl
          · cases h

/-- The kinds of objects that resources become. None of them is a kind of a
module. -/
def resourceKinds : List String := ["Secret", "ServiceInstance", "ServiceBinding"]

/-- No object of a resource is of a kind of modules. So a manifest of a kind
outside of this list is one of a module. -/
theorem kind_of_mem_resourceManifests (h : s.resourceManifests resource = .ok block)
    {x : Manifest} (hx : x ∈ block) : x.kind ∈ resourceKinds := by
  rcases resourceManifests_cases h with ⟨-, rfl⟩ | ⟨-, secret, -, -, rfl⟩ |
    ⟨-, secret, -, rfl⟩ | ⟨-, created, -, rfl⟩
  · cases hx
  · cases List.mem_singleton.1 hx
    exact List.mem_cons_self
  · cases List.mem_singleton.1 hx
    exact List.mem_cons_self
  · rcases List.mem_pair.1 hx with rfl | rfl <;> simp [resourceKinds, Manifest.kind]

/-- What a module requires of a type is an active resource of the descriptor.
This is what makes its references met, since active resources have
manifests. -/
theorem exists_resource_of_mem_requiredNames {type : ResourceType} {name : String}
    (h : name ∈ s.requiredNames m type) :
    ∃ resource ∈ s.descriptor.resources, resource.isActive = true ∧
      resource.declaredType = .ok (some type.name) ∧ resource.name = name := by
  obtain ⟨resource, hresource, rfl⟩ := List.mem_map.1 h
  obtain ⟨hrequired, htype⟩ := List.mem_filter.1 hresource
  obtain ⟨dependency, -, hfound⟩ := List.mem_filterMap.1 hrequired
  obtain ⟨hactive, htype⟩ := Bool.and_eq_true_iff.1 htype
  refine ⟨resource, List.mem_of_find?_eq_some hfound, hactive, ?_, rfl⟩
  split at htype
  · rename_i found hdeclared
    rw [hdeclared, eq_of_beq htype]
  · cases htype

/-! ### All manifests -/

/-- The manifests are those of the modules in order, then those of the active
resources in order. One failure fails them all. -/
theorem manifests_eq_ok (h : s.manifests = .ok manifests) :
    ∃ ofModules ofResources, s.descriptor.modules.mapM s.moduleManifests = .ok ofModules ∧
      (s.descriptor.resources.filter (·.isActive)).mapM s.resourceManifests
        = .ok ofResources ∧
      manifests = ofModules.flatten ++ ofResources.flatten := by
  unfold Synthesis.manifests at h
  simp only [bind_eq_ok, pure_eq_ok] at h
  obtain ⟨ofModules, hmodules, ofResources, hresources, rfl⟩ := h
  exact ⟨ofModules, ofResources, hmodules, hresources, rfl⟩

/-- Every module has manifests, and they are among all manifests. The block is
kept together, as its parts refer to each other. -/
theorem exists_block_of_mem (h : s.manifests = .ok manifests)
    (hm : m ∈ s.descriptor.modules) :
    ∃ block, s.moduleManifests m = .ok block ∧ block ⊆ manifests := by
  obtain ⟨ofModules, ofResources, hmodules, -, rfl⟩ := manifests_eq_ok h
  obtain ⟨block, hblock, hrun⟩ := Outcome.exists_result_of_mem hmodules hm
  exact ⟨block, hrun, fun x hx =>
    List.mem_append_left _ (List.mem_flatten.2 ⟨block, hblock, hx⟩)⟩

/-- Every active resource has manifests, and they are among all manifests. The
block is empty for one without a type. -/
theorem exists_block_of_isActive (h : s.manifests = .ok manifests)
    (hresource : resource ∈ s.descriptor.resources) (hactive : resource.isActive = true) :
    ∃ block, s.resourceManifests resource = .ok block ∧ block ⊆ manifests := by
  obtain ⟨ofModules, ofResources, -, hresources, rfl⟩ := manifests_eq_ok h
  obtain ⟨block, hblock, hrun⟩ := Outcome.exists_result_of_mem hresources
    (List.mem_filter.2 ⟨hresource, hactive⟩)
  exact ⟨block, hrun, fun x hx =>
    List.mem_append_right _ (List.mem_flatten.2 ⟨block, hblock, hx⟩)⟩

/-- Every manifest stands with all others of its module or resource. This is
the way back from a manifest to the owner that it was made for. -/
theorem exists_block_of_mem_manifests (h : s.manifests = .ok manifests) {x : Manifest}
    (hx : x ∈ manifests) :
    (∃ m ∈ s.descriptor.modules, ∃ block, s.moduleManifests m = .ok block ∧
      block ⊆ manifests ∧ x ∈ block) ∨
    ∃ resource ∈ s.descriptor.resources, ∃ block, s.resourceManifests resource = .ok block ∧
      block ⊆ manifests ∧ x ∈ block := by
  have h' := h
  obtain ⟨ofModules, ofResources, hmodules, hresources, rfl⟩ := manifests_eq_ok h'
  -- The block in which the manifest was found is the one that its owner has.
  rcases List.mem_append.1 hx with hx | hx
  · obtain ⟨found, hfound, hx⟩ := List.mem_flatten.1 hx
    obtain ⟨m, hm, hrun⟩ := Outcome.exists_item_of_mem hmodules hfound
    obtain ⟨block, hblock, hsub⟩ := exists_block_of_mem h hm
    obtain rfl : found = block := Except.ok.inj (hrun.symm.trans hblock)
    exact .inl ⟨m, hm, found, hrun, hsub, hx⟩
  · obtain ⟨found, hfound, hx⟩ := List.mem_flatten.1 hx
    obtain ⟨resource, hresource, hrun⟩ := Outcome.exists_item_of_mem hresources hfound
    obtain ⟨hresource, hactive⟩ := List.mem_filter.1 hresource
    obtain ⟨block, hblock, hsub⟩ := exists_block_of_isActive h hresource hactive
    obtain rfl : found = block := Except.ok.inj (hrun.symm.trans hblock)
    exact .inr ⟨resource, hresource, found, hrun, hsub, hx⟩

/-- A manifest of a kind that no resource becomes is one of a module. It is
used for pods, services and ingresses, and spares each of those proofs the case
of a resource. -/
theorem exists_module_of_mem (h : s.manifests = .ok manifests) {x : Manifest}
    (hx : x ∈ manifests) (hkind : x.kind ∉ resourceKinds) :
    ∃ m ∈ s.descriptor.modules, ∃ block, s.moduleManifests m = .ok block ∧
      block ⊆ manifests ∧ x ∈ block := by
  rcases exists_block_of_mem_manifests h hx with hmodule | ⟨resource, -, block, hblock, -, hx⟩
  · exact hmodule
  · exact absurd (kind_of_mem_resourceManifests hblock hx) hkind

/-- What the manifests of a descriptor for a target are made from: the prepared
descriptor, and the values of the target in place of tokens. -/
def forTarget (options : Options) (target : Target) (descriptor : Descriptor) : Synthesis where
  descriptor := target.prepare descriptor
  values := target.placeholderValues
  prettyPrinting := options.prettyPrinting

/-- The manifests for a target are those of its synthesis, so everything that
holds of a synthesis holds of them. -/
theorem manifests_forTarget (options : Options) (target : Target) (descriptor : Descriptor) :
    (forTarget options target descriptor).manifests
      = manifestsFor options target descriptor := rfl

/-! ### A cluster -/

/-- A deployment with a route, another one without, and a job. The first
requires a secret for pulling images and a service instance. The examples of
the other modules are about it. -/
def cluster : Synthesis where
  descriptor := .plain ∅
    [{ Module.plain "web" (.ofList [("container-image", .str "web:1"), ("port", .int 9000),
          ("route", .str "web.example.com")]) with
        requires := [.plain "pull" ∅, .plain "catalog" ∅] },
      .plain "api" (.ofList [("container-image", .str "api:1")]),
      .plain "migrate" (.ofList [("container-image", .str "web:1"), ("type", .str "job")])]
    [.plain "pull" "docker-secret" (.ofList [("registry", .str "registry.example.com"),
        ("username", .str "bot"), ("password", .str "secret")]),
      .plain "catalog" "service-instance" (.ofList [("service", .str "postgresql"),
        ("service-plan", .str "small")])]
  values := Target.plain.placeholderValues
  prettyPrinting := false

end MultiTarget.Kubernetes.Synthesis
