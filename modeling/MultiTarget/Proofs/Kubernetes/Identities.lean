import Mathlib.Data.List.Nodup
import MultiTarget.Proofs.Kubernetes.Manifests

/-!
# `MultiTarget.Proofs.Kubernetes.Identities`: no object in place of another

A cluster knows an object by its kind and its name. Of two manifests with
one identity, the later would replace the object of the earlier.
`manifests_distinct` says that this happens in no synthesis of modules with
distinct names and resources with distinct names, and what each of them
contributes.

`moduleIdentities` and `resourceIdentities` list what may become of a name.
What a module or a resource does become is a sublist of its list
(`identities_sublist_of_module`, `identities_sublist_of_resource`). So all
identities are a sublist of those lists, one after the other, and it is
enough that nothing stands twice in these (`nodup_identities`): a module and
a resource of one name become objects of different kinds, and the name of a
binding ends the same way for every resource.
-/

set_option autoImplicit false

namespace MultiTarget.Kubernetes

/-- What a cluster knows an object by. No manifest names a namespace, so
nothing else tells two of them apart. -/
def Manifest.identity (x : Manifest) : String × String := (x.kind, x.name)

namespace Synthesis

variable {s : Synthesis} {m : Module} {resource : Resource} {block manifests : List Manifest}

/-! ### What may become of a name -/

/-- The identities that a module of a name may contribute. No module
contributes them all, since it is a deployment or a job. -/
def moduleIdentities (name : String) : List (String × String) :=
  ["ConfigMap", "Deployment", "Job", "Service", "Ingress"].map (·, name)

/-- The identities that a resource of a name may contribute: those of a secret,
or those of a service instance and its binding. -/
def resourceIdentities (name : String) : List (String × String) :=
  [("Secret", name), ("ServiceInstance", name), ("ServiceBinding", name ++ "-binding")]

/-- An identity tells the name of its module. It is the second component,
whatever the kind is. -/
theorem eq_of_mem_moduleIdentities {name other : String} {identity : String × String}
    (h : identity ∈ moduleIdentities name) (hother : identity ∈ moduleIdentities other) :
    name = other := by
  simp only [moduleIdentities, List.mem_map] at h hother
  obtain ⟨_, -, rfl⟩ := h
  obtain ⟨_, -, heq⟩ := hother
  exact (Prod.mk.inj heq).2.symm

/-- An identity tells the name of its resource. The name of a binding is
longer, but no other object of a resource is of its kind. -/
theorem eq_of_mem_resourceIdentities {name other : String} {identity : String × String}
    (h : identity ∈ resourceIdentities name) (hother : identity ∈ resourceIdentities other) :
    name = other := by
  simp only [resourceIdentities, List.mem_cons, List.not_mem_nil, or_false] at h hother
  -- Of two bindings the names end alike, so their fronts are equal.
  rcases h with rfl | rfl | rfl <;> simpa using hother

/-- No identity is one of a module and one of a resource, whatever their names,
for no kind is in both lists. So modules and resources may share names. -/
theorem disjoint_identities (name other : String) :
    (moduleIdentities name).Disjoint (resourceIdentities other) := by
  intro identity h hother
  simp only [moduleIdentities, List.mem_map] at h
  obtain ⟨kind, hkind, rfl⟩ := h
  simp only [resourceIdentities, List.mem_cons, List.not_mem_nil, or_false, Prod.mk.injEq]
    at hother
  rcases hother with ⟨rfl, -⟩ | ⟨rfl, -⟩ | ⟨rfl, -⟩ <;> exact absurd hkind (by decide)

/-- Where each name has distinct identities, which tell it, distinct names have
distinct identities. It is stated for any such list, since both of the lists
above are used with it. -/
theorem nodup_flatMap_identities {identities : String → List (String × String)}
    (hnodup : ∀ name, (identities name).Nodup)
    (htell : ∀ {name other identity}, identity ∈ identities name →
      identity ∈ identities other → name = other)
    {names : List String} (hnames : names.Nodup) : (names.flatMap identities).Nodup :=
  List.nodup_flatMap.2 ⟨fun name _ => hnodup name,
    hnames.imp fun hne _ hleft hright => hne (htell hleft hright)⟩

/-- Modules with distinct names and resources with distinct names may
contribute no identity twice. Without either condition two owners of one name
and kind would meet. -/
theorem nodup_identities {ofModules ofResources : List String} (hmodules : ofModules.Nodup)
    (hresources : ofResources.Nodup) :
    (ofModules.flatMap moduleIdentities ++ ofResources.flatMap resourceIdentities).Nodup := by
  refine List.nodup_append'.2 ⟨?_, ?_, ?_⟩
  · -- What a module may become differs in kind, and has one name.
    refine nodup_flatMap_identities (fun name => ?_) eq_of_mem_moduleIdentities hmodules
    exact List.Nodup.map (fun _ _ heq => (Prod.mk.inj heq).1) (by decide)
  · refine nodup_flatMap_identities (fun name => ?_) eq_of_mem_resourceIdentities hresources
    simp [resourceIdentities]
  · intro identity hleft hright
    obtain ⟨name, -, hname⟩ := List.mem_flatMap.1 hleft
    obtain ⟨other, -, hother⟩ := List.mem_flatMap.1 hright
    exact disjoint_identities name other hname hother

/-! ### What becomes of a module and of a resource -/

/-- The kinds of workloads. A module becomes one of the two, by its type. -/
def workloadKinds : List String := ["Deployment", "Job"]

/-- The kinds of objects that a module becomes, all together: a deployment
without an ingress, one with it, or a job. -/
def moduleKinds : List (List String) :=
  [["ConfigMap", "Deployment", "Service"], ["ConfigMap", "Deployment", "Service", "Ingress"],
    ["ConfigMap", "Job"]]

/-- The objects of a module are of the kinds of a deployment, with an ingress
or without, or of a job, and all have its name. Later proofs count kinds in the
three lists and open no manifest. -/
theorem identities_of_module (h : s.moduleManifests m = .ok block) :
    ∃ kinds ∈ moduleKinds, block.map Manifest.identity = kinds.map (·, m.name) := by
  obtain ⟨type?, config, -, hconfig, hcases⟩ := moduleManifests_cases h
  have hconfig : (Manifest.configMap config).identity = ("ConfigMap", m.name) := by
    show ("ConfigMap", config.metadata.name) = _
    rw [(outcome_configMap hconfig).1]
    rfl
  -- A deployment may have an ingress behind its service; a job is its configuration and itself.
  rcases hcases with ⟨-, port, d, ingress?, hd, hingress, rfl⟩ | ⟨-, j, hj, rfl⟩
  · have hd : (Manifest.deployment d).identity = ("Deployment", m.name) := by
      show ("Deployment", d.metadata.name) = _
      rw [(outcome_deployment hd).1]
      rfl
    have hservice : (Manifest.service
        (networkService m (s.labels m.name) port)).identity = ("Service", m.name) := rfl
    cases ingress? with
    | none =>
        refine ⟨_, List.mem_cons_self, ?_⟩
        simp [hconfig, hd, hservice]
    | some ingress =>
        have hingress : (Manifest.ingress ingress).identity = ("Ingress", m.name) := by
          show ("Ingress", ingress.metadata.name) = _
          rw [(outcome_ingress hingress).1]
          rfl
        refine ⟨_, List.mem_cons_of_mem _ List.mem_cons_self, ?_⟩
        simp [hconfig, hd, hservice, hingress]
  · have hj : (Manifest.job j).identity = ("Job", m.name) := by
      show ("Job", j.metadata.name) = _
      rw [(outcome_job hj).1]
      rfl
    refine ⟨_, List.mem_cons_of_mem _ (List.mem_cons_of_mem _ List.mem_cons_self), ?_⟩
    simp [hconfig, hj]

/-- The objects of a resource with a type are one secret or one service
instance with one binding. Activity is not asked for here, as only active
resources come this far. -/
theorem identities_of_resource (h : s.resourceManifests resource = .ok block) :
    (resource.declaredType = .ok none ∧ block = []) ∨
    (resource.declaredType ≠ .ok none ∧
      (block.map Manifest.identity = [("Secret", resource.name)] ∨
        block.map Manifest.identity = [("ServiceInstance", resource.name),
          ("ServiceBinding", resource.name ++ "-binding")])) := by
  -- The two kinds of secrets have the same identity, so four cases become three.
  rcases resourceManifests_cases h with hnone | ⟨htype, secret, hname, -, rfl⟩ |
    ⟨htype, secret, hname, rfl⟩ | ⟨htype, created, hname, rfl⟩
  · exact .inl hnone
  · refine .inr ⟨by rw [htype]; decide, .inl ?_⟩
    show [("Secret", secret.metadata.name)] = _
    rw [hname]
  · refine .inr ⟨by rw [htype]; decide, .inl ?_⟩
    show [("Secret", secret.metadata.name)] = _
    rw [hname]
  · refine .inr ⟨by rw [htype]; decide, .inr ?_⟩
    show [("ServiceInstance", created.metadata.name), _] = _
    rw [hname]
    rfl

/-- What a module contributes: its manifests, all with its name, one of them a
configuration and one a workload. This is the module's part of the result. -/
structure OfModule (s : Synthesis) (m : Module) (block : List Manifest) : Prop where
  made : s.moduleManifests m = .ok block
  named : ∀ x ∈ block, x.name = m.name
  configuration : (block.map Manifest.kind).count "ConfigMap" = 1
  workload : (block.map Manifest.kind).countP (· ∈ workloadKinds) = 1

/-- What a resource contributes: nothing if it is inactive or without a type,
else its manifests, which are one secret or one service instance with one
binding. Every resource is covered, also one that the synthesis passes over. -/
structure OfResource (s : Synthesis) (resource : Resource) (block : List Manifest) : Prop where
  idle : resource.isActive = false ∨ resource.declaredType = .ok none → block = []
  made : resource.isActive = true → s.resourceManifests resource = .ok block
  typed : resource.isActive = true → resource.declaredType ≠ .ok none →
    block.map Manifest.identity = [("Secret", resource.name)] ∨
      block.map Manifest.identity =
        [("ServiceInstance", resource.name), ("ServiceBinding", resource.name ++ "-binding")]

/-- The manifests of a module are what it contributes. The facts about kinds
are counts in closed lists and are evaluated. -/
theorem ofModule (h : s.moduleManifests m = .ok block) : s.OfModule m block := by
  obtain ⟨kinds, hkinds, hidentities⟩ := identities_of_module h
  -- The counts are those of the three lists of kinds, whatever the name is.
  have hkind : block.map Manifest.kind = kinds := by
    have := congrArg (List.map Prod.fst) hidentities
    simpa [Function.comp_def, Manifest.identity] using this
  have hcounts : ∀ kinds ∈ moduleKinds,
      kinds.count "ConfigMap" = 1 ∧ kinds.countP (· ∈ workloadKinds) = 1 := by decide
  refine ⟨h, fun x hx => ?_, by rw [hkind]; exact (hcounts kinds hkinds).1,
    by rw [hkind]; exact (hcounts kinds hkinds).2⟩
  have hidentity : x.identity ∈ block.map Manifest.identity := List.mem_map_of_mem hx
  rw [hidentities] at hidentity
  obtain ⟨kind, -, heq⟩ := List.mem_map.1 hidentity
  exact (Prod.mk.inj heq).2.symm

/-- The manifests of an active resource are what it contributes, which is
nothing if it declares no type. -/
theorem ofResource (hactive : resource.isActive = true)
    (h : s.resourceManifests resource = .ok block) : s.OfResource resource block := by
  have hnot : resource.isActive ≠ false := by rw [hactive]; decide
  rcases identities_of_resource h with ⟨htype, hblock⟩ | ⟨htype, hblock⟩
  · exact ⟨fun _ => hblock, fun _ => h, fun _ hother => absurd htype hother⟩
  · exact ⟨fun hidle => absurd hidle (not_or_intro hnot htype), fun _ => h, fun _ _ => hblock⟩

/-- An inactive resource contributes nothing. It has manifests of its own
nevertheless, which is why the empty block is named. -/
theorem ofResource_nil (hactive : resource.isActive = false) : s.OfResource resource [] := by
  have hnot : resource.isActive ≠ true := by rw [hactive]; decide
  exact ⟨fun _ => rfl, fun h => absurd h hnot, fun h => absurd h hnot⟩

/-- What a module contributes is among what may become of its name, in the same
order and no object twice. -/
theorem identities_sublist_of_module (h : s.OfModule m block) :
    (block.map Manifest.identity).Sublist (moduleIdentities m.name) := by
  obtain ⟨kinds, hkinds, hidentities⟩ := identities_of_module h.made
  rw [hidentities]
  have hsublists : ∀ kinds ∈ moduleKinds,
      kinds.Sublist ["ConfigMap", "Deployment", "Job", "Service", "Ingress"] := by decide
  exact (hsublists kinds hkinds).map _

/-- What a resource contributes is among what may become of its name, in the
same order and no object twice. -/
theorem identities_sublist_of_resource (h : s.OfResource resource block) :
    (block.map Manifest.identity).Sublist (resourceIdentities resource.name) := by
  by_cases hidle : resource.isActive = false ∨ resource.declaredType = .ok none
  · rw [h.idle hidle]
    exact List.nil_sublist _
  · obtain ⟨hactive, htype⟩ := not_or.1 hidle
    rcases h.typed (Bool.of_not_eq_false hactive) htype with hblock | hblock
    · rw [hblock]
      exact (List.nil_sublist _).cons_cons _
    · rw [hblock]
      exact (List.Sublist.refl _).cons _

/-! ### All manifests -/

/-- What is found in each block is found in all of them, one after the other.
Sublists are used and not subsets, because a sublist inherits that nothing
stands twice. -/
theorem map_flatten_sublist_flatMap {α β γ : Type} {f : β → γ} {g : α → List γ}
    {items : List α} {blocks : List (List β)}
    (h : List.Forall₂ (fun x block => (block.map f).Sublist (g x)) items blocks) :
    (blocks.flatten.map f).Sublist (items.flatMap g) := by
  -- On the items and their blocks, in step.
  induction h with
  | nil => exact .slnil
  | cons hhead _ ih =>
      rw [List.flatten_cons, List.map_append, List.flatMap_cons]
      exact hhead.append ih

/-- The manifests are what the modules contribute, in order, and then what the
resources contribute, in order. There is a block for each owner, so inactive
resources have an empty one. -/
theorem manifests_contributed (h : s.manifests = .ok manifests) :
    ∃ ofModules ofResources, manifests = ofModules.flatten ++ ofResources.flatten ∧
      List.Forall₂ s.OfModule s.descriptor.modules ofModules ∧
      List.Forall₂ s.OfResource s.descriptor.resources ofResources := by
  obtain ⟨ofModules, results, hmodules, hresources, rfl⟩ := manifests_eq_ok h
  obtain ⟨ofResources, hforall, hflatten⟩ :=
    Outcome.exists_forall₂_of_mapM_filter (fun _ _ => ofResource) (fun _ => ofResource_nil)
      hresources
  exact ⟨ofModules, ofResources, by rw [hflatten],
    (Outcome.mapM_eq_ok_iff.1 hmodules).imp fun _ _ => ofModule, hforall⟩

/-- **No two manifests are of one object.** In every synthesis that succeeds
of modules with distinct names and resources with distinct names, the kinds
and names of the manifests are distinct. The manifests are what each module
contributes, in order, a configuration and a workload among it, and then
what each resource contributes, in order: nothing, one secret, or one
service instance with one binding. -/
theorem manifests_distinct (hmodules : (s.descriptor.modules.map (·.name)).Nodup)
    (hresources : (s.descriptor.resources.map (·.name)).Nodup)
    (h : s.manifests = .ok manifests) :
    (manifests.map Manifest.identity).Nodup ∧
    ∃ ofModules ofResources, manifests = ofModules.flatten ++ ofResources.flatten ∧
      List.Forall₂ s.OfModule s.descriptor.modules ofModules ∧
      List.Forall₂ s.OfResource s.descriptor.resources ofResources := by
  obtain ⟨ofModules, ofResources, rfl, hofModules, hofResources⟩ := manifests_contributed h
  refine ⟨?_, ofModules, ofResources, rfl, hofModules, hofResources⟩
  -- A sublist of distinct identities has distinct identities.
  have hleft := map_flatten_sublist_flatMap
    (hofModules.imp fun _ _ => identities_sublist_of_module)
  have hright := map_flatten_sublist_flatMap
    (hofResources.imp fun _ _ => identities_sublist_of_resource)
  have hnodup := nodup_identities hmodules hresources
  rw [List.flatMap_map, List.flatMap_map] at hnodup
  rw [List.map_append]
  exact hnodup.sublist (hleft.append hright)

/-- The manifests of the cluster, each with its own identity: three modules,
one of them with an ingress and one a job, and two resources. -/
theorem manifests_distinct_cluster : ∃ manifests, cluster.manifests = .ok manifests ∧
    manifests.map Manifest.identity =
      [("ConfigMap", "web"), ("Deployment", "web"), ("Service", "web"), ("Ingress", "web"),
        ("ConfigMap", "api"), ("Deployment", "api"), ("Service", "api"),
        ("ConfigMap", "migrate"), ("Job", "migrate"), ("Secret", "pull"),
        ("ServiceInstance", "catalog"), ("ServiceBinding", "catalog-binding")] ∧
    (manifests.map Manifest.identity).Nodup := by
  have hfacts : (cluster.manifests.map (List.map Manifest.identity)) =
      .ok [("ConfigMap", "web"), ("Deployment", "web"), ("Service", "web"), ("Ingress", "web"),
        ("ConfigMap", "api"), ("Deployment", "api"), ("Service", "api"),
        ("ConfigMap", "migrate"), ("Job", "migrate"), ("Secret", "pull"),
        ("ServiceInstance", "catalog"), ("ServiceBinding", "catalog-binding")] := by
    decide +kernel
  obtain ⟨manifests, hmanifests, hfacts⟩ := Outcome.map_eq_ok.1 hfacts
  exact ⟨manifests, hmanifests, hfacts,
    (manifests_distinct (by decide) (by decide) hmanifests).1⟩

end Synthesis

end MultiTarget.Kubernetes
