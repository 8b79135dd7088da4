import Mathlib.Data.List.Forall2
import Mathlib.Data.List.Nodup
import MultiTarget.Proofs.Kubernetes.Manifests

/-!
# `MultiTarget.Proofs.Kubernetes.Selectors`: selectors find their own pods

A service and a deployment find pods by labels, wherever these pods come
from. So it is not enough that the pods of a module carry what its selector
asks for: no other deployment and no job may carry it.

Every module has one template of pods, with the labels of the module
(`forall₂_podTemplates`). A selector asks for nothing but the label `app`,
which is the name of a module (`selects_appSelector`), and no name stands
for two modules. So each selector finds the template of its own module
alone (`selected_eq`), which is what `manifests_linked` says of all services
and deployments.
-/

set_option autoImplicit false

namespace MultiTarget

/-- Of items whose images are all different, one alone has the image of an item
of the list. Images are names below, and the items templates of pods. -/
theorem filter_eq_of_nodup_map {α β : Type} [DecidableEq β] {f : α → β} {items : List α}
    (hnodup : (items.map f).Nodup) {x : α} (hx : x ∈ items) :
    items.filter (fun y => f y = f x) = [x] := by
  -- On the items: the one in question is the head or behind it.
  induction items with
  | nil => cases hx
  | cons y rest ih =>
      obtain ⟨hy, hrest⟩ := List.nodup_cons.1 hnodup
      rcases List.mem_cons.1 hx with rfl | hx
      · -- The head is the item, and nothing behind it has its image.
        have hnone : rest.filter (fun y => f y = f x) = [] := by
          rw [List.filter_eq_nil_iff]
          intro z hz heq
          exact hy (List.mem_map.2 ⟨z, hz, of_decide_eq_true heq⟩)
        rw [List.filter_cons, if_pos (decide_eq_true rfl), hnone]
      · -- The item stands behind the head, whose image is another one.
        have hne : f y ≠ f x := by
          intro heq
          rw [heq] at hy
          exact hy (List.mem_map_of_mem hx)
        rw [List.filter_cons, if_neg (by simpa using hne), ih hrest hx]

namespace Kubernetes

/-- Labels have all that a selector asks for. They may have more, and an empty
selector would find everything. -/
def selects (selector labels : Labels) : Bool :=
  selector.entries.all fun (key, value) => labels.get? key == some value

/-- The template of the pods of a deployment or a job. No other manifest has
pods. -/
def Manifest.podTemplate? : Manifest → Option PodTemplate
  | deployment d => some d.template
  | job j => some j.template
  | _ => none

/-- The templates of all deployments and jobs, in the order of the manifests.
Pods of a job count as well, since a selector does not ask where pods are
from. -/
def podTemplates (manifests : List Manifest) : List PodTemplate :=
  manifests.filterMap Manifest.podTemplate?

theorem podTemplates_append (front back : List Manifest) :
    podTemplates (front ++ back) = podTemplates front ++ podTemplates back :=
  List.filterMap_append

/-- The templates of the pods that a selector finds, wherever among the
manifests they stand. -/
def selected (selector : Labels) (manifests : List Manifest) : List PodTemplate :=
  (podTemplates manifests).filter fun t => selects selector t.metadata.labels

namespace Synthesis

variable {s : Synthesis} {m : Module} {resource : Resource} {block manifests : List Manifest}

/-! ### Labels -/

/-- The labels in the order of their keys, with nothing repeated. They are
three whatever the name is, so that a filter on them can be evaluated. -/
theorem entries_labels (s : Synthesis) (name : String) :
    (s.labels name).entries
      = [("app", name), ("mta", s.descriptor.id), ("release", s.descriptor.version)] := by
  -- The keys ascend already, so each is put behind those before it.
  have horder : ¬ "mta" < "app" ∧ ¬ "release" < "app" ∧ ¬ "release" < "mta" := by decide
  simp [labels, OrderedMap.ofList, OrderedMap.insertAll, Entries.insertAll, OrderedMap.empty,
    Entries.insert, horder]

/-- The label `app` is the name, and it is the one label that tells modules
apart: the others are those of the descriptor. -/
theorem get?_app_labels (s : Synthesis) (name : String) :
    (s.labels name).get? "app" = some name := by
  rw [OrderedMap.get?, entries_labels, Entries.lookup, if_pos rfl]

/-- A selector asks for the label `app` alone. It finds labels by this name,
whatever else they say. -/
theorem selects_appSelector (s : Synthesis) (name : String) (labels : Labels) :
    selects (appSelector (s.labels name)) labels = decide (labels.get? "app" = some name) := by
  have hentries : (appSelector (s.labels name)).entries = [("app", name)] := by
    simp [appSelector, OrderedMap.filter, entries_labels]
  rw [Bool.eq_iff_iff, selects, hentries]
  simp

/-! ### The manifests of one module -/

/-- All manifests of a module have its labels, also the ingress, of which no
selector asks anything. -/
theorem labels_of_mem_moduleManifests (h : s.moduleManifests m = .ok block) :
    ∀ x ∈ block, x.metadata.labels = s.labels m.name := by
  obtain ⟨type?, config, -, hconfig, hcases⟩ := moduleManifests_cases h
  have hconfig := (outcome_configMap hconfig).1
  rcases hcases with ⟨-, port, d, ingress?, hd, hingress, rfl⟩ | ⟨-, j, hj, rfl⟩
  · have hd := (outcome_deployment hd).1
    cases ingress? with
    | none => simp [Manifest.metadata, hconfig, hd, networkService, Metadata.plain]
    | some ingress =>
        have hingress := (outcome_ingress hingress).1
        simp [Manifest.metadata, hconfig, hd, hingress, networkService, Metadata.plain]
  · have hj := (outcome_job hj).1
    simp [Manifest.metadata, hconfig, hj, Metadata.plain]

/-- A module has one template of pods, that of its deployment or of its job,
which is built from the labels of the module. -/
theorem exists_podTemplate (h : s.moduleManifests m = .ok block) :
    ∃ t config policy port, podTemplates block = [t] ∧
      s.podTemplate m (s.descriptor.moduleScopes m) (s.labels m.name) config policy port
        = .ok t := by
  obtain ⟨type?, config, -, -, hcases⟩ := moduleManifests_cases h
  rcases hcases with ⟨-, port, d, ingress?, hd, -, rfl⟩ | ⟨-, j, hj, rfl⟩
  · obtain ⟨-, -, -, htemplate⟩ := outcome_deployment hd
    refine ⟨d.template, config, .always, some port, ?_, htemplate⟩
    cases ingress? <;> rfl
  · obtain ⟨-, htemplate⟩ := outcome_job hj
    exact ⟨j.template, config, .never, none, rfl, htemplate⟩

/-- The template of pods of a module has its labels. This is all of a template
that selectors are concerned with. -/
theorem exists_podTemplates_eq (h : s.moduleManifests m = .ok block) :
    ∃ t, podTemplates block = [t] ∧ t.metadata.labels = s.labels m.name := by
  obtain ⟨t, config, policy, port, hone, htemplate⟩ := exists_podTemplate h
  exact ⟨t, hone, (outcome_podTemplate htemplate).1⟩

/-- A service of a module has its name and finds pods by its selector. It leads
to the port of the pods of a deployment of the module, as both are given one
number. -/
theorem of_service_mem {service : NetworkService} (h : s.moduleManifests m = .ok block)
    (hservice : .service service ∈ block) :
    service.metadata.name = m.name ∧ service.selector = appSelector (s.labels m.name) ∧
      ∃ d, .deployment d ∈ block ∧ d.template.containerPort = some service.targetPort := by
  obtain ⟨type?, config, -, -, hcases⟩ := moduleManifests_cases h
  rcases hcases with ⟨-, port, d, ingress?, hd, -, rfl⟩ | ⟨-, j, -, rfl⟩
  · obtain rfl : service = networkService m (s.labels m.name) port := by
      cases ingress? <;> simpa using hservice
    obtain ⟨-, -, -, htemplate⟩ := outcome_deployment hd
    exact ⟨rfl, rfl, d, by simp, (outcome_podTemplate htemplate).2.1⟩
  · simp at hservice

/-! ### The pods of all modules -/

/-- The blocks of modules have one template each, with the labels of the
module. Modules and templates therefore pair up, also where names repeat. -/
theorem forall₂_podTemplates_flatten {modules : List Module} {blocks : List (List Manifest)}
    (h : List.Forall₂ (fun m block => s.moduleManifests m = .ok block) modules blocks) :
    List.Forall₂ (fun m t => t.metadata.labels = s.labels m.name) modules
      (podTemplates blocks.flatten) := by
  -- On the modules and their blocks, in step.
  induction h with
  | nil => exact .nil
  | @cons m block modules blocks hblock _ ih =>
      obtain ⟨t, hone, hlabels⟩ := exists_podTemplates_eq hblock
      rw [List.flatten_cons, podTemplates_append, hone]
      exact .cons hlabels ih

/-- Nothing that resources become has pods. It is stated by the kind, as this
is what is known of manifests of resources. -/
theorem podTemplate?_eq_none {x : Manifest} (hkind : x.kind ∈ resourceKinds) :
    x.podTemplate? = none := by
  cases x with
  | deployment d => simp [Manifest.kind, resourceKinds] at hkind
  | job j => simp [Manifest.kind, resourceKinds] at hkind
  | _ => rfl

/-- Templates of pods come from modules alone, one from each, in order. This is
the step where all manifests are reduced to those of modules. -/
theorem forall₂_podTemplates (h : s.manifests = .ok manifests) :
    List.Forall₂ (fun m t => t.metadata.labels = s.labels m.name) s.descriptor.modules
      (podTemplates manifests) := by
  obtain ⟨ofModules, ofResources, hmodules, hresources, rfl⟩ := manifests_eq_ok h
  have hnone : podTemplates ofResources.flatten = [] := by
    refine List.filterMap_eq_nil_iff.2 fun x hx => ?_
    obtain ⟨block, hblock, hx⟩ := List.mem_flatten.1 hx
    obtain ⟨resource, -, hrun⟩ := Outcome.exists_item_of_mem hresources hblock
    exact podTemplate?_eq_none (kind_of_mem_resourceManifests hrun hx)
  rw [podTemplates_append, hnone, List.append_nil]
  exact forall₂_podTemplates_flatten (Outcome.mapM_eq_ok_iff.1 hmodules)

/-- The selector of a module finds the template of its pods alone, if no two
modules have one name. Otherwise it would find those of both. -/
theorem selected_eq (hnames : (s.descriptor.modules.map (·.name)).Nodup)
    (h : s.manifests = .ok manifests) {t : PodTemplate} (ht : t ∈ podTemplates manifests)
    (hlabels : t.metadata.labels = s.labels m.name) :
    selected (appSelector (s.labels m.name)) manifests = [t] := by
  have hmap : (podTemplates manifests).map (fun t => t.metadata.labels.get? "app")
      = s.descriptor.modules.map fun m => some m.name := by
    -- Templates and modules pair up, and each pair has one name.
    have hpairs := (forall₂_podTemplates h).flip
    rw [← List.forall₂_eq_eq_eq, List.forall₂_map_left_iff, List.forall₂_map_right_iff]
    refine hpairs.imp fun t m hlabels => ?_
    rw [hlabels, get?_app_labels]
  have hnodup : ((podTemplates manifests).map fun t => t.metadata.labels.get? "app").Nodup := by
    have hsome := hnames.map fun _ _ => Option.some.inj
    rw [List.map_map] at hsome
    rw [hmap]
    exact hsome
  have happ : t.metadata.labels.get? "app" = some m.name := by rw [hlabels, get?_app_labels]
  unfold selected
  simp only [selects_appSelector]
  rw [← happ]
  exact filter_eq_of_nodup_map hnodup ht

/-! ### All selectors -/

/-- Selectors lead to the pods of their own module. The three parts are about
services, deployments and labels. -/
structure SelectorsLinked (s : Synthesis) (manifests : List Manifest) : Prop where
  /-- A service finds one template of pods: that of the deployment with its
  name, which is the only deployment with this name. It leads to the port of
  the container there. -/
  of_service : ∀ service, .service service ∈ manifests →
    ∃ d, .deployment d ∈ manifests ∧ d.metadata.name = service.metadata.name ∧
      (∀ d', .deployment d' ∈ manifests → d'.metadata.name = service.metadata.name → d' = d) ∧
      selected service.selector manifests = [d.template] ∧
      d.template.containerPort = some service.targetPort
  /-- A deployment finds its own template alone. -/
  of_deployment : ∀ d, .deployment d ∈ manifests →
    selected d.matchLabels manifests = [d.template]
  /-- All manifests of a module have the same labels. -/
  of_module : ∀ m ∈ s.descriptor.modules, ∃ block, s.moduleManifests m = .ok block ∧
    block ⊆ manifests ∧ ∀ x ∈ block, x.metadata.labels = s.labels m.name

/-- A deployment comes from a module with its name. The module need not be the
only one with the name. -/
theorem exists_module_of_deployment (h : s.manifests = .ok manifests) {d : Deployment}
    (hd : .deployment d ∈ manifests) :
    ∃ m ∈ s.descriptor.modules, ∃ block, s.moduleManifests m = .ok block ∧
      .deployment d ∈ block ∧ d.metadata.name = m.name := by
  obtain ⟨m, hm, block, hblock, -, hd⟩ :=
    exists_module_of_mem h hd (by simp [Manifest.kind, resourceKinds])
  exact ⟨m, hm, block, hblock, hd, (of_deployment_mem hblock hd).1⟩

/-- A deployment finds its own pods alone. It is one half of the result and is
used for services too, which have the same selector. -/
theorem selected_matchLabels (hnames : (s.descriptor.modules.map (·.name)).Nodup)
    (h : s.manifests = .ok manifests) {d : Deployment} (hd : .deployment d ∈ manifests) :
    selected d.matchLabels manifests = [d.template] := by
  obtain ⟨m, -, block, hblock, hmem, -⟩ := exists_module_of_deployment h hd
  obtain ⟨t, hone, hlabels⟩ := exists_podTemplates_eq hblock
  have ht : d.template ∈ podTemplates block := List.mem_filterMap.2 ⟨_, hmem, rfl⟩
  obtain rfl : d.template = t := by simpa [hone] using ht
  rw [(of_deployment_mem hblock hmem).2.1]
  exact selected_eq hnames h (List.mem_filterMap.2 ⟨_, hd, rfl⟩) hlabels

/-- **Selectors find their own pods.** In a synthesis whose modules have
different names, every service finds the pods of the deployment with its name
and no others, on the port of their container, and every deployment finds its
own pods and no others. All manifests of a module have the same labels.

The names must differ: with two modules of one name either selector finds the
pods of both. -/
theorem manifests_linked (hnames : (s.descriptor.modules.map (·.name)).Nodup)
    (h : s.manifests = .ok manifests) : SelectorsLinked s manifests where
  of_service service hservice := by
    obtain ⟨m, hm, block, hblock, hsub, hmem⟩ :=
      exists_module_of_mem h hservice (by simp [Manifest.kind, resourceKinds])
    obtain ⟨hname, hselector, d, hd, hport⟩ := of_service_mem hblock hmem
    obtain ⟨hdname, hmatch, -, honly⟩ := of_deployment_mem hblock hd
    refine ⟨d, hsub hd, by rw [hdname, hname], fun d' hd' hname' => ?_, ?_, hport⟩
    · -- A deployment with that name is of the same module, since names differ.
      obtain ⟨m', hm', other, hother, hd', hdname'⟩ := exists_module_of_deployment h hd'
      have hsame : m'.name = m.name := by rw [← hdname', hname', hname]
      obtain rfl : m' = m := List.inj_on_of_nodup_map hnames hm' hm hsame
      obtain rfl : other = block := Except.ok.inj (hother.symm.trans hblock)
      exact honly d' hd'
    · rw [hselector, ← hmatch]
      exact selected_matchLabels hnames h (hsub hd)
  of_deployment d hd := selected_matchLabels hnames h hd
  of_module m hm := by
    obtain ⟨block, hblock, hsub⟩ := exists_block_of_mem h hm
    exact ⟨block, hblock, hsub, labels_of_mem_moduleManifests hblock⟩

/-- The cluster has two services, and each finds one template of the three. -/
theorem manifests_linked_cluster : ∃ manifests,
    (cluster.descriptor.modules.map (·.name)).Nodup ∧ cluster.manifests = .ok manifests ∧
    manifests.map (fun x => (x.kind, x.name)) =
      [("ConfigMap", "web"), ("Deployment", "web"), ("Service", "web"), ("Ingress", "web"),
        ("ConfigMap", "api"), ("Deployment", "api"), ("Service", "api"),
        ("ConfigMap", "migrate"), ("Job", "migrate"), ("Secret", "pull"),
        ("ServiceInstance", "catalog"), ("ServiceBinding", "catalog-binding")] ∧
    (podTemplates manifests).map (fun t => (t.containerName, t.containerPort)) =
      [("web", some 9000), ("api", some 8080), ("migrate", none)] ∧
    SelectorsLinked cluster manifests := by
  have hnames : (cluster.descriptor.modules.map (·.name)).Nodup := by decide
  have hfacts : (cluster.manifests.map fun manifests =>
      (manifests.map (fun x => (x.kind, x.name)),
        (podTemplates manifests).map fun t => (t.containerName, t.containerPort))) =
      .ok ([("ConfigMap", "web"), ("Deployment", "web"), ("Service", "web"), ("Ingress", "web"),
        ("ConfigMap", "api"), ("Deployment", "api"), ("Service", "api"),
        ("ConfigMap", "migrate"), ("Job", "migrate"), ("Secret", "pull"),
        ("ServiceInstance", "catalog"), ("ServiceBinding", "catalog-binding")],
        [("web", some 9000), ("api", some 8080), ("migrate", none)]) := by decide +kernel
  obtain ⟨manifests, hmanifests, hfacts⟩ := Outcome.map_eq_ok.1 hfacts
  obtain ⟨hkinds, hports⟩ := Prod.mk.inj hfacts
  exact ⟨manifests, hnames, hmanifests, hkinds, hports, manifests_linked hnames hmanifests⟩

end Synthesis

end Kubernetes

end MultiTarget
