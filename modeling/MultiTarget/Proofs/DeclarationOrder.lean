import MultiTarget.Proofs.Applications
import MultiTarget.Proofs.DeploymentOrder.Reordering
import MultiTarget.Proofs.PublishedEntries
import MultiTarget.Proofs.Support.Plain
import MultiTarget.Proofs.Support.Reordered

/-!
# `MultiTarget.Proofs.DeclarationOrder`: models of reordered modules

A model has one application for every module, in the order of deployment
(`OnePerModule`). Declared in another order, modules with distinct names
have a model exactly if they had one before, and the two models are equal up
to the order of what stands for modules (`ofDescriptor_reordered`).

A model consists of parts, and each part sees the modules in
one of three ways.

* Not at all: services and keys are those of resources, and an application
  is read from its own module and from resources
  (`ApplicationPlan.applicationOf_withModules`).
* One by one: applications, entries and messages are traversals, which have
  results exactly if every module has one (`Outcome.exists_mapM_iff`), and
  the same ones in another order (`Outcome.mapM_perm`).
* By name: the order goes back from names to modules, and distinct names
  lead to the same modules (`Descriptor.module?_withModules`).
-/

set_option autoImplicit false

namespace MultiTarget

open List (Perm)

/-! ### Modules by their names -/

namespace Descriptor

variable {descriptor : Descriptor} {modules : List Module} {names : List String}

/-- Among distinct names, a module is found by its name. Without the hypothesis
only the first module with the name is, and the order of declaration would
matter. -/
theorem module?_eq_some_iff (hnodup : (descriptor.modules.map (·.name)).Nodup) {name : String}
    {m : Module} : descriptor.module? name = some m ↔ m ∈ descriptor.modules ∧ m.name = name := by
  constructor
  · intro h
    exact ⟨List.mem_of_find?_eq_some h, by simpa using List.find?_some h⟩
  · rintro ⟨hm, rfl⟩
    have hsome : (descriptor.module? m.name).isSome = true := by
      rw [module?, List.find?_isSome]
      exact ⟨m, hm, beq_self_eq_true m.name⟩
    obtain ⟨found, hfound⟩ := Option.isSome_iff_exists.1 hsome
    have hname : found.name = m.name := by simpa using List.find?_some hfound
    -- Some module with the name is found. It is this one, since names are distinct.
    have hsame := List.inj_on_of_nodup_map hnodup (List.mem_of_find?_eq_some hfound) hm hname
    rw [hfound, hsame]

/-- A name leads to the same module in whatever order modules are declared.
This carries everything that goes through names over to the reordered
descriptor. -/
theorem module?_withModules (hnodup : (descriptor.modules.map (·.name)).Nodup)
    (hperm : modules.Perm descriptor.modules) :
    (descriptor.withModules modules).module? = descriptor.module? := by
  have hnodup' : ((descriptor.withModules modules).modules.map (·.name)).Nodup :=
    (hperm.map (·.name)).nodup_iff.2 hnodup
  funext name
  refine Option.ext fun m => ?_
  rw [module?_eq_some_iff hnodup', module?_eq_some_iff hnodup]
  exact and_congr hperm.mem_iff Iff.rfl

/-- The modules with all names are all modules, in the order of the names. So
the order of deployment is one of the modules, not only of their names. -/
theorem filterMap_module?_perm (hnodup : (descriptor.modules.map (·.name)).Nodup)
    (hnames : names.Perm (descriptor.modules.map (·.name))) :
    (names.filterMap descriptor.module?).Perm descriptor.modules := by
  -- In the order of declaration the names lead to the modules as they stand.
  have hall : (descriptor.modules.map (·.name)).filterMap descriptor.module?
      = descriptor.modules := by
    rw [List.filterMap_map]
    have hfound : ∀ m ∈ descriptor.modules, (descriptor.module? ∘ (·.name)) m = some m :=
      fun m hm => (module?_eq_some_iff hnodup).2 ⟨hm, rfl⟩
    rw [List.filterMap_congr hfound, List.filterMap_some]
  exact (hnames.filterMap _).trans (Perm.of_eq hall)

/-- The modules with some names, all of them known, have these names. No name
is lost on the way from names to modules and back. -/
theorem map_name_filterMap_module? (hnodup : (descriptor.modules.map (·.name)).Nodup)
    (hknown : names ⊆ descriptor.modules.map Module.name) :
    (names.filterMap descriptor.module?).map (·.name) = names := by
  have hname : ∀ name ∈ names, (descriptor.module? name).map (·.name) = some name := by
    intro name hmem
    obtain ⟨m, hm, rfl⟩ := List.mem_map.1 (hknown hmem)
    rw [(module?_eq_some_iff hnodup).2 ⟨hm, rfl⟩, Option.map_some]
  rw [List.map_filterMap, List.filterMap_congr hname, List.filterMap_some]

end Descriptor

/-! ### Entries -/

namespace ConfigurationEntry

variable {target : Target} {descriptor : Descriptor} {modules : List Module}
  {entries others : OrderedMap (List ConfigurationEntry)}

/-- A descriptor has entries if every module has. The condition does not depend
on the order, whereas the error of a module that has none does. -/
theorem exists_ofDescriptor_iff : (∃ entries, ofDescriptor target descriptor = .ok entries) ↔
    ∀ m ∈ descriptor.modules, ∃ entry, named target descriptor m = .ok entry := by
  rw [← Outcome.exists_mapM_iff, ofDescriptor_eq]
  simp only [Outcome.bind_eq_ok, Outcome.pure_eq_ok]
  constructor
  · rintro ⟨_, found, h, -⟩
    exact ⟨found, h⟩
  · rintro ⟨found, h⟩
    exact ⟨_, found, h, rfl⟩

/-- Reordered modules publish the same entries, as one map: every module has a
key of its own, by its name. -/
theorem ofDescriptor_withModules (hnodup : (descriptor.modules.map (·.name)).Nodup)
    (hperm : modules.Perm descriptor.modules)
    (h : ofDescriptor target descriptor = .ok entries)
    (h' : ofDescriptor target (descriptor.withModules modules) = .ok others) :
    others = entries := by
  rw [ofDescriptor_eq] at h h'
  obtain ⟨found, hfound, h⟩ := Outcome.bind_eq_ok.1 h
  obtain ⟨found', hfound', h'⟩ := Outcome.bind_eq_ok.1 h'
  obtain rfl := Outcome.pure_eq_ok.1 h
  obtain rfl := Outcome.pure_eq_ok.1 h'
  have hresults : found'.Perm found := Outcome.mapM_perm hperm hfound' hfound
  -- Every entry stands under the name of its module, so no two have the same key.
  have hkeys : found.map (·.1) = descriptor.modules.map (·.name) :=
    Outcome.map_eq_map_of_mapM (fun m entry hentry => (Outcome.named_eq_ok.1 hentry).1) hfound
  have hdistinct : (found'.map (·.1)).Nodup :=
    (hresults.map (·.1)).nodup_iff.2 (hkeys ▸ hnodup)
  exact OrderedMap.ofList_perm hdistinct hresults

end ConfigurationEntry

/-! ### Applications -/

namespace ApplicationPlan

variable {plan : ApplicationPlan} {modules : List Module}

/-- The plan of a descriptor with other modules, and everything else as it
was. -/
def withModules (plan : ApplicationPlan) (modules : List Module) : ApplicationPlan :=
  { plan with descriptor := plan.descriptor.withModules modules }

/-- An application is read from its own module and from resources. Other
modules have no part in it, so the equation holds by computation. -/
theorem applicationOf_withModules (plan : ApplicationPlan) (modules : List Module) :
    (plan.withModules modules).applicationOf = plan.applicationOf := rfl

end ApplicationPlan

/-! ### Models -/

namespace CloudModel

variable {options : Options} {target : Target} {deployed : Option Deployed}
  {descriptor : Descriptor} {modules : List Module} {model other : CloudModel}
  {plan : ApplicationPlan}

/-- There is a model if there is an order, every module has an application and
entries, and there are services and keys. No condition here is about the order
of the modules. -/
structure Buildable (target : Target) (plan : ApplicationPlan) : Prop where
  order : ∃ order, DeploymentOrder.ofDescriptor plan.descriptor = .ok order
  applications : ∀ m ∈ plan.descriptor.modules, ∃ app, plan.applicationOf m = .ok app
  services : ∃ services, (plan.descriptor.services plan.naming).result = .ok services
  serviceKeys : ∃ keys, plan.descriptor.serviceKeys plan.naming = .ok keys
  entries : ∃ entries, ConfigurationEntry.ofDescriptor target plan.descriptor = .ok entries

/-- With distinct names, there is a model exactly if all of its parts can be
built. Names must be distinct, for a module hidden by another one gets no
application, and then need not have one. -/
theorem exists_consistsOf_iff (hnodup : (plan.descriptor.modules.map (·.name)).Nodup) :
    (∃ model : CloudModel, model.ConsistsOf target plan) ↔ Buildable target plan := by
  have hmodules : ∀ order, DeploymentOrder.ofDescriptor plan.descriptor = .ok order →
      ((∃ apps, (order.modules.filterMap plan.descriptor.module?).mapM plan.applicationOf
          = .ok apps)
        ↔ ∀ m ∈ plan.descriptor.modules, ∃ app, plan.applicationOf m = .ok app) := by
    intro order horder
    -- The order leads to all modules, so a traversal in this order meets each of them.
    have hperm := Descriptor.filterMap_module?_perm hnodup (DeploymentOrder.modules_perm horder)
    rw [Outcome.exists_mapM_iff]
    exact forall_congr' fun m => imp_congr hperm.mem_iff Iff.rfl
  constructor
  · rintro ⟨model, h⟩
    exact ⟨⟨_, h.order⟩, (hmodules _ h.order).1 ⟨_, h.applications⟩, ⟨_, h.services⟩,
      ⟨_, h.serviceKeys⟩, ⟨_, h.entries⟩⟩
  · rintro ⟨⟨order, horder⟩, happlications, ⟨services, hservices⟩, ⟨keys, hkeys⟩,
      ⟨entries, hentries⟩⟩
    obtain ⟨applications, happlications⟩ := (hmodules order horder).2 happlications
    exact ⟨⟨applications, services, keys, entries, order, _⟩, horder, happlications, hservices,
      hkeys, hentries, rfl⟩

/-- Reordered modules have all parts of a model if the modules have them. -/
theorem Buildable.withModules (h : Buildable target plan)
    (hperm : modules.Perm plan.descriptor.modules) :
    Buildable target (plan.withModules modules) where
  order := (DeploymentOrder.exists_ofDescriptor_withModules_iff hperm).2 h.order
  applications m hm := h.applications m (hperm.mem_iff.1 hm)
  services := h.services
  serviceKeys := h.serviceKeys
  entries := by
    have hall := ConfigurationEntry.exists_ofDescriptor_iff.1 h.entries
    exact ConfigurationEntry.exists_ofDescriptor_iff.2 fun m hm => hall m (hperm.mem_iff.1 hm)

/-- Whether all parts can be built does not depend on the order of declaration.
One direction gives the other, since the modules can be put back. -/
theorem buildable_withModules_iff (hperm : modules.Perm plan.descriptor.modules) :
    Buildable target (plan.withModules modules) ↔ Buildable target plan := by
  have hback : (plan.withModules modules).withModules plan.descriptor.modules = plan := rfl
  constructor
  · intro h
    rw [← hback]
    exact h.withModules hperm.symm
  · intro h
    exact h.withModules hperm

/-- Reordered modules have the same messages in another order. Those of
resources come last and stay in place. -/
theorem unsupportedParameters_withModules (hperm : modules.Perm descriptor.modules) :
    (unsupportedParameters (descriptor.withModules modules)).Perm
      (unsupportedParameters descriptor) :=
  (hperm.flatMap_right _).append (Perm.refl _)

/-! ### The two models -/

/-- A model has one application for every module of the descriptor, built from
this module, in the order of deployment. The order is that of the plan, so it
is tied to the one that `DeploymentOrder` computes. -/
structure OnePerModule (model : CloudModel) (descriptor : Descriptor) (plan : ApplicationPlan) :
    Prop where
  order : DeploymentOrder.ofDescriptor plan.descriptor = .ok model.order
  moduleNames : model.applications.map (·.moduleName) = model.order.modules
  complete : model.order.modules.Perm (descriptor.modules.map (·.name))
  built : ∀ app ∈ model.applications, ∃ m ∈ plan.descriptor.modules,
    m.name = app.moduleName ∧ (plan.application m).result = .ok app

/-- Two models are equal up to the order of what stands for modules. Services,
keys and entries are equal outright. Waves are compared only in parallel mode,
where each is a set of modules; in sequential mode the order of declaration
decides. -/
structure SameUpToOrder (model other : CloudModel) : Prop where
  applications : model.applications.Perm other.applications
  services : model.services = other.services
  serviceKeys : model.serviceKeys = other.serviceKeys
  entries : model.entries = other.entries
  warnings : model.warnings.Perm other.warnings
  mode : model.order.mode = other.order.mode
  waves : model.order.mode = .parallel →
    List.Forall₂ Perm model.order.waves other.order.waves

/-- With distinct names, a model has one application for every module. That a
preparation keeps the names is a hypothesis, so that nothing else of it is
needed. -/
theorem ConsistsOf.onePerModule (h : model.ConsistsOf target plan)
    (hnames : plan.descriptor.modules.map (·.name) = descriptor.modules.map (·.name))
    (hnodup : (descriptor.modules.map (·.name)).Nodup) :
    model.OnePerModule descriptor plan := by
  have hperm := DeploymentOrder.modules_perm h.order
  have hnoted : ∀ m app, plan.applicationOf m = .ok app → app.moduleName = m.name :=
    fun m app happ => (ApplicationPlan.outcome_applicationOf happ).1
  refine ⟨h.order, ?_, hnames ▸ hperm, ?_⟩
  · rw [Outcome.map_eq_map_of_mapM hnoted h.applications]
    exact Descriptor.map_name_filterMap_module? (hnames ▸ hnodup) hperm.subset
  · intro app happ
    obtain ⟨m, hm, hrun⟩ := Outcome.exists_item_of_mem h.applications happ
    have hmem := (Descriptor.filterMap_module?_perm (hnames ▸ hnodup) hperm).mem_iff.1 hm
    exact ⟨m, hmem, (hnoted m app hrun).symm, hrun⟩

/-- Models of reordered modules are equal up to order, part by part. -/
theorem ConsistsOf.sameUpToOrder (h : model.ConsistsOf target plan)
    (hother : other.ConsistsOf target (plan.withModules modules))
    (hnodup : (plan.descriptor.modules.map (·.name)).Nodup)
    (hperm : modules.Perm plan.descriptor.modules) : model.SameUpToOrder other := by
  obtain ⟨hmode, hwaves⟩ :=
    DeploymentOrder.waves_perm_withModules hperm hnodup h.order hother.order
  have hfound := Descriptor.filterMap_module?_perm hnodup (DeploymentOrder.modules_perm h.order)
  have hfound' : (other.order.modules.filterMap plan.descriptor.module?).Perm
      plan.descriptor.modules :=
    Descriptor.filterMap_module?_perm hnodup
      ((DeploymentOrder.modules_perm hother.order).trans (hperm.map _))
  -- Names lead to the same modules in both, and these have the same applications.
  have happlications := hother.applications
  rw [ApplicationPlan.applicationOf_withModules, ApplicationPlan.withModules,
    Descriptor.module?_withModules hnodup hperm] at happlications
  exact {
    applications := Outcome.mapM_perm (hfound.trans hfound'.symm) h.applications happlications
    services := Except.ok.inj (h.services.symm.trans hother.services)
    serviceKeys := Except.ok.inj (h.serviceKeys.symm.trans hother.serviceKeys)
    entries := (ConfigurationEntry.ofDescriptor_withModules hnodup hperm h.entries
      hother.entries).symm
    warnings := by
      rw [← h.warnings, ← hother.warnings]
      exact (unsupportedParameters_withModules hperm).symm
    mode := hmode.symm
    waves := hwaves }

/-- The plan for reordered modules is that for the modules with these, as they
are prepared. A preparation looks at one module at a time. -/
theorem planFor_withModules (options : Options) (target : Target) (deployed : Option Deployed)
    (descriptor : Descriptor) (modules : List Module) :
    planFor options target deployed (descriptor.withModules modules)
      = (planFor options target deployed descriptor).withModules
        (modules.map target.prepareModule) := by
  have hprepare : target.prepare (descriptor.withModules modules)
      = (target.prepare descriptor).withModules (modules.map target.prepareModule) := by
    simp only [Target.prepare, Descriptor.withModules]
  unfold planFor
  rw [hprepare]
  generalize target.prepare descriptor = prepared
  rfl

/-- A plan has the modules of the descriptor, as they are prepared, in the same
order. -/
theorem modules_planFor (options : Options) (target : Target) (deployed : Option Deployed)
    (descriptor : Descriptor) :
    (planFor options target deployed descriptor).descriptor.modules
      = descriptor.modules.map target.prepareModule := rfl

/-- **Models do not depend on the order of declaration.** Declare modules with
distinct names in another order. There is a model exactly if there was one
before. A model has one application for every module, built from it alone, in
the order of deployment. The two models have the same applications, services,
keys and entries, the same messages in perhaps another order, and in parallel
mode the same modules in every wave. -/
theorem ofDescriptor_reordered (options : Options) (target : Target)
    (deployed : Option Deployed) (descriptor : Descriptor) (modules : List Module)
    (hnodup : (descriptor.modules.map (·.name)).Nodup)
    (hperm : modules.Perm descriptor.modules) :
    let build descriptor := (ofDescriptor options target deployed descriptor).result
    let reordered := { descriptor with modules }
    ((∃ model, build descriptor = .ok model) ↔ ∃ model, build reordered = .ok model) ∧
    (∀ model, build descriptor = .ok model →
      model.OnePerModule descriptor (planFor options target deployed descriptor)) ∧
    ∀ model other, build descriptor = .ok model → build reordered = .ok other →
      model.SameUpToOrder other := by
  intro build reordered
  have hplan : planFor options target deployed reordered
      = (planFor options target deployed descriptor).withModules
        (modules.map target.prepareModule) :=
    planFor_withModules options target deployed descriptor modules
  have hmodules := modules_planFor options target deployed descriptor
  simp only [build, ofDescriptor_eq_ok_iff, hplan]
  -- From here on all that matters of the plan is which modules it has.
  generalize planFor options target deployed descriptor = plan at hmodules ⊢
  have hnames : plan.descriptor.modules.map (·.name) = descriptor.modules.map (·.name) := by
    rw [hmodules, List.map_map]
    rfl
  have hdistinct : (plan.descriptor.modules.map (·.name)).Nodup := hnames ▸ hnodup
  have hprepared : (modules.map target.prepareModule).Perm plan.descriptor.modules :=
    hmodules ▸ hperm.map target.prepareModule
  have hdistinct' : ((plan.withModules (modules.map target.prepareModule)).descriptor.modules.map
      (·.name)).Nodup := (hprepared.map (·.name)).nodup_iff.2 hdistinct
  refine ⟨?_, fun model h => h.onePerModule hnames hnodup, fun model other h hother =>
    h.sameUpToOrder hother hdistinct hprepared⟩
  rw [exists_consistsOf_iff hdistinct, exists_consistsOf_iff hdistinct',
    buildable_withModules_iff hprepared]

/-- A descriptor in parallel mode with one module that waits for two other
ones, and publishes an entry. -/
def festival (modules : List Module) : Descriptor :=
  .plain (.ofList [("enable-parallel-deployments", .bool true)]) modules []

/-- The modules of the festival. One of them has a parameter that is not
supported, so there is a message as well. -/
def festivalModules : List Module :=
  let quiet : List (String × Json) := [("no-route", .bool true)]
  [{ Module.plain "stage" (.ofList (quiet ++ [("deployed-after", .ofStrings ["light", "sound"])]))
      with provides := [⟨"program", true, ∅, .ofList [("day", .int 1)]⟩] },
    .plain "light" (.ofList quiet), .plain "sound" (.ofList (quiet ++ [("volume", .int 11)]))]

/-- Declared backwards, the festival has the same model up to order: the two
modules of the first wave change places. -/
theorem ofDescriptor_reordered_festival :
    (festivalModules.map (·.name)).Nodup ∧ festivalModules.reverse.Perm festivalModules ∧
    ∃ model other,
      (ofDescriptor .standard .plain none (festival festivalModules)).result = .ok model ∧
      (ofDescriptor .standard .plain none (festival festivalModules.reverse)).result = .ok other ∧
      model.order.waves = [["light", "sound"], ["stage"]] ∧
      other.order.waves = [["sound", "light"], ["stage"]] ∧
      model.OnePerModule (festival festivalModules)
        (planFor .standard .plain none (festival festivalModules)) ∧
      model.SameUpToOrder other := by
  have hnodup : (festivalModules.map (·.name)).Nodup := by decide
  have hperm : festivalModules.reverse.Perm festivalModules := List.reverse_perm _
  have hfirst : ((ofDescriptor .standard .plain none (festival festivalModules)).result.map
      (·.order.waves)) = .ok [["light", "sound"], ["stage"]] := by decide +kernel
  have hsecond : ((ofDescriptor .standard .plain none (festival festivalModules.reverse)).result.map
      (·.order.waves)) = .ok [["sound", "light"], ["stage"]] := by decide +kernel
  obtain ⟨model, hmodel, hwaves⟩ := Outcome.map_eq_ok.1 hfirst
  obtain ⟨other, hother, hwaves'⟩ := Outcome.map_eq_ok.1 hsecond
  obtain ⟨-, hone, hsame⟩ := ofDescriptor_reordered .standard .plain none
    (festival festivalModules) festivalModules.reverse hnodup hperm
  exact ⟨hnodup, hperm, model, other, hmodel, hother, hwaves, hwaves', hone model hmodel,
    hsame model other hmodel hother⟩

end CloudModel

end MultiTarget
