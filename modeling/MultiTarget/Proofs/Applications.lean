import MultiTarget.Proofs.DeploymentOrder.Permutation
import MultiTarget.Proofs.Integrity

/-!
# `MultiTarget.Proofs.Applications`: the application of a module

A build succeeds with a model exactly if each part of the model is what it
is built to (`CloudModel.ConsistsOf`), so that no proof has to go through the
steps of a build again.

A model goes through the names in the order of deployment and builds an
application of the first module with each of them. Every module has its
place in the order, so the first module with a name has an application
(`exists_application`), and all applications that have noted this name are
built from that module (`applicationOf_of_mem`), however often the name is
declared.
-/

set_option autoImplicit false

namespace MultiTarget

variable {options : Options} {target : Target} {deployed : Option Deployed}
  {descriptor : Descriptor} {m : Module}

/-- A prepared descriptor has the prepared module under a name, since a
preparation goes through the modules one by one and changes no name. -/
theorem Target.module?_prepare (target : Target) (descriptor : Descriptor) (name : String) :
    (target.prepare descriptor).module? name
      = (descriptor.module? name).map target.prepareModule := by
  unfold Descriptor.module? Target.prepare
  rw [List.find?_map]
  rfl

theorem Descriptor.mem_of_module? (h : descriptor.module? m.name = some m) :
    m ∈ descriptor.modules :=
  List.mem_of_find?_eq_some h

namespace ApplicationPlan

/-- Warnings about unknown parameters have no part in the result, so
applications are compared without them. -/
theorem result_application (plan : ApplicationPlan) (m : Module) :
    (plan.application m).result = plan.applicationOf m := rfl

end ApplicationPlan

namespace CloudModel

variable {model : CloudModel} {app : Application}

/-- The parts of a model, as each is built by itself. A later part does not
depend on an earlier one but by the order of the modules. -/
structure ConsistsOf (model : CloudModel) (target : Target) (plan : ApplicationPlan) :
    Prop where
  order : DeploymentOrder.ofDescriptor plan.descriptor = .ok model.order
  applications : (model.order.modules.filterMap plan.descriptor.module?).mapM
    plan.applicationOf = .ok model.applications
  services : (plan.descriptor.services plan.naming).result = .ok model.services
  serviceKeys : plan.descriptor.serviceKeys plan.naming = .ok model.serviceKeys
  entries : ConfigurationEntry.ofDescriptor target plan.descriptor = .ok model.entries
  warnings : unsupportedParameters plan.descriptor = model.warnings

/-- A build succeeds with a model exactly if this consists of its parts. All
statements about models start here, and the steps of a build are looked at
nowhere else. -/
theorem ofDescriptor_eq_ok_iff :
    (ofDescriptor options target deployed descriptor).result = .ok model
      ↔ model.ConsistsOf target (planFor options target deployed descriptor) := by
  unfold ofDescriptor ofPrepared
  simp only [Build.result_bind, Build.result_pure, Outcome.result_liftM,
    Outcome.result_forEach, Outcome.bind_eq_ok, Except.ok.injEq,
    ApplicationPlan.result_application]
  constructor
  · rintro ⟨order, horder, applications, happlications, services, hservices, keys, hkeys,
      entries, hentries, rfl⟩
    exact ⟨horder, happlications, hservices, hkeys, hentries, rfl⟩
  · rintro ⟨horder, happlications, hservices, hkeys, hentries, hwarnings⟩
    refine ⟨_, horder, _, happlications, _, hservices, _, hkeys, _, hentries, ?_⟩
    -- Only the warnings are stated the other way round than they are computed.
    obtain ⟨applications, services, keys, entries, order, warnings⟩ := model
    exact congrArg _ hwarnings

/-- The applications of a model are built in the order of deployment, one for
the first module with each name. -/
theorem outcome_applications
    (h : (ofDescriptor options target deployed descriptor).result = .ok model) :
    DeploymentOrder.ofDescriptor (target.prepare descriptor) = .ok model.order ∧
      (model.order.modules.filterMap (target.prepare descriptor).module?).mapM
        (planFor options target deployed descriptor).applicationOf = .ok model.applications := by
  have hparts := ofDescriptor_eq_ok_iff.1 h
  exact ⟨hparts.order, hparts.applications⟩

/-- The first module with a name has an application. A module that repeats an
earlier name has none of its own, hence the hypothesis. -/
theorem exists_application
    (h : (ofDescriptor options target deployed descriptor).result = .ok model)
    (hm : descriptor.module? m.name = some m) :
    ∃ app ∈ model.applications,
      (planFor options target deployed descriptor).applicationOf (target.prepareModule m)
        = .ok app := by
  obtain ⟨horder, happs⟩ := outcome_applications h
  have hprepared : target.prepareModule m ∈ (target.prepare descriptor).modules :=
    List.mem_map_of_mem (Descriptor.mem_of_module? hm)
  -- The order has the names of all modules, and a preparation changes none.
  have hname : m.name ∈ model.order.modules := by
    rw [(DeploymentOrder.modules_perm horder).mem_iff]
    exact List.mem_map.2 ⟨_, hprepared, rfl⟩
  have hfound : (target.prepare descriptor).module? m.name = some (target.prepareModule m) := by
    rw [Target.module?_prepare, hm, Option.map_some]
  exact Outcome.exists_result_of_mem happs (List.mem_filterMap.2 ⟨m.name, hname, hfound⟩)

/-- An application is that of a module, the first one with the name that the
application has noted. So what holds of the applications of modules holds of
all in the model. -/
theorem exists_module_of_mem
    (h : (ofDescriptor options target deployed descriptor).result = .ok model)
    (happ : app ∈ model.applications) :
    ∃ m, descriptor.module? m.name = some m ∧ app.moduleName = m.name ∧
      (planFor options target deployed descriptor).applicationOf (target.prepareModule m)
        = .ok app := by
  obtain ⟨-, happs⟩ := outcome_applications h
  obtain ⟨found, hfound, hrun⟩ := Outcome.exists_item_of_mem happs happ
  obtain ⟨name, -, hfound⟩ := List.mem_filterMap.1 hfound
  rw [Target.module?_prepare] at hfound
  obtain ⟨m, hm, rfl⟩ := Option.map_eq_some_iff.1 hfound
  -- What was found by a name has this name, which the application has noted.
  have hname : m.name = name := by simpa using List.find?_some hm
  have hnoted : app.moduleName = m.name := (ApplicationPlan.outcome_applicationOf hrun).1
  exact ⟨m, hname ▸ hm, hnoted, hrun⟩

/-- An application is that of the first module with the name that it has noted.
If a name is declared more than once, its applications are built of one
module. -/
theorem applicationOf_of_mem
    (h : (ofDescriptor options target deployed descriptor).result = .ok model)
    (hm : descriptor.module? m.name = some m) (happ : app ∈ model.applications)
    (hname : app.moduleName = m.name) :
    (planFor options target deployed descriptor).applicationOf (target.prepareModule m)
      = .ok app := by
  obtain ⟨m', hm', hnoted, hrun⟩ := exists_module_of_mem h happ
  rw [hname] at hnoted
  rw [← hnoted, hm] at hm'
  cases hm'
  exact hrun

end CloudModel

end MultiTarget
