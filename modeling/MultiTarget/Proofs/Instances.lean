import MultiTarget.Proofs.Applications
import MultiTarget.Proofs.Defaults
import MultiTarget.Proofs.Kubernetes.Manifests

/-!
# `MultiTarget.Proofs.Instances`: how many instances a module has

The number of instances of an application is `instances`, else
`default-instances`. The replicas of a deployment are `instances`, else
one. Both are read from the same prepared scopes of the module, in which
`default-instances` always has a value: that of the module itself, else
the default.

The readers of the two numbers are described by one equivalence each
(`Application.instancesOf_eq_ok_iff`, `Kubernetes.Synthesis.count_eq_ok_iff`),
and `replicas_eq_instances_iff` says for which modules they agree: those
for which the author gives `instances`, and those whose
`default-instances` stands for one.
-/

set_option autoImplicit false

namespace MultiTarget

open Outcome (bind_eq_ok pure_eq_ok)

/-! ### Readers -/

section Readers

variable {chain : ScopeChain} {m : Module} {key : String} {n absent replicas instances : Nat}

/-- A number that fits into 32 bits is kept as it is. Both readers end with
this test, one with its own complaint each. -/
theorem ite_toNat_eq_ok_iff {number : Int} {error : ContentError} :
    (if 0 ≤ number && number < 0x100000000 then pure number.toNat
      else throw error : Except ContentError Nat) = .ok n ↔
      number = (n : Int) ∧ n < 0x100000000 := by
  split
  · rename_i hfits
    simp only [Bool.and_eq_true, decide_eq_true_eq] at hfits
    rw [pure_eq_ok]
    omega
  · rename_i hfits
    simp only [Bool.and_eq_true, decide_eq_true_eq] at hfits
    refine iff_of_false nofun ?_
    omega

/-- A count is the number that is read, and its default only where nothing is
read. A number that does not fit into 32 bits is refused, not replaced. -/
theorem Kubernetes.Synthesis.count_eq_ok_iff :
    count m chain key absent = .ok n ↔
      (chain.integer? key = .ok (some (n : Int)) ∧ n < 0x100000000) ∨
        (chain.integer? key = .ok none ∧ absent = n) := by
  unfold count
  cases chain.integer? key with
  | error error => exact iff_of_false nofun (by simp)
  | ok number? =>
      cases number? with
      | none => simp [bind, Except.bind, pure, Except.pure]
      | some number => simpa [bind, Except.bind] using ite_toNat_eq_ok_iff

/-- The number of instances is the number that is read, or the one that is read
in its place where nothing is. If that is missing too, there are none. -/
theorem Application.instancesOf_eq_ok_iff :
    instancesOf chain = .ok n ↔
      ((chain.integer? "instances" = .ok (some (n : Int)) ∨
        (chain.integer? "instances" = .ok none ∧
          ∃ number?, chain.integer? "default-instances" = .ok number? ∧
            number?.getD 0 = (n : Int))) ∧ n < 0x100000000) := by
  unfold instancesOf
  cases chain.integer? "instances" with
  | error error => exact iff_of_false nofun (by simp)
  | ok number? =>
      cases number? with
      | some number => simpa [bind, Except.bind, pure, Except.pure] using ite_toNat_eq_ok_iff
      | none =>
          cases chain.integer? "default-instances" with
          | error error => exact iff_of_false nofun (by simp)
          | ok default? => simpa [bind, Except.bind, pure, Except.pure] using ite_toNat_eq_ok_iff

/-- Read from the same scopes, the two numbers are equal exactly if `instances`
is read for both, or one is read in its place. Otherwise the one reader takes
its fixed default and the other one what the author set. -/
theorem count_eq_instancesOf_iff
    (hreplicas : Kubernetes.Synthesis.count m chain "instances" 1 = .ok replicas)
    (hinstances : Application.instancesOf chain = .ok instances) :
    ∃ number?, chain.integer? "instances" = .ok number? ∧
      (replicas = instances ↔
        number?.isSome = true ∨ chain.integer? "default-instances" = .ok (some 1)) := by
  obtain ⟨hread, -⟩ := Application.instancesOf_eq_ok_iff.1 hinstances
  rcases Kubernetes.Synthesis.count_eq_ok_iff.1 hreplicas with ⟨hgiven, -⟩ | ⟨hnone, rfl⟩
  · -- Both numbers are the one that is given.
    rw [hgiven] at hread
    have hsame : (replicas : Int) = instances := by simpa using hread
    exact ⟨_, hgiven, iff_of_true (by omega) (.inl rfl)⟩
  · -- Nothing is given: one replica, and as many instances as the default says.
    rw [hnone] at hread
    obtain ⟨default?, hdefault, hinstances⟩ : ∃ default?,
        chain.integer? "default-instances" = .ok default? ∧
          default?.getD 0 = (instances : Int) := by simpa using hread
    refine ⟨none, hnone, ?_⟩
    rw [hdefault]
    cases default? with
    | none =>
        have hzero : instances = 0 := by simpa using hinstances.symm
        simp [hzero]
    | some default =>
        have hsame : default = (instances : Int) := hinstances
        simp only [hsame, Option.isSome_none, Bool.false_eq_true, false_or, Except.ok.injEq,
          Option.some.injEq]
        omega

end Readers

/-! ### What the author gives -/

/-- The author gives the number of instances of a module, in its own scope or
in that of the descriptor. A null gives none. -/
def Descriptor.GivesInstances (descriptor : Descriptor) (m : Module) : Prop :=
  ∃ value, (descriptor.moduleScopes m).get? "instances" = some value ∧ value ≠ .null

/-- A module has nothing but one as its own default. It may have no default of
its own, since that of a target is one. -/
def Module.DefaultsToOne (m : Module) : Prop :=
  ∀ value, m.parameters.get? "default-instances" = some value → value.integer? = some 1

/-- A module becomes a deployment, because its type says so or because it has
none. -/
def Descriptor.Deploys (descriptor : Descriptor) (m : Module) : Prop :=
  ∃ type?, (descriptor.moduleScopes m).text? "type" = .ok type? ∧
    type?.getD "deployment" = "deployment"

/-- Of a prepared module one is read as the default exactly if the module has
nothing else as its own default. What the scope of the descriptor has is hidden
by the default of the module. -/
theorem Target.integer?_defaultInstances_iff (target : Target) {descriptor : Descriptor}
    {m : Module} :
    (target.preparedScopes descriptor m).integer? "default-instances" = .ok (some 1) ↔
      m.DefaultsToOne := by
  have hget : (target.preparedScopes descriptor m).get? "default-instances"
      = some ((m.parameters.get? "default-instances").getD (.int 1)) :=
    target.get?_preparedScopes_of_default (by simp [moduleDefaults, Entries.lookup])
  unfold ScopeChain.integer? Module.DefaultsToOne
  rw [ScopeChain.read?_eq_ok_some_iff, hget]
  cases m.parameters.get? "default-instances" with
  | none => exact iff_of_true ⟨.int 1, rfl, by simp, by decide⟩ (by simp)
  | some own =>
      simp only [Option.getD_some, Option.some.injEq, forall_eq', exists_eq_left']
      -- A null has no view, so it does not stand for one either.
      refine and_iff_right_of_imp ?_
      rintro hone rfl
      cases hone

/-! ### Both numbers -/

/-- The number of instances of an application is read from the scopes of its
module, whatever else goes into it. -/
theorem ApplicationPlan.instancesOf_of_applicationOf {plan : ApplicationPlan} {m : Module}
    {app : Application} (h : plan.applicationOf m = .ok app) :
    Application.instancesOf (plan.descriptor.moduleScopes m) = .ok app.instances := by
  unfold applicationOf at h
  simp only [bind_eq_ok, pure_eq_ok] at h
  obtain ⟨_, -, _, -, _, -, _, -, _, -, _, -, _, -, instances, hinstances, h⟩ := h
  obtain ⟨_, -, _, -, _, -, _, -, _, -, _, -, _, -, _, -, rfl⟩ := h
  exact hinstances

namespace Kubernetes

/-- **When both platforms run as many instances.** Take a descriptor with a
model and with manifests, and the first module with its name. If it becomes a
deployment, it has one deployment among its manifests and one application in
the model. The replicas of the deployment are the instances of the application
exactly if the author gives the number of instances, or if the module has
nothing but one as its own default. -/
theorem replicas_eq_instances_iff (options : Options) (target : Target)
    (deployed : Option Deployed) (descriptor : Descriptor) (model : CloudModel)
    (manifests : List Manifest) (m : Module)
    (hmodel : (CloudModel.ofDescriptor options target deployed descriptor).result = .ok model)
    (hmanifests : manifestsFor options target descriptor = .ok manifests)
    (hm : descriptor.module? m.name = some m) (hdeploys : descriptor.Deploys m) :
    ∃ block deployment app,
      (Synthesis.forTarget options target descriptor).moduleManifests (target.prepareModule m)
        = .ok block ∧ block ⊆ manifests ∧
      (∀ d, .deployment d ∈ block ↔ d = deployment) ∧
      (∀ a, (a ∈ model.applications ∧ a.moduleName = m.name) ↔ a = app) ∧
      (deployment.replicas = app.instances ↔
        descriptor.GivesInstances m ∨ m.DefaultsToOne) := by
  have hmodule : target.prepareModule m ∈ (target.prepare descriptor).modules :=
    List.mem_map_of_mem (Descriptor.mem_of_module? hm)
  rw [← Synthesis.manifests_forTarget] at hmanifests
  obtain ⟨block, hblock, hsub⟩ := Synthesis.exists_block_of_mem hmanifests hmodule
  obtain ⟨type?, hgiven, hdeployment⟩ := hdeploys
  have htype : (target.preparedScopes descriptor m).text? "type" = .ok type? :=
    (target.read?_preparedScopes_of_notMem (by decide) _ _).trans hgiven
  obtain ⟨deployment, hmem⟩ := Synthesis.exists_deployment_mem hblock htype hdeployment
  obtain ⟨-, -, hreplicas, honly⟩ := Synthesis.of_deployment_mem hblock hmem
  obtain ⟨app, happ, hrun⟩ := CloudModel.exists_application hmodel hm
  have hname : app.moduleName = m.name := (ApplicationPlan.outcome_applicationOf hrun).1
  refine ⟨block, deployment, app, hblock, hsub, fun d => ?_, fun a => ?_, ?_⟩
  · constructor
    · intro hd
      exact honly d hd
    · rintro rfl
      exact hmem
  · constructor
    · rintro ⟨ha, haname⟩
      -- Both are built from the module.
      have hrun' := CloudModel.applicationOf_of_mem hmodel hm ha haname
      exact Except.ok.inj (hrun'.symm.trans hrun)
    · rintro rfl
      exact ⟨happ, hname⟩
  · -- Both numbers are read from the prepared scopes of the module.
    have hinstances := ApplicationPlan.instancesOf_of_applicationOf hrun
    change Application.instancesOf (target.preparedScopes descriptor m) = _ at hinstances
    obtain ⟨number?, hnumber, hagree⟩ := count_eq_instancesOf_iff hreplicas hinstances
    have hkept : (descriptor.moduleScopes m).integer? "instances" = .ok number? :=
      (target.read?_preparedScopes_of_notMem (by decide) _ _).symm.trans hnumber
    have hgives : number?.isSome = true ↔ descriptor.GivesInstances m :=
      ScopeChain.isSome_iff_of_read?_eq_ok hkept
    exact hagree.trans (or_congr hgives target.integer?_defaultInstances_iff)

/-- A module that is to have three instances unless the author says otherwise,
which is a default of its own. -/
def threefold : Module :=
  .plain "web" (.ofList [("container-image", .str "web:1"), ("default-instances", .int 3)])

/-- The application of the module has three instances, and its deployment does
not have as many replicas: only one of the two readers knows the default. -/
theorem replicas_ne_instances_threefold :
    let descriptor : Descriptor := .plain ∅ [threefold] []
    ∃ model manifests,
      (CloudModel.ofDescriptor .standard .plain none descriptor).result = .ok model ∧
      manifestsFor .standard .plain descriptor = .ok manifests ∧
      descriptor.module? threefold.name = some threefold ∧ descriptor.Deploys threefold ∧
      model.applications.map (fun app => (app.moduleName, app.instances)) = [("web", 3)] ∧
      ∃ deployment, .deployment deployment ∈ manifests ∧
        ∀ app ∈ model.applications, app.moduleName = "web" →
          deployment.replicas ≠ app.instances := by
  intro descriptor
  have hmodel : ((CloudModel.ofDescriptor .standard .plain none descriptor).result.map
      fun model => model.applications.map fun app => (app.moduleName, app.instances))
        = .ok [("web", 3)] := by decide +kernel
  have hmanifests : ((manifestsFor .standard .plain descriptor).map fun _ => ()) = .ok () := by
    decide +kernel
  obtain ⟨model, hmodel, hinstances⟩ := Outcome.map_eq_ok.1 hmodel
  obtain ⟨manifests, hmanifests, -⟩ := Outcome.map_eq_ok.1 hmanifests
  have hdeploys : descriptor.Deploys threefold := ⟨none, rfl, rfl⟩
  obtain ⟨block, deployment, app, -, hsub, hdeployment, happ, hagree⟩ :=
    replicas_eq_instances_iff _ _ _ descriptor model manifests threefold hmodel hmanifests rfl
      hdeploys
  have hgives : ¬ descriptor.GivesInstances threefold := by
    rintro ⟨value, hvalue, -⟩
    cases hvalue
  have hdefaults : ¬ threefold.DefaultsToOne := fun hone =>
    absurd (hone (.int 3) rfl) (by decide)
  refine ⟨model, manifests, hmodel, hmanifests, rfl, hdeploys, hinstances, deployment,
    hsub ((hdeployment deployment).2 rfl), fun a ha haname => ?_⟩
  obtain rfl := (happ a).1 ⟨ha, haname⟩
  exact fun heq => (hagree.1 heq).elim hgives hdefaults

end Kubernetes

end MultiTarget
