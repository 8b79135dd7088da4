import MultiTarget.Proofs.DeclarationOrder
import MultiTarget.Proofs.ServiceNames
import MultiTarget.Proofs.Support.Lawful

/-!
# `MultiTarget.Proofs.Warnings`: warnings raised and warnings listed

What the author of a descriptor wrote in vain is told twice. A build raises a
warning for every unsupported parameter that it meets, and the model lists
all of them (`CloudModel.unsupportedParameters`). The list comes from a pass
of its own.

`warnings_agree_iff` compares the two, as pairs of an owner and a parameter
(`ScopeChain.unsupportedPairs`). For modules they agree. A build goes through
the modules in the order of deployment, so the pairs stand in another order
(`unsupported_applications`). For resources a build raises no more than is
listed, but it passes over inactive resources
(`Descriptor.unsupported_services`), and the list does not. So they agree
exactly if no inactive resource of a service kind has an unsupported
parameter.

Other warnings are raised on the way. `Build.Quiet` says of a computation
that none of its warnings is about an unsupported parameter, whether it
succeeds or not.
-/

set_option autoImplicit false

namespace MultiTarget

/-- Nothing is taken from items that are left out. A builder tests each item,
and a list is filtered first. -/
theorem flatMap_filter {α β : Type} (p : α → Bool) (f : α → List β) (items : List α) :
    (items.filter p).flatMap f = items.flatMap fun x => if p x then f x else [] := by
  -- On the items: each is kept or left out, on both sides.
  induction items with
  | nil => rfl
  | cons x rest ih =>
      rw [List.flatMap_cons, ← ih]
      cases hx : p x with
      | false => rw [List.filter_cons_of_neg (by simp [hx])]; rfl
      | true => rw [List.filter_cons_of_pos hx, List.flatMap_cons]; rfl

/-! ### Owners and parameters -/

/-- The owner and the parameter of a warning about an unsupported parameter.
Other warnings are about services and are not listed. -/
def Warning.unsupported? : Warning → Option (String × String)
  | unsupportedParameter owner parameter => some (owner, parameter)
  | _ => none

/-- The unsupported keys of all scopes, each with the owner. Two owners that
see one key of the descriptor are both told. -/
def ScopeChain.unsupportedPairs (chain : ScopeChain) (known : List (List String)) :
    List (String × String) :=
  (chain.unsupported known).map (chain.owner, ·)

/-- The warnings about unsupported keys are about these, in the same order. -/
theorem ScopeChain.unsupported_unsupportedWarnings (chain : ScopeChain)
    (known : List (List String)) :
    (chain.unsupportedWarnings known).filterMap Warning.unsupported?
      = chain.unsupportedPairs known := by
  unfold unsupportedWarnings unsupportedPairs
  rw [List.filterMap_map]
  show List.filterMap (some ∘ (chain.owner, ·)) _ = _
  exact congrFun List.filterMap_eq_map _

namespace Descriptor

/-- The unsupported parameters of modules, module by module. The list of
modules is given, since a build goes through them in another order. -/
def unsupportedOfModules (descriptor : Descriptor) (modules : List Module) :
    List (String × String) :=
  modules.flatMap fun m =>
    (descriptor.moduleScopes m).unsupportedPairs ApplicationPlan.knownParameters

/-- The unsupported parameters of resources, resource by resource. The list of
resources is given, since a build passes over some of them. -/
def unsupportedOfResources (descriptor : Descriptor) (resources : List Resource) :
    List (String × String) :=
  resources.flatMap fun resource =>
    (descriptor.resourceScopes resource).unsupportedPairs Service.knownParameters

/-- What is unsupported in a resource is owned by it. So a pair tells its
resource if names are distinct. -/
theorem fst_of_mem_unsupportedPairs {descriptor : Descriptor} {resource : Resource}
    {known : List (List String)} {pair : String × String}
    (h : pair ∈ (descriptor.resourceScopes resource).unsupportedPairs known) :
    pair.1 = resource.name := by
  obtain ⟨key, -, rfl⟩ := List.mem_map.1 h
  rfl

end Descriptor

namespace CloudModel

/-- How an unsupported parameter of a module is put into words. -/
def inModule (pair : String × String) : String :=
  s!"unsupported parameter \"{pair.2}\" in module \"{pair.1}\""

/-- How an unsupported parameter of a resource is put into words. The words
differ from those for modules, as names may be shared. -/
def inResource (pair : String × String) : String :=
  s!"unsupported parameter \"{pair.2}\" in resource \"{pair.1}\""

/-- The list of a model names the unsupported parameters of all modules and of
all resources of a service kind. Whether a resource is active is not asked. -/
theorem unsupportedParameters_eq (descriptor : Descriptor) :
    unsupportedParameters descriptor
      = (descriptor.unsupportedOfModules descriptor.modules).map inModule ++
        (descriptor.unsupportedOfResources (descriptor.resources.filter (·.isService))).map
          inResource := by
  unfold unsupportedParameters Descriptor.unsupportedOfModules Descriptor.unsupportedOfResources
  simp only [List.map_flatMap, ScopeChain.unsupportedPairs, List.map_map]
  rfl

end CloudModel

/-! ### Warnings of computations -/

namespace Build

variable {α β : Type}

/-- No warning of a computation is about an unsupported parameter. It may raise
others, and it may fail. -/
def Quiet (build : Build α) : Prop := build.warnings.filterMap Warning.unsupported? = []

theorem quiet_liftM (result : Except ContentError α) : Quiet (liftM result : Build α) := rfl

theorem quiet_pure (value : α) : Quiet (pure value : Build α) := rfl

/-- A sequence is quiet if its parts are, the second one for every value that
it may be given. -/
theorem Quiet.bind {first : Build α} {next : α → Build β} (hfirst : first.Quiet)
    (hnext : ∀ value, (next value).Quiet) : (first >>= next).Quiet := by
  unfold Quiet
  -- If the first part fails, the second one never begins.
  cases hresult : first.result with
  | error error =>
      rw [warnings_bind_of_error hresult]
      exact hfirst
  | ok value =>
      rw [warnings_bind_of_ok hresult, List.filterMap_append, hfirst, hnext]
      rfl

/-- What is done without warnings before a computation raises nothing. -/
theorem warnings_liftM_bind {result : Except ContentError α} {value : α} {next : α → Build β}
    (h : result = .ok value) : (liftM result >>= next).warnings = (next value).warnings := by
  have hresult : (liftM result : Build α).result = .ok value := h
  rw [warnings_bind_of_ok hresult]
  rfl

end Build

namespace Service

variable {naming : ServiceNaming} {resource : Resource} {chain : ScopeChain} {kind : ServiceKind}

/-- A user-provided service is warned about for its label alone, which is
another sort of warning. -/
theorem quiet_userProvided (common : Service) (chain : ScopeChain) :
    (userProvided common chain).Quiet := by
  unfold userProvided
  refine Build.Quiet.bind (Build.quiet_liftM _) fun label? => ?_
  have hrest : ∀ _ : Unit, Build.Quiet (do
      return { common with
        credentials := ← credentialsOf common.name chain
        tags := ← chain.texts "service-tags"
        syslogDrainUrl := ← chain.text? "syslog-drain-url"
        isManaged := true } : Build Service) := fun _ =>
    (Build.quiet_liftM _).bind fun _ => (Build.quiet_liftM _).bind fun _ =>
      (Build.quiet_liftM _).bind fun _ => Build.quiet_pure _
  cases label? with
  | none => exact hrest ()
  | some label => exact Build.Quiet.bind (by rfl) hrest

/-- What is built for a resource of a kind raises a warning for each of its
unsupported parameters. If the check in front of these warnings failed there
would be none, so that success is assumed. -/
theorem unsupported_ofKind {found : Option Service}
    (h : (ofKind naming resource chain kind).result = .ok found) :
    (ofKind naming resource chain kind).warnings.filterMap Warning.unsupported?
      = chain.unsupportedPairs knownParameters := by
  unfold ofKind at h ⊢
  have hsteps := h
  rw [Build.result_bind, Outcome.result_liftM] at hsteps
  obtain ⟨_, hcheck, -⟩ := Outcome.bind_eq_ok.1 hsteps
  have hwarn : (chain.warnUnsupported knownParameters).result = .ok () := rfl
  have hpairs : (chain.warnUnsupported knownParameters).warnings.filterMap Warning.unsupported?
      = chain.unsupportedPairs knownParameters :=
    chain.unsupported_unsupportedWarnings knownParameters
  rw [Build.warnings_liftM_bind hcheck, Build.warnings_bind_of_ok hwarn, List.filterMap_append,
    hpairs]
  -- What follows these warnings is quiet for every kind.
  refine List.append_right_eq_self.2 (Build.Quiet.bind (Build.quiet_liftM _) fun name =>
    (Build.quiet_liftM _).bind fun common => ?_)
  cases kind with
  | managed => exact (Build.quiet_liftM _).bind fun _ => Build.quiet_pure _
  | userProvided => exact (quiet_userProvided common chain).bind fun _ => Build.quiet_pure _
  | existing => exact Build.quiet_pure _
  | existingKey => exact Build.quiet_pure _

end Service

namespace Descriptor

variable {descriptor : Descriptor} {naming : ServiceNaming}

/-- The service of a resource raises a warning for each unsupported parameter,
and none if the resource describes no service. -/
theorem unsupported_service {resource : Resource} {found : Option Service}
    (h : (descriptor.service naming resource).result = .ok found) :
    (descriptor.service naming resource).warnings.filterMap Warning.unsupported?
      = if resource.isService then
          (descriptor.resourceScopes resource).unsupportedPairs Service.knownParameters
        else [] := by
  unfold Descriptor.service at h ⊢
  have hsteps := h
  rw [Build.result_bind, Outcome.result_liftM] at hsteps
  obtain ⟨kind?, hkind, hrun⟩ := Outcome.bind_eq_ok.1 hsteps
  rw [Build.warnings_liftM_bind hkind]
  -- A resource of no kind is passed over in silence.
  cases kind? with
  | none =>
      have hnone : resource.isService = false := by rw [Resource.isService, hkind]
      rw [hnone]
      rfl
  | some kind =>
      have hsome : resource.isService = true := by rw [Resource.isService, hkind]
      rw [hsome]
      exact Service.unsupported_ofKind hrun

/-- Services raise a warning for each unsupported parameter of the active
resources of a service kind. Inactive ones are not even looked at. -/
theorem unsupported_services {services : List Service}
    (h : (descriptor.services naming).result = .ok services) :
    (descriptor.services naming).warnings.filterMap Warning.unsupported?
      = descriptor.unsupportedOfResources
          (descriptor.activeResources.filter (·.isService)) := by
  unfold Descriptor.services at h ⊢
  rw [Build.result_bind] at h
  obtain ⟨found, hfound, -⟩ := Outcome.bind_eq_ok.1 h
  have hall : ∀ resource ∈ descriptor.activeResources,
      (descriptor.service naming resource).warnings.filterMap Warning.unsupported?
        = if resource.isService then
            (descriptor.resourceScopes resource).unsupportedPairs Service.knownParameters
          else [] := by
    intro resource hmem
    -- The traversal succeeded, so each of its steps did.
    rw [Outcome.result_forEach] at hfound
    obtain ⟨service?, -, hrun⟩ := Outcome.exists_result_of_mem hfound hmem
    exact unsupported_service hrun
  rw [Build.warnings_bind_of_ok hfound, Build.warnings_pure, List.append_nil,
    Build.warnings_forEach hfound, List.filterMap_flatMap, unsupportedOfResources,
    List.flatMap_congr hall, flatMap_filter]

/-- Let resources have distinct names. Those of a service kind and the active
ones among them have the same unsupported parameters exactly if the inactive
ones have none. With names that repeat an active resource could tell what an
inactive one has. -/
theorem unsupportedOfResources_iff (hnames : (descriptor.resources.map (·.name)).Nodup) :
    (∀ pair, pair ∈ descriptor.unsupportedOfResources
          (descriptor.activeResources.filter (·.isService)) ↔
        pair ∈ descriptor.unsupportedOfResources (descriptor.resources.filter (·.isService))) ↔
      ∀ resource ∈ descriptor.resources, resource.isService = true → resource.isActive = false →
        (descriptor.resourceScopes resource).unsupported Service.knownParameters = [] := by
  simp only [unsupportedOfResources, activeResources, List.mem_flatMap, List.mem_filter]
  constructor
  · intro hagree resource hmem hservice hinactive
    rw [List.eq_nil_iff_forall_not_mem]
    intro key hkey
    have hpair : (resource.name, key) ∈
        (descriptor.resourceScopes resource).unsupportedPairs Service.knownParameters :=
      List.mem_map_of_mem hkey
    obtain ⟨other, ⟨⟨hother, hactive⟩, -⟩, hpair'⟩ :=
      (hagree _).2 ⟨resource, ⟨hmem, hservice⟩, hpair⟩
    -- The pair names its owner, so the active resource would be the inactive one.
    obtain rfl : resource = other :=
      List.inj_on_of_nodup_map hnames hmem hother (fst_of_mem_unsupportedPairs hpair')
    rw [hinactive] at hactive
    cases hactive
  · intro hnone pair
    constructor
    · rintro ⟨resource, ⟨⟨hmem, -⟩, hservice⟩, hpair⟩
      exact ⟨resource, ⟨hmem, hservice⟩, hpair⟩
    · rintro ⟨resource, ⟨hmem, hservice⟩, hpair⟩
      refine ⟨resource, ⟨⟨hmem, ?_⟩, hservice⟩, hpair⟩
      -- An inactive resource with this pair would have an unsupported key.
      by_contra hinactive
      obtain ⟨key, hkey, -⟩ := List.mem_map.1 hpair
      rw [hnone resource hmem hservice (Bool.eq_false_of_not_eq_true hinactive)] at hkey
      cases hkey

end Descriptor

/-- Applications raise a warning for each unsupported parameter of their
modules, in the order in which they are built. -/
theorem ApplicationPlan.unsupported_applications {plan : ApplicationPlan}
    {modules : List Module} {applications : List Application}
    (h : (Build.forEach plan.application modules).result = .ok applications) :
    (Build.forEach plan.application modules).warnings.filterMap Warning.unsupported?
      = plan.descriptor.unsupportedOfModules modules := by
  have hone : ∀ m, (plan.application m).warnings.filterMap Warning.unsupported?
      = (plan.descriptor.moduleScopes m).unsupportedPairs knownParameters := by
    intro m
    have hwarn : ((plan.descriptor.moduleScopes m).warnUnsupported knownParameters).result
        = .ok () := rfl
    rw [application, Build.warnings_bind_of_ok hwarn, List.filterMap_append,
      Build.quiet_liftM, List.append_nil]
    exact ScopeChain.unsupported_unsupportedWarnings _ _
  rw [Build.warnings_forEach h, List.filterMap_flatMap]
  simp only [hone]
  rfl

/-! ### Models -/

namespace CloudModel

variable {options : Options} {target : Target} {deployed : Option Deployed}
  {descriptor : Descriptor} {model : CloudModel}

/-- The applications of a model are what a build makes of the modules in the
order of deployment. -/
theorem ConsistsOf.result_applications {plan : ApplicationPlan}
    (h : model.ConsistsOf target plan) :
    (Build.forEach plan.application
      (model.order.modules.filterMap plan.descriptor.module?)).result = .ok model.applications := by
  rw [Outcome.result_forEach]
  exact h.applications

/-- A build that succeeds raises the warnings of its applications and then
those of its services. All other steps raise none. -/
theorem warnings_ofDescriptor
    (h : (ofDescriptor options target deployed descriptor).result = .ok model) :
    (ofDescriptor options target deployed descriptor).warnings
      = (Build.forEach (planFor options target deployed descriptor).application
          (model.order.modules.filterMap (target.prepare descriptor).module?)).warnings ++
        ((target.prepare descriptor).services
          (planFor options target deployed descriptor).naming).warnings := by
  have hparts := ofDescriptor_eq_ok_iff.1 h
  have happlications := hparts.result_applications
  unfold ofDescriptor ofPrepared
  unfold planFor at hparts happlications ⊢
  rw [Build.warnings_liftM_bind hparts.order, Build.warnings_bind_of_ok happlications,
    Build.warnings_bind_of_ok hparts.services, Build.warnings_liftM_bind hparts.serviceKeys,
    Build.warnings_liftM_bind hparts.entries, Build.warnings_pure, List.append_nil]

/-- **Warnings raised and warnings listed.** Let the modules of a descriptor
have distinct names, and its resources too. A build that succeeds raises the
warnings of the applications and then those of the services, and the model
lists unsupported parameters of modules and then those of resources. Those of
modules are the ones that were warned about. Those of resources have been
warned about too exactly if no inactive resource of a service kind has an
unsupported parameter.

Modules are built in the order of deployment and listed as declared, so their
pairs are compared up to order. -/
theorem warnings_agree_iff (options : Options) (target : Target) (deployed : Option Deployed)
    (descriptor : Descriptor) (model : CloudModel)
    (hmodules : (descriptor.modules.map (·.name)).Nodup)
    (hresources : (descriptor.resources.map (·.name)).Nodup)
    (h : (ofDescriptor options target deployed descriptor).result = .ok model) :
    let plan := planFor options target deployed descriptor
    let prepared := target.prepare descriptor
    let raisedByModules :=
      (Build.forEach plan.application
        (model.order.modules.filterMap prepared.module?)).warnings
    let raisedByResources := (prepared.services plan.naming).warnings
    let listedOfModules := prepared.unsupportedOfModules prepared.modules
    let listedOfResources :=
      prepared.unsupportedOfResources (prepared.resources.filter (·.isService))
    (ofDescriptor options target deployed descriptor).warnings
        = raisedByModules ++ raisedByResources ∧
      model.warnings = listedOfModules.map inModule ++ listedOfResources.map inResource ∧
      (raisedByModules.filterMap Warning.unsupported?).Perm listedOfModules ∧
      raisedByResources.filterMap Warning.unsupported? ⊆ listedOfResources ∧
      ((∀ pair, pair ∈ raisedByResources.filterMap Warning.unsupported? ↔
          pair ∈ listedOfResources) ↔
        ∀ resource ∈ prepared.resources,
          resource.isService = true → resource.isActive = false →
            (prepared.resourceScopes resource).unsupported Service.knownParameters = []) := by
  intro plan prepared raisedByModules raisedByResources listedOfModules listedOfResources
  have hparts := ofDescriptor_eq_ok_iff.1 h
  have hmodules' : (prepared.modules.map (·.name)).Nodup := by
    show ((descriptor.modules.map target.prepareModule).map (·.name)).Nodup
    rw [List.map_map]
    exact hmodules
  have hresources' : (prepared.resources.map (·.name)).Nodup := by
    show ((descriptor.resources.map Target.prepareResource).map (·.name)).Nodup
    rw [List.map_map]
    exact hresources
  have hofModules : raisedByModules.filterMap Warning.unsupported?
      = prepared.unsupportedOfModules (model.order.modules.filterMap prepared.module?) :=
    ApplicationPlan.unsupported_applications hparts.result_applications
  have hofResources : raisedByResources.filterMap Warning.unsupported?
      = prepared.unsupportedOfResources (prepared.activeResources.filter (·.isService)) :=
    Descriptor.unsupported_services hparts.services
  refine ⟨warnings_ofDescriptor h, ?_, ?_, ?_, ?_⟩
  · rw [← hparts.warnings]
    exact unsupportedParameters_eq prepared
  · rw [hofModules]
    exact (Descriptor.filterMap_module?_perm hmodules'
      (DeploymentOrder.modules_perm hparts.order)).flatMap_right _
  · rw [hofResources]
    intro pair hpair
    obtain ⟨resource, hmem, hpair⟩ := List.mem_flatMap.1 hpair
    obtain ⟨hactive, hservice⟩ := List.mem_filter.1 hmem
    exact List.mem_flatMap.2 ⟨resource,
      List.mem_filter.2 ⟨(List.mem_filter.1 hactive).1, hservice⟩, hpair⟩
  · rw [hofResources]
    exact Descriptor.unsupportedOfResources_iff hresources'

/-- A module and two resources, one of them inactive, each with a parameter
that nothing reads. -/
def kiosk : Descriptor :=
  .plain ∅ [.plain "web" (.ofList [("colour", .str "blue")])]
    [.plain "db" "user-provided-service" (.ofList [("flavour", .str "mint")]),
      { Resource.plain "cache" "user-provided-service" (.ofList [("flavour", .str "mint")]) with
        isActive := false }]

/-- The model of the kiosk lists a parameter that no warning was raised about:
that of the inactive resource. -/
theorem warnings_agree_iff_kiosk : ∃ model,
    (kiosk.modules.map (·.name)).Nodup ∧ (kiosk.resources.map (·.name)).Nodup ∧
    (ofDescriptor .standard .plain none kiosk).result = .ok model ∧
    (ofDescriptor .standard .plain none kiosk).warnings.filterMap Warning.unsupported?
      = [("web", "colour"), ("db", "flavour")] ∧
    model.warnings = [inModule ("web", "colour"), inResource ("db", "flavour"),
      inResource ("cache", "flavour")] ∧
    let prepared := Target.plain.prepare kiosk
    let plan := planFor .standard .plain none kiosk
    ¬ ∀ pair, pair ∈ (prepared.services plan.naming).warnings.filterMap Warning.unsupported? ↔
      pair ∈ prepared.unsupportedOfResources (prepared.resources.filter (·.isService)) := by
  have hmodules : (kiosk.modules.map (·.name)).Nodup := by decide
  have hresources : (kiosk.resources.map (·.name)).Nodup := by decide
  have hrun : (ofDescriptor .standard .plain none kiosk).result.map (·.warnings)
      = .ok [inModule ("web", "colour"), inResource ("db", "flavour"),
        inResource ("cache", "flavour")] := by decide +kernel
  obtain ⟨model, hmodel, hwarnings⟩ := Outcome.map_eq_ok.1 hrun
  obtain ⟨-, -, -, -, hiff⟩ :=
    warnings_agree_iff .standard .plain none kiosk model hmodules hresources hmodel
  refine ⟨model, hmodules, hresources, hmodel, by decide +kernel, hwarnings, ?_⟩
  exact fun hagree => absurd (hiff.1 hagree) (by decide +kernel)

end CloudModel

end MultiTarget
