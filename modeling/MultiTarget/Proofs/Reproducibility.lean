import MultiTarget.CloudModel
import MultiTarget.Proofs.Agreement.Application
import MultiTarget.Proofs.Agreement.Kubernetes
import MultiTarget.Proofs.Agreement.Service
import MultiTarget.Proofs.Defaults

/-!
# `MultiTarget.Proofs.Reproducibility`: the same build at another time

A target knows when and by whom it is deployed to. A preparation writes
both into the scope of the descriptor, which all modules and resources
inherit, so that every builder could see them.

None does. The parameters that models and manifests are read from are
listed beside their builders (`CloudModel.names`, `Kubernetes.workloadNames`,
`Kubernetes.provisionNames`), the two are not among them
(`notMem_volatile`), and both are known, so that no warning names them
either. What a builder makes of a scope that agrees on all it reads is the
same, error or result.
-/

set_option autoImplicit false

namespace MultiTarget

/-! ### The order of deployment -/

namespace DeploymentOrder

variable {descriptor : Descriptor} {general : Parameters}

/-- The parameters that the order of deployment is read from: the first in the
scopes of modules, the second in that of the descriptor. -/
abbrev names : List String := ["deployed-after", "enable-parallel-deployments"]

/-- Another scope of the descriptor that agrees on these parameters changes no
order. Modules and their own scopes are the same. -/
theorem ofDescriptor_withParameters
    (h : descriptor.parameters.AgreeOn (· ∈ names) general) :
    ofDescriptor descriptor = ofDescriptor (descriptor.withParameters general) := by
  -- An order is a mode and a graph, and either is read from one of the parameters.
  have hmode : modeOf descriptor = modeOf (descriptor.withParameters general) := by
    unfold modeOf
    rw [h "enable-parallel-deployments" (by simp)]
    rfl
  have hgraph : DeploymentGraph.ofDescriptor descriptor
      = DeploymentGraph.ofDescriptor (descriptor.withParameters general) := by
    have htexts : ∀ m, (descriptor.moduleScopes m).texts "deployed-after"
        = ((descriptor.withParameters general).moduleScopes m).texts "deployed-after" := fun m =>
      (Descriptor.moduleScopes_withParameters h m).values.texts (by simp)
    unfold DeploymentGraph.ofDescriptor
    simp only [htexts]
    rfl
  unfold ofDescriptor
  rw [hmode, hgraph]

end DeploymentOrder

/-! ### Models -/

namespace CloudModel

variable {p : String → Prop} {descriptor : Descriptor} {general : Parameters}

/-- The parameters that a model is read from: those of applications, of
services and of the order. -/
def names : List String := Application.names ++ Service.names ++ DeploymentOrder.names

/-- A class has all that a model of a descriptor depends on: the parameters
that are read, and those that are warned of. The second are all those that are
not known, so a class that suffices is never small. -/
structure Suffices (p : String → Prop) : Prop where
  names : ∀ key ∈ names, p key
  ofModules : ∀ key, key ∉ ApplicationPlan.knownParameters.flatten → p key
  ofResources : ∀ key, key ∉ Service.knownParameters.flatten → p key

/-- Another scope of the descriptor that agrees on a class that suffices
changes no message. A parameter of the descriptor that is not known is told for
every module and resource. -/
theorem unsupportedParameters_withParameters (h : descriptor.parameters.AgreeOn p general)
    (hp : Suffices p) :
    unsupportedParameters descriptor
      = unsupportedParameters (descriptor.withParameters general) := by
  have hmodules := fun m =>
    (Descriptor.moduleScopes_withParameters h m).unsupported hp.ofModules
  have hresources := fun resource =>
    (Descriptor.resourceScopes_withParameters h resource).unsupported hp.ofResources
  unfold unsupportedParameters
  simp only [hmodules, hresources]
  rfl

/-- **What a model is read from.** Another scope of the descriptor that
agrees on a class that suffices changes neither the model nor the error nor
a warning. -/
theorem ofPrepared_withParameters (options : Options) (target : Target)
    (deployed : Option Deployed) (h : descriptor.parameters.AgreeOn p general)
    (hp : Suffices p) :
    ofPrepared options target deployed descriptor
      = ofPrepared options target deployed (descriptor.withParameters general) := by
  have happlication : ∀ key ∈ Application.names, p key := fun key hkey =>
    hp.names key (List.mem_append_left _ (List.mem_append_left _ hkey))
  have hservice : ∀ key ∈ Service.names, p key := fun key hkey =>
    hp.names key (List.mem_append_left _ (List.mem_append_right _ hkey))
  have horder : ∀ key ∈ DeploymentOrder.names, p key := fun key hkey =>
    hp.names key (List.mem_append_right _ hkey)
  -- Applications are built with warnings about the scopes of their modules in front.
  have hplan : ∀ naming, ApplicationPlan.application
      { descriptor, options, values := target.placeholderValues, naming, deployed }
      = ApplicationPlan.application
        { descriptor := descriptor.withParameters general, options
          values := target.placeholderValues, naming, deployed } := by
    intro naming
    funext m
    unfold ApplicationPlan.application
    dsimp only
    rw [(Descriptor.moduleScopes_withParameters h m).warnUnsupported hp.ofModules,
      ApplicationPlan.applicationOf_withParameters _ (h.mono happlication)]
  unfold ofPrepared
  simp only [DeploymentOrder.ofDescriptor_withParameters (h.mono horder), hplan,
    Descriptor.services_withParameters h hservice hp.ofResources,
    Descriptor.serviceKeys_withParameters (h.mono hservice),
    unsupportedParameters_withParameters h hp]
  rfl

end CloudModel

/-! ### Preparations at another time -/

namespace Target

/-- The parameters that say when and by whom a descriptor is deployed. They are
put into the scope of the descriptor, where all modules and resources could
read them. -/
def volatileNames : List String := ["timestamp", "user"]

/-- The target of a deployment at another time and by someone else. All else
that a target says is the same. -/
def redeployed (target : Target) (timestamp : Timestamp) (user orgGuid : Option String) :
    Target :=
  { target with timestamp, user, orgGuid }

variable (target : Target) (timestamp : Timestamp) (user orgGuid : Option String)

/-- Of the defaults only the two for the time and the user are different. The
identifier of the organisation is no default. -/
theorem lookup_generalDefaults_redeployed {key : String} (hkey : key ∉ volatileNames) :
    Entries.lookup key (target.redeployed timestamp user orgGuid).generalDefaults
      = Entries.lookup key target.generalDefaults := by
  simp only [volatileNames, List.mem_cons, List.not_mem_nil, or_false, not_or] at hkey
  obtain ⟨htimestamp, huser⟩ := hkey
  simp only [generalDefaults, Entries.lookup_append, Entries.lookup_entry,
    Entries.lookup_textEntry, if_neg htimestamp, if_neg huser]
  rfl

/-- The scope of a descriptor with the defaults of a target, which is what a
preparation makes of it. -/
abbrev generalScope (target : Target) (descriptor : Descriptor) : Parameters :=
  withDefaults descriptor.parameters target.generalDefaults

/-- Preparations at different times agree on all parameters but the two. If the
author has set them, they agree on these as well, which is not needed. -/
theorem generalScope_agreeOn_redeployed (descriptor : Descriptor) :
    (target.prepare descriptor).parameters.AgreeOn (· ∉ volatileNames)
      ((target.redeployed timestamp user orgGuid).generalScope descriptor) := by
  intro key hkey
  have hprepared : (target.prepare descriptor).parameters = target.generalScope descriptor := by
    simp only [prepare]
  rw [hprepared, get?_withDefaults, get?_withDefaults,
    lookup_generalDefaults_redeployed _ _ _ _ hkey]

/-- All that a preparation at another time changes is the scope of the
descriptor: defaults of modules and resources name no time and no user. So what
is known of another scope of a descriptor applies. -/
theorem prepare_redeployed (descriptor : Descriptor) :
    (target.redeployed timestamp user orgGuid).prepare descriptor
      = (target.prepare descriptor).withParameters
        ((target.redeployed timestamp user orgGuid).generalScope descriptor) := by
  have hmodule : (target.redeployed timestamp user orgGuid).prepareModule
      = target.prepareModule := rfl
  simp only [prepare, Descriptor.withParameters, hmodule]

end Target

/-- What a model takes from the target besides its defaults says nothing of the
time and the user. These are the values of placeholders and what entries say of
the target. -/
theorem CloudModel.ofPrepared_redeployed (options : Options) (target : Target)
    (timestamp : Timestamp) (user orgGuid : Option String) (deployed : Option Deployed)
    (descriptor : Descriptor) :
    ofPrepared options (target.redeployed timestamp user orgGuid) deployed descriptor
      = ofPrepared options target deployed descriptor := by
  have hvalues : (target.redeployed timestamp user orgGuid).placeholderValues
      = target.placeholderValues := rfl
  have hentries : ConfigurationEntry.ofDescriptor (target.redeployed timestamp user orgGuid)
      descriptor = ConfigurationEntry.ofDescriptor target descriptor := rfl
  unfold ofPrepared
  rw [hvalues, hentries]

/-- Names of services are read from the resources, whatever the scope of the
descriptor. No agreement of scopes is needed for them. -/
theorem CloudModel.serviceNames_redeployed (options : Options) (target : Target)
    (timestamp : Timestamp) (user orgGuid : Option String) (descriptor : Descriptor) :
    serviceNames options (target.redeployed timestamp user orgGuid) descriptor
      = serviceNames options target descriptor := by
  have hnaming : ∀ (prepared : Descriptor) general,
      ServiceNaming.ofOptions options (prepared.withParameters general)
        = ServiceNaming.ofOptions options prepared := fun _ _ => rfl
  have hresources : ∀ (prepared : Descriptor) general,
      (prepared.withParameters general).activeResources = prepared.activeResources :=
    fun _ _ => rfl
  unfold serviceNames
  simp only [Target.prepare_redeployed, hnaming, hresources]

/-- A model is read from neither of the two, and they are known to modules and
resources. All three conditions are about closed lists and are evaluated. -/
theorem CloudModel.suffices_notMem_volatile : Suffices (· ∉ Target.volatileNames) where
  names := by decide +kernel
  ofModules key hkey hvolatile := by
    have hknown : ∀ key ∈ Target.volatileNames, key ∈ ApplicationPlan.knownParameters.flatten := by
      decide
    exact hkey (hknown key hvolatile)
  ofResources key hkey hvolatile := by
    have hknown : ∀ key ∈ Target.volatileNames, key ∈ Service.knownParameters.flatten := by
      decide
    exact hkey (hknown key hvolatile)

/-- **Builds are reproducible.** The same descriptor is deployed to the same
target again, at another time, by another user or by none, and with another
identifier of the organisation. The model is the same with all warnings, or
the error is; so are the manifests, with the fingerprints of all
configurations, and the names of services. -/
theorem builds_redeployed_eq (options : Options) (target : Target)
    (deployed : Option Deployed) (descriptor : Descriptor) (timestamp : Timestamp)
    (user orgGuid : Option String) :
    let later : Target := { target with timestamp, user, orgGuid }
    CloudModel.ofDescriptor options later deployed descriptor
        = CloudModel.ofDescriptor options target deployed descriptor ∧
      Kubernetes.manifestsFor options later descriptor
        = Kubernetes.manifestsFor options target descriptor ∧
      CloudModel.serviceNames options later descriptor
        = CloudModel.serviceNames options target descriptor := by
  intro later
  have hlater : later = target.redeployed timestamp user orgGuid := rfl
  have hagree := target.generalScope_agreeOn_redeployed timestamp user orgGuid descriptor
  -- A model and manifests are read from scopes that agree; names of services from none.
  refine ⟨?_, ?_, ?_⟩
  · unfold CloudModel.ofDescriptor
    rw [hlater, CloudModel.ofPrepared_redeployed, Target.prepare_redeployed,
      ← CloudModel.ofPrepared_withParameters options target deployed hagree
        CloudModel.suffices_notMem_volatile]
  · have hread : ∀ key ∈ Kubernetes.workloadNames ++ Kubernetes.provisionNames,
        key ∉ Target.volatileNames := by decide
    exact (Kubernetes.Synthesis.manifests_withParameters
      (s := ⟨target.prepare descriptor, target.placeholderValues, options.prettyPrinting⟩)
      (hagree.mono hread)).symm
  · exact CloudModel.serviceNames_redeployed options target timestamp user orgGuid descriptor

end MultiTarget
