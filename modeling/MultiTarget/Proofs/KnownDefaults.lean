import MultiTarget.Proofs.Flattening
import MultiTarget.Proofs.Warnings

/-!
# `MultiTarget.Proofs.KnownDefaults`: defaults are never unsupported

The parameters of modules and of resources are looked up in lists of known
ones (`MultiTarget.ParameterName`), and a preparation fills in defaults from
lists of their own. Those of the descriptor are seen by modules and resources
alike. A default that is missing from a list of known parameters would be
reported for every owner.

None is: for every key that is not known there is no default
(`lookup_generalDefaults_of_notMem` and its two companions). So a chain with
defaults agrees with the chain of the author on all keys that are not known,
and the unsupported ones are the same. `unsupportedParameters_prepare` says
this of the messages, and which ones there are.
-/

set_option autoImplicit false

namespace MultiTarget

namespace Target

variable {key : String}

/-! ### Defaults are known -/

/-- The defaults of a descriptor are for shared parameters. The statement is
about keys that are not in the list, as this is how agreement of two chains
asks for it. -/
theorem lookup_generalDefaults_of_notMem (target : Target) (hkey : key ∉ ParameterName.shared) :
    Entries.lookup key target.generalDefaults = none := by
  simp only [ParameterName.shared, List.mem_cons, List.not_mem_nil, or_false, not_or] at hkey
  simp [generalDefaults, Entries.lookup_append, Entries.lookup_entry, Entries.lookup_textEntry,
    hkey]

/-- The defaults of a module are for parameters of applications. The name of
the module is in the value of one of them, never in a key. -/
theorem lookup_moduleDefaults_of_notMem (target : Target) (name : String)
    (hkey : key ∉ ParameterName.application) :
    Entries.lookup key (target.moduleDefaults name) = none := by
  simp only [ParameterName.application, List.mem_cons, List.not_mem_nil, or_false, not_or] at hkey
  simp [moduleDefaults, Entries.lookup, hkey]

/-- The default of a resource is for a parameter of services, whatever the
resource is called and of whatever type it is. -/
theorem lookup_resourceDefaults_of_notMem (name : String) (hkey : key ∉ ParameterName.service) :
    Entries.lookup key (resourceDefaults name) = none := by
  simp only [ParameterName.service, List.mem_cons, List.not_mem_nil, or_false, not_or] at hkey
  simp [resourceDefaults, Entries.lookup, hkey]

/-! ### Chains with defaults -/

/-- A scope does not change where there are no defaults. Which keys these are
is left open, so that one lemma serves the three kinds of scopes. -/
theorem agreeOn_withDefaults {p : String → Prop} {defaults : List (String × Json)}
    (h : ∀ key, p key → Entries.lookup key defaults = none) (scope : Parameters) :
    scope.AgreeOn p (withDefaults scope defaults) := by
  intro key hkey
  rw [get?_withDefaults, h key hkey, Option.or_none]

/-- Defaults that are known leave the unsupported keys of two scopes as they
are. Both lists of names must be among the known ones: a default outside of
them would be reported for an owner who never wrote it. -/
theorem unsupported_withDefaults (target : Target) {known : List (List String)}
    {names : List String} {defaults : List (String × Json)} (hshared : ParameterName.shared ∈ known)
    (hnames : names ∈ known) (hdefaults : ∀ key, key ∉ names → Entries.lookup key defaults = none)
    (owner : String) (general specific : Parameters) :
    (⟨owner, [withDefaults general target.generalDefaults, withDefaults specific defaults]⟩ :
        ScopeChain).unsupported known
      = (⟨owner, [general, specific]⟩ : ScopeChain).unsupported known := by
  -- A key that no list has is in neither of the lists that the defaults are from.
  have hgeneral : general.AgreeOn (· ∉ known.flatten)
      (withDefaults general target.generalDefaults) :=
    agreeOn_withDefaults (fun key hkey => target.lookup_generalDefaults_of_notMem fun h =>
      hkey (List.mem_flatten_of_mem hshared h)) general
  have hspecific : specific.AgreeOn (· ∉ known.flatten) (withDefaults specific defaults) :=
    agreeOn_withDefaults (fun key hkey => hdefaults key fun h =>
      hkey (List.mem_flatten_of_mem hnames h)) specific
  have hagree : (⟨owner, [general, specific]⟩ : ScopeChain).AgreeOn (· ∉ known.flatten)
      ⟨owner, [withDefaults general target.generalDefaults, withDefaults specific defaults]⟩ :=
    ⟨rfl, .cons hgeneral (.cons hspecific .nil)⟩
  exact (hagree.unsupported fun key hunknown => hunknown).symm

/-- The same parameters of a module are unsupported after a preparation, which
changes its own scope and that of the descriptor. -/
theorem unsupported_prepareModule (target : Target) (descriptor : Descriptor) (m : Module) :
    ((target.prepare descriptor).moduleScopes (target.prepareModule m)).unsupported
        ApplicationPlan.knownParameters
      = (descriptor.moduleScopes m).unsupported ApplicationPlan.knownParameters := by
  have hshared : ParameterName.shared ∈ ApplicationPlan.knownParameters := by
    simp [ApplicationPlan.knownParameters]
  have hown : ParameterName.application ∈ ApplicationPlan.knownParameters := by
    simp [ApplicationPlan.knownParameters]
  -- After the rewriting the chain is that of the author with defaults in both scopes.
  rw [moduleScopes_prepare]
  exact target.unsupported_withDefaults hshared hown
    (fun key => target.lookup_moduleDefaults_of_notMem m.name) m.name _ _

/-- The same parameters of a resource are unsupported after a preparation.
Nothing is asked of its type, since keys are compared and not values. -/
theorem unsupported_prepareResource (target : Target) (descriptor : Descriptor)
    (resource : Resource) :
    ((target.prepare descriptor).resourceScopes (prepareResource resource)).unsupported
        Service.knownParameters
      = (descriptor.resourceScopes resource).unsupported Service.knownParameters := by
  have hshared : ParameterName.shared ∈ Service.knownParameters := by
    simp [Service.knownParameters]
  have hown : ParameterName.service ∈ Service.knownParameters := by
    simp [Service.knownParameters]
  rw [resourceScopes_prepare]
  exact target.unsupported_withDefaults hshared hown
    (fun key => lookup_resourceDefaults_of_notMem resource.name) resource.name _ _

end Target

/-! ### Messages -/

namespace CloudModel

/-- What is said of one owner: a message for each key of its scopes that is not
known, in ascending order of the keys. A key that two scopes have is told
once. -/
def TellsUnknown (scopes : List Parameters) (known : List (List String))
    (inWords : String → String) (messages : List String) : Prop :=
  ∃ keys, ScopeChain.ListsUnknown scopes known keys ∧ messages = keys.map inWords

/-- **Only the author is reported.** The messages about unsupported parameters
are the same before and after a preparation. There is a block of them for each
module, and then one for each resource of a service kind, both in the order
of declaration. A block names the keys that the author has set in the scope of
the descriptor or of this very owner and that are not known, in ascending
order. -/
theorem unsupportedParameters_prepare (target : Target) (descriptor : Descriptor) :
    unsupportedParameters (target.prepare descriptor) = unsupportedParameters descriptor ∧
    ∃ ofModules ofResources : List (List String),
      unsupportedParameters descriptor = ofModules.flatten ++ ofResources.flatten ∧
      List.Forall₂ (fun m => TellsUnknown [descriptor.parameters, m.parameters]
        ApplicationPlan.knownParameters fun key => inModule (m.name, key))
        descriptor.modules ofModules ∧
      List.Forall₂ (fun r => TellsUnknown [descriptor.parameters, r.parameters]
        Service.knownParameters fun key => inResource (r.name, key))
        (descriptor.resources.filter (·.isService)) ofResources := by
  constructor
  · have hmodules : (target.prepare descriptor).modules
        = descriptor.modules.map target.prepareModule := by dsimp only [Target.prepare]
    have hresources : (target.prepare descriptor).resources
        = descriptor.resources.map Target.prepareResource := by dsimp only [Target.prepare]
    unfold unsupportedParameters
    rw [hmodules, hresources, Target.filter_isService_map_prepareResource, List.flatMap_map,
      List.flatMap_map]
    -- Owner by owner, the same keys are unsupported, and the owner has kept its name.
    simp only [target.unsupported_prepareModule, target.unsupported_prepareResource]
    rfl
  · refine ⟨descriptor.modules.map fun m =>
        ((descriptor.moduleScopes m).unsupported ApplicationPlan.knownParameters).map fun key =>
          inModule (m.name, key),
      (descriptor.resources.filter (·.isService)).map fun resource =>
        ((descriptor.resourceScopes resource).unsupported Service.knownParameters).map fun key =>
          inResource (resource.name, key), ?_, ?_, ?_⟩
    · rw [← List.flatMap_def, ← List.flatMap_def]
      rfl
    · exact List.forall₂_map_right_iff.2 (List.forall₂_same.2 fun m _ =>
        ⟨_, (descriptor.moduleScopes m).listsUnknown_unsupported _, rfl⟩)
    · exact List.forall₂_map_right_iff.2 (List.forall₂_same.2 fun resource _ =>
        ⟨_, (descriptor.resourceScopes resource).listsUnknown_unsupported _, rfl⟩)

end CloudModel

end MultiTarget
