import MultiTarget.CloudModel
import MultiTarget.Kubernetes.Provision
import MultiTarget.Proofs.Defaults

/-!
# `MultiTarget.Proofs.Preparation`: preparing a descriptor twice

Every build prepares its descriptor, and a descriptor that has been prepared
before may be handed to a build. `prepare_conservative` says that this does
no harm. A preparation leaves every entry of every scope as it is, a null
among them, and touches nothing but parameters (`FilledIn`). So all keys with
a default have a value after the first preparation, and a second one finds
nothing left to fill in (`prepare_prepare`).

This holds for one target, whose timestamp is part of it. A preparation for
another target later on finds the defaults of the first one, and keeps them
like values of the author.
-/

set_option autoImplicit false

namespace MultiTarget

/-- A scope with defaults filled in. What it had it keeps, and a key that it
had not has the first default for it. The two fields determine all look-ups in
the filled scope. -/
structure FilledIn (defaults : List (String × Json)) (scope filled : Parameters) : Prop where
  kept : ∀ key value, scope.get? key = some value → filled.get? key = some value
  added : ∀ key, scope.get? key = none → filled.get? key = Entries.lookup key defaults

namespace Target

/-- Filling defaults into a scope keeps all of its entries. -/
theorem filledIn_withDefaults (scope : Parameters) (defaults : List (String × Json)) :
    FilledIn defaults scope (withDefaults scope defaults) where
  kept key value h := by rw [get?_withDefaults, h, Option.some_or]
  added key h := by rw [get?_withDefaults, h, Option.none_or]

/-- Where the defaults are filled in there is nothing left for them to do. Maps
are equal, not only their look-ups, as they are ordered by their keys. -/
theorem withDefaults_withDefaults (scope : Parameters) (defaults : List (String × Json)) :
    withDefaults (withDefaults scope defaults) defaults = withDefaults scope defaults := by
  refine OrderedMap.ext_get? fun key => ?_
  -- Key by key: an entry comes first, and of a default twice once is enough.
  rw [get?_withDefaults, get?_withDefaults, Option.or_assoc, Option.or_self]

/-- A null is an entry, too. -/
example : (withDefaults (.ofList [("org", .null)]) [("org", .str "acme")]).get? "org"
    = some .null := by decide

/-- A module has the defaults of a target filled in and is otherwise as it was:
its name, its properties, what it requires and what it provides. -/
def FillsModule (target : Target) (m prepared : Module) : Prop :=
  FilledIn (target.moduleDefaults m.name) m.parameters prepared.parameters ∧
    prepared = { m with parameters := prepared.parameters }

/-- A resource has its default filled in and is otherwise as it was. The target
does not matter to it. -/
def FillsResource (resource prepared : Resource) : Prop :=
  FilledIn (resourceDefaults resource.name) resource.parameters prepared.parameters ∧
    prepared = { resource with parameters := prepared.parameters }

theorem fillsModule_prepareModule (target : Target) (m : Module) :
    target.FillsModule m (target.prepareModule m) := by
  unfold FillsModule prepareModule
  exact ⟨filledIn_withDefaults m.parameters (target.moduleDefaults m.name), rfl⟩

theorem fillsResource_prepareResource (resource : Resource) :
    FillsResource resource (prepareResource resource) := by
  unfold FillsResource prepareResource
  exact ⟨filledIn_withDefaults resource.parameters (resourceDefaults resource.name), rfl⟩

/-- A module that has its defaults keeps them. They depend on its name, which a
preparation does not change. -/
theorem prepareModule_prepareModule (target : Target) (m : Module) :
    target.prepareModule (target.prepareModule m) = target.prepareModule m := by
  unfold prepareModule
  rw [withDefaults_withDefaults]

theorem prepareResource_prepareResource (resource : Resource) :
    prepareResource (prepareResource resource) = prepareResource resource := by
  unfold prepareResource
  rw [withDefaults_withDefaults]

/-- A second preparation for the same target changes nothing, in the descriptor
and in all of its modules and resources. -/
theorem prepare_prepare (target : Target) (descriptor : Descriptor) :
    target.prepare (target.prepare descriptor) = target.prepare descriptor := by
  have hmodules : (descriptor.modules.map target.prepareModule).map target.prepareModule
      = descriptor.modules.map target.prepareModule := by
    rw [List.map_map]
    exact List.map_congr_left fun m _ => target.prepareModule_prepareModule m
  have hresources : (descriptor.resources.map prepareResource).map prepareResource
      = descriptor.resources.map prepareResource := by
    rw [List.map_map]
    exact List.map_congr_left fun resource _ => prepareResource_prepareResource resource
  unfold prepare
  dsimp only
  rw [withDefaults_withDefaults, hmodules, hresources]

/-- **Preparing is conservative, and once is enough.** A preparation fills
defaults into the scopes of the descriptor, of every module and of every
resource, where it keeps each entry with its value. Modules and resources
stay in place and are as they were otherwise, and so is the descriptor. A
second preparation changes nothing. So a prepared descriptor has the model,
the manifests and the names of services that it had before, with the same
errors and warnings. -/
theorem prepare_conservative (target : Target) (descriptor : Descriptor) :
    let prepared := target.prepare descriptor
    FilledIn target.generalDefaults descriptor.parameters prepared.parameters ∧
    List.Forall₂ target.FillsModule descriptor.modules prepared.modules ∧
    List.Forall₂ FillsResource descriptor.resources prepared.resources ∧
    prepared = { descriptor with
      parameters := prepared.parameters
      modules := prepared.modules
      resources := prepared.resources } ∧
    target.prepare prepared = prepared ∧
    ∀ options deployed,
      CloudModel.ofDescriptor options target deployed prepared
        = CloudModel.ofDescriptor options target deployed descriptor ∧
      Kubernetes.manifestsFor options target prepared
        = Kubernetes.manifestsFor options target descriptor ∧
      CloudModel.serviceNames options target prepared
        = CloudModel.serviceNames options target descriptor := by
  have htwice := target.prepare_prepare descriptor
  refine ⟨?_, ?_, ?_, ?_, htwice, fun options deployed => ?_⟩
  · dsimp only [prepare]
    exact filledIn_withDefaults descriptor.parameters target.generalDefaults
  · exact List.forall₂_map_right_iff.2 (List.forall₂_same.2 fun m _ =>
      target.fillsModule_prepareModule m)
  · exact List.forall₂_map_right_iff.2 (List.forall₂_same.2 fun resource _ =>
      fillsResource_prepareResource resource)
  · dsimp only [prepare]
  · -- Each of the three starts with a preparation and does not look at the descriptor again.
    unfold CloudModel.ofDescriptor Kubernetes.manifestsFor CloudModel.serviceNames
    rw [htwice]
    exact ⟨rfl, rfl, rfl⟩

end Target

end MultiTarget
