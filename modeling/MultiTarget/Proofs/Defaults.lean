import MultiTarget.Proofs.ScopeChain
import MultiTarget.Proofs.Support.Entries
import MultiTarget.Proofs.Support.Plain

/-!
# `MultiTarget.Proofs.Defaults`: what a preparation does to look-ups

`Target.prepare` writes defaults into three scopes: that of the
descriptor, that of every module and that of every resource. A look-up
goes through a chain of two of them, so it matters in which scope the
author has set a value and into which scope a default for the same key is
put.

* `get?_withDefaults`: one scope with defaults has its own value, else the
  default.
* `prepared_get?_eq_iff`: what an author's value needs to stay visible. A
  default of a module or resource stands in the specific scope, so it
  hides a value that the author has set for all of them in the scope of
  the descriptor (`Overridden`). Every other value stays.
-/

set_option autoImplicit false

namespace MultiTarget

namespace Target

/-- A scope with defaults has its own value of a key, else the first default
for it. A key with a null has a value, so the default does not replace it. -/
theorem get?_withDefaults (scope : Parameters) (defaults : List (String × Json)) (key : String) :
    (withDefaults scope defaults).get? key
      = (scope.get? key).or (Entries.lookup key defaults) := by
  unfold withDefaults
  -- Each default goes into the scope that the ones before it have filled, so the induction is for
  -- all scopes.
  induction defaults generalizing scope with
  | nil => simp [Entries.lookup]
  | cons e rest ih =>
      obtain ⟨k, default⟩ := e
      rw [List.foldl_cons, ih, OrderedMap.get?_insertNew]
      by_cases h : key = k
      · subst h
        cases scope.get? key <;> simp [Entries.lookup]
      · simp [Entries.lookup, h]

end Target

/-- A value that stands in the scope of the descriptor alone is hidden by a
different default in the scope of its owner. An equal default hides nothing,
for the value is the same. -/
def Overridden (own : Parameters) (defaults : List (String × Json)) (key : String)
    (value : Json) : Prop :=
  own.get? key = none ∧ ∃ default, Entries.lookup key defaults = some default ∧ default ≠ value

/-- A value that a chain of two scopes finds is found again after defaults are
put into both scopes, unless a default of the specific scope hides it. The
defaults of the general scope never matter. -/
theorem get?_withDefaults_eq_iff {owner : String} {general own : Parameters}
    {key : String} {value : Json} (generalDefaults ownDefaults : List (String × Json))
    (hfound : (ScopeChain.mk owner [general, own]).get? key = some value) :
    (ScopeChain.mk owner [Target.withDefaults general generalDefaults,
        Target.withDefaults own ownDefaults]).get? key = some value
      ↔ ¬ Overridden own ownDefaults key value := by
  rw [ScopeChain.get?_twoScopes] at hfound
  rw [ScopeChain.get?_twoScopes, Target.get?_withDefaults, Target.get?_withDefaults]
  unfold Overridden
  cases ho : own.get? key with
  | some found =>
      -- The author's value in the specific scope wins over every default.
      rw [ho] at hfound
      simpa using hfound
  | none =>
      rw [ho, Option.none_or] at hfound
      cases hd : Entries.lookup key ownDefaults <;> simp [hfound]

namespace Target

/-- The scopes of a prepared module are those of the module with the defaults
of the descriptor and of the module put in. Each scope is filled by a look at
itself alone. -/
theorem moduleScopes_prepare (target : Target) (descriptor : Descriptor) (m : Module) :
    (target.prepare descriptor).moduleScopes (target.prepareModule m)
      = ⟨m.name, [withDefaults descriptor.parameters target.generalDefaults,
          withDefaults m.parameters (target.moduleDefaults m.name)]⟩ := by
  simp only [Descriptor.moduleScopes, prepare, prepareModule]

/-- The scopes of a prepared resource are those of the resource with the
defaults of the descriptor and of the resource put in. -/
theorem resourceScopes_prepare (target : Target) (descriptor : Descriptor)
    (resource : Resource) :
    (target.prepare descriptor).resourceScopes (prepareResource resource)
      = ⟨resource.name, [withDefaults descriptor.parameters target.generalDefaults,
          withDefaults resource.parameters (resourceDefaults resource.name)]⟩ := by
  simp only [Descriptor.resourceScopes, prepare, prepareResource]

/-- Neither a descriptor nor a module of it sets a key, so what a prepared
module has for it comes from the target. -/
def Undeclared (descriptor : Descriptor) (m : Module) (key : String) : Prop :=
  descriptor.parameters.get? key = none ∧ m.parameters.get? key = none

/-- The scopes of a module after the preparation, as applications and routes
read them. -/
abbrev preparedScopes (target : Target) (descriptor : Descriptor) (m : Module) : ScopeChain :=
  (target.prepare descriptor).moduleScopes (target.prepareModule m)

/-- Of a key that is not set a prepared module has the default. Those of
modules stand in the specific scope, so they come before those of the
descriptor. -/
theorem get?_preparedScopes_of_undeclared (target : Target) {descriptor : Descriptor}
    {m : Module} {key : String} (h : Undeclared descriptor m key) :
    (target.preparedScopes descriptor m).get? key
      = (Entries.lookup key (target.moduleDefaults m.name)).or
        (Entries.lookup key target.generalDefaults) := by
  rw [preparedScopes, moduleScopes_prepare, ScopeChain.get?_twoScopes, get?_withDefaults,
    get?_withDefaults, h.1, h.2, Option.none_or, Option.none_or]

/-- The keys for which a target has defaults in the scopes of modules. Some of
them depend on the target, and are not there if it lacks the value. -/
def defaultKeys : List String := [
  "default-app-name", "default-host", "default-idle-host", "default-instances", "org", "space",
  "default-domain", "controller-url", "protocol", "timestamp", "user", "default-idle-domain",
  "authorization-url", "deploy-url"]

/-- A key without a default has the value that it has in the descriptor. So a
preparation is invisible to readers of such keys. -/
theorem get?_preparedScopes_of_notMem (target : Target) {descriptor : Descriptor} {m : Module}
    {key : String} (hkey : key ∉ defaultKeys) :
    (target.preparedScopes descriptor m).get? key = (descriptor.moduleScopes m).get? key := by
  simp only [defaultKeys, List.mem_cons, List.not_mem_nil, or_false, not_or] at hkey
  have hown : Entries.lookup key (target.moduleDefaults m.name) = none := by
    simp [moduleDefaults, Entries.lookup, hkey]
  -- The defaults of the descriptor are some entries that may be absent, none of them for this key.
  have hgeneral : Entries.lookup key target.generalDefaults = none := by
    simp [generalDefaults, Entries.lookup_append, Entries.lookup_entry,
      Entries.lookup_textEntry, hkey]
  rw [preparedScopes, moduleScopes_prepare, Descriptor.moduleScopes, ScopeChain.get?_twoScopes,
    ScopeChain.get?_twoScopes, get?_withDefaults, get?_withDefaults, hown, hgeneral,
    Option.or_none, Option.or_none]

/-- A key without a default is read as it is in the descriptor, errors
included, since the owner stays the same. -/
theorem read?_preparedScopes_of_notMem (target : Target) {descriptor : Descriptor} {m : Module}
    {key : String} (hkey : key ∉ defaultKeys) {α : Type} (expected : String)
    (view : Json → Option α) :
    (target.preparedScopes descriptor m).read? key expected view
      = (descriptor.moduleScopes m).read? key expected view := by
  have howner : (target.preparedScopes descriptor m).owner = (descriptor.moduleScopes m).owner :=
    rfl
  exact ScopeChain.read?_congr howner (target.get?_preparedScopes_of_notMem hkey) expected view

/-- A default of the module stands in front of all that the scope of the
descriptor has. Only the module itself can set another value. -/
theorem get?_preparedScopes_of_default (target : Target) {descriptor : Descriptor} {m : Module}
    {key : String} {default : Json}
    (hdefault : Entries.lookup key (target.moduleDefaults m.name) = some default) :
    (target.preparedScopes descriptor m).get? key
      = some ((m.parameters.get? key).getD default) := by
  rw [preparedScopes, moduleScopes_prepare, ScopeChain.get?_twoScopes, get?_withDefaults,
    hdefault]
  cases m.parameters.get? key <;> rfl

/-- **When a preparation keeps what an author sees.** Take a module or a
resource of a descriptor and a value that its scopes have for a key. The module
or resource at the same place of the prepared descriptor has the same value for
the key exactly if the value is not overridden: the author has set the key in
the scope of the owner itself, or there is no default for it there, or the
default is that value. -/
theorem prepared_get?_eq_iff (target : Target) (descriptor : Descriptor) (place : Nat)
    (key : String) (value : Json) :
    (∀ m, descriptor.modules[place]? = some m →
      (descriptor.moduleScopes m).get? key = some value →
      ∃ prepared, (target.prepare descriptor).modules[place]? = some prepared ∧
        prepared.name = m.name ∧
        (((target.prepare descriptor).moduleScopes prepared).get? key = some value
          ↔ ¬ Overridden m.parameters (target.moduleDefaults m.name) key value)) ∧
    (∀ r, descriptor.resources[place]? = some r →
      (descriptor.resourceScopes r).get? key = some value →
      ∃ prepared, (target.prepare descriptor).resources[place]? = some prepared ∧
        prepared.name = r.name ∧
        (((target.prepare descriptor).resourceScopes prepared).get? key = some value
          ↔ ¬ Overridden r.parameters (resourceDefaults r.name) key value)) := by
  constructor
  · intro m hm hfound
    refine ⟨target.prepareModule m, ?_, rfl, ?_⟩
    · simp [prepare, hm]
    · rw [moduleScopes_prepare]
      exact get?_withDefaults_eq_iff target.generalDefaults _ hfound
  · intro r hr hfound
    refine ⟨prepareResource r, ?_, rfl, ?_⟩
    · simp [prepare, hr]
    · rw [resourceScopes_prepare]
      exact get?_withDefaults_eq_iff target.generalDefaults _ hfound

/-- A descriptor whose author has set a number of instances and a plan for all
modules and resources at once. -/
def sharedSettings : Descriptor :=
  .plain (.ofList [("default-instances", .int 3), ("service-plan", .str "free")])
    [.plain "web" ∅] [.plain "db" "managed-service" ∅]

/-- The number of instances that is set for all modules is hidden by the
default, the plan that is set for all resources stays. -/
theorem prepared_get?_sharedSettings :
    ((sharedSettings.moduleScopes (.plain "web" ∅)).get? "default-instances" = some (.int 3) ∧
      ∃ prepared, (plain.prepare sharedSettings).modules[0]? = some prepared ∧
        ((plain.prepare sharedSettings).moduleScopes prepared).get? "default-instances"
          ≠ some (.int 3)) ∧
    ((sharedSettings.resourceScopes (.plain "db" "managed-service" ∅)).get? "service-plan"
        = some (.str "free") ∧
      ∃ prepared, (plain.prepare sharedSettings).resources[0]? = some prepared ∧
        ((plain.prepare sharedSettings).resourceScopes prepared).get? "service-plan"
          = some (.str "free")) := by
  have hinstances : (sharedSettings.moduleScopes (.plain "web" ∅)).get? "default-instances"
      = some (.int 3) := by decide
  have hplan : (sharedSettings.resourceScopes (.plain "db" "managed-service" ∅)).get?
      "service-plan" = some (.str "free") := by decide
  refine ⟨⟨hinstances, ?_⟩, ⟨hplan, ?_⟩⟩
  · obtain ⟨prepared, hplace, -, hiff⟩ :=
      (prepared_get?_eq_iff plain sharedSettings 0 "default-instances" (.int 3)).1 _ rfl
        hinstances
    refine ⟨prepared, hplace, fun hkept => hiff.1 hkept ?_⟩
    exact ⟨by decide, .int 1, by decide, by decide⟩
  · obtain ⟨prepared, hplace, -, hiff⟩ :=
      (prepared_get?_eq_iff plain sharedSettings 0 "service-plan" (.str "free")).2 _ rfl hplan
    refine ⟨prepared, hplace, hiff.2 ?_⟩
    rintro ⟨-, default, hdefault, -⟩
    have hnone : Entries.lookup "service-plan" (resourceDefaults "db") = none := by decide
    exact absurd (hnone.symm.trans hdefault) (by simp)

end Target

end MultiTarget
