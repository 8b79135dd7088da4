import MultiTarget.Proofs.Agreement.Application
import MultiTarget.Proofs.Applications
import MultiTarget.Proofs.ScopeChain
import MultiTarget.Proofs.Support.Plain

/-!
# `MultiTarget.Proofs.UnsetParameters`: nulls in the scope of a module

A null is meant to be no value. A module that declares it for a parameter
hides what the descriptor has for all modules, so its application should be
the one that is built where neither scope has the parameter
(`ApplicationPlan.unset`).

The readers of single parameters take a null for no value, so the two chains
are read alike (`readAlike_unset`). Pairs of a name and its plural are read
from whole scopes, and none of them is unset here (`agreeOn_unset`). The
environment takes attributes out of the scope of the module, which are other
parameters (`Environment.ofModule_unset`). Sizes are not read by a reader: a
null is looked at like any other value, and is none. `application_unset` says
that applications are the same but for these.
-/

set_option autoImplicit false

namespace MultiTarget

open Outcome (FailsOwnOrAs)

/-! ### Unset parameters -/

namespace Application

/-- The parameters that are sizes. They are looked at as values and not by a
reader. -/
abbrev sizeNames : List String := ["memory", "disk-quota"]

/-- The parameters of an application that a module can unset. Those of pairs
are left out, since a null in a scope is a declaration there. -/
abbrev unsettable : List String :=
  sizeNames ++ settingNames ++ Staging.settingNames ++
    ["tcp", "tcps", "no-route", "no-hostname", "route-path"]

/-- They are known parameters. None of them is an attribute of the module, is
read for a key of a service or belongs to a pair. So nothing but single readers
sees them. -/
theorem unsettable_apart : ∀ key ∈ unsettable,
    key ∈ ApplicationPlan.knownParameters.flatten ∧ key ∉ ParameterName.attributes ∧
    key ∉ keyNames ∧ ∀ names ∈ pairNames, names.1 ∉ [key] ∧ names.2 ∉ [key] := by decide

/-- A null is no size. It is refused by the error that any other value of a
wrong kind gets. -/
theorem megabytes?_of_get?_eq_null {chain : ScopeChain} {key : String}
    (h : chain.get? key = some .null) :
    megabytes? chain key = .error (.invalidMemory (chain.owner ++ "#" ++ key) "null") := by
  unfold megabytes?
  rw [h]
  rfl

end Application

/-- A module without a parameter in its own scope. Its name and all else stay,
so errors name it as before. -/
def Module.unset (m : Module) (key : String) : Module :=
  { m with parameters := m.parameters.without [key] }

/-- A descriptor without a parameter in its own scope and in that of a module.
Every module that is equal to it is changed, and these have one scope. -/
def Descriptor.unset (descriptor : Descriptor) (m : Module) (key : String) : Descriptor :=
  { descriptor with
    parameters := descriptor.parameters.without [key]
    modules := descriptor.modules.map fun other => if other = m then m.unset key else other }

/-- A plan without a parameter in the scopes of a module. The scope of the
descriptor is one of these. -/
def ApplicationPlan.unset (plan : ApplicationPlan) (m : Module) (key : String) :
    ApplicationPlan :=
  { plan with descriptor := plan.descriptor.unset m key }

variable {m : Module} {key : String}

/-! ### Scopes -/

namespace Descriptor

/-- All other parameters stay where they are, in both scopes. -/
theorem agreeOn_unset (descriptor : Descriptor) (m : Module) (key : String) :
    (descriptor.moduleScopes m).AgreeOn (· ∉ [key])
      ((descriptor.unset m key).moduleScopes (m.unset key)) :=
  ⟨rfl, .cons (.without_right _ _) (.cons (.without_right _ _) .nil)⟩

/-- A null in the scope of the module is read like no value at all. The value
of the descriptor has to be taken away as well, for the null hides it. -/
theorem readAlike_unset (descriptor : Descriptor) (hnull : m.parameters.get? key = some .null) :
    (descriptor.moduleScopes m).ReadAlikeOn (fun _ => True)
      ((descriptor.unset m key).moduleScopes (m.unset key)) := by
  refine ⟨rfl, fun {other} _ => ?_⟩
  -- The parameter itself is given by neither chain; all others are the same.
  by_cases hother : other = key
  · subst hother
    have hwith : (descriptor.moduleScopes m).get? other = some .null := by
      rw [moduleScopes, ScopeChain.get?_twoScopes, hnull, Option.some_or]
    have hunset : ∀ scope : Parameters, (scope.without [other]).get? other = none := fun scope => by
      rw [OrderedMap.get?_without, if_pos List.mem_cons_self]
    have hwithout : ((descriptor.unset m other).moduleScopes (m.unset other)).get? other
        = none := by
      rw [moduleScopes, ScopeChain.get?_twoScopes, Module.unset, hunset, Option.none_or,
        unset, hunset]
    rw [ScopeChain.given?, ScopeChain.given?, hwith, hwithout]
    rfl
  · exact (descriptor.agreeOn_unset m key).values.readAlike.given? (by simpa using hother)

/-- Keys of services are read from the scopes of resources, which have the
scope of the descriptor above them. -/
theorem injectedKeys_unset (descriptor : Descriptor) (m : Module)
    (hkey : key ∉ Application.keyNames) :
    descriptor.injectedKeys m = (descriptor.unset m key).injectedKeys (m.unset key) := by
  have hgeneral : descriptor.parameters.AgreeOn (· ∈ Application.keyNames)
      (descriptor.parameters.without [key]) :=
    (OrderedMap.AgreeOn.without_right _ _).mono fun other hother hmem =>
      hkey (List.mem_singleton.1 hmem ▸ hother)
  rw [injectedKeys_withParameters hgeneral]
  rfl

end Descriptor

/-- The environment is made of other parameters: of attributes, of which the
switch for the identifier is one. -/
theorem Environment.ofModule_unset (values : Placeholder.Values) (deployId : Option String)
    (descriptor : Descriptor) (m : Module) (services : List String)
    (hkey : key ∉ ParameterName.attributes) :
    ofModule values deployId descriptor m services
      = ofModule values deployId (descriptor.unset m key) (m.unset key) services := by
  have hattributes : attributes values m = attributes values (m.unset key) := by
    have htest : ∀ other, ParameterName.attributes.contains other = true → other ∉ [key] := by
      intro other hother hmem
      exact hkey (List.mem_singleton.1 hmem ▸ List.contains_iff_mem.1 hother)
    unfold attributes
    rw [(OrderedMap.AgreeOn.without_right m.parameters [key]).filter htest]
    rfl
  have hscopes : (⟨m.name, [m.parameters]⟩ : ScopeChain).AgreeOn (· ∉ [key])
      ⟨m.name, [(m.unset key).parameters]⟩ := ⟨rfl, .cons (.without_right _ _) .nil⟩
  have hcheck : "check-deploy-id" ∉ [key] := by
    intro h
    exact hkey (List.mem_singleton.1 h ▸ by decide)
  unfold ofModule deployment
  rw [hattributes, hscopes.values.flag hcheck]
  rfl

/-! ### Applications -/

namespace ApplicationPlan

/-- A parameter that can be unset is read by readers of single parameters
alone, so that its null changes no part but a size. -/
theorem sameParts_unset (plan : ApplicationPlan) (hkey : key ∈ Application.unsettable)
    (hnull : m.parameters.get? key = some .null) :
    SameParts plan (plan.unset m key) m (m.unset key) := by
  have hread := plan.descriptor.readAlike_unset hnull
  have hagree := plan.descriptor.agreeOn_unset m key
  have hall : ∀ {names : List String}, ScopeChain.ReadAlikeOn (· ∈ names) _ _ :=
    hread.mono fun _ _ => trivial
  obtain ⟨-, hattribute, hkeyName, hpair⟩ := Application.unsettable_apart key hkey
  have hbuildpacks := Staging.buildpacksOf_congr (hagree.values.mono fun other hother => by
    rcases List.mem_pair.1 hother with rfl | rfl
    · exact (hpair ("buildpack", "buildpacks") (by simp)).1
    · exact (hpair ("buildpack", "buildpacks") (by simp)).2)
  have hroutes : ∀ family, Routing.ReadAlike family _ _ := fun family =>
    .of_agreeOn hall hagree fun names hnames => hpair names (Application.mem_pairNames hnames)
  have hsettings : Application.ReadAlike _ _ := hall
  -- Part by part, by the readers that each of them uses.
  exact {
    moduleName := rfl
    services := rfl
    ownServices := rfl
    environment := fun own => Environment.ofModule_unset _ _ _ m own hattribute
    name := hsettings.name _ _ m
    staging := Staging.ofScopes_of_buildpacksOf_eq hall hbuildpacks
    instances := hsettings.instances
    uris := (hroutes .live).uris (hread.mono fun _ _ => trivial) m
    idleUris := (hroutes .idle).idleUris
    domains := (hroutes .live).domains
    ports := (hroutes .live).ports
    injectedKeys := plan.descriptor.injectedKeys_unset m hkeyName
    bindingParameters := rfl
    tasks := hsettings.tasks
    restart := hsettings.restart }

namespace SameParts

variable {plan other : ApplicationPlan} {n : Module} {error : ContentError}

/-- Nothing that comes before the sizes tells two applications with the same
parts from each other. So either fails before, or the null is met. -/
theorem fails_of_memory (h : SameParts plan other m n)
    (hmemory : Application.megabytes? (plan.descriptor.moduleScopes m) "memory" = .error error) :
    FailsOwnOrAs error (other.applicationOf n) (plan.applicationOf m) := by
  unfold applicationOf
  simp only [h.services, h.ownServices, h.environment, h.name, h.staging]
  refine .bind _ fun services => .bind _ fun own => .bind _ fun env => .bind _ fun name =>
    .bind _ fun staging => ?_
  exact .of_step hmemory _ _

/-- The disk quota is read directly after the memory, which must be the same
for both. -/
theorem fails_of_diskQuota (h : SameParts plan other m n)
    (hmemory : Application.megabytes? (plan.descriptor.moduleScopes m) "memory"
      = Application.megabytes? (other.descriptor.moduleScopes n) "memory")
    (hdisk : Application.megabytes? (plan.descriptor.moduleScopes m) "disk-quota" = .error error) :
    FailsOwnOrAs error (other.applicationOf n) (plan.applicationOf m) := by
  unfold applicationOf
  simp only [h.services, h.ownServices, h.environment, h.name, h.staging, hmemory]
  refine .bind _ fun services => .bind _ fun own => .bind _ fun env => .bind _ fun name =>
    .bind _ fun staging => .bind _ fun memory => ?_
  exact .of_step hdisk _ _

end SameParts

/-- All warnings of an application are those of unknown parameters. They are
raised before anything is read, and so also where it fails. -/
theorem warnings_application (plan : ApplicationPlan) (m : Module) :
    (plan.application m).warnings
      = (plan.descriptor.moduleScopes m).unsupportedWarnings knownParameters := by
  unfold application
  rw [Build.warnings_bind_of_ok rfl]
  exact List.append_nil _

/-- **Where a null is no value.** The application of a module with a null for a
parameter is the one of the module and the descriptor without it, error or
value, and has the same warnings, unless the parameter is a size. A null for a
size is always an error: the one that names the null, or one that there is
without it as well.

The second of these arises where something in front of the sizes cannot be
read. -/
theorem application_unset (plan : ApplicationPlan) (m : Module) (key : String)
    (hkey : key ∈ Application.unsettable) (hnull : m.parameters.get? key = some .null) :
    (plan.application m).warnings = ((plan.unset m key).application (m.unset key)).warnings ∧
    (key ∉ Application.sizeNames →
      (plan.application m).result = ((plan.unset m key).application (m.unset key)).result) ∧
    (key ∈ Application.sizeNames →
      FailsOwnOrAs (.invalidMemory (m.name ++ "#" ++ key) "null")
        ((plan.unset m key).application (m.unset key)).result (plan.application m).result) := by
  have hparts := plan.sameParts_unset hkey hnull
  have hagree := plan.descriptor.agreeOn_unset m key
  -- The other size stays.
  have hsize : ∀ {other}, other ≠ key →
      Application.megabytes? (plan.descriptor.moduleScopes m) other
        = Application.megabytes? ((plan.descriptor.unset m key).moduleScopes (m.unset key)) other :=
    fun hother => Application.megabytes?_congr hagree.values (by simpa using hother)
  have herror : Application.megabytes? (plan.descriptor.moduleScopes m) key
      = .error (.invalidMemory (m.name ++ "#" ++ key) "null") := by
    refine Application.megabytes?_of_get?_eq_null ?_
    rw [Descriptor.moduleScopes, ScopeChain.get?_twoScopes, hnull, Option.some_or]
  refine ⟨?_, fun hother => ?_, fun hmem => ?_⟩
  · have hknown := (Application.unsettable_apart key hkey).1
    rw [warnings_application, warnings_application]
    exact hagree.unsupportedWarnings fun other hother hmem =>
      hother (List.mem_singleton.1 hmem ▸ hknown)
  · rw [result_application, result_application]
    exact hparts.applicationOf_eq (hsize (by rintro rfl; simp at hother))
      (hsize (by rintro rfl; simp at hother))
  · rw [result_application, result_application]
    rcases List.mem_pair.1 hmem with rfl | rfl
    · exact hparts.fails_of_memory herror
    · exact hparts.fails_of_diskQuota (hsize (by decide)) herror

/-- A module with a null for a parameter, and with nothing else. -/
def undecided (key : String) : Module := .plain "web" (.ofList [(key, .null)])

/-- A plan in which the descriptor has a value of the parameter for all
modules, which the null of its module hides. -/
def decided (key : String) (value : Json) : ApplicationPlan :=
  let descriptor : Descriptor := .plain (.ofList [(key, value)]) [undecided key] []
  { descriptor
    options := .standard
    values := Target.plain.placeholderValues
    naming := .ofOptions .standard descriptor
    deployed := none }

/-- The module takes three instances away and has none set. It cannot take a
gigabyte away, for the null is refused. -/
theorem application_unset_undecided :
    ((decided "instances" (.int 3)).application (undecided "instances")).result
      = (((decided "instances" (.int 3)).unset (undecided "instances") "instances").application
          ((undecided "instances").unset "instances")).result ∧
    ((decided "memory" (.str "1G")).application (undecided "memory")).result
      = .error (.invalidMemory "web#memory" "null") ∧
    (((decided "memory" (.str "1G")).unset (undecided "memory") "memory").application
      ((undecided "memory").unset "memory")).result.toOption.isSome = true := by
  have hbuilt : (((decided "memory" (.str "1G")).unset (undecided "memory") "memory").application
      ((undecided "memory").unset "memory")).result.toOption.isSome = true := by decide +kernel
  obtain ⟨app, happ⟩ := Option.isSome_iff_exists.1 hbuilt
  obtain ⟨-, hsame, -⟩ := application_unset (decided "instances" (.int 3)) (undecided "instances")
    "instances" (by decide) (by decide)
  obtain ⟨-, -, hfails⟩ := application_unset (decided "memory" (.str "1G")) (undecided "memory")
    "memory" (by decide) (by decide)
  refine ⟨hsame (by decide), ?_, hbuilt⟩
  obtain ⟨error, herror, rfl | hother⟩ := hfails (by decide)
  · exact herror
  · -- Without the null there is no error.
    rw [Outcome.toOption_eq_some.1 happ] at hother
    cases hother

end ApplicationPlan

end MultiTarget
