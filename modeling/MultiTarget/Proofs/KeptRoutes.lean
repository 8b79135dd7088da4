import MultiTarget.Proofs.Applications
import MultiTarget.Proofs.Defaults
import MultiTarget.Proofs.Support.Distinct
import MultiTarget.Proofs.Support.Lawful

/-!
# `MultiTarget.Proofs.KeptRoutes`: what a deployed state adds to a model

A build is handed the state of an earlier deployment. All that it takes
from there are routes of live applications, for modules that keep them
(`Routing.keptRoutes`), and it puts them behind the routes that the module
has anyway.

This is one equation at every level: routes (`Routing.uris_eq`), an
application (`ApplicationPlan.applicationOf_eq`), and a whole build with its
warnings (`CloudModel.ofDescriptor_eq`). Each says that a run with a
deployed state is the run without one, with kept routes added to the
result. So a deployed state can cause no error and no warning, and reaches
nothing but routes.

Which routes a module keeps is read from the descriptor as its author wrote
it: a preparation has no default for `keep-existing-routes`.
-/

set_option autoImplicit false

namespace MultiTarget

/-! ### Routes -/

namespace Routing

/-- The routing of a first deployment, which has no state to take routes
from. -/
def fresh (routing : Routing) : Routing := { routing with deployed := none }

/-- The routes that a module keeps: those of its live application, if its
scopes or the options say so. If the flag cannot be read, none are kept here,
and the routes fail anyway. -/
def keptRoutes (routing : Routing) (m : Module) (chain : ScopeChain) : List String :=
  match chain.flag "keep-existing-routes" routing.options.keepExistingRoutes with
  | .ok true => routing.deployedRoutes m
  | _ => []

/-- The live routes of a module are those of a first deployment, followed by
the ones that it keeps and has not got. -/
theorem uris_eq (routing : Routing) (m : Module) (chain : ScopeChain) :
    routing.uris m chain
      = (fun routes => (routes ++ routing.keptRoutes m chain).eraseDups)
        <$> routing.fresh.uris m chain := by
  have hroutes : routing.fresh.routes chain .live = routing.routes chain .live := rfl
  have hnothing : routing.fresh.deployedRoutes m = [] := rfl
  have hoptions : routing.fresh.options = routing.options := rfl
  unfold uris keptRoutes
  rw [hroutes, hnothing, hoptions]
  cases routing.routes chain .live with
  | error error => rfl
  | ok routes =>
      -- The flag is read in both runs, so what it cannot be read from fails in both.
      cases chain.flag "keep-existing-routes" routing.options.keepExistingRoutes with
      | error error => rfl
      | ok keep =>
          cases keep with
          | false =>
              show Except.ok routes.eraseDups = .ok (routes.eraseDups ++ []).eraseDups
              rw [List.append_nil, eraseDups_eraseDups]
          | true =>
              show Except.ok (routes ++ routing.deployedRoutes m).eraseDups
                = .ok ((routes ++ []).eraseDups ++ routing.deployedRoutes m).eraseDups
              rw [List.append_nil, eraseDups_eraseDups_append]

/-- Whether a module keeps its routes does not depend on what is deployed: it
keeps nothing of any state, or all routes of its live application. -/
theorem keptRoutes_cases (options : Options) (values : Placeholder.Values) (m : Module)
    (chain : ScopeChain) :
    (∀ deployed, keptRoutes ⟨options, values, deployed⟩ m chain = []) ∨
    (∀ deployed, keptRoutes ⟨options, values, deployed⟩ m chain
      = deployedRoutes ⟨options, values, deployed⟩ m) := by
  unfold keptRoutes
  dsimp only
  -- The flag is read from the chain and the options, and these are the same for every state.
  split
  · exact .inr fun _ => rfl
  · exact .inl fun _ => rfl

end Routing

/-! ### Applications -/

namespace Application

/-- The application with routes behind those that it has, each of them once.
Its own routes stay in front and in order. -/
def keeping (app : Application) (kept : List String) : Application :=
  { app with uris := (app.uris ++ kept).eraseDups }

/-- Routes that were kept are there already when the whole is kept again. So a
redeployment over its own result changes nothing. -/
theorem keeping_keeping_uris (app : Application) (kept : List String) :
    app.keeping (app.keeping kept).uris = app.keeping kept := by
  unfold keeping
  rw [eraseDups_append_eraseDups_append]

end Application

namespace ApplicationPlan

/-- The plan of a first deployment: everything else of the plan stays. -/
def fresh (plan : ApplicationPlan) : ApplicationPlan := { plan with deployed := none }

/-- The routes that a module keeps, as its scopes in the plan say. -/
def keptRoutes (plan : ApplicationPlan) (m : Module) : List String :=
  plan.routing.keptRoutes m (plan.descriptor.moduleScopes m)

/-- The routes that the first module with a name keeps, and none for a name
that no module has. -/
def keptRoutesOf (plan : ApplicationPlan) (name : String) : List String :=
  ((plan.descriptor.module? name).map plan.keptRoutes).getD []

/-- An application is that of a first deployment with the routes that its
module keeps. It fails as that one does. -/
theorem applicationOf_eq (plan : ApplicationPlan) (m : Module) :
    plan.applicationOf m = (·.keeping (plan.keptRoutes m)) <$> plan.fresh.applicationOf m := by
  -- All steps but that of the live routes are those of the other plan as they stand.
  unfold applicationOf
  simp only [Routing.uris_eq plan.routing, map_bind, bind_map_left, map_pure]
  rfl

/-- The same with warnings, for the first module with its name. The name is
what the application has noted, so what is kept can be told from the
application alone. -/
theorem application_eq (plan : ApplicationPlan) {m : Module}
    (hm : plan.descriptor.module? m.name = some m) :
    plan.application m
      = (fun app => app.keeping (plan.keptRoutesOf app.moduleName))
        <$> plan.fresh.application m := by
  have hrun : plan.application m
      = (·.keeping (plan.keptRoutes m)) <$> plan.fresh.application m := by
    unfold application
    rw [applicationOf_eq, Build.liftM_map, map_bind]
    rfl
  rw [hrun]
  refine Build.map_congr fun app happ => ?_
  -- The application has noted the name under which its module is found.
  have hnoted : app.moduleName = m.name := (outcome_applicationOf happ).1
  rw [hnoted, keptRoutesOf, hm]
  rfl

end ApplicationPlan

/-! ### Models -/

namespace CloudModel

/-- The model with routes behind those that its applications have, by the names
of their modules. -/
def keeping (model : CloudModel) (kept : String → List String) : CloudModel :=
  { model with
    applications := model.applications.map fun app => app.keeping (kept app.moduleName) }

/-- **What a deployed state adds.** A build is the build of a first deployment
with the routes that the modules keep: the same error, or that model with
routes added, and the same warnings. -/
theorem ofDescriptor_eq (options : Options) (target : Target) (deployed : Option Deployed)
    (descriptor : Descriptor) :
    ofDescriptor options target deployed descriptor
      = (·.keeping (planFor options target deployed descriptor).keptRoutesOf)
        <$> ofDescriptor options target none descriptor := by
  have happlications : ∀ (plan : ApplicationPlan) (order : DeploymentOrder),
      Build.forEach plan.application (order.modules.filterMap plan.descriptor.module?)
        = List.map (fun app => app.keeping (plan.keptRoutesOf app.moduleName))
          <$> Build.forEach plan.fresh.application
            (order.modules.filterMap plan.descriptor.module?) := by
    intro plan order
    refine Build.forEach_eq_map fun m hm => plan.application_eq ?_
    -- Every module of the order was found by its name.
    obtain ⟨name, -, hfound⟩ := List.mem_filterMap.1 hm
    have hname : m.name = name := by simpa using List.find?_some hfound
    exact hname ▸ hfound
  have hruns := happlications (planFor options target deployed descriptor)
  simp only [planFor, ApplicationPlan.fresh] at hruns
  unfold ofDescriptor ofPrepared
  simp only [planFor, hruns, map_bind, bind_map_left, map_pure]
  rfl

/-! ### Which routes are kept -/

variable {options : Options} {target : Target} {deployed : Option Deployed}
  {descriptor : Descriptor} {m : Module}

/-- The flag of a module for keeping its routes is read the same before and
after a preparation, since no target has a default for it. -/
theorem flag_prepared (target : Target) (descriptor : Descriptor) (m : Module) (absent : Bool) :
    (target.preparedScopes descriptor m).flag "keep-existing-routes" absent
      = (descriptor.moduleScopes m).flag "keep-existing-routes" absent := by
  unfold ScopeChain.flag ScopeChain.flag?
  rw [target.read?_preparedScopes_of_notMem (by decide)]

/-- The routes that are kept under a name are those of the module of the
descriptor with this name. -/
theorem keptRoutesOf_planFor (hm : descriptor.module? m.name = some m) :
    (planFor options target deployed descriptor).keptRoutesOf m.name
      = Routing.keptRoutes ⟨options, target.placeholderValues, deployed⟩ m
        (descriptor.moduleScopes m) := by
  have hfound : (target.prepare descriptor).module? m.name = some (target.prepareModule m) := by
    rw [Target.module?_prepare, hm, Option.map_some]
  have hflag := flag_prepared target descriptor m options.keepExistingRoutes
  show (((target.prepare descriptor).module? m.name).map _).getD [] = _
  rw [hfound]
  show Routing.keptRoutes ⟨options, target.placeholderValues, deployed⟩ (target.prepareModule m)
    (target.preparedScopes descriptor m) = _
  unfold Routing.keptRoutes
  rw [hflag]
  rfl

/-- Under a name that no module has, nothing is kept, although an application
of that name may be deployed. -/
theorem keptRoutesOf_planFor_eq_nil {name : String} (hnone : descriptor.module? name = none) :
    (planFor options target deployed descriptor).keptRoutesOf name = [] := by
  show (((target.prepare descriptor).module? name).map _).getD [] = _
  rw [Target.module?_prepare, hnone]
  rfl

end CloudModel

end MultiTarget
