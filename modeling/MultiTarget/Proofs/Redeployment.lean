import Mathlib.Data.List.Forall2
import MultiTarget.Proofs.KeptRoutes
import MultiTarget.Proofs.Support.Plain

/-!
# `MultiTarget.Proofs.Redeployment`: builds over different deployed states

Two consequences of what a deployed state adds to a model
(`CloudModel.ofDescriptor_eq`).

* `ofDescriptor_differ_in_uris`: builds of one descriptor over any two
  deployed states fail with one error, or their models differ in live routes
  at most, and in these only for modules that keep routes. Warnings are the
  same.
* `ofDescriptor_redeployed`: deploying a model and building again gives this
  model. What was deployed are the routes of the model, and these have the
  kept routes in them, so that keeping them adds nothing.

For the second one a look-up in the deployed state must find the application
that the model has. It ignores the case of ASCII letters, so the names of
modules are to differ in more than that (`Distinguished`).
-/

set_option autoImplicit false

namespace MultiTarget

/-! ### Any two deployed states -/

/-- The module that a name stands for keeps no routes. A name that stands for
no module satisfies this too. -/
def Descriptor.KeepsNoRoutes (descriptor : Descriptor) (options : Options) (name : String) :
    Prop :=
  ∀ m, descriptor.module? name = some m →
    (descriptor.moduleScopes m).flag "keep-existing-routes" options.keepExistingRoutes
      = .ok false

namespace CloudModel

/-- The model without the live routes of its applications. Idle routes stay in
it, since a deployed state never reaches them. -/
def withoutUris (model : CloudModel) : CloudModel :=
  { model with applications := model.applications.map fun app => { app with uris := [] } }

/-- Routes that are added are live routes, so the rest of a model is untouched
by them. -/
theorem withoutUris_keeping (model : CloudModel) (kept : String → List String) :
    (model.keeping kept).withoutUris = model.withoutUris := by
  unfold withoutUris keeping
  rw [List.map_map]
  rfl

/-- Nothing is kept under the name of a module that keeps no routes, whatever
is deployed. -/
theorem keptRoutesOf_eq_nil {options : Options} {target : Target} {deployed : Option Deployed}
    {descriptor : Descriptor} {name : String} (h : descriptor.KeepsNoRoutes options name) :
    (planFor options target deployed descriptor).keptRoutesOf name = [] := by
  -- A name without a module has nothing to keep either.
  cases hm : descriptor.module? name with
  | none => exact keptRoutesOf_planFor_eq_nil hm
  | some m =>
      have hname : m.name = name := by simpa using List.find?_some hm
      subst hname
      rw [keptRoutesOf_planFor hm, Routing.keptRoutes, h m hm]

/-- **A deployed state reaches live routes only.** Builds of one descriptor
over any two deployed states raise the same warnings. Both fail, with the
same error, or both succeed, with models that are equal in all but the live
routes of applications. An application whose module keeps no routes is the
same in both. -/
theorem ofDescriptor_differ_in_uris (options : Options) (target : Target)
    (descriptor : Descriptor) (before after : Option Deployed) :
    let build deployed := ofDescriptor options target deployed descriptor
    (build before).warnings = (build after).warnings ∧
    ((∃ error, (build before).result = .error error ∧ (build after).result = .error error) ∨
      ∃ model other, (build before).result = .ok model ∧ (build after).result = .ok other ∧
        model.withoutUris = other.withoutUris ∧
        List.Forall₂
          (fun app app' => descriptor.KeepsNoRoutes options app.moduleName → app = app')
          model.applications other.applications) := by
  intro build
  have hbuild : ∀ deployed, build deployed
      = (·.keeping (planFor options target deployed descriptor).keptRoutesOf) <$> build none :=
    fun deployed => ofDescriptor_eq options target deployed descriptor
  rw [hbuild before, hbuild after, Build.warnings_map, Build.warnings_map, Build.result_map,
    Build.result_map]
  refine ⟨rfl, ?_⟩
  cases hfirst : (build none).result with
  | error error => exact .inl ⟨error, rfl, rfl⟩
  | ok first =>
      refine .inr ⟨_, _, rfl, rfl, ?_, ?_⟩
      · rw [withoutUris_keeping, withoutUris_keeping]
      · -- Both lists of applications are that of the first deployment, with routes added.
        refine List.forall₂_map_left_iff.2 (List.forall₂_map_right_iff.2 ?_)
        refine List.forall₂_same.2 fun app _ hnone => ?_
        have hnone : descriptor.KeepsNoRoutes options app.moduleName := hnone
        rw [keptRoutesOf_eq_nil hnone, keptRoutesOf_eq_nil hnone]

end CloudModel

/-! ### The state that a model leaves -/

/-- A deployed application runs an application of a model: it is live and has
its module and exactly its routes, in the same order. Its name and its services
may be others. -/
structure DeployedApplication.Runs (deployed : DeployedApplication) (app : Application) :
    Prop where
  live : deployed.state = .live
  moduleName : deployed.moduleName = app.moduleName
  uris : deployed.uris = app.uris

/-- A deployed state has the applications of a model, and no other ones that
are live. Idle ones may be there, and the order is left open. -/
structure Deployed.Runs (deployed : Deployed) (applications : List Application) : Prop where
  complete : ∀ app ∈ applications, ∃ d ∈ deployed.applications, d.Runs app
  sound : ∀ d ∈ deployed.applications, d.state = .live → ∃ app ∈ applications, d.Runs app

/-- No two names of modules are equal but for the case of ASCII letters. It is
what a look-up in a deployed state needs, and more than being different. -/
def Descriptor.Distinguished (descriptor : Descriptor) : Prop :=
  descriptor.modules.Pairwise fun a b => Text.equalIgnoringCase a.name b.name = false

namespace Deployed.Runs

variable {deployed : Deployed} {applications : List Application} {app : Application}

/-- In a state that runs applications, the application of a module is found by
its name if no other one has this name, whatever the case. -/
theorem exists_application? (h : deployed.Runs applications) (happ : app ∈ applications)
    (honly : ∀ other ∈ applications,
      Text.equalIgnoringCase other.moduleName app.moduleName = true → other = app) :
    ∃ d, deployed.application? app.moduleName = some d ∧ d.uris = app.uris := by
  have hsome : (deployed.application? app.moduleName).isSome = true := by
    obtain ⟨d, hd, hruns⟩ := h.complete app happ
    unfold application?
    rw [List.find?_isSome]
    refine ⟨d, hd, ?_⟩
    rw [hruns.moduleName, hruns.live]
    simp [Text.equalIgnoringCase]
  obtain ⟨d, hd⟩ := Option.isSome_iff_exists.1 hsome
  have htest := List.find?_some hd
  rw [Bool.and_eq_true] at htest
  obtain ⟨hname, hlive⟩ := htest
  have hmem : d ∈ deployed.applications := List.mem_of_find?_eq_some hd
  -- What is found is live, so it runs an application, which has the name that was looked up.
  obtain ⟨other, hother, hruns⟩ := h.sound d hmem (by simpa using hlive)
  rw [hruns.moduleName] at hname
  refine ⟨d, hd, ?_⟩
  rw [hruns.uris, honly other hother hname]

end Deployed.Runs

namespace Descriptor

/-- Modules whose names are equal but for case are one module, so one may
reason from names to modules. -/
theorem Distinguished.eq_of_name {descriptor : Descriptor} (h : descriptor.Distinguished)
    {a b : Module} (ha : a ∈ descriptor.modules) (hb : b ∈ descriptor.modules)
    (hname : Text.equalIgnoringCase a.name b.name = true) : a = b := by
  have hnodup : (descriptor.modules.map fun m => Text.lowerAscii m.name).Nodup :=
    List.pairwise_map.2 (h.imp fun hab => by simpa [Text.equalIgnoringCase] using hab)
  exact List.inj_on_of_nodup_map hnodup ha hb (by simpa [Text.equalIgnoringCase] using hname)

end Descriptor

namespace CloudModel

variable {options : Options} {target : Target} {deployed : Option Deployed}
  {descriptor : Descriptor} {model : CloudModel} {app other : Application}

/-- With distinguished names, a model has one application under a name,
whatever the case. -/
theorem eq_of_moduleName (hnames : descriptor.Distinguished)
    (h : (ofDescriptor options target deployed descriptor).result = .ok model)
    (happ : app ∈ model.applications) (hother : other ∈ model.applications)
    (hname : Text.equalIgnoringCase other.moduleName app.moduleName = true) : other = app := by
  obtain ⟨m, hm, hnoted, hrun⟩ := exists_module_of_mem h happ
  obtain ⟨m', hm', hnoted', hrun'⟩ := exists_module_of_mem h hother
  rw [hnoted, hnoted'] at hname
  have hmodule : m' = m :=
    hnames.eq_of_name (Descriptor.mem_of_module? hm') (Descriptor.mem_of_module? hm) hname
  subst hmodule
  exact Except.ok.inj (hrun'.symm.trans hrun)

/-- Routes that are kept from the state that a model leaves are there already.
They are the kept routes behind the others, and adding them again changes
nothing. -/
theorem keeping_keptRoutesOf_of_runs {first : Application} {later : Deployed}
    {m : Module} (hm : descriptor.module? m.name = some m)
    (hfound : ∃ d, later.application? m.name = some d ∧ d.uris = (first.keeping
      ((planFor options target deployed descriptor).keptRoutesOf m.name)).uris) :
    first.keeping ((planFor options target (some later) descriptor).keptRoutesOf m.name)
      = first.keeping ((planFor options target deployed descriptor).keptRoutesOf m.name) := by
  obtain ⟨d, hd, huris⟩ := hfound
  rw [keptRoutesOf_planFor hm] at huris ⊢
  rw [keptRoutesOf_planFor hm]
  -- A module keeps nothing over any state, or all routes that it had.
  rcases Routing.keptRoutes_cases options target.placeholderValues m
    (descriptor.moduleScopes m) with hnone | hall
  · rw [hnone, hnone]
  · have hlater : Routing.deployedRoutes ⟨options, target.placeholderValues, some later⟩ m
        = d.uris := by
      unfold Routing.deployedRoutes
      simp only [Option.bind_some, hd]
    rw [hall (some later), hlater, huris, Application.keeping_keeping_uris]

/-- **Redeployment is a fixed point.** Take a descriptor whose modules have
names that differ in more than case, and a model of it over any deployed state.
A build over a state that runs the applications of this model, each live with
its routes, and no others that are live, gives the same model.

Names that differ in case alone would be looked up as one, and a module would
keep the routes of the other. -/
theorem ofDescriptor_redeployed (options : Options) (target : Target)
    (deployed : Option Deployed) (descriptor : Descriptor) (model : CloudModel)
    (later : Deployed) (hnames : descriptor.Distinguished)
    (h : (ofDescriptor options target deployed descriptor).result = .ok model)
    (hlater : later.Runs model.applications) :
    (ofDescriptor options target (some later) descriptor).result = .ok model := by
  have hbuild : ∀ deployed, (ofDescriptor options target deployed descriptor).result
      = (·.keeping (planFor options target deployed descriptor).keptRoutesOf)
        <$> (ofDescriptor options target none descriptor).result := by
    intro deployed
    rw [ofDescriptor_eq, Build.result_map]
  have hmodel := h
  rw [hbuild deployed] at hmodel
  obtain ⟨first, hfirst, rfl⟩ := Outcome.map_eq_ok.1 hmodel
  rw [hbuild (some later), hfirst]
  -- Both models are that of a first deployment with routes added, application by application.
  show Except.ok (first.keeping _) = .ok (first.keeping _)
  refine congrArg Except.ok (congrArg (CloudModel.mk · _ _ _ _ _) (List.map_congr_left ?_))
  intro app happ
  let kept := (planFor options target deployed descriptor).keptRoutesOf
  have hmem : app.keeping (kept app.moduleName) ∈ (first.keeping kept).applications :=
    List.mem_map_of_mem happ
  obtain ⟨m, hm, hnoted, -⟩ := exists_module_of_mem h hmem
  have hname : app.moduleName = m.name := hnoted
  have hfound := hlater.exists_application? hmem fun other hother =>
    eq_of_moduleName hnames h hmem hother
  rw [hnoted, hname] at hfound
  rw [hname]
  exact keeping_keptRoutesOf_of_runs hm hfound

/-- The state that a model leaves: every application is live with its routes.
What else a deployment knows is left out, since keeping routes asks for nothing
else. -/
def snapshot (model : CloudModel) (id : String) : Deployed where
  id
  version := none
  namespaceName := none
  applications := model.applications.map fun app =>
    { moduleName := app.moduleName, name := app.name, uris := app.uris
      boundServices := app.services, state := .live }
  services := []

/-- The state that a model leaves runs its applications. So there is such a
state for every model. -/
theorem runs_snapshot (model : CloudModel) (id : String) :
    (model.snapshot id).Runs model.applications where
  complete app happ := ⟨_, List.mem_map_of_mem happ, rfl, rfl, rfl⟩
  sound d hd _ := by
    obtain ⟨app, happ, rfl⟩ := List.mem_map.1 hd
    exact ⟨app, happ, rfl, rfl, rfl⟩

/-- A module that keeps its routes and one that does not. The second has no
route of its own. -/
def bookshop : Descriptor :=
  .plain ∅ [.plain "web" (.ofList [("keep-existing-routes", .bool true),
      ("route", .str "books.example.com")]),
    .plain "worker" (.ofList [("no-route", .bool true)])] []

/-- A state in which both modules have routes; the name of the first one is
written in capitals, which a look-up ignores. -/
def earlierBookshop : Deployed where
  id := "bookshop"
  version := none
  namespaceName := none
  applications := [
    { moduleName := "WEB", name := "web", uris := ["old.example.com", "books.example.com"]
      boundServices := [], state := .live },
    { moduleName := "worker", name := "worker", uris := ["worker.example.com"]
      boundServices := [], state := .live }]
  services := []

/-- The bookshop keeps a route of its first module, and is built again as it
is. -/
theorem ofDescriptor_redeployed_bookshop : bookshop.Distinguished ∧ ∃ model,
    (ofDescriptor .standard .plain (some earlierBookshop) bookshop).result = .ok model ∧
    model.applications.map (·.uris) = [["books.example.com", "old.example.com"], []] ∧
    (model.snapshot "bookshop").Runs model.applications ∧
    (ofDescriptor .standard .plain (some (model.snapshot "bookshop")) bookshop).result
      = .ok model := by
  have hnames : bookshop.Distinguished := by
    unfold Descriptor.Distinguished
    decide
  have huris : ((ofDescriptor .standard .plain (some earlierBookshop) bookshop).result.map
      fun model => model.applications.map (·.uris))
        = .ok [["books.example.com", "old.example.com"], []] := by decide +kernel
  obtain ⟨model, hmodel, hroutes⟩ := Outcome.map_eq_ok.1 huris
  have hruns := model.runs_snapshot "bookshop"
  exact ⟨hnames, model, hmodel, hroutes, hruns,
    ofDescriptor_redeployed _ _ _ _ model _ hnames hmodel hruns⟩

end CloudModel

end MultiTarget
