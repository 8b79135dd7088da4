import MultiTarget.Proofs.Applications
import MultiTarget.Proofs.Environment
import MultiTarget.Proofs.Kubernetes.Manifests

/-!
# `MultiTarget.Proofs.Kubernetes.Environments`: one environment for both platforms

The configuration of a module in a cluster and the environment of its
application are built by one function, with other services and with or
without an identifier of the deployment. What `Proofs.Environment` says of
that function therefore relates the texts of the two
(`environments_agree`).
-/

set_option autoImplicit false

namespace MultiTarget.Kubernetes

namespace Synthesis

variable {m : Module}

/-- A configuration for a target and an application for it have the same keys
and values but for the services and the identifier. Both are given as outcomes
of their builders, for one module that need not be in the descriptor. -/
theorem agree_of_configMap {options : Options} {target : Target} {deployed : Option Deployed}
    {descriptor : Descriptor} {labels : Labels} {config : ConfigMap} {app : Application}
    (hconfig : (forTarget options target descriptor).configMap m labels = .ok config)
    (happ : (CloudModel.planFor options target deployed descriptor).applicationOf m = .ok app) :
    (∀ key, key ≠ "DEPLOY_ID" →
      config.data.contains key = (app.env.texts options.prettyPrinting).contains key) ∧
    ∀ key, key ≠ "MTA_SERVICES" → key ≠ "DEPLOY_ID" →
      config.data.get? key = (app.env.texts options.prettyPrinting).get? key := by
  obtain ⟨-, env, henv, hdata⟩ := outcome_configMap hconfig
  obtain ⟨-, -, -, own, -, hown⟩ := ApplicationPlan.outcome_applicationOf happ
  -- The texts of both are made with the switch of the options.
  have htexts : config.data = env.texts options.prettyPrinting := hdata
  -- The keys agree apart from one, the values apart from two.
  constructor
  · intro key hkey
    rw [htexts, Environment.contains_texts, Environment.contains_texts]
    exact Environment.contains_eq_of_ofModule henv hown hkey
  · intro key hservices hid
    rw [htexts]
    exact (Environment.agreeOn_of_ofModule henv hown).map _ key ⟨hservices, hid⟩

end Synthesis

/-- **Both platforms have one environment.** Take a descriptor with a model and
with manifests, and any module of it. The module has one configuration. An
application that is built from the module has the same variables, apart from
`DEPLOY_ID`, and the same text for each of them other than `DEPLOY_ID` and
`MTA_SERVICES`. For the first module with its name there is such an application
in the model, and no other one there has noted the name.

Neither pipeline implies the other, so both are assumed to succeed. A cluster
has no identifier of a deployment, and names the services of a module in its
own way, which is why these two variables are excepted. -/
theorem environments_agree (options : Options) (target : Target) (deployed : Option Deployed)
    (descriptor : Descriptor) (model : CloudModel) (manifests : List Manifest) (m : Module)
    (hmodel : (CloudModel.ofDescriptor options target deployed descriptor).result = .ok model)
    (hmanifests : manifestsFor options target descriptor = .ok manifests)
    (hm : m ∈ descriptor.modules) :
    ∃ block config,
      (Synthesis.forTarget options target descriptor).moduleManifests (target.prepareModule m)
        = .ok block ∧ block ⊆ manifests ∧
      (∀ c, .configMap c ∈ block ↔ c = config) ∧ config.metadata.name = m.name ∧
      (∀ app, (CloudModel.planFor options target deployed descriptor).applicationOf
          (target.prepareModule m) = .ok app →
        (∀ key, key ≠ "DEPLOY_ID" →
          config.data.contains key = (app.env.texts options.prettyPrinting).contains key) ∧
        ∀ key, key ≠ "MTA_SERVICES" → key ≠ "DEPLOY_ID" →
          config.data.get? key = (app.env.texts options.prettyPrinting).get? key) ∧
      (descriptor.module? m.name = some m → ∃ app,
        (CloudModel.planFor options target deployed descriptor).applicationOf
          (target.prepareModule m) = .ok app ∧
        ∀ a, (a ∈ model.applications ∧ a.moduleName = m.name) ↔ a = app) := by
  -- The configuration is that of the prepared module, since the manifests are made after the
  -- preparation.
  have hmodule : target.prepareModule m ∈ (target.prepare descriptor).modules :=
    List.mem_map_of_mem hm
  rw [← Synthesis.manifests_forTarget] at hmanifests
  obtain ⟨block, hblock, hsub⟩ := Synthesis.exists_block_of_mem hmanifests hmodule
  obtain ⟨config, hconfig, hmem⟩ := Synthesis.exists_configMap_mem_iff hblock
  have hname : config.metadata.name = m.name := by
    rw [(Synthesis.outcome_configMap hconfig).1]
    rfl
  refine ⟨block, config, hblock, hsub, hmem, hname,
    fun app happ => Synthesis.agree_of_configMap hconfig happ, fun hfirst => ?_⟩
  -- Names may repeat: the model has an application of the first module with each.
  obtain ⟨app, happ, hrun⟩ := CloudModel.exists_application hmodel hfirst
  refine ⟨app, hrun, fun a => ⟨?_, ?_⟩⟩
  · rintro ⟨ha, haname⟩
    -- Both are built from the module.
    have hrun' := CloudModel.applicationOf_of_mem hmodel hfirst ha haname
    exact Except.ok.inj (hrun'.symm.trans hrun)
  · rintro rfl
    exact ⟨happ, (ApplicationPlan.outcome_applicationOf hrun).1⟩

/-- The variables of a manifest that is a configuration, as the list of its
entries. -/
def Manifest.variables? : Manifest → Option (List (String × String))
  | configMap config => some config.data.entries
  | _ => none

/-- A module with properties of its own. It requires a service of the cluster
and asks for the identifier of the deployment, so that its environments on the
two platforms differ in both exceptions. -/
def identified : Module :=
  { Module.plain "web" (.ofList [("container-image", .str "web:1"),
      ("check-deploy-id", .bool true)]) with
    properties := .ofList [("GREETING", .str "hello"), ("LIMITS", .obj [("max", .int 3)])]
    requires := [.plain "catalog" ∅] }

/-- A descriptor with the module and the service. The type of the service is
one that only a cluster knows. -/
def identifiedShop : Descriptor :=
  .plain ∅ [identified]
    [.plain "catalog" "service-instance" (.ofList [("service", .str "postgresql"),
      ("service-plan", .str "small")])]

/-- The variables of the module in a cluster, in ascending order and as the
texts that they have there. -/
def identifiedVariables : List (String × String) := [
  ("DEPLOY_ATTRIBUTES", "\x7b\"check-deploy-id\":true\x7d"), ("GREETING", "hello"),
  ("LIMITS", "\x7b\"max\":3\x7d"),
  ("MTA_METADATA", "\x7b\"id\":\"shop\",\"version\":\"1.0.0\"\x7d"),
  ("MTA_MODULE_METADATA", "\x7b\"name\":\"web\"\x7d"),
  ("MTA_MODULE_PROVIDED_DEPENDENCIES", "[]"), ("MTA_SERVICES", "[\"catalog\"]")]

/-- The application has an identifier and no services, the configuration has a
service and no identifier, and all else is the same. -/
theorem environments_agree_identified :
    let options := { Options.standard with deployId := some "d1" }
    ∃ model manifests config app,
      (CloudModel.ofDescriptor options .plain none identifiedShop).result = .ok model ∧
      manifestsFor options .plain identifiedShop = .ok manifests ∧
      identified ∈ identifiedShop.modules ∧ .configMap config ∈ manifests ∧
      app ∈ model.applications ∧ app.moduleName = "web" ∧
      config.data.entries = identifiedVariables ∧
      (app.env.texts false).get? "DEPLOY_ID" = some "d1" ∧
      (app.env.texts false).get? "MTA_SERVICES" = some "[]" ∧
      (∀ key, key ≠ "DEPLOY_ID" →
        config.data.contains key = (app.env.texts false).contains key) ∧
      ∀ key, key ≠ "MTA_SERVICES" → key ≠ "DEPLOY_ID" →
        config.data.get? key = (app.env.texts false).get? key := by
  intro options
  have hmodel : ((CloudModel.ofDescriptor options .plain none identifiedShop).result.map
      fun model => model.applications.map fun app =>
        ((app.env.texts false).get? "DEPLOY_ID", (app.env.texts false).get? "MTA_SERVICES"))
        = .ok [(some "d1", some "[]")] := by decide +kernel
  have hmanifests : ((manifestsFor options .plain identifiedShop).map fun _ => ()) = .ok () := by
    decide +kernel
  have hblock : (((Synthesis.forTarget options .plain identifiedShop).moduleManifests
      (Target.plain.prepareModule identified)).map (·.filterMap Manifest.variables?))
        = .ok [identifiedVariables] := by decide +kernel
  obtain ⟨model, hmodel, htexts⟩ := Outcome.map_eq_ok.1 hmodel
  obtain ⟨manifests, hmanifests, -⟩ := Outcome.map_eq_ok.1 hmanifests
  obtain ⟨built, hbuilt, hvariables⟩ := Outcome.map_eq_ok.1 hblock
  have hmem : identified ∈ identifiedShop.modules := List.mem_cons_self
  obtain ⟨block, config, hrun, hsub, hconfig, -, hagree, hfirst⟩ :=
    environments_agree options .plain none identifiedShop model manifests identified hmodel
      hmanifests hmem
  obtain ⟨app, happ, hof⟩ := hfirst rfl
  obtain ⟨hkeys, hvalues⟩ := hagree app happ
  obtain ⟨hin, hname⟩ := (hof app).2 rfl
  obtain rfl : built = block := Except.ok.inj (hbuilt.symm.trans hrun)
  -- What was evaluated of all configurations and applications holds of the two at hand.
  have hown : config.data.entries ∈ built.filterMap Manifest.variables? :=
    List.mem_filterMap.2 ⟨_, (hconfig config).2 rfl, rfl⟩
  rw [hvariables] at hown
  have htext := List.mem_map_of_mem
    (f := fun app : Application => ((app.env.texts false).get? "DEPLOY_ID",
      (app.env.texts false).get? "MTA_SERVICES")) hin
  rw [htexts] at htext
  obtain ⟨hid, hservices⟩ := Prod.mk.inj (List.mem_singleton.1 htext)
  exact ⟨model, manifests, config, app, hmodel, hmanifests, hmem, hsub ((hconfig config).2 rfl),
    hin, hname, List.mem_singleton.1 hown, hid, hservices, hkeys, hvalues⟩

end MultiTarget.Kubernetes
