import MultiTarget.Proofs.IdleRoutes
import MultiTarget.Proofs.Instances
import MultiTarget.Proofs.Support.Distinct

/-!
# `MultiTarget.Proofs.Kubernetes.RoutedHosts`: hosts of an ingress and of routes

A module that lists its routes has them in both worlds: as the routes of an
application, and by their hosts as the rules of an ingress. Both go through
the same lists, and it does not matter that routes are told apart by all of
their text and rules by their hosts alone.

* `listedRoutes_eq_explicitRoutes`: the two readers of lists are one.
* `routeHosts_eq_hostsOf`: the hosts of an ingress are those of the routes
  that the application would have.
* `ingress_hosts_eq_iff`: the parameter `no-route`, which takes its routes
  from the application, leaves the ingress as it is.
-/

set_option autoImplicit false

namespace MultiTarget

open Outcome (bind_eq_ok pure_eq_ok)

/-! ### Routes that are listed -/

/-- A module that lists routes has exactly these, unless it is to have none. An
application that is deployed already could keep others, so there is none
here. -/
theorem Routing.outcome_uris_of_explicitRoutes {routing : Routing} {m : Module}
    {chain : ScopeChain} {explicit uris : List String} (hdeployed : routing.deployed = none)
    (hlisted : explicitRoutes chain RouteFamily.live.parameters = .ok explicit)
    (hsome : explicit ≠ []) (huris : routing.uris m chain = .ok uris) :
    ∃ noRoute, chain.flag "no-route" false = .ok noRoute ∧
      uris = if noRoute then []
        else (explicit.map (Template.substitute routing.values)).eraseDups := by
  -- Nothing is kept, so the routes are those that are listed, with repetitions erased twice.
  rw [uris_eq_of_deployed_none hdeployed] at huris
  simp only [bind_eq_ok, pure_eq_ok] at huris
  obtain ⟨routes, hroutes, _, -, rfl⟩ := huris
  unfold Routing.routes at hroutes
  obtain ⟨noRoute, hnoRoute, hroutes⟩ := bind_eq_ok.1 hroutes
  refine ⟨noRoute, hnoRoute, ?_⟩
  -- The switch is asked first; the list counts only if it is off.
  cases noRoute with
  | true =>
      have hnone : [] = routes := pure_eq_ok.1 hroutes
      rw [← hnone]
      rfl
  | false =>
      rw [hlisted] at hroutes
      cases explicit with
      | nil => exact absurd rfl hsome
      | cons route rest =>
          have heq : ((route :: rest).map (Template.substitute routing.values)).eraseDups
              = routes := pure_eq_ok.1 hroutes
          rw [← heq, eraseDups_eraseDups]
          rfl

namespace Kubernetes

namespace Synthesis

variable {s : Synthesis} {m : Module} {chain : ScopeChain} {labels : Labels}
  {block : List Manifest}

/-- The routes of an ingress are read like those of an application. The owner
is asked for because an error names it: one reader takes it from the module,
the other from the scopes. -/
theorem listedRoutes_eq_explicitRoutes (howner : chain.owner = m.name) :
    listedRoutes m chain = Routing.explicitRoutes chain RouteFamily.live.parameters := by
  -- The name of a live route and the name that stands in for it are one.
  have hentry : routeOf? = Routing.routeOf? RouteFamily.live.parameters := by
    -- Entry by entry; maps are the only ones that are read by a name.
    funext entry
    cases entry with
    | obj entries =>
        show some ((Entries.lookup "route" entries).bind Json.text?).toList
          = some ((Entries.lookup "route" entries <|> Entries.lookup "route" entries).bind
              Json.text?).toList
        cases Entries.lookup "route" entries <;> rfl
    | _ => rfl
  unfold listedRoutes Routing.explicitRoutes ScopeChain.invalid
  rw [hentry, howner]
  rfl

/-- The hosts of routes in order, none of them empty and each once. It is
stated of routes with their values, for both worlds. -/
def hostsOf (routes : List String) : List String :=
  ((routes.map routeHost).filter (!·.isEmpty)).eraseDups

/-- Routes have the same hosts if repetitions among them are erased. An
application erases them before its hosts are taken, an ingress afterwards. -/
theorem hostsOf_eraseDups (routes : List String) : hostsOf routes.eraseDups = hostsOf routes := by
  unfold hostsOf
  rw [eraseDups_filter, eraseDups_filter, eraseDups_map_eraseDups]

/-- The hosts of an ingress are those of the routes with values in place of
placeholders, which are replaced before a host is cut out. -/
theorem routeHosts_eq_hostsOf (s : Synthesis) (routes : List String) :
    s.routeHosts routes = hostsOf (routes.map (Template.substitute s.values)) := by
  unfold routeHosts hostsOf
  rw [List.map_map]
  rfl

/-- A module that lists routes has an ingress with a rule for each of their
hosts. Whether it is to have no routes is not asked. -/
theorem outcome_ingress_of_listedRoutes {ingress? : Option Ingress} {listed : List String}
    (hlisted : listedRoutes m chain = .ok listed) (hsome : listed ≠ [])
    (h : s.ingress m chain labels = .ok ingress?) :
    ∃ ingress, ingress? = some ingress ∧ ingress.rules.map (·.host) = s.routeHosts listed := by
  unfold Synthesis.ingress at h
  rw [hlisted] at h
  cases listed with
  | nil => exact absurd rfl hsome
  | cons route rest =>
      have heq := pure_eq_ok.1 h
      refine ⟨_, heq.symm, ?_⟩
      rw [List.map_map]
      exact List.map_id _

/-- The manifests of a deployment have the ingress of the module and no other.
A job has none, even if it lists routes, hence the condition on the type. -/
theorem ingress_mem_iff (h : s.moduleManifests m = .ok block) (hdeploys : s.descriptor.Deploys m)
    {ingress? : Option Ingress}
    (hingress : s.ingress m (s.descriptor.moduleScopes m) (s.labels m.name) = .ok ingress?)
    (i : Ingress) : .ingress i ∈ block ↔ ingress? = some i := by
  obtain ⟨type?, htype, hdeployment⟩ := hdeploys
  obtain ⟨config, port, d, built?, hbuilt, rfl⟩ := exists_deployment_of_type h htype hdeployment
  obtain rfl : built? = ingress? := Except.ok.inj (hbuilt.symm.trans hingress)
  cases built? <;> simp [eq_comm]

/-- **When an ingress has the hosts of the routes.** Take a module that becomes
a deployment and lists routes, without a deployed application. Its one ingress
has a rule for each host of the routes of its application, in order, exactly if
the module is to have routes or lists none with a host. A module that is to
have no routes keeps its ingress.

The routes must be listed, since an application without them has a default
route and a cluster has no ingress then. -/
theorem ingress_hosts_eq_iff (options : Options) (s : Synthesis) (m : Module)
    (explicit uris : List String) (ingress? : Option Ingress)
    (hdeploys : s.descriptor.Deploys m)
    (hlisted : Routing.explicitRoutes (s.descriptor.moduleScopes m) RouteFamily.live.parameters
      = .ok explicit) (hsome : explicit ≠ [])
    (huris : Routing.uris ⟨options, s.values, none⟩ m (s.descriptor.moduleScopes m) = .ok uris)
    (hingress : s.ingress m (s.descriptor.moduleScopes m) (s.labels m.name) = .ok ingress?) :
    ∃ ingress noRoute, ingress? = some ingress ∧
      (s.descriptor.moduleScopes m).flag "no-route" false = .ok noRoute ∧
      (∀ block, s.moduleManifests m = .ok block → ∀ i, .ingress i ∈ block ↔ i = ingress) ∧
      (noRoute = true → uris = []) ∧
      (ingress.rules.map (·.host) = hostsOf uris ↔ noRoute = false ∨ ingress.rules = []) := by
  obtain ⟨noRoute, hnoRoute, huris⟩ :=
    Routing.outcome_uris_of_explicitRoutes rfl hlisted hsome huris
  have hlisted' : listedRoutes m (s.descriptor.moduleScopes m) = .ok explicit :=
    (listedRoutes_eq_explicitRoutes rfl).trans hlisted
  obtain ⟨ingress, rfl, hhosts⟩ := outcome_ingress_of_listedRoutes hlisted' hsome hingress
  refine ⟨ingress, noRoute, rfl, hnoRoute, fun block hblock i => ?_, fun hnone => ?_, ?_⟩
  · rw [ingress_mem_iff hblock hdeploys hingress, Option.some.injEq, eq_comm]
  · rw [huris, if_pos hnone]
  · cases noRoute with
    | true =>
        -- There are no routes, so there must be no rules either.
        have hempty : hostsOf uris = [] := by rw [huris]; rfl
        simp [hempty]
    | false =>
        rw [huris, hhosts, routeHosts_eq_hostsOf, if_neg Bool.false_ne_true, hostsOf_eraseDups]
        simp

/-- A module with a route that it is not to have. The route has a scheme and a
path, which its host is without. -/
def unrouted : Module :=
  .plain "web" (.ofList [("container-image", .str "web:1"),
    ("route", .str "https://web.example.com/shop"), ("no-route", .bool true)])

/-- The module has no routes, and a host leads to it all the same. -/
theorem ingress_hosts_unrouted :
    let s : Synthesis := ⟨.plain ∅ [unrouted] [], Target.plain.placeholderValues, false⟩
    let chain := s.descriptor.moduleScopes unrouted
    ∃ ingress, s.descriptor.Deploys unrouted ∧
      Routing.explicitRoutes chain RouteFamily.live.parameters
        = .ok ["https://web.example.com/shop"] ∧
      Routing.uris ⟨.standard, s.values, none⟩ unrouted chain = .ok [] ∧
      s.ingress unrouted chain (s.labels unrouted.name) = .ok (some ingress) ∧
      ingress.rules.map (·.host) = ["web.example.com"] ∧
      ingress.rules.map (·.host) ≠ hostsOf [] := by
  intro s chain
  have hdeploys : s.descriptor.Deploys unrouted := ⟨none, rfl, rfl⟩
  have hlisted : Routing.explicitRoutes chain RouteFamily.live.parameters
      = .ok ["https://web.example.com/shop"] := by decide +kernel
  have huris : Routing.uris ⟨.standard, s.values, none⟩ unrouted chain = .ok [] := by
    decide +kernel
  have hrun : ((s.ingress unrouted chain (s.labels unrouted.name)).map
      fun ingress? => ingress?.map fun ingress => ingress.rules.map (·.host))
        = .ok (some ["web.example.com"]) := by decide +kernel
  obtain ⟨ingress?, hingress, hrules⟩ := Outcome.map_eq_ok.1 hrun
  obtain ⟨ingress, noRoute, rfl, hnoRoute, -, -, hagree⟩ :=
    ingress_hosts_eq_iff .standard s unrouted _ [] ingress? hdeploys hlisted (by simp) huris
      hingress
  have hhosts : ingress.rules.map (·.host) = ["web.example.com"] := Option.some.inj hrules
  refine ⟨ingress, hdeploys, hlisted, huris, hingress, hhosts, fun hsame => ?_⟩
  rcases hagree.1 hsame with hfalse | hempty
  · rw [hfalse] at hnoRoute
    exact absurd hnoRoute (by decide +kernel)
  · rw [hempty] at hhosts
    cases hhosts

end Synthesis

end Kubernetes

end MultiTarget
