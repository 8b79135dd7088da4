import MultiTarget.Proofs.Kubernetes.RoutedHosts
import MultiTarget.Proofs.RouteSources
import MultiTarget.Proofs.SettledRoutes

/-!
# `MultiTarget.Proofs.DescribedRoutes`: ports and domains of listed routes

For a module that lists its routes, three results go through the same list.
Its URIs are the routes with values put in. Its domains are cut out of the
routes first, and values are put in afterwards. Its ports are cut out of
the routes, and values are never put in.

So the ports and domains are those of the URIs as long as cutting and
putting values in may be exchanged, which is what a route is called settled
for. `describes_uris_iff` says that only routes which are not settled can
fail, as one does whose port is a placeholder.
-/

set_option autoImplicit false

namespace MultiTarget

open Outcome (bind_eq_ok pure_eq_ok)
open Template (substitute)

namespace Routing

variable {routing : Routing} {chain : ScopeChain} {explicit : List String}

/-- The port of a listed route is among the ports, whether or not any ports are
declared besides. -/
theorem mem_portNumbers {parameters : RouteParameters} {numbers : List Nat}
    (hlisted : explicitRoutes chain parameters = .ok explicit)
    (hnumbers : portNumbers chain parameters = .ok numbers) {route : String}
    (hroute : route ∈ explicit) {port : Nat} (hport : Uri.portOf? route = some port) :
    port ∈ numbers := by
  obtain ⟨listed, hlisted', hdrawn⟩ := outcome_portNumbers hnumbers
  obtain rfl : explicit = listed := Except.ok.inj (hlisted.symm.trans hlisted')
  exact hdrawn.mem_of_route hroute hport

/-- The domain of a listed route is among the domains, whether or not any are
declared besides. -/
theorem mem_domainNames {family : RouteFamily} {names : List String}
    (hlisted : explicitRoutes chain family.parameters = .ok explicit)
    (hnames : domainNames chain family = .ok names) {route : String}
    (hroute : route ∈ explicit) {domain : String} (hdomain : Uri.domainOf? route = some domain) :
    domain ∈ names := by
  obtain ⟨listed, hlisted', hdrawn⟩ := outcome_domainNames hnames
  obtain rfl : explicit = listed := Except.ok.inj (hlisted.symm.trans hlisted')
  exact hdrawn.mem_of_route hroute hdomain

/-- The URIs are the listed routes with values put in. The hypotheses exclude
the other sources of URIs: a deployed application with routes to keep,
`no-route`, and an empty list. -/
theorem mem_uris_iff {m : Module} {uris : List String} (hdeployed : routing.deployed = none)
    (hrouted : chain.flag "no-route" false = .ok false)
    (hlisted : explicitRoutes chain RouteFamily.live.parameters = .ok explicit)
    (hsome : explicit ≠ []) (huris : routing.uris m chain = .ok uris) (uri : String) :
    uri ∈ uris ↔ ∃ route ∈ explicit, substitute routing.values route = uri := by
  obtain ⟨noRoute, hnoRoute, huris⟩ :=
    outcome_uris_of_explicitRoutes hdeployed hlisted hsome huris
  obtain rfl : false = noRoute := Except.ok.inj (hrouted.symm.trans hnoRoute)
  rw [huris, if_neg Bool.false_ne_true, List.mem_eraseDups, List.mem_map]

/-- The port and the domain of a URI, if it has any, are among the ports and
domains. These are results of their own, which a reader takes for a description
of the URIs. -/
structure Describes (ports : List ApplicationPort) (domains : List String) (uri : String) :
    Prop where
  port : ∀ port, Uri.portOf? uri = some port → port ∈ ports.map (·.port)
  domain : ∀ domain, Uri.domainOf? uri = some domain → domain ∈ domains

/-- The URI of a settled route is described by the ports and domains: cutting
it and putting values in may be exchanged. -/
theorem describes_of_settled {ports : List ApplicationPort} {domains : List String}
    (hlisted : explicitRoutes chain RouteFamily.live.parameters = .ok explicit)
    (hports : Routing.ports chain = .ok ports) (hdomains : routing.domains chain = .ok domains)
    {route : String} (hroute : route ∈ explicit) (hsettled : Uri.Settled routing.values route) :
    Describes ports domains (substitute routing.values route) := by
  unfold Routing.ports at hports
  unfold Routing.domains at hdomains
  obtain ⟨portType, -, hports⟩ := bind_eq_ok.1 hports
  obtain ⟨numbers, hnumbers, hports⟩ := bind_eq_ok.1 hports
  obtain ⟨names, hnames, hdomains⟩ := bind_eq_ok.1 hdomains
  -- The results are the numbers with their type, and the names with values put in.
  rw [← pure_eq_ok.1 hports, ← pure_eq_ok.1 hdomains]
  refine ⟨fun port hport => ?_, fun domain hdomain => ?_⟩
  · rw [hsettled.portOf?_substitute] at hport
    rw [List.map_map]
    exact List.mem_map.2 ⟨port, mem_portNumbers hlisted hnumbers hroute hport, rfl⟩
  · rw [hsettled.domainOf?_substitute] at hdomain
    obtain ⟨name, hname, rfl⟩ := Option.map_eq_some_iff.1 hdomain
    exact List.mem_map_of_mem (mem_domainNames hlisted hnames hroute hname)

/-- **When ports and domains describe the URIs.** Take a module that lists
routes, is to have them, and has no deployed application. The URI of a route
that is settled has its port and its domain among the results. So all URIs have
exactly if those of the routes that are not settled do. -/
theorem describes_uris_iff (routing : Routing) (m : Module) (chain : ScopeChain)
    (explicit uris domains : List String) (ports : List ApplicationPort)
    (hdeployed : routing.deployed = none) (hrouted : chain.flag "no-route" false = .ok false)
    (hlisted : explicitRoutes chain RouteFamily.live.parameters = .ok explicit)
    (hsome : explicit ≠ []) (huris : routing.uris m chain = .ok uris)
    (hports : Routing.ports chain = .ok ports) (hdomains : routing.domains chain = .ok domains) :
    (∀ route ∈ explicit, Uri.Settled routing.values route →
      Describes ports domains (substitute routing.values route)) ∧
    ((∀ uri ∈ uris, Describes ports domains uri) ↔
      ∀ route ∈ explicit, ¬ Uri.Settled routing.values route →
        Describes ports domains (substitute routing.values route)) := by
  have hdescribed : ∀ route ∈ explicit, Uri.Settled routing.values route →
      Describes ports domains (substitute routing.values route) :=
    fun _ hroute hsettled => describes_of_settled hlisted hports hdomains hroute hsettled
  have hmem := mem_uris_iff hdeployed hrouted hlisted hsome huris
  refine ⟨hdescribed, fun hall route hroute _ => ?_, fun hunsettled uri huri => ?_⟩
  · exact hall _ ((hmem _).2 ⟨route, hroute, rfl⟩)
  · obtain ⟨route, hroute, rfl⟩ := (hmem uri).1 huri
    -- Every URI comes from a route, which is settled or among those that the condition is about.
    by_cases hsettled : Uri.Settled routing.values route
    · exact hdescribed route hroute hsettled
    · exact hunsettled route hroute hsettled

/-- A module that is reached at the port of a router, which is a placeholder in
its route. -/
def gateway : ScopeChain :=
  ⟨"gateway", [.ofList [("tcp", .bool true),
    ("route", .str "tcp.example.com:\x7bxsa-placeholder-router-port\x7d")]]⟩

/-- The URI has a port, and there are no ports: the route is not settled, since
a placeholder is no number until a value is put in. -/
theorem describes_uris_gateway :
    let values := { Template.knownDomain "apps.example.com" with routerPort := some "8443" }
    let routing : Routing := ⟨.standard, values, none⟩
    let route := "tcp.example.com:\x7bxsa-placeholder-router-port\x7d"
    gateway.flag "no-route" false = .ok false ∧
    explicitRoutes gateway RouteFamily.live.parameters = .ok [route] ∧
    routing.uris (.plain "gateway" ∅) gateway = .ok ["tcp.example.com:8443"] ∧
    routing.domains gateway = .ok ["tcp.example.com"] ∧ Routing.ports gateway = .ok [] ∧
    ¬ Describes [] ["tcp.example.com"] "tcp.example.com:8443" ∧
    ¬ Uri.Settled values route := by
  intro values routing route
  have hrouted : gateway.flag "no-route" false = .ok false := by decide +kernel
  have hlisted : explicitRoutes gateway RouteFamily.live.parameters = .ok [route] := by
    decide +kernel
  have huris : routing.uris (.plain "gateway" ∅) gateway = .ok ["tcp.example.com:8443"] := by
    decide +kernel
  have hdomains : routing.domains gateway = .ok ["tcp.example.com"] := by decide +kernel
  have hports : Routing.ports gateway = .ok [] := by decide +kernel
  have hport : Uri.portOf? "tcp.example.com:8443" = some 8443 := by decide +kernel
  have hfails : ¬ Describes [] ["tcp.example.com"] "tcp.example.com:8443" := fun h =>
    absurd (h.port 8443 hport) List.not_mem_nil
  obtain ⟨hsettled, -⟩ := describes_uris_iff routing (.plain "gateway" ∅) gateway [route] _ _ _
    rfl hrouted hlisted (List.cons_ne_nil _ _) huris hports hdomains
  have huri : substitute values route = "tcp.example.com:8443" := by decide +kernel
  refine ⟨hrouted, hlisted, huris, hdomains, hports, hfails, fun h => hfails ?_⟩
  exact huri ▸ hsettled route List.mem_cons_self h

end Routing

end MultiTarget
