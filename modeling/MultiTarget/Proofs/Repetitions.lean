import MultiTarget.Proofs.RetainedRoutes
import MultiTarget.Proofs.RouteSources

/-!
# `MultiTarget.Proofs.Repetitions`: which results of routing may repeat items

Routes of either family have their repetitions erased in the last step, after
values are put in, so that none of them stands twice (`nodup_uris`,
`nodup_routes`).

Ports and domains are treated otherwise. Repetitions are erased among those
of listed routes, and only there: what parameters declare is taken as it
stands. And it happens before values are put into domains, so that two of
them may become one text. `results_nodup_iff` says that nothing else makes
them repeat.
-/

set_option autoImplicit false

namespace MultiTarget.Routing

open Outcome (bind_eq_ok pure_eq_ok toOption_eq_some)
open Template (substitute)

variable {routing : Routing} {chain : ScopeChain} {family : RouteFamily}

/-! ### Routes -/

/-- No route stands twice among those of a family. Repetitions are erased after
values are put in, so that routes which become equal are merged. -/
theorem nodup_routes {routes : List String} (h : routing.routes chain family = .ok routes) :
    routes.Nodup := by
  unfold Routing.routes at h
  obtain ⟨noRoute, -, h⟩ := bind_eq_ok.1 h
  cases noRoute with
  | true => exact pure_eq_ok.1 h ▸ List.nodup_nil
  | false =>
      obtain ⟨listed, -, h⟩ := bind_eq_ok.1 h
      -- Listed or assembled, the routes go through the same last step.
      cases listed with
      | nil =>
          obtain ⟨assembled, -, h⟩ := bind_eq_ok.1 h
          exact pure_eq_ok.1 h ▸ nodup_eraseDups _
      | cons route rest =>
          obtain ⟨explicit, -, h⟩ := bind_eq_ok.1 h
          exact pure_eq_ok.1 h ▸ nodup_eraseDups _

/-! ### Ports -/

/-- No port is declared twice by a module that lists no routes. A module that
lists routes satisfies this, whatever it declares. -/
def PortsApart (chain : ScopeChain) : Prop :=
  explicitRoutes chain RouteFamily.live.parameters = .ok [] →
    ∀ numbers, chain.pairIntegers "port" "ports" = .ok numbers → numbers.Nodup

/-- Ports have no repetitions exactly if none is declared twice. All ports of a
module are of one type, so they are told apart by number. -/
theorem nodup_ports_iff {ports : List ApplicationPort} (h : Routing.ports chain = .ok ports) :
    ports.Nodup ↔ PortsApart chain := by
  unfold Routing.ports at h
  obtain ⟨portType, -, h⟩ := bind_eq_ok.1 h
  obtain ⟨numbers, hnumbers, h⟩ := bind_eq_ok.1 h
  obtain rfl := pure_eq_ok.1 h
  obtain ⟨listed, hlisted, hdrawn⟩ := outcome_portNumbers hnumbers
  have hinj : Function.Injective fun port => ApplicationPort.mk port portType :=
    fun _ _ heq => congrArg ApplicationPort.port heq
  have hdefault : ∀ ports,
      (defaultPort chain RouteFamily.live.parameters).toOption = some ports →
      (ports.map fun port => ApplicationPort.mk port portType).Nodup := by
    intro ports hports
    rcases outcome_defaultPort (toOption_eq_some.1 hports) with rfl | ⟨port, rfl, -⟩ <;> simp
  rw [hdrawn.nodup_map_iff _ hdefault, and_iff_left fun _ _ _ _ heq => hinj heq]
  unfold PortsApart
  rw [hlisted, Except.ok.injEq]
  refine forall_congr' fun hnil =>
    ⟨fun hports integers hintegers => ?_, fun hintegers ports hports => ?_⟩
  · -- The ports could be read, so the integers are those of ports.
    obtain ⟨ports, hdeclared⟩ := hdrawn.exists_declared hnil
    obtain rfl := Except.ok.inj (hintegers.symm.trans (declaredPorts?_eq_some_iff.1 hdeclared).1)
    exact ((List.nodup_map_iff hinj).1 (hports ports hdeclared)).map fun _ _ => Int.ofNat_inj.1
  · have hnodup := hintegers _ (declaredPorts?_eq_some_iff.1 hports).1
    exact (hnodup.of_map _).map hinj

/-! ### Domains -/

/-- The domains of a module that lists no routes are declared as texts that
stay different when values are put in. Those of listed routes stay different
where they are. The two fields are about different sources, and only one of
them applies. -/
structure DomainsApart (values : Placeholder.Values) (chain : ScopeChain) : Prop where
  declared : explicitRoutes chain RouteFamily.live.parameters = .ok [] →
    ∀ names, chain.pairTexts "domain" "domains" = .ok names →
      (names.map (substitute values)).Nodup
  routes : ∀ listed, explicitRoutes chain RouteFamily.live.parameters = .ok listed →
    ∀ x ∈ listed.filterMap Uri.domainOf?, ∀ y ∈ listed.filterMap Uri.domainOf?,
      substitute values x = substitute values y → x = y

/-- Domains have no repetitions exactly if they stay apart. Their repetitions
are erased before values are put in, and only for listed routes. -/
theorem nodup_domains_iff {domains : List String} (h : routing.domains chain = .ok domains) :
    domains.Nodup ↔ DomainsApart routing.values chain := by
  unfold Routing.domains at h
  obtain ⟨names, hnames, h⟩ := bind_eq_ok.1 h
  obtain rfl := pure_eq_ok.1 h
  obtain ⟨listed, hlisted, hdrawn⟩ := outcome_domainNames hnames
  have hdefault : ∀ names,
      (defaultDomain chain .live).toOption.map Option.toList = some names →
      (names.map (substitute routing.values)).Nodup := by
    intro names hnames
    obtain ⟨domain?, -, rfl⟩ := Option.map_eq_some_iff.1 hnames
    -- A default is one domain or none.
    cases domain? <;> simp
  rw [hdrawn.nodup_map_iff _ hdefault]
  constructor
  · rintro ⟨hdeclared, hroutes⟩
    refine ⟨fun hnil names hnames => ?_, fun listed' hlisted' => ?_⟩
    · exact hdeclared (Except.ok.inj (hlisted.symm.trans hnil)) names (toOption_eq_some.2 hnames)
    · exact Except.ok.inj (hlisted.symm.trans hlisted') ▸ hroutes
  · rintro ⟨hdeclared, hroutes⟩
    refine ⟨fun hnil names hnames => ?_, hroutes listed hlisted⟩
    exact hdeclared (hnil ▸ hlisted) names (toOption_eq_some.1 hnames)

/-! ### Results -/

/-- **Where routing repeats itself.** No route of a module stands twice, live
or idle. Its ports do exactly if they are declared twice, and its domains
exactly if they are declared twice or become the same when values are put in.

Each part is about a computation that succeeds, independently of the others. -/
theorem results_nodup_iff (routing : Routing) (m : Module) (chain : ScopeChain) :
    (∀ uris, routing.uris m chain = .ok uris → uris.Nodup) ∧
    (∀ uris, routing.idleUris chain = .ok uris → uris.Nodup) ∧
    (∀ domains, routing.domains chain = .ok domains →
      (domains.Nodup ↔ DomainsApart routing.values chain)) ∧
    (∀ ports, Routing.ports chain = .ok ports → (ports.Nodup ↔ PortsApart chain)) :=
  ⟨fun _ => nodup_uris, fun _ => nodup_routes, fun _ => nodup_domains_iff,
    fun _ => nodup_ports_iff⟩

/-- A module that declares a domain and a port twice. It has one host, so there
is one route in the end. -/
def stuttering : ScopeChain :=
  ⟨"web", [.ofList [("host", .str "web"),
    ("domains", .arr [.str "example.com", .str "example.com"]),
    ("ports", .arr [.int 5000, .int 5000])]]⟩

/-- Its route stands once, its domain and its port twice. -/
theorem results_nodup_iff_stuttering :
    let routing : Routing := ⟨.standard, Target.plain.placeholderValues, none⟩
    let m := Module.plain "web" ∅
    routing.uris m stuttering = .ok ["web.example.com"] ∧
    routing.domains stuttering = .ok ["example.com", "example.com"] ∧
    Routing.ports stuttering = .ok [⟨5000, .http⟩, ⟨5000, .http⟩] ∧
    ¬ DomainsApart routing.values stuttering ∧ ¬ PortsApart stuttering := by
  intro routing m
  have huris : routing.uris m stuttering = .ok ["web.example.com"] := by decide +kernel
  have hdomains : routing.domains stuttering = .ok ["example.com", "example.com"] := by
    decide +kernel
  have hports : Routing.ports stuttering = .ok [⟨5000, .http⟩, ⟨5000, .http⟩] := by
    decide +kernel
  obtain ⟨-, -, hapart, hportsApart⟩ := results_nodup_iff routing m stuttering
  refine ⟨huris, hdomains, hports, fun h => ?_, fun h => ?_⟩
  · exact absurd ((hapart _ hdomains).2 h) (by decide)
  · exact absurd ((hportsApart _ hports).2 h) (by decide)

end MultiTarget.Routing
