import MultiTarget.Proofs.Defaults
import MultiTarget.Proofs.HostLabel
import MultiTarget.Proofs.Support.Outcome
import MultiTarget.Proofs.Template
import MultiTarget.Routing

/-!
# `MultiTarget.Proofs.IdleRoutes`: when live and idle routes meet

A module that sets none of the parameters of either family of routes gets
one live and one idle route, made of the defaults of its target. The hosts
of the two differ by a marker behind the name of the module.

* `MadeOfDefaults.routes_eq`: the routes of a family whose parameters have
  nothing but defaults, as one equation.
* `substitute_routeOver_eq_iff`: two such routes are equal exactly if
  their hosts and their domains are. Substitution does not reach into a
  host, and the dot behind a host is the first one.
* `live_idle_meet_iff`: what a target and the name of a module must be
  like for the two routes to be one.
-/

set_option autoImplicit false

namespace MultiTarget

namespace RouteParameters

/-- The names of the parameters of a family for which a target has no defaults.
If none of them is set, everything about a route comes from the target. -/
def assigned (parameters : RouteParameters) : List String := [
  parameters.host, parameters.hosts, parameters.domain, parameters.domains, parameters.port,
  parameters.ports, parameters.route, parameters.routes, parameters.defaultPort]

/-- The names of the parameters of a family, those with defaults included. The
result is about a module that sets none of these. -/
def names (parameters : RouteParameters) : List String :=
  parameters.assigned ++ [parameters.defaultHost, parameters.defaultDomain]

end RouteParameters

/-! ### Routes that are made of defaults -/

namespace Routing

open Template (substitute)

variable {routing : Routing} {chain : ScopeChain} {family : RouteFamily}
  {host domain : String}

/-- Of the parameters of a family a chain has a default host and a default
domain only. -/
structure MadeOfDefaults (chain : ScopeChain) (family : RouteFamily) (host domain : String) :
    Prop where
  absent : ∀ key ∈ family.parameters.assigned, chain.get? key = none
  host_eq : chain.get? family.parameters.defaultHost = some (.str host)
  domain_eq : defaultDomain chain family = .ok (some domain)

/-- The route over a default host and a default domain, or over the domain
alone. It is what is assembled where there is one of each. -/
def routeOver (routing : Routing) (scheme : String) (bare : Bool) (host domain path : String) :
    String :=
  let route := if bare then domain ++ path else host ++ "." ++ domain ++ path
  if routing.options.flavour.includesProtocol then Uri.withScheme scheme route else route

/-- The default domain of live routes is their own, without another family to
fall back on. -/
theorem defaultDomain_live (h : chain.text? "default-domain" = .ok (some domain)) :
    defaultDomain chain .live = .ok (some domain) := by
  unfold defaultDomain
  rw [show RouteFamily.live.parameters.defaultDomain = "default-domain" from rfl, h]
  rfl

/-- The default domain of idle routes is their own, else that of live routes.
So the two families share a domain unless the target keeps them apart. -/
theorem defaultDomain_idle {own : Option String}
    (hown : chain.text? "default-idle-domain" = .ok own)
    (hlive : chain.text? "default-domain" = .ok (some domain)) :
    defaultDomain chain .idle = .ok (some (own.getD domain)) := by
  unfold defaultDomain
  rw [show RouteFamily.idle.parameters.defaultDomain = "default-idle-domain" from rfl, hown]
  cases own with
  | none => exact hlive
  | some own => rfl

namespace MadeOfDefaults

/-- No routes are listed, since neither spelling of the parameter has a value.
So routes are assembled. -/
theorem explicitRoutes_eq (h : MadeOfDefaults chain family host domain) :
    explicitRoutes chain family.parameters = .ok [] := by
  unfold explicitRoutes ScopeChain.text? ScopeChain.list?
  rw [ScopeChain.read?_of_get?_eq_none (h.absent _ (by simp [RouteParameters.assigned])),
    ScopeChain.read?_of_get?_eq_none (h.absent _ (by simp [RouteParameters.assigned]))]
  rfl

/-- The one host is the default host, unless there is to be none. The flag for
that is read first, so its complaint comes first. -/
theorem hosts_eq (h : MadeOfDefaults chain family host domain) :
    hosts chain family.parameters = do
      if ← chain.flag "no-hostname" false then return []
      return [host] := by
  have hpair : chain.pairTexts family.parameters.host family.parameters.hosts = .ok [] :=
    ScopeChain.pairOf_of_get?_eq_none (h.absent _ (by simp [RouteParameters.assigned]))
      (h.absent _ (by simp [RouteParameters.assigned])) _ _
  unfold hosts
  rw [hpair, ScopeChain.text?_of_get?_eq_str h.host_eq]
  rfl

/-- The one domain is the default domain: none is declared, and there are no
routes to take any from. -/
theorem domainNames_eq (h : MadeOfDefaults chain family host domain) :
    domainNames chain family = .ok [domain] := by
  have hpair : chain.pairTexts family.parameters.domain family.parameters.domains = .ok [] :=
    ScopeChain.pairOf_of_get?_eq_none (h.absent _ (by simp [RouteParameters.assigned]))
      (h.absent _ (by simp [RouteParameters.assigned])) _ _
  unfold domainNames
  dsimp only
  rw [h.explicitRoutes_eq, hpair, h.domain_eq]
  rfl

/-- There are no ports, so routes are told apart by their hosts. All parameters
of ports are absent, that of their default among them. -/
theorem portNumbers_eq (h : MadeOfDefaults chain family host domain) :
    portNumbers chain family.parameters = .ok [] := by
  have hpair : chain.pairIntegers family.parameters.port family.parameters.ports = .ok [] :=
    ScopeChain.pairOf_of_get?_eq_none (h.absent _ (by simp [RouteParameters.assigned]))
      (h.absent _ (by simp [RouteParameters.assigned])) _ _
  unfold portNumbers defaultPort ScopeChain.integer?
  rw [h.explicitRoutes_eq, hpair,
    ScopeChain.read?_of_get?_eq_none (h.absent _ (by simp [RouteParameters.assigned]))]
  rfl

/-- One route is assembled. What else is read for it can still fail, so the
equation keeps all the readings in their order. -/
theorem assembledRoutes_eq (h : MadeOfDefaults chain family host domain) :
    routing.assembledRoutes chain family = do
      let bare ← chain.flag "no-hostname" false
      let portType ← portType chain
      let scheme ← routing.scheme chain portType
      let path ← chain.text? "route-path"
      return [routing.routeOver scheme bare host domain (path.getD "")] := by
  unfold assembledRoutes
  rw [h.hosts_eq, h.domainNames_eq, h.portNumbers_eq]
  simp only [bind, Except.bind]
  -- Each reading in turn: if it fails, both sides end there with its error.
  cases chain.flag "no-hostname" false with
  | error error => rfl
  | ok bare =>
      cases portType chain with
      | error error => cases bare <;> rfl
      | ok portType =>
          dsimp only
          cases routing.scheme chain portType with
          | error error => cases bare <;> rfl
          | ok scheme =>
              cases chain.text? "route-path" with
              | error error => cases bare <;> rfl
              | ok path =>
                  -- Without ports the route is over the host, or over the domain alone.
                  cases bare <;>
                    cases hprotocol : routing.options.flavour.includesProtocol <;>
                    simp [pure, Except.pure, assemble, routeOver, hprotocol,
                      List.eraseDups_cons, toString]

/-- **The routes of a family whose parameters have nothing but defaults.**
There is one, unless there is to be none. Its readings are those of the shared
parameters, hence they are the same for both families. -/
theorem routes_eq (h : MadeOfDefaults chain family host domain) :
    routing.routes chain family = do
      if ← chain.flag "no-route" false then return []
      let bare ← chain.flag "no-hostname" false
      let portType ← portType chain
      let scheme ← routing.scheme chain portType
      let path ← chain.text? "route-path"
      return [substitute routing.values
        (routing.routeOver scheme bare host domain (path.getD ""))] := by
  unfold routes
  rw [h.explicitRoutes_eq, h.assembledRoutes_eq]
  -- Both sides read the same values in the same order, so they end at the same error.
  simp only [bind, Except.bind]
  cases chain.flag "no-route" false with
  | error error => rfl
  | ok noRoute =>
      cases noRoute with
      | true => rfl
      | false =>
          cases chain.flag "no-hostname" false with
          | error error => rfl
          | ok bare =>
              cases portType chain with
              | error error => rfl
              | ok portType =>
                  dsimp only
                  cases routing.scheme chain portType with
                  | error error => rfl
                  | ok scheme => cases chain.text? "route-path" <;> rfl

/-- Where everything else can be read, there is the one route, with values in
place of its placeholders. -/
theorem routes_eq_ok (h : MadeOfDefaults chain family host domain) {bare : Bool}
    {portType : PortType} {scheme : String} {path : Option String}
    (hnoRoute : chain.flag "no-route" false = .ok false)
    (hbare : chain.flag "no-hostname" false = .ok bare)
    (hportType : Routing.portType chain = .ok portType)
    (hscheme : routing.scheme chain portType = .ok scheme)
    (hpath : chain.text? "route-path" = .ok path) :
    routing.routes chain family = .ok [substitute routing.values
      (routing.routeOver scheme bare host domain (path.getD ""))] := by
  rw [h.routes_eq]
  simp only [hnoRoute, hbare, hportType, hpath, bind, Except.bind, hscheme]
  rfl

/-- What is read where there are routes of a family. It is `routes_eq` taken
apart for a run that succeeds. -/
theorem outcome_routes (h : MadeOfDefaults chain family host domain) {routes : List String}
    (hroutes : routing.routes chain family = .ok routes) :
    (chain.flag "no-route" false = .ok true ∧ routes = []) ∨
    ∃ bare portType scheme path, chain.flag "no-route" false = .ok false ∧
      chain.flag "no-hostname" false = .ok bare ∧ Routing.portType chain = .ok portType ∧
      routing.scheme chain portType = .ok scheme ∧ chain.text? "route-path" = .ok path ∧
      routes = [substitute routing.values
        (routing.routeOver scheme bare host domain (path.getD ""))] := by
  rw [h.routes_eq] at hroutes
  obtain ⟨noRoute, hnoRoute, hroutes⟩ := Outcome.bind_eq_ok.1 hroutes
  cases noRoute with
  | true =>
      cases hroutes
      exact .inl ⟨hnoRoute, rfl⟩
  | false =>
      simp only [Bool.false_eq_true, if_false, Outcome.bind_eq_ok, Outcome.pure_eq_ok] at hroutes
      obtain ⟨bare, hbare, portType, hportType, scheme, hscheme, path, hpath, rfl⟩ := hroutes
      exact .inr ⟨bare, portType, scheme, path, hnoRoute, hbare, hportType, hscheme, hpath, rfl⟩

end MadeOfDefaults

/-! ### Equal routes -/

/-- A label and the dot behind it stay as they are: a placeholder begins with a
brace, and a label has none. -/
theorem substitute_label_append (values : Placeholder.Values) (hhost : HostLabel.Spelled host)
    (rest : String) :
    substitute values (host ++ "." ++ rest) = host ++ "." ++ substitute values rest := by
  refine Template.substitute_append_of_notMem values (fun hbrace => ?_) rest
  rw [String.toList_append] at hbrace
  rcases List.mem_append.1 hbrace with hlabel | hdot
  · exact hhost.notMem (by decide) hlabel
  · exact absurd hdot (by decide)

/-- Routes with one scheme and one path are equal exactly if their domains are
and, where they have hosts, their hosts. Domains may have placeholders, so they
are compared with values put in and with the path behind them. -/
theorem substitute_routeOver_eq_iff (routing : Routing) (scheme : String) (bare : Bool)
    {host' domain' : String} (path : String)
    (hhost : HostLabel.Spelled host) (hhost' : HostLabel.Spelled host') :
    substitute routing.values (routing.routeOver scheme bare host domain path)
        = substitute routing.values (routing.routeOver scheme bare host' domain' path)
      ↔ (bare = true ∨ host = host') ∧
        substitute routing.values (domain ++ path)
          = substitute routing.values (domain' ++ path) := by
  -- A scheme is substituted by itself, and is the same on both sides.
  have hroute : ∀ route route', substitute routing.values
      (if routing.options.flavour.includesProtocol then Uri.withScheme scheme route else route)
        = substitute routing.values
          (if routing.options.flavour.includesProtocol then Uri.withScheme scheme route'
            else route')
      ↔ substitute routing.values route = substitute routing.values route' := by
    intro route route'
    split
    · rw [Template.substitute_withScheme, Template.substitute_withScheme]
      exact String.append_right_inj _
    · exact Iff.rfl
  unfold routeOver
  rw [hroute]
  cases bare with
  | true => simp
  | false =>
      have hpath : ∀ label name, label ++ "." ++ name ++ path = label ++ "." ++ (name ++ path) :=
        fun _ _ => String.append_assoc
      rw [if_neg Bool.false_ne_true, if_neg Bool.false_ne_true, hpath, hpath,
        substitute_label_append _ hhost, substitute_label_append _ hhost',
        hhost.append_dot_inj hhost']
      simp

/-- **When the routes of two families meet.** Made of defaults, they are one
route if there are routes at all, if hosts are left out or equal, and if the
domains are equal once values stand in place of placeholders. -/
theorem exists_mem_routes_iff {host' domain' : String} {live idle : List String}
    (hlive : MadeOfDefaults chain .live host domain)
    (hidle : MadeOfDefaults chain .idle host' domain')
    (hhost : HostLabel.Spelled host) (hhost' : HostLabel.Spelled host')
    (hroutes : routing.routes chain .live = .ok live)
    (hroutes' : routing.routes chain .idle = .ok idle) :
    (∃ uri ∈ live, uri ∈ idle) ↔
      chain.flag "no-route" false = .ok false ∧
      (chain.flag "no-hostname" false = .ok true ∨ host = host') ∧
      ∃ path, chain.text? "route-path" = .ok path ∧
        substitute routing.values (domain ++ path.getD "")
          = substitute routing.values (domain' ++ path.getD "") := by
  rcases hlive.outcome_routes hroutes with ⟨hnone, rfl⟩ |
    ⟨bare, portType, scheme, path, hsome, hbare, hportType, hscheme, hpath, rfl⟩
  · simp [hnone]
  rcases hidle.outcome_routes hroutes' with ⟨hnone, -⟩ |
    ⟨bare', portType', scheme', path', -, hbare', hportType', hscheme', hpath', rfl⟩
  · rw [hsome] at hnone
    cases hnone
  -- Both families read the same values of the chain.
  rw [hbare] at hbare' ⊢
  rw [hportType] at hportType'
  rw [hpath] at hpath' ⊢
  cases hbare'
  cases hportType'
  cases hpath'
  rw [hscheme] at hscheme'
  cases hscheme'
  rw [hsome]
  simp only [List.mem_singleton, exists_eq_left, Except.ok.injEq, true_and, exists_eq_left']
  exact substitute_routeOver_eq_iff routing scheme bare (path.getD "") hhost hhost'

/-- Without a deployed application there are no routes to keep. The flag is
read all the same, and can fail. -/
theorem uris_eq_of_deployed_none (hdeployed : routing.deployed = none) (m : Module)
    (chain : ScopeChain) :
    routing.uris m chain = do
      let routes ← routing.routes chain .live
      let _ ← chain.flag "keep-existing-routes" routing.options.keepExistingRoutes
      return routes.eraseDups := by
  have hnone : routing.deployedRoutes m = [] := by
    unfold deployedRoutes
    rw [hdeployed]
    rfl
  unfold uris
  simp only [hnone, List.append_nil, ite_self]

/-- The parameters that the routes of both families are read from. They make no
difference between the families. -/
def sharedNames : List String := [
  "no-route", "no-hostname", "route-path", "tcp", "tcps", "protocol", "keep-existing-routes"]

end Routing

/-! ### Defaults of a target -/

namespace Target

open Template (substitute)

variable {target : Target} {descriptor : Descriptor} {m : Module} {key : String}

/-- What the host of a module is spelled like, before anything is cut at its
end. -/
def hostSpelling (target : Target) (moduleName : String) : List Char :=
  HostLabel.spelling (target.org ++ " " ++ target.space ++ " " ++ moduleName)

/-- The default host of a module in a family of routes. That of idle routes is
made from the name with the marker. -/
def hostFor (target : Target) (moduleName : String) : RouteFamily → String
  | .live => target.defaultHost moduleName
  | .idle => target.defaultHost (moduleName ++ "-idle")

/-- The default domain of a family of routes, which is one for both unless the
target has one of idle routes. -/
def domainFor (target : Target) : RouteFamily → String
  | .live => target.defaultDomain
  | .idle => target.defaultIdleDomain.getD target.defaultDomain

/-- The hosts of a module differ unless the name of the module leaves no room
for the marker of idle hosts. -/
theorem hostFor_live_eq_idle_iff (target : Target) (moduleName : String) :
    target.hostFor moduleName .live = target.hostFor moduleName .idle
      ↔ 62 ≤ (target.hostSpelling moduleName).length := by
  unfold hostFor defaultHost hostSpelling
  rw [← String.append_assoc]
  exact HostLabel.ofText_eq_ofText_idle_iff _

/-- A key that is not set and without a default has no value, so readers take
it for absent. -/
theorem get?_preparedScopes_eq_none (target : Target) (h : Undeclared descriptor m key)
    (hkey : key ∉ defaultKeys) :
    (target.preparedScopes descriptor m).get? key = none := by
  rw [get?_preparedScopes_of_notMem target hkey, Descriptor.moduleScopes,
    ScopeChain.get?_twoScopes, h.1, h.2, Option.none_or]

/-- The default domain of live routes stands in the scope of the descriptor,
and always has a value. -/
theorem lookup_defaultDomain (target : Target) (name : String) :
    (Entries.lookup "default-domain" (target.moduleDefaults name)).or
      (Entries.lookup "default-domain" target.generalDefaults)
      = some (.str target.defaultDomain) := by
  simp [moduleDefaults, generalDefaults, Entries.lookup, Json.entry]

/-- The default protocol stands there, too. So the scheme of a module that
speaks HTTP is always decided by the chain. -/
theorem lookup_protocol (target : Target) (name : String) :
    (Entries.lookup "protocol" (target.moduleDefaults name)).or
      (Entries.lookup "protocol" target.generalDefaults)
      = some (.str target.protocol) := by
  simp [moduleDefaults, generalDefaults, Entries.lookup, Json.entry]

/-- A default domain of idle routes stands there if the target has one, and is
absent otherwise. -/
theorem lookup_defaultIdleDomain (target : Target) (name : String) :
    (Entries.lookup "default-idle-domain" (target.moduleDefaults name)).or
      (Entries.lookup "default-idle-domain" target.generalDefaults)
      = target.defaultIdleDomain.map Json.str := by
  simp [moduleDefaults, generalDefaults, Entries.lookup, Entries.lookup_append,
    Entries.lookup_entry, Entries.lookup_textEntry]

/-- The routes of a prepared module that sets none of the parameters of a
family are made of defaults. The hypothesis is about both families, since idle
routes fall back on the domain of live ones. -/
theorem madeOfDefaults_prepare (target : Target) (family : RouteFamily)
    (h : ∀ family : RouteFamily, ∀ key ∈ family.parameters.names, Undeclared descriptor m key) :
    Routing.MadeOfDefaults (target.preparedScopes descriptor m) family
      (target.hostFor m.name family) (target.domainFor family) where
  absent key hkey := by
    have hdefaults : ∀ key ∈ family.parameters.assigned, key ∉ defaultKeys := by
      cases family <;> decide
    exact target.get?_preparedScopes_eq_none (h family key (List.mem_append_left _ hkey))
      (hdefaults key hkey)
  host_eq := by
    rw [get?_preparedScopes_of_undeclared target
      (h family _ (by simp [RouteParameters.names]))]
    cases family <;> simp [moduleDefaults, Entries.lookup, RouteFamily.parameters, hostFor]
  domain_eq := by
    have hlive := (get?_preparedScopes_of_undeclared target
      (h .live "default-domain" (by decide))).trans (target.lookup_defaultDomain m.name)
    have hidle := (get?_preparedScopes_of_undeclared target
      (h .idle "default-idle-domain" (by decide))).trans
        (target.lookup_defaultIdleDomain m.name)
    cases family with
    | live => exact Routing.defaultDomain_live (ScopeChain.text?_of_get?_eq_str hlive)
    | idle =>
        refine Routing.defaultDomain_idle ?_ (ScopeChain.text?_of_get?_eq_str hlive)
        cases hdomain : target.defaultIdleDomain with
        | none => exact ScopeChain.read?_of_get?_eq_none (by rw [hidle, hdomain]; rfl) _ _
        | some domain => exact ScopeChain.text?_of_get?_eq_str (by rw [hidle, hdomain]; rfl)

/-- A default host is a label, so it has neither dots nor placeholders. -/
theorem spelled_hostFor (target : Target) (moduleName : String) (family : RouteFamily) :
    HostLabel.Spelled (target.hostFor moduleName family) := by
  cases family <;> exact HostLabel.spelled_ofText _

/-- The shared parameters besides the protocol have no defaults, so they are
absent if the module does not set them. -/
theorem get?_preparedScopes_of_shared (target : Target)
    (hshared : ∀ key ∈ Routing.sharedNames, Undeclared descriptor m key)
    (hkey : key ∈ Routing.sharedNames.filter (· != "protocol")) :
    (target.preparedScopes descriptor m).get? key = none := by
  have hdefaults : ∀ key ∈ Routing.sharedNames.filter (· != "protocol"), key ∉ defaultKeys := by
    decide
  exact target.get?_preparedScopes_eq_none (hshared key (List.mem_filter.1 hkey).1)
    (hdefaults key hkey)

/-- A prepared module that sets no parameter of routes has one live and one
idle route: nothing is left that could fail. -/
theorem exists_routes_prepare (target : Target) (routing : Routing)
    (hnames : ∀ family : RouteFamily, ∀ key ∈ family.parameters.names,
      Undeclared descriptor m key)
    (hshared : ∀ key ∈ Routing.sharedNames, Undeclared descriptor m key) (family : RouteFamily) :
    ∃ route, routing.routes (target.preparedScopes descriptor m) family = .ok [route] := by
  have hprotocol := (get?_preparedScopes_of_undeclared target
    (hshared "protocol" (by decide))).trans (target.lookup_protocol m.name)
  have hflag : ∀ key ∈ Routing.sharedNames.filter (· != "protocol"),
      (target.preparedScopes descriptor m).flag key false = .ok false := fun key hkey =>
    ScopeChain.flag_of_get?_eq_none (target.get?_preparedScopes_of_shared hshared hkey) false
  have hportType : Routing.portType (target.preparedScopes descriptor m) = .ok .http := by
    unfold Routing.portType
    rw [hflag "tcp" (by decide), hflag "tcps" (by decide)]
    rfl
  have hscheme : routing.scheme (target.preparedScopes descriptor m) .http
      = .ok target.protocol := by
    unfold Routing.scheme
    rw [ScopeChain.text?_of_get?_eq_str hprotocol]
    rfl
  exact ⟨_, (target.madeOfDefaults_prepare family hnames).routes_eq_ok
    (hflag "no-route" (by decide)) (hflag "no-hostname" (by decide)) hportType hscheme
    (ScopeChain.read?_of_get?_eq_none
      (target.get?_preparedScopes_of_shared hshared (by decide)) _ _)⟩

/-- **When live and idle routes meet.** The default hosts of a module are equal
exactly if the spelling of organisation, space and module leaves no room for
more than the dash of the marker of idle hosts. Take any module of a descriptor
that sets none of the parameters of either family in its own scope or that of
the descriptor. Without a deployed application, a route of the prepared module
is both live and idle exactly if there are to be routes, if the hosts are equal
or left out, and if the target does not keep the domains of the two apart. If
the module does not set any other parameter of routes either, it has one route
of each kind. -/
theorem live_idle_meet_iff (target : Target) :
    (∀ moduleName, target.defaultHost moduleName = target.defaultHost (moduleName ++ "-idle")
      ↔ 62 ≤ (target.hostSpelling moduleName).length) ∧
    ∀ (options : Options) (values : Placeholder.Values) (descriptor : Descriptor) (m : Module),
      (∀ family : RouteFamily, ∀ key ∈ family.parameters.names, Undeclared descriptor m key) →
      let routing : Routing := { options, values, deployed := none }
      let prepared := target.prepareModule m
      let chain := (target.prepare descriptor).moduleScopes prepared
      (∀ live idle, routing.uris prepared chain = .ok live → routing.idleUris chain = .ok idle →
        ((∃ uri ∈ live, uri ∈ idle) ↔
          chain.flag "no-route" false = .ok false ∧
          (chain.flag "no-hostname" false = .ok true ∨
            62 ≤ (target.hostSpelling m.name).length) ∧
          ∃ path, chain.text? "route-path" = .ok path ∧
            substitute values (target.domainFor .live ++ path.getD "")
              = substitute values (target.domainFor .idle ++ path.getD ""))) ∧
      ((∀ key ∈ Routing.sharedNames, Undeclared descriptor m key) →
        ∃ live idle, routing.uris prepared chain = .ok [live] ∧
          routing.idleUris chain = .ok [idle]) := by
  refine ⟨fun moduleName => target.hostFor_live_eq_idle_iff moduleName, ?_⟩
  intro options values descriptor m hnames routing prepared chain
  constructor
  · intro live idle hlive hidle
    rw [Routing.uris_eq_of_deployed_none rfl] at hlive
    simp only [Outcome.bind_eq_ok, Outcome.pure_eq_ok] at hlive
    -- Erasing repetitions changes no membership, and that is all the statement asks of the URIs.
    obtain ⟨routes, hroutes, keep, -, rfl⟩ := hlive
    simp only [List.mem_eraseDups]
    rw [← hostFor_live_eq_idle_iff]
    have hmeet := Routing.exists_mem_routes_iff (target.madeOfDefaults_prepare .live hnames)
      (target.madeOfDefaults_prepare .idle hnames) (target.spelled_hostFor _ _)
      (target.spelled_hostFor _ _) hroutes hidle
    exact hmeet
  · intro hshared
    obtain ⟨live, hlive⟩ := target.exists_routes_prepare routing hnames hshared .live
    obtain ⟨idle, hidle⟩ := target.exists_routes_prepare routing hnames hshared .idle
    have hkeep : chain.flag "keep-existing-routes" options.keepExistingRoutes
        = .ok options.keepExistingRoutes :=
      ScopeChain.flag_of_get?_eq_none (target.get?_preparedScopes_of_shared hshared (by decide)) _
    refine ⟨live, idle, ?_, hidle⟩
    rw [Routing.uris_eq_of_deployed_none rfl, hlive, hkeep]
    rfl

/-- A module whose name leaves no room for the marker of idle hosts behind the
organisation and the space of the plain target. -/
def longNamed : Module :=
  .plain "shop-frontend-with-a-rather-long-module-name-for-the-webpages" ∅

/-- The one live route of the module with a long name is its one idle route:
both hosts are cut at the same place. -/
theorem live_idle_meet_longNamed :
    let descriptor : Descriptor := .plain ∅ [longNamed] []
    let routing : Routing :=
      { options := .standard, values := plain.placeholderValues, deployed := none }
    let chain := (plain.prepare descriptor).moduleScopes (plain.prepareModule longNamed)
    (∀ family : RouteFamily, ∀ key ∈ family.parameters.names,
      Undeclared descriptor longNamed key) ∧
    plain.defaultHost longNamed.name = plain.defaultHost (longNamed.name ++ "-idle") ∧
    ∃ uri, routing.uris (plain.prepareModule longNamed) chain = .ok [uri] ∧
      routing.idleUris chain = .ok [uri] := by
  intro descriptor routing chain
  have hundeclared : ∀ key, Undeclared descriptor longNamed key := fun _ => ⟨rfl, rfl⟩
  have hlong : 62 ≤ (plain.hostSpelling longNamed.name).length := by decide +kernel
  obtain ⟨hhosts, hroutes⟩ := live_idle_meet_iff plain
  obtain ⟨hmeet, hexists⟩ := hroutes .standard plain.placeholderValues descriptor longNamed
    fun _ key _ => hundeclared key
  obtain ⟨live, idle, hlive, hidle⟩ := hexists fun key _ => hundeclared key
  obtain ⟨uri, huri, huri'⟩ := (hmeet [live] [idle] hlive hidle).2
    ⟨by decide +kernel, .inr hlong, none, by decide +kernel, rfl⟩
  obtain rfl := List.mem_singleton.1 huri
  obtain rfl := List.mem_singleton.1 huri'
  exact ⟨fun _ key _ => hundeclared key, (hhosts _).2 hlong, uri, hlive, hidle⟩

end Target

end MultiTarget
