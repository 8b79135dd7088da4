import MultiTarget.Deployed
import MultiTarget.Options
import MultiTarget.RouteFamily
import MultiTarget.ScopeChain
import MultiTarget.Template
import MultiTarget.Uri

/-!
# `MultiTarget.Routing`: routes, domains and ports of modules

A module lists its routes, or they are assembled from hosts, domains and
ports:

* `domain:port` where routes are told apart by port: if all routing is
  by port, for modules that do not speak HTTP, or without a host;
* else `host.domain`;
* `domain` alone if there are neither ports nor hosts.

Routes keep the order of first appearance and have no duplicates.

Specification 4.4 and X.6.5. `portType`, `uris`, `idleUris`, `domains` and
`ports` are `port_type`, `uris`, `idle_uris`, `domains` and `ports`; `routes`
is `compute_uris`, made of `explicit_routes`, `hosts`, `domain_names` and
`port_numbers`.
-/

set_option autoImplicit false

namespace MultiTarget

/-- What a port speaks. -/
inductive PortType where
  | http
  | tcp
  | tcps
  deriving DecidableEq, Repr

/-- The name of a port type. -/
def PortType.name : PortType → String
  | http => "http"
  | tcp => "tcp"
  | tcps => "tcps"

/-- A port that an application listens on. -/
structure ApplicationPort where
  port : Nat
  portType : PortType
  deriving DecidableEq, Repr

/-- A port as JSON. -/
def ApplicationPort.toJson (p : ApplicationPort) : Json := .obj <|
  Json.entry "port" (.int p.port) ++
  Json.entry "port-type" (.str p.portType.name)

/-- What routes depend on besides the parameters of a module. -/
structure Routing where
  options : Options
  values : Placeholder.Values
  deployed : Option Deployed
  deriving DecidableEq, Repr

namespace Routing

/-! ### Parameters -/

/-- The port type of a module, which has at most one of `tcp` and
`tcps`. -/
def portType (chain : ScopeChain) : Except ContentError PortType := do
  match ← chain.flag "tcp" false, ← chain.flag "tcps" false with
  | true, true => throw (.invalidTcpRoute chain.owner)
  | true, false => return .tcp
  | false, true => return .tcps
  | false, false => return .http

/-- The route of an entry of a list of routes: a text, or a map with a route
under the name of its family or under `route`. A map without a text there has
none, and an entry of another shape is a fault of the whole list. -/
def routeOf? (parameters : RouteParameters) : Json → Option (List String)
  | .str route => some [route]
  | .obj entries =>
    -- The name of the family comes first, so an idle route is found before a live one.
    let found := Entries.lookup parameters.route entries <|> Entries.lookup "route" entries
    some (found.bind Json.text?).toList
  | _ => none

/-- The routes that a module lists. Unlike a name and its plural elsewhere, the
single route and the list are looked for separately, so they may come from
different scopes. -/
def explicitRoutes (chain : ScopeChain) (parameters : RouteParameters) :
    Except ContentError (List String) := do
  -- Two separate look-ups, not a pair: see above.
  let single ← chain.text? parameters.route
  let entries := (← chain.list? parameters.routes).getD []
  match entries.mapM (routeOf? parameters) with
  -- A map without a route adds nothing, but keeps the list well formed.
  | some routes => return single.toList ++ routes.flatten
  | none => throw (chain.invalid parameters.routes "list of routes")

/-- The hosts of a module. `no-hostname` leaves it without any, whatever else
is declared; the default host stands in only for an empty list. -/
def hosts (chain : ScopeChain) (parameters : RouteParameters) :
    Except ContentError (List String) := do
  if ← chain.flag "no-hostname" false then return []
  match ← chain.pairTexts parameters.host parameters.hosts with
  | [] => return (← chain.text? parameters.defaultHost).toList
  | hosts => return hosts

/-- The default domain of a family. Idle routes share that of live routes
unless they have one of their own. -/
def defaultDomain (chain : ScopeChain) (family : RouteFamily) :
    Except ContentError (Option String) := do
  match ← chain.text? family.parameters.defaultDomain with
  | some domain => return some domain
  | none => if family = .idle then chain.text? "default-domain" else return none

/-- The domains of a module: those of its routes if it lists any. The default
domain stands in where neither gives one. -/
def domainNames (chain : ScopeChain) (family : RouteFamily) :
    Except ContentError (List String) := do
  let parameters := family.parameters
  let declared ← match ← explicitRoutes chain parameters with
    | [] => chain.pairTexts parameters.domain parameters.domains
    -- Domains of listed routes count once; declared ones are taken as they stand.
    | routes => pure (routes.filterMap Uri.domainOf?).eraseDups
  match declared with
  | [] => return (← defaultDomain chain family).toList
  | domains => return domains

/-- A number that can be that of a port. Zero passes here, unlike in a route
and as a default. -/
def portNumber? (n : Int) : Option Nat := if 0 ≤ n && n < 0x10000 then some n.toNat else none

/-- The default port of a family; zero stands for none. -/
def defaultPort (chain : ScopeChain) (parameters : RouteParameters) :
    Except ContentError (List Nat) := do
  match ← chain.integer? parameters.defaultPort with
  -- Zero is no fault here, unlike other numbers that no port can have.
  | none | some 0 => return []
  | some n =>
    match portNumber? n with
    | some port => return [port]
    | none => throw (chain.invalid parameters.defaultPort "port number")

/-- The ports of a module: those of its routes if it lists any. The default
port stands in where neither gives one. -/
def portNumbers (chain : ScopeChain) (parameters : RouteParameters) :
    Except ContentError (List Nat) := do
  let declared ← match ← explicitRoutes chain parameters with
    | [] =>
      match (← chain.pairIntegers parameters.port parameters.ports).mapM portNumber? with
      | some ports => pure ports
      | none => throw (chain.invalid parameters.ports "port number")
    | routes => pure (routes.filterMap Uri.portOf?).eraseDups
  match declared with
  | [] => defaultPort chain parameters
  | ports => return ports

/-! ### Assembly -/

/-- The routes over domains, each domain with every port, or with every host,
or alone. Domains vary slowest, so all routes of the first domain come
first. -/
def assemble (portBased : Bool) (hosts domains : List String) (ports : List Nat)
    (path : String) : List String :=
  domains.flatMap fun domain =>
    if portBased then ports.map fun port => s!"{domain}:{port}{path}"
    else if hosts.isEmpty then [domain ++ path]
    else hosts.map fun host => s!"{host}.{domain}{path}"

/-- The scheme of the routes of a module. One that speaks TCP has that as its
scheme, and only for HTTP does the parameter `protocol` count. -/
def scheme (routing : Routing) (chain : ScopeChain) :
    PortType → Except ContentError String
  | .http => do return ((← chain.text? "protocol") <|> routing.values.protocol).getD "https"
  | portType => .ok portType.name

/-- The routes of a family that are assembled for a module that lists none. All
parameters are read before anything is put together, so a parameter of the
wrong shape is reported even if no route would need it. -/
def assembledRoutes (routing : Routing) (chain : ScopeChain) (family : RouteFamily) :
    Except ContentError (List String) := do
  let hosts ← hosts chain family.parameters
  let domains ← domainNames chain family
  let ports ← portNumbers chain family.parameters
  let portType ← portType chain
  let scheme ← routing.scheme chain portType
  let path := (← chain.text? "route-path").getD ""
  -- Hosts stand in for domains if there are none.
  let (hosts, domains) := if domains.isEmpty then ([], hosts) else (hosts, domains)
  -- Without ports no route can be told apart by port, whatever is asked for.
  let portBased :=
    (routing.options.portBasedRouting || hosts.isEmpty || portType != .http) && !ports.isEmpty
  let routes := (assemble portBased hosts domains ports path).eraseDups
  if routing.options.flavour.includesProtocol then return routes.map (Uri.withScheme scheme)
  else return routes

/-- The routes of a family of a module. Values are put in place of placeholders
last, and routes that become equal by that count once. -/
def routes (routing : Routing) (chain : ScopeChain) (family : RouteFamily) :
    Except ContentError (List String) := do
  if ← chain.flag "no-route" false then return []
  -- Listed routes are taken as they stand: they get neither scheme nor path.
  let routes ← match ← explicitRoutes chain family.parameters with
    | [] => routing.assembledRoutes chain family
    | routes => pure routes
  return (routes.map (Template.substitute routing.values)).eraseDups

/-! ### Results -/

/-- The routes of the live application of a module. One that waits for its swap
does not count. -/
def deployedRoutes (routing : Routing) (m : Module) : List String :=
  match routing.deployed.bind (·.application? m.name) with
  | some app => app.uris
  | none => []

/-- The live routes of a module; those it has already stay if they are to be
kept. New routes come first, and the parameter of the module decides over the
option. -/
def uris (routing : Routing) (m : Module) (chain : ScopeChain) :
    Except ContentError (List String) := do
  let routes ← routing.routes chain .live
  if ← chain.flag "keep-existing-routes" routing.options.keepExistingRoutes then
    -- First appearance decides, so a route that is listed again keeps its new place.
    return (routes ++ routing.deployedRoutes m).eraseDups
  return routes.eraseDups

/-- The idle routes of a module. -/
def idleUris (routing : Routing) (chain : ScopeChain) : Except ContentError (List String) :=
  routing.routes chain .idle

/-- The domains of the live routes of a module. They are not told apart once
more after the substitution, so they repeat if they were declared so. -/
def domains (routing : Routing) (chain : ScopeChain) : Except ContentError (List String) := do
  return (← domainNames chain .live).map (Template.substitute routing.values)

/-- The ports of the live routes of a module, all of the port type of the
module. -/
def ports (chain : ScopeChain) : Except ContentError (List ApplicationPort) := do
  let portType ← portType chain
  return (← portNumbers chain RouteFamily.live.parameters).map fun port => ⟨port, portType⟩

end Routing

end MultiTarget
