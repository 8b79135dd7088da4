import MultiTarget.Proofs.Agreement
import MultiTarget.Routing

/-!
# `MultiTarget.Proofs.Agreement.Routing`: what routes are read from

The routes of a family are read from the parameters of this family and a
few that both share (`Routing.names`): some one by one, and those of hosts,
domains and ports as a name and its plural. On chains that are read alike in
both ways (`Routing.ReadAlike`), every step of the computation has the same
result, error or value, and so have the routes (`ReadAlike.routes`). Chains
that agree on the parameters are such chains (`Agree.readAlike`).
-/

set_option autoImplicit false

namespace MultiTarget.Routing

/-- The parameters that the routes of a family are read from. Idle routes may
fall back on the default domain of live ones, so its name is in both lists. -/
abbrev names (family : RouteFamily) : List String :=
  let p := family.parameters
  [p.host, p.hosts, p.domain, p.domains, p.port, p.ports, p.route, p.routes, p.defaultHost,
    p.defaultDomain, p.defaultPort, "default-domain", "no-route", "no-hostname", "route-path",
    "tcp", "tcps", "protocol"]

/-- The parameters that the live routes of a module are read from, where there
may be routes to keep. Routes of the idle family are never kept. -/
abbrev keptNames : List String := "keep-existing-routes" :: names .live

/-- Two chains agree on the parameters that the routes of a family are read
from. -/
abbrev Agree (family : RouteFamily) (a b : ScopeChain) : Prop := a.AgreeOn (· ∈ names family) b

/-- The parameters of a family that are read one by one, by a typed reader that
does not see which scope a value comes from. -/
abbrev singleNames (family : RouteFamily) : List String :=
  let p := family.parameters
  [p.route, p.routes, p.defaultHost, p.defaultDomain, p.defaultPort, "default-domain", "no-route",
    "no-hostname", "route-path", "tcp", "tcps", "protocol"]

/-- The parameters of a family that are read as a name and its plural, both
from the most specific scope that has either. -/
abbrev pairNames (family : RouteFamily) : List (String × String) :=
  let p := family.parameters
  [(p.host, p.hosts), (p.domain, p.domains), (p.port, p.ports)]

variable {routing : Routing} {family : RouteFamily} {a b : ScopeChain}

/-- What a port speaks is told by two flags, and setting both is refused in the
name of the owner. So chains with the same values of the two suffice. -/
theorem portType_congr {p : String → Prop} (h : a.SameValuesOn p b) (htcp : p "tcp")
    (htcps : p "tcps") : portType a = portType b := by
  unfold portType
  rw [h.flag htcp, h.flag htcps, h.owner]

/-- Two chains are read alike for the routes of a family, in pairs as well. It
asks for no more than the computation reads, so it also holds where scopes do
not agree one by one. -/
structure ReadAlike (family : RouteFamily) (a b : ScopeChain) : Prop where
  single : a.ReadAlikeOn (· ∈ singleNames family) b
  pair : ∀ names ∈ pairNames family, a.pair names.1 names.2 = b.pair names.1 names.2

namespace ReadAlike

/-- Chains that agree on all pairs are read alike in pairs, where the single
parameters may be read alike for another reason. A null that is taken out of a
scope is such a case. -/
theorem of_agreeOn {p : String → Prop} (hsingle : a.ReadAlikeOn (· ∈ singleNames family) b)
    (hagree : a.AgreeOn p b) (hpair : ∀ names ∈ pairNames family, p names.1 ∧ p names.2) :
    ReadAlike family a b where
  single := hsingle
  pair names hnames := hagree.pair (hpair names hnames).1 (hpair names hnames).2

/-- The values of a pair of the family are the same to every view, as they are
taken from one scope that both chains have. -/
theorem pairOf (h : ReadAlike family a b) {singular plural : String}
    (hnames : (singular, plural) ∈ pairNames family) (expected : String) {α : Type}
    (view : Json → Option α) :
    a.pairOf singular plural expected view = b.pairOf singular plural expected view :=
  ScopeChain.pairOf_congr h.single.owner (h.pair _ hnames) expected view

theorem portType (h : ReadAlike family a b) : portType a = portType b := by
  simp (disch := simp) only [Routing.portType, h.single.flag, h.single.owner]

/-- The routes that are written out are the same, in both spellings of the
parameter. -/
theorem explicitRoutes (h : ReadAlike family a b) :
    explicitRoutes a family.parameters = explicitRoutes b family.parameters := by
  simp (disch := simp) only [Routing.explicitRoutes, h.single.text?, h.single.list?,
    h.single.invalid]

/-- The hosts are the same: those declared as a pair, or the default one, or
none at all. -/
theorem hosts (h : ReadAlike family a b) :
    hosts a family.parameters = hosts b family.parameters := by
  simp (disch := simp) only [Routing.hosts, ScopeChain.pairTexts, h.single.flag, h.pairOf,
    h.single.text?]

/-- The default domain is the same, with that of the live family behind it,
which idle routes fall back on. -/
theorem defaultDomain (h : ReadAlike family a b) :
    defaultDomain a family = defaultDomain b family := by
  simp (disch := simp) only [Routing.defaultDomain, h.single.text?]

/-- The domains are the same. They also come from the routes that are written
out, if none is declared. -/
theorem domainNames (h : ReadAlike family a b) :
    domainNames a family = domainNames b family := by
  simp (disch := simp) only [Routing.domainNames, ScopeChain.pairTexts, h.explicitRoutes,
    h.pairOf, h.defaultDomain]

/-- The default port is the same, and so is the refusal of a number that is
none. -/
theorem defaultPort (h : ReadAlike family a b) :
    defaultPort a family.parameters = defaultPort b family.parameters := by
  simp (disch := simp) only [Routing.defaultPort, h.single.integer?, h.single.invalid]

/-- The ports are the same, declared or taken from the routes that are written
out. -/
theorem portNumbers (h : ReadAlike family a b) :
    portNumbers a family.parameters = portNumbers b family.parameters := by
  simp (disch := simp) only [Routing.portNumbers, ScopeChain.pairIntegers, h.explicitRoutes,
    h.pairOf, h.defaultPort, h.single.invalid]

/-- The scheme in front of a route is the same. Only for HTTP is it read from
the chain. -/
theorem scheme (h : ReadAlike family a b) (portType : PortType) :
    routing.scheme a portType = routing.scheme b portType := by
  cases portType with
  | http => simp (disch := simp) only [Routing.scheme, h.single.text?]
  | tcp => rfl
  | tcps => rfl

/-- The routes assembled of hosts, domains and ports are the same, since each
of these is and nothing else is read for them but a scheme and a path. -/
theorem assembledRoutes (h : ReadAlike family a b) :
    routing.assembledRoutes a family = routing.assembledRoutes b family := by
  simp (disch := simp) only [Routing.assembledRoutes, h.hosts, h.domainNames,
    h.portNumbers, h.portType, h.scheme, h.single.text?]

/-- **What routes are read from.** The routes of a family are the same on
chains that are read alike for it, errors included. -/
theorem routes (h : ReadAlike family a b) :
    routing.routes a family = routing.routes b family := by
  -- Each reader is rewritten by its own lemma. The discharger finds its key in the list of names.
  simp (disch := simp) only [Routing.routes, h.single.flag, h.explicitRoutes, h.assembledRoutes]

/-- The domains of a result are the same. They are those of the live family
only. -/
theorem domains (h : ReadAlike .live a b) : routing.domains a = routing.domains b := by
  simp only [Routing.domains, h.domainNames]

/-- The ports of a result are the same, with what they speak. -/
theorem ports (h : ReadAlike .live a b) : ports a = ports b := by
  simp only [Routing.ports, h.portType, h.portNumbers]

/-- The routes of a module are the same, with those kept of a deployed
application. Whether routes are kept is read from one more parameter. -/
theorem uris (h : ReadAlike .live a b)
    (hkept : a.ReadAlikeOn (· = "keep-existing-routes") b) (m : Module) :
    routing.uris m a = routing.uris m b := by
  simp (disch := simp) only [Routing.uris, h.routes, hkept.flag]

theorem idleUris (h : ReadAlike .idle a b) : routing.idleUris a = routing.idleUris b := h.routes

end ReadAlike

namespace Agree

/-- Chains that agree scope by scope are read alike. That the names of both
kinds are among `names` is decided by computation, family by family. -/
theorem readAlike (h : Agree family a b) : ReadAlike family a b :=
  .of_agreeOn (h.mono (by cases family <;> decide)).values.readAlike h
    (by cases family <;> decide)

theorem portType (h : Agree family a b) : Routing.portType a = Routing.portType b :=
  h.readAlike.portType

theorem domains (h : Agree .live a b) : routing.domains a = routing.domains b :=
  h.readAlike.domains

theorem ports (h : Agree .live a b) : Routing.ports a = Routing.ports b := h.readAlike.ports

/-- The idle routes are the same on chains that agree. -/
theorem idleUris (h : Agree .idle a b) : routing.idleUris a = routing.idleUris b :=
  h.readAlike.idleUris

end Agree

/-- The routes of a module are the same on chains that agree, those that are
kept included. Agreement covers the one more parameter that these are read
from. -/
theorem uris_congr (h : a.AgreeOn (· ∈ keptNames) b) (m : Module) :
    routing.uris m a = routing.uris m b := by
  have hlive : Agree .live a b := h.mono fun _ hkey => List.mem_cons_of_mem _ hkey
  exact hlive.readAlike.uris (h.mono (by simp)).values.readAlike m

end MultiTarget.Routing
