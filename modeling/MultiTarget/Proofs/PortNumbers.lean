import MultiTarget.Proofs.Address
import MultiTarget.Proofs.RouteSources
import MultiTarget.Proofs.SettledRoutes
import MultiTarget.Proofs.Support.Plain

/-!
# `MultiTarget.Proofs.PortNumbers`: zero as a port

A port has a number from 1 to 65535. Where a number is read from a route,
from a default or from a parameter, one that is too large is refused
(`le_of_mem_portNumbers`). Zero is refused in routes and stands for no
default, but nothing is said of it where parameters declare ports. So it is
one of the ports of a module exactly if it is declared
(`zero_mem_portNumbers_iff`).

A module whose routes are told apart by port (`OverPorts`) has a route over
each of its ports. Neither the scheme in front nor the values that are put in
touch what stands between the last colon and the path
(`Address.substitute_atPort`), so the ports can be told from the routes again
(`Address.port_inj`). `ports_real_iff` says both of the ports and of the routes
when zero is among them.
-/

set_option autoImplicit false

namespace MultiTarget

open Outcome (bind_eq_ok pure_eq_ok toOption_eq_some)
open Template (substitute)

/-! ### Ports of routes -/

namespace Uri

/-- The port of a route is never zero and has at most 16 bits. A number outside
of these bounds makes it a route without a port. -/
theorem portOf?_bounds {route : String} {port : Nat} (h : portOf? route = some port) :
    1 ≤ port ∧ port ≤ 65535 := by
  rw [portOf?_eq] at h
  obtain ⟨parts, -, hport⟩ := Option.bind_eq_some_iff.1 h
  obtain ⟨hread, hpos⟩ := Option.filter_eq_some_iff.1 hport
  obtain ⟨-, hlimit⟩ := Option.filter_eq_some_iff.1 hread
  simp at hpos hlimit
  omega

namespace Address

/-- A route over a port tells which port it is, if its path is known. The two
may have different domains in front. -/
theorem port_inj {front front' path : String} {port port' : Nat}
    (h : (atPort front port).text ++ path = (atPort front' port').text ++ path) :
    port = port' := by
  have htext : (atPort front port).text = (atPort front' port').text :=
    (String.append_left_inj path).1 h
  have hchars := congrArg String.toList htext
  rw [toList_text_atPort, toList_text_atPort] at hchars
  -- The last colon stands in front of the digits, whatever is in front of it.
  have hcut : ∀ (before : List Char) (n : Nat),
      Text.cutLast? [':'] (before ++ ':' :: Nat.toDigits 10 n)
        = some (before, Nat.toDigits 10 n) := fun before n =>
    Text.cutLast?_eq_some_iff.2 ⟨rfl, Text.notMem_toDigits (by decide) n⟩
  have hdigits : Nat.toDigits 10 port = Nat.toDigits 10 port' := by
    have hparts := (hcut front.toList port).symm.trans (hchars ▸ hcut front'.toList port')
    exact congrArg Prod.snd (Option.some.inj hparts)
  calc port = Nat.ofDigitChars 10 (Nat.toDigits 10 port) 0 := Nat.ofDigitChars_ten_toDigits.symm
    _ = Nat.ofDigitChars 10 (Nat.toDigits 10 port') 0 := by rw [hdigits]
    _ = port' := Nat.ofDigitChars_ten_toDigits

/-- A port stays as it is when values are put into a route. A token has no
colon and digits have no brace, so no token reaches over the port. -/
theorem substitute_atPort (values : Placeholder.Values) (front path : String) (port : Nat) :
    substitute values ((atPort front port).text ++ path)
      = (atPort (substitute values front) port).text ++ substitute values path := by
  have htoken := Template.delimiter_notMem_token ':' (by simp)
  have hdigits : '\x7b' ∉ Nat.toDigits 10 port := Text.notMem_toDigits (by decide) port
  rw [← String.toList_inj, Template.toList_substitute]
  simp only [String.toList_append, toList_text_atPort, Template.toList_substitute,
    List.append_assoc, List.cons_append]
  rw [Template.resolveFrom_append_cons htoken (Nat.zero_le _),
    Template.resolveFrom_append_of_notMem hdigits]

/-- A scheme goes in front of an address as a part of its domain would. So
routes with a scheme need no case of their own. -/
theorem withScheme_atPort (scheme domain path : String) (port : Nat) :
    withScheme scheme ((atPort domain port).text ++ path)
      = (atPort (withScheme scheme domain) port).text ++ path := by
  rw [← String.toList_inj]
  simp [withScheme, toList_text_atPort]

end Address

end Uri

namespace Routing

open Uri (Address)

variable {routing : Routing} {chain : ScopeChain} {parameters : RouteParameters}
  {family : RouteFamily}

/-! ### Numbers of ports -/

/-- Zero stands among the ports that a module without routes of its own
declares. Where routes are listed, declared ports are not looked at. -/
def DeclaresZero (chain : ScopeChain) (parameters : RouteParameters) : Prop :=
  explicitRoutes chain parameters = .ok [] ∧
    ∃ integers, chain.pairIntegers parameters.port parameters.ports = .ok integers ∧ 0 ∈ integers

/-- All ports have 16 bits, from whichever of the three sources they are:
routes, declarations or the default. -/
theorem le_of_mem_portNumbers {numbers : List Nat}
    (h : portNumbers chain parameters = .ok numbers) : ∀ port ∈ numbers, port ≤ 65535 := by
  obtain ⟨listed, hlisted, hdrawn⟩ := outcome_portNumbers h
  -- The three sources, one after the other.
  refine hdrawn.forall_mem (fun route port hport => (Uri.portOf?_bounds hport).2)
    (fun ports hports => (declaredPorts?_eq_some_iff.1 hports).2) fun ports hports => ?_
  rcases outcome_defaultPort (toOption_eq_some.1 hports) with rfl | ⟨port, rfl, -, hlimit⟩
  · simp
  · simpa using hlimit

/-- Zero is a port exactly if it is declared. Routes and defaults refuse it, so
that declarations are its only source. -/
theorem zero_mem_portNumbers_iff {numbers : List Nat}
    (h : portNumbers chain parameters = .ok numbers) :
    0 ∈ numbers ↔ DeclaresZero chain parameters := by
  obtain ⟨listed, hlisted, hdrawn⟩ := outcome_portNumbers h
  have hroute : ∀ route, Uri.portOf? route ≠ some 0 := fun route hport => by
    simpa using (Uri.portOf?_bounds hport).1
  have hdefault : ∀ ports, (defaultPort chain parameters).toOption = some ports → 0 ∉ ports := by
    intro ports hports
    rcases outcome_defaultPort (toOption_eq_some.1 hports) with rfl | ⟨port, rfl, hpos, -⟩
    · simp
    · simp
      omega
  rw [hdrawn.mem_iff_declared hroute hdefault]
  unfold DeclaresZero
  rw [hlisted, Except.ok.injEq]
  refine and_congr_right fun hnil => ⟨?_, ?_⟩
  · rintro ⟨ports, hports, hzero⟩
    exact ⟨_, (declaredPorts?_eq_some_iff.1 hports).1, List.mem_map.2 ⟨0, hzero, rfl⟩⟩
  · rintro ⟨integers, hintegers, hzero⟩
    obtain ⟨ports, hports⟩ := hdrawn.exists_declared hnil
    obtain rfl := Except.ok.inj (hintegers.symm.trans (declaredPorts?_eq_some_iff.1 hports).1)
    exact ⟨ports, hports, by simpa using hzero⟩

/-! ### Routes over ports -/

/-- The routes of a family are told apart by port: there are ports, and all
routing is by port, or the module does not speak HTTP, or there is no host in
front of a domain. This spells out when routes are assembled over ports. -/
structure OverPorts (routing : Routing) (chain : ScopeChain) (family : RouteFamily) : Prop where
  unlisted : explicitRoutes chain family.parameters = .ok []
  ports : portNumbers chain family.parameters ≠ .ok []
  reason : routing.options.portBasedRouting = true ∨
    (∃ portType, Routing.portType chain = .ok portType ∧ portType ≠ .http) ∨
    hosts chain family.parameters = .ok [] ∨ domainNames chain family = .ok []

/-- A route ends in a port and a path. The path is given, since a port is only
where it is in front of the path. -/
def EndsAtPort (port : Nat) (path route : String) : Prop :=
  ∃ front, route = (Address.atPort front port).text ++ path

/-- Routes that are assembled by port are those of each domain with each port.
Hosts have no part in them. -/
theorem mem_assemble_byPort_iff {hosts domains : List String} {numbers : List Nat}
    {path route : String} :
    route ∈ assemble true hosts domains numbers path ↔
      ∃ domain ∈ domains, ∃ port ∈ numbers,
        route = (Address.atPort domain port).text ++ path := by
  simp [assemble, Address.text, eq_comm, toString, String.append_assoc]

/-- A scheme in front of such routes is one in front of their domains. The
options decide whether there is one, and either way there are fronts, each with
every port. -/
theorem exists_fronts {hosts domains : List String} {numbers : List Nat}
    {scheme path : String} {routes : List String}
    (h : (if routing.options.flavour.includesProtocol then
        return (assemble true hosts domains numbers path).eraseDups.map (Uri.withScheme scheme)
      else return (assemble true hosts domains numbers path).eraseDups :
        Except ContentError (List String)) = .ok routes) :
    ∃ fronts : List String, ∀ route, route ∈ routes ↔
      ∃ front ∈ fronts, ∃ port ∈ numbers, route = (Address.atPort front port).text ++ path := by
  split at h
  · refine ⟨domains.map (Uri.withScheme scheme), fun route => ?_⟩
    rw [← pure_eq_ok.1 h]
    simp only [List.mem_map, List.mem_eraseDups, mem_assemble_byPort_iff]
    constructor
    · rintro ⟨_, ⟨domain, hdomain, port, hport, rfl⟩, rfl⟩
      exact ⟨_, ⟨domain, hdomain, rfl⟩, port, hport, Address.withScheme_atPort ..⟩
    · rintro ⟨_, ⟨domain, hdomain, rfl⟩, port, hport, rfl⟩
      exact ⟨_, ⟨domain, hdomain, port, hport, rfl⟩, Address.withScheme_atPort ..⟩
  · refine ⟨domains, fun route => ?_⟩
    rw [← pure_eq_ok.1 h, List.mem_eraseDups, mem_assemble_byPort_iff]

namespace OverPorts

/-- Routes that are told apart by port are assembled over every port. Without a
domain the hosts stand in for domains and have ports as well. -/
theorem outcome_assembledRoutes (h : routing.OverPorts chain family) {routes : List String}
    {path : Option String} (hpath : chain.text? "route-path" = .ok path)
    (hroutes : routing.assembledRoutes chain family = .ok routes) :
    ∃ (numbers : List Nat) (fronts : List String),
      portNumbers chain family.parameters = .ok numbers ∧
      ∀ route, route ∈ routes ↔ ∃ front ∈ fronts, ∃ port ∈ numbers,
        route = (Address.atPort front port).text ++ path.getD "" := by
  unfold assembledRoutes at hroutes
  simp only [bind_eq_ok] at hroutes
  obtain ⟨hosts, hhosts, domains, hdomains, numbers, hnumbers, portType, hportType, scheme, -,
    path', hpath', hroutes⟩ := hroutes
  obtain rfl := Except.ok.inj (hpath.symm.trans hpath')
  have hports : numbers.isEmpty = false := by
    cases numbers with
    | nil => exact absurd hnumbers h.ports
    | cons port rest => rfl
  -- Hosts that stand in for domains leave no host in front of them.
  obtain ⟨used, roots, hplaced, hbyPort⟩ : ∃ used roots : List String,
      (if domains.isEmpty then ([], hosts) else (hosts, domains)) = (used, roots) ∧
      ((routing.options.portBasedRouting || used.isEmpty || portType != .http)
        && !numbers.isEmpty) = true := by
    cases domains with
    | nil => exact ⟨[], hosts, rfl, by simp [hports]⟩
    | cons domain rest =>
        refine ⟨hosts, domain :: rest, rfl, ?_⟩
        rcases h.reason with hrouting | ⟨portType', hportType', hhttp⟩ | hhosts' | hdomains'
        · simp [hports, hrouting]
        · obtain rfl := Except.ok.inj (hportType.symm.trans hportType')
          simp [hports, hhttp]
        · obtain rfl := Except.ok.inj (hhosts.symm.trans hhosts')
          simp [hports]
        · cases hdomains.symm.trans hdomains'
  rw [hplaced] at hroutes
  dsimp only at hroutes
  rw [hbyPort] at hroutes
  obtain ⟨fronts, hfronts⟩ := exists_fronts hroutes
  exact ⟨numbers, fronts, hnumbers, hfronts⟩

/-- The same with values put in, for the routes of the family: there are none,
or there is one over every port. Putting values in changes fronts and the path,
but no port. -/
theorem outcome_routes (h : routing.OverPorts chain family) {routes : List String}
    {path : Option String} (hpath : chain.text? "route-path" = .ok path)
    (hroutes : routing.routes chain family = .ok routes) :
    routes = [] ∨ ∃ (numbers : List Nat) (fronts : List String),
      portNumbers chain family.parameters = .ok numbers ∧
      ∀ route, route ∈ routes ↔ ∃ front ∈ fronts, ∃ port ∈ numbers,
        route = (Address.atPort front port).text ++ substitute routing.values (path.getD "") := by
  unfold Routing.routes at hroutes
  obtain ⟨noRoute, hnoRoute, hroutes⟩ := bind_eq_ok.1 hroutes
  -- With the switch there are no routes; without it they are assembled, as none is listed.
  cases noRoute with
  | true => exact .inl (pure_eq_ok.1 hroutes).symm
  | false =>
      obtain ⟨listed, hlisted, hroutes⟩ := bind_eq_ok.1 hroutes
      obtain rfl := Except.ok.inj (h.unlisted.symm.trans hlisted)
      obtain ⟨assembled, hassembled, hroutes⟩ := bind_eq_ok.1 hroutes
      obtain ⟨numbers, fronts, hnumbers, hfronts⟩ := h.outcome_assembledRoutes hpath hassembled
      refine .inr ⟨numbers, fronts.map (substitute routing.values), hnumbers, fun route => ?_⟩
      rw [← pure_eq_ok.1 hroutes, List.mem_eraseDups, List.mem_map]
      simp only [hfronts, List.mem_map]
      constructor
      · rintro ⟨_, ⟨front, hfront, port, hport, rfl⟩, rfl⟩
        exact ⟨_, ⟨front, hfront, rfl⟩, port, hport, Address.substitute_atPort ..⟩
      · rintro ⟨_, ⟨front, hfront, rfl⟩, port, hport, rfl⟩
        exact ⟨_, ⟨front, hfront, port, hport, rfl⟩, Address.substitute_atPort ..⟩

end OverPorts

/-! ### Results -/

/-- **When a port is none.** Ports have 16 bits, and zero is among them exactly
if it is declared in a module that lists no routes: routes and defaults never
have it. Routes that are told apart by port end in such a number, and in zero
exactly if it is declared for them.

Routes may be missing although zero is declared, with the switch against routes
or without any domain; this is the other side of the disjunction. -/
theorem ports_real_iff (routing : Routing) (chain : ScopeChain) :
    (∀ ports, Routing.ports chain = .ok ports →
      (∀ p ∈ ports, p.port ≤ 65535) ∧
      ((∀ p ∈ ports, 1 ≤ p.port) ↔ ¬ DeclaresZero chain RouteFamily.live.parameters)) ∧
    (∀ family routes path, routing.OverPorts chain family →
      chain.text? "route-path" = .ok path → routing.routes chain family = .ok routes →
      let path := substitute routing.values (path.getD "")
      (∀ route ∈ routes, ∃ port, port ≤ 65535 ∧ EndsAtPort port path route) ∧
      ((∀ route ∈ routes, ¬ EndsAtPort 0 path route) ↔
        routes = [] ∨ ¬ DeclaresZero chain family.parameters)) := by
  constructor
  · intro ports hports
    unfold Routing.ports at hports
    obtain ⟨portType, -, hports⟩ := bind_eq_ok.1 hports
    obtain ⟨numbers, hnumbers, hports⟩ := bind_eq_ok.1 hports
    obtain rfl := pure_eq_ok.1 hports
    rw [List.forall_mem_map, List.forall_mem_map, ← zero_mem_portNumbers_iff hnumbers]
    refine ⟨le_of_mem_portNumbers hnumbers, fun hpos hzero => ?_, fun hzero port hport => ?_⟩
    · exact Nat.not_succ_le_zero 0 (hpos 0 hzero)
    · exact Nat.pos_of_ne_zero fun heq => hzero (heq ▸ hport)
  · intro family routes path hover hpath hroutes
    dsimp only
    rcases hover.outcome_routes hpath hroutes with rfl | ⟨numbers, fronts, hnumbers, hends⟩
    · simp
    refine ⟨fun route hroute => ?_, fun hnone => ?_, ?_⟩
    · obtain ⟨front, -, port, hport, hroute'⟩ := (hends route).1 hroute
      exact ⟨port, le_of_mem_portNumbers hnumbers port hport, front, hroute'⟩
    · refine or_iff_not_imp_left.2 fun hsome hzero => ?_
      -- Where there is a route, there is one over each port with what stands in front of its own.
      obtain ⟨route, hroute⟩ := List.exists_mem_of_ne_nil routes hsome
      obtain ⟨front, hfront, -⟩ := (hends route).1 hroute
      have hmem := (zero_mem_portNumbers_iff hnumbers).2 hzero
      exact hnone _ ((hends _).2 ⟨front, hfront, 0, hmem, rfl⟩) ⟨front, rfl⟩
    · rintro (rfl | hzero) route hroute ⟨front, rfl⟩
      · cases hroute
      · obtain ⟨front', -, port, hport, heq⟩ := (hends _).1 hroute
        obtain rfl := Address.port_inj heq
        exact hzero ((zero_mem_portNumbers_iff hnumbers).1 hport)

/-- A module whose declared port is none. It speaks TCP, so its route is told
apart by this port. -/
def portless : ScopeChain :=
  ⟨"gateway", [.ofList [("tcp", .bool true), ("domain", .str "tcp.example.com"),
    ("port", .int 0)]]⟩

/-- Zero is returned as a port, and the route of the module ends in it. -/
theorem ports_real_iff_portless :
    let routing : Routing := ⟨.standard, Target.plain.placeholderValues, none⟩
    Routing.ports portless = .ok [⟨0, .tcp⟩] ∧
    DeclaresZero portless RouteFamily.live.parameters ∧
    routing.OverPorts portless .live ∧ portless.text? "route-path" = .ok none ∧
    routing.routes portless .live = .ok ["tcp.example.com:0"] ∧
    ∃ route ∈ ["tcp.example.com:0"], EndsAtPort 0 (substitute routing.values "") route := by
  intro routing
  have hports : Routing.ports portless = .ok [⟨0, .tcp⟩] := by decide +kernel
  have hlisted : explicitRoutes portless RouteFamily.live.parameters = .ok [] := by
    decide +kernel
  have hnumbers : portNumbers portless RouteFamily.live.parameters ≠ .ok [] := by decide +kernel
  have hover : routing.OverPorts portless .live :=
    ⟨hlisted, hnumbers, .inr (.inl ⟨.tcp, by decide +kernel, by decide⟩)⟩
  have hpath : portless.text? "route-path" = .ok none := by decide +kernel
  have hroutes : routing.routes portless .live = .ok ["tcp.example.com:0"] := by decide +kernel
  obtain ⟨hnumbered, hrouted⟩ := ports_real_iff routing portless
  have hzero : DeclaresZero portless RouteFamily.live.parameters := by
    by_contra hnone
    exact absurd ((hnumbered _ hports).2.2 hnone ⟨0, .tcp⟩ List.mem_cons_self) (by decide)
  refine ⟨hports, hzero, hover, hpath, hroutes, ?_⟩
  by_contra hnone
  rcases (hrouted .live _ none hover hpath hroutes).2.1 fun route hroute hends =>
    hnone ⟨route, hroute, hends⟩ with hnil | hdeclared
  · cases hnil
  · exact hdeclared hzero

end Routing

end MultiTarget
