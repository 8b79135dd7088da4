import Mathlib.Data.List.Nodup
import MultiTarget.Proofs.Support.Distinct
import MultiTarget.Proofs.Support.Outcome
import MultiTarget.Routing

/-!
# `MultiTarget.Proofs.RouteSources`: where ports and domains come from

The ports of a module and its domains are found in the same way. Those of
the routes that it lists go first. A module that lists no routes has those
that its parameters declare, and where there are none of either kind there
may be a default.

`Routing.DrawnFrom` has one constructor for each of the three sources, and
`outcome_portNumbers` and `outcome_domainNames` say that the two readers
follow it. So what holds of all ports or of all domains is shown source by
source: when an item can only have been declared (`mem_iff_declared`), and
when items have no repetitions under a map (`nodup_map_iff`). Only routes
have their repetitions erased, and before the map.
-/

set_option autoImplicit false

namespace MultiTarget.Routing

open Outcome (bind_eq_ok pure_eq_ok toOption_eq_some)

/-! ### Sources -/

/-- Items that are those of listed routes, else declared ones, else defaults.
What is declared, and the default, may fail to be read, and are then absent
here. -/
inductive DrawnFrom {α : Type} [BEq α] (listed : List String) (ofRoute : String → Option α)
    (declared default : Option (List α)) : List α → Prop where
  /-- Some of the listed routes have one. -/
  | routes {items : List α} (hitems : (listed.filterMap ofRoute).eraseDups = items)
      (hsome : items ≠ []) : DrawnFrom listed ofRoute declared default items
  /-- No routes are listed, and some items are declared. -/
  | parameters {items : List α} (hlisted : listed = []) (hdeclared : declared = some items)
      (hsome : items ≠ []) : DrawnFrom listed ofRoute declared default items
  /-- There are none of either kind. -/
  | default {items : List α} (hroutes : listed.filterMap ofRoute = [])
      (hdeclared : listed = [] → declared = some []) (hdefault : default = some items) :
      DrawnFrom listed ofRoute declared default items

namespace DrawnFrom

variable {α β : Type} [BEq α] {listed : List String} {ofRoute : String → Option α}
  {declared default : Option (List α)} {items : List α}

/-- Where no routes are listed, it can be read what is declared. Otherwise
there would have been an error and no items. -/
theorem exists_declared (h : DrawnFrom listed ofRoute declared default items)
    (hlisted : listed = []) : ∃ items, declared = some items := by
  cases h with
  | routes hitems hsome => exact absurd (by rw [← hitems, hlisted]; rfl) hsome
  | parameters _ hdeclared _ => exact ⟨_, hdeclared⟩
  | default _ hdeclared _ => exact ⟨[], hdeclared hlisted⟩

variable [LawfulBEq α]

/-- What a listed route has is among the items. So a route that has an item
keeps declarations and defaults out. -/
theorem mem_of_route (h : DrawnFrom listed ofRoute declared default items) {route : String}
    (hroute : route ∈ listed) {item : α} (hitem : ofRoute route = some item) : item ∈ items := by
  have hmem : item ∈ listed.filterMap ofRoute := List.mem_filterMap.2 ⟨route, hroute, hitem⟩
  cases h with
  | routes hitems hsome => exact hitems ▸ List.mem_eraseDups.2 hmem
  | parameters hlisted hdeclared hsome =>
      rw [hlisted] at hroute
      cases hroute
  | default hroutes hdeclared hdefault =>
      rw [hroutes] at hmem
      cases hmem

/-- What holds of the items of every source holds of all items. It is used for
bounds that are known of each source by itself. -/
theorem forall_mem (h : DrawnFrom listed ofRoute declared default items) {p : α → Prop}
    (hroute : ∀ route item, ofRoute route = some item → p item)
    (hdeclared : ∀ items, declared = some items → ∀ item ∈ items, p item)
    (hdefault : ∀ items, default = some items → ∀ item ∈ items, p item) :
    ∀ item ∈ items, p item := by
  intro item hitem
  cases h with
  | routes hitems hsome =>
      rw [← hitems, List.mem_eraseDups] at hitem
      obtain ⟨route, -, hroute'⟩ := List.mem_filterMap.1 hitem
      exact hroute route item hroute'
  | parameters hlisted hdeclared' hsome => exact hdeclared _ hdeclared' item hitem
  | default hroutes hdeclared' hdefault' => exact hdefault _ hdefault' item hitem

/-- What neither a route nor a default can be is an item exactly if no routes
are listed and it is declared. The case in mind is the port zero. -/
theorem mem_iff_declared (h : DrawnFrom listed ofRoute declared default items) {item : α}
    (hroute : ∀ route, ofRoute route ≠ some item)
    (hdefault : ∀ items, default = some items → item ∉ items) :
    item ∈ items ↔ listed = [] ∧ ∃ items, declared = some items ∧ item ∈ items := by
  cases h with
  | routes hitems hsome =>
      have hnone : item ∉ items := by
        intro hmem
        rw [← hitems, List.mem_eraseDups] at hmem
        obtain ⟨route, -, hroute'⟩ := List.mem_filterMap.1 hmem
        exact hroute route hroute'
      refine iff_of_false hnone ?_
      rintro ⟨rfl, -⟩
      exact hsome hitems.symm
  | parameters hlisted hdeclared hsome => simp [hlisted, hdeclared]
  | default hroutes hdeclared hdefault' =>
      refine iff_of_false (hdefault _ hdefault') ?_
      rintro ⟨hlisted, declared', hdeclared', hmem⟩
      obtain rfl := Option.some.inj ((hdeclared hlisted).symm.trans hdeclared')
      cases hmem

/-- Items have no repetitions under a map exactly if declared ones have none
and different items of listed routes stay different. Repetitions are erased
among the items of routes, and before the map, so these must not be merged by
it. -/
theorem nodup_map_iff (h : DrawnFrom listed ofRoute declared default items) (f : α → β)
    (hdefault : ∀ items, default = some items → (items.map f).Nodup) :
    (items.map f).Nodup ↔
      (listed = [] → ∀ items, declared = some items → (items.map f).Nodup) ∧
      ∀ x ∈ listed.filterMap ofRoute, ∀ y ∈ listed.filterMap ofRoute, f x = f y → x = y := by
  -- One case for each source. Where the first applies the condition on declarations is void, and
  -- vice versa.
  cases h with
  | routes hitems hsome =>
      have hlisted : listed ≠ [] := by
        rintro rfl
        exact hsome hitems.symm
      rw [← hitems, List.nodup_map_iff_inj_on (nodup_eraseDups _)]
      simp only [List.mem_eraseDups, hlisted, false_implies, true_and]
  | parameters hlisted hdeclared hsome => simp [hlisted, hdeclared]
  | default hroutes hdeclared hdefault' =>
      refine iff_of_true (hdefault _ hdefault')
        ⟨fun hlisted declared' hdeclared' => ?_, by simp [hroutes]⟩
      obtain rfl := Option.some.inj ((hdeclared hlisted).symm.trans hdeclared')
      exact List.nodup_nil

end DrawnFrom

/-! ### Ports -/

variable {chain : ScopeChain} {parameters : RouteParameters} {family : RouteFamily}

/-- A number is that of a port if it has no sign and 16 bits. Zero passes this
test. -/
theorem portNumber?_eq_some_iff {n : Int} {port : Nat} :
    portNumber? n = some port ↔ n = port ∧ port ≤ 65535 := by
  unfold portNumber?
  split
  · rename_i hrange
    simp at hrange ⊢
    omega
  · rename_i hrange
    simp at hrange ⊢
    omega

/-- Integers are the numbers of ports exactly if each of them is one. One that
is none spoils all of them. -/
theorem mapM_portNumber?_eq_some_iff {integers : List Int} {ports : List Nat} :
    integers.mapM portNumber? = some ports ↔
      integers = ports.map Nat.cast ∧ ∀ port ∈ ports, port ≤ 65535 := by
  -- On the integers, with the ports that stand for them.
  induction integers generalizing ports with
  | nil => cases ports <;> simp
  | cons n rest ih =>
      rw [List.mapM_cons]
      cases ports with
      | nil => simp [Option.bind_eq_some_iff]
      | cons port ports =>
          simp only [Option.bind_eq_bind, Option.bind_eq_some_iff, portNumber?_eq_some_iff, ih,
            Option.pure_def, Option.some.injEq, List.cons.injEq, List.map_cons,
            List.forall_mem_cons]
          constructor
          · rintro ⟨_, ⟨hn, hport⟩, _, ⟨hrest, hports⟩, rfl, rfl⟩
            exact ⟨⟨hn, hrest⟩, hport, hports⟩
          · rintro ⟨⟨hn, hrest⟩, hport, hports⟩
            exact ⟨port, ⟨hn, hport⟩, ports, ⟨hrest, hports⟩, rfl, rfl⟩

/-- The ports that parameters declare, or nothing if they are no integers or if
one of them is no port. -/
def declaredPorts? (chain : ScopeChain) (parameters : RouteParameters) : Option (List Nat) :=
  (chain.pairIntegers parameters.port parameters.ports).toOption.bind (·.mapM portNumber?)

/-- Ports that are declared are the integers of the parameters, each of them
the number of a port. So one may reason about integers as they are written. -/
theorem declaredPorts?_eq_some_iff {ports : List Nat} :
    declaredPorts? chain parameters = some ports ↔
      chain.pairIntegers parameters.port parameters.ports = .ok (ports.map Nat.cast) ∧
        ∀ port ∈ ports, port ≤ 65535 := by
  unfold declaredPorts?
  simp only [Option.bind_eq_some_iff, toOption_eq_some, mapM_portNumber?_eq_some_iff]
  constructor
  · rintro ⟨integers, hintegers, rfl, hports⟩
    exact ⟨hintegers, hports⟩
  · rintro ⟨hintegers, hports⟩
    exact ⟨_, hintegers, rfl, hports⟩

/-- A default port is one port at most, and never zero. Zero stands for no
default there. -/
theorem outcome_defaultPort {ports : List Nat} (h : defaultPort chain parameters = .ok ports) :
    ports = [] ∨ ∃ port, ports = [port] ∧ 1 ≤ port ∧ port ≤ 65535 := by
  unfold defaultPort at h
  obtain ⟨integer?, -, h⟩ := bind_eq_ok.1 h
  split at h
  · exact .inl (pure_eq_ok.1 h).symm
  · exact .inl (pure_eq_ok.1 h).symm
  · rename_i n hzero
    cases hport : portNumber? n with
    | none =>
        rw [hport] at h
        cases h
    | some port =>
        rw [hport] at h
        obtain ⟨rfl, hlimit⟩ := portNumber?_eq_some_iff.1 hport
        -- Zero stands for no default, and has been dealt with.
        have hpos : port ≠ 0 := by
          rintro rfl
          exact hzero rfl
        exact .inr ⟨port, (pure_eq_ok.1 h).symm, by omega, hlimit⟩

/-- The ports of a module come from its routes, its parameters or a default. No
later proof opens the reader. -/
theorem outcome_portNumbers {numbers : List Nat}
    (h : portNumbers chain parameters = .ok numbers) :
    ∃ listed, explicitRoutes chain parameters = .ok listed ∧
      DrawnFrom listed Uri.portOf? (declaredPorts? chain parameters)
        (defaultPort chain parameters).toOption numbers := by
  unfold portNumbers at h
  obtain ⟨listed, hlisted, h⟩ := bind_eq_ok.1 h
  refine ⟨listed, hlisted, ?_⟩
  -- Listed routes are asked for their ports, and only without any for a default; declarations
  -- count where none is listed.
  cases listed with
  | nil =>
      obtain ⟨integers, hintegers, h⟩ := bind_eq_ok.1 h
      cases hports : integers.mapM portNumber? with
      | none =>
          rw [hports] at h
          cases h
      | some ports =>
          have hdeclared : declaredPorts? chain parameters = some ports := by
            unfold declaredPorts?
            rw [hintegers]
            exact hports
          rw [hports] at h
          cases ports with
          | nil => exact .default rfl (fun _ => hdeclared) (toOption_eq_some.2 h)
          | cons port rest =>
              obtain rfl := pure_eq_ok.1 h
              exact .parameters rfl hdeclared (List.cons_ne_nil _ _)
  | cons route rest =>
      obtain ⟨ports, hports, h⟩ := bind_eq_ok.1 h
      have hroutes := pure_eq_ok.1 hports
      cases ports with
      | nil =>
          exact .default (eraseDups_eq_nil_iff.1 hroutes) nofun (toOption_eq_some.2 h)
      | cons port ports =>
          obtain rfl := pure_eq_ok.1 h
          exact .routes hroutes (List.cons_ne_nil _ _)

/-! ### Domains -/

/-- The domains of a module come from its routes, its parameters or a default.
A default is one domain at most. -/
theorem outcome_domainNames {names : List String} (h : domainNames chain family = .ok names) :
    ∃ listed, explicitRoutes chain family.parameters = .ok listed ∧
      DrawnFrom listed Uri.domainOf?
        (chain.pairTexts family.parameters.domain family.parameters.domains).toOption
        ((defaultDomain chain family).toOption.map Option.toList) names := by
  unfold domainNames at h
  obtain ⟨listed, hlisted, h⟩ := bind_eq_ok.1 h
  refine ⟨listed, hlisted, ?_⟩
  have hdefault : ∀ {names : List String},
      (do return (← defaultDomain chain family).toList) = Except.ok names →
        (defaultDomain chain family).toOption.map Option.toList = some names := by
    intro names hnames
    obtain ⟨domain?, hdomain, hnames⟩ := bind_eq_ok.1 hnames
    rw [hdomain, ← pure_eq_ok.1 hnames]
    rfl
  cases listed with
  | nil =>
      obtain ⟨declared, hdeclared, h⟩ := bind_eq_ok.1 h
      have hdeclared' := toOption_eq_some.2 hdeclared
      cases declared with
      | nil => exact .default rfl (fun _ => hdeclared') (hdefault h)
      | cons domain rest =>
          obtain rfl := pure_eq_ok.1 h
          exact .parameters rfl hdeclared' (List.cons_ne_nil _ _)
  | cons route rest =>
      obtain ⟨domains, hdomains, h⟩ := bind_eq_ok.1 h
      have hroutes := pure_eq_ok.1 hdomains
      cases domains with
      | nil => exact .default (eraseDups_eq_nil_iff.1 hroutes) nofun (hdefault h)
      | cons domain domains =>
          obtain rfl := pure_eq_ok.1 h
          exact .routes hroutes (List.cons_ne_nil _ _)

end MultiTarget.Routing
