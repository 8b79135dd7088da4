import MultiTarget.Proofs.Agreement.Routing
import MultiTarget.Proofs.IdleRoutes

/-!
# `MultiTarget.Proofs.RouteFamilies`: neither family of routes sees the other

Live and idle routes go through the same steps, which read their parameters
under names from a table. What a step reads besides belongs to both
families, the default domain of live routes among it: idle routes may fall
back on it. All other parameters of a family are its own
(`RouteFamily.own`), and `families_independent` says that the other family
has the same results, errors included, whatever their values are.
-/

set_option autoImplicit false

namespace MultiTarget

/-- The parameters of a family that the other one never reads. Among those of
live routes the default domain is missing, since idle routes may fall back on
it. -/
def RouteFamily.own : RouteFamily → List String
  | live => live.parameters.assigned ++ [live.parameters.defaultHost, "keep-existing-routes"]
  | idle => idle.parameters.names

namespace Routing

/-- **Neither family sees the other.** On chains that differ in parameters of
idle routes alone, the live routes of a module are the same, and so are its
domains, its ports and their type. On chains that differ in parameters of live
routes alone, the idle routes are the same.

Results are equal with their errors, so an ill-shaped parameter of one family
is no error of the other. -/
theorem families_independent (routing : Routing) (m : Module) (a b : ScopeChain) :
    (a.AgreeOn (· ∉ RouteFamily.idle.own) b →
      routing.uris m a = routing.uris m b ∧ routing.domains a = routing.domains b ∧
        ports a = ports b ∧ portType a = portType b) ∧
    (a.AgreeOn (· ∉ RouteFamily.live.own) b → routing.idleUris a = routing.idleUris b) := by
  constructor
  · intro h
    have hkept : a.AgreeOn (· ∈ keptNames) b := h.mono (by decide)
    have hlive : Agree .live a b := hkept.mono fun _ hkey => List.mem_cons_of_mem _ hkey
    exact ⟨uris_congr hkept m, hlive.domains, hlive.ports, hlive.portType⟩
  · intro h
    -- The default domain of live routes is read here too, and it is not their own.
    have hidle : Agree .idle a b := h.mono (by decide)
    exact hidle.idleUris

/-- A host under the default domain, with settings of one family put on top.
The settings are left open, as both families are to be tried. -/
def storefront (settings : List (String × Json)) : ScopeChain :=
  ⟨"web", [.ofList [("default-domain", .str "apps.example.com")],
    (OrderedMap.ofList [("host", .str "shop")]).insertAll settings]⟩

/-- Storefronts agree where their settings are not looked at, whatever values
these have. -/
theorem agreeOn_storefront {p : String → Prop} {settings : List (String × Json)}
    (h : ∀ e ∈ settings, ¬ p e.1) : (storefront []).AgreeOn p (storefront settings) :=
  ⟨rfl, .cons (.refl p _) (.cons ((OrderedMap.AgreeOn.refl p _).insertAll_right_of_notMem h) .nil)⟩

/-- An idle host that is no text spoils the idle routes and nothing else. A
live port that is none spoils the live routes and nothing else. -/
theorem families_independent_storefront :
    let routing : Routing := ⟨.standard, Target.plain.placeholderValues, none⟩
    let m := Module.plain "web" ∅
    let idleSpoilt := storefront [("idle-host", .int 7), ("default-idle-port", .int 5000)]
    let liveSpoilt := storefront [("port", .int 70000), ("keep-existing-routes", .str "yes")]
    (storefront []).AgreeOn (· ∉ RouteFamily.idle.own) idleSpoilt ∧
    (storefront []).AgreeOn (· ∉ RouteFamily.live.own) liveSpoilt ∧
    routing.uris m idleSpoilt = .ok ["shop.apps.example.com"] ∧
    routing.idleUris idleSpoilt = .error (.invalidType "web" "idle-hosts" "list of strings") ∧
    routing.idleUris liveSpoilt = .ok ["apps.example.com"] ∧
    routing.uris m liveSpoilt = .error (.invalidType "web" "ports" "port number") := by
  intro routing m idleSpoilt liveSpoilt
  have hidle : (storefront []).AgreeOn (· ∉ RouteFamily.idle.own) idleSpoilt :=
    agreeOn_storefront (by decide)
  have hlive : (storefront []).AgreeOn (· ∉ RouteFamily.live.own) liveSpoilt :=
    agreeOn_storefront (by decide)
  refine ⟨hidle, hlive, ?_, by decide +kernel, ?_, by decide +kernel⟩
  · rw [← ((families_independent routing m _ idleSpoilt).1 hidle).1]
    decide +kernel
  · rw [← (families_independent routing m _ liveSpoilt).2 hlive]
    decide +kernel

end Routing

end MultiTarget
