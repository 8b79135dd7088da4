import MultiTarget.Json.Entry
import MultiTarget.ScopeChain

/-!
# `MultiTarget.DeploymentOrder`: which module is deployed after which

A module may name modules that it is deployed after. Deployed one by one,
the next module is always the first declared one of those that are ready:
nothing that they are deployed after remains. Deployed in parallel, all
that are ready make up a wave. Either way the modules that never become
ready lie on a cycle or behind one.

Specification X.6.11. `DeploymentGraph.ofDescriptor` is `from_descriptor`,
`sequential` and `waves` have their names, and `DeploymentOrder.ofDescriptor`
is `deployment_order`.
-/

set_option autoImplicit false

namespace MultiTarget

/-- Modules and the order between them. Modules are known by their
positions, since names may repeat. -/
structure DeploymentGraph where
  /-- The names of the modules in order of declaration. -/
  names : List String
  /-- The pairs of positions of which the second is deployed after the
  first. -/
  edges : List (Nat × Nat)
  deriving DecidableEq, Repr

namespace DeploymentGraph

/-- The position of the last module with a name. Earlier modules of that name
are in no pair: what they declare goes to the last one. -/
def position? (names : List String) (name : String) : Option Nat :=
  -- The last one, as in a table of positions by names that later entries overwrite.
  (names.zipIdx.reverse.find? (·.1 == name)).map (·.2)

/-- The pairs of a module and the modules it names. The first name that no
module bears ends the list. -/
def edgesTo (names : List String) (name : String) : List String →
    Except ContentError (List (Nat × Nat))
  | [] => .ok []
  | dependency :: rest =>
    -- The module itself has a position too, since its name is among the names.
    match position? names dependency, position? names name with
    | some first, some second =>
      match edgesTo names name rest with
      | .ok edges => .ok ((first, second) :: edges)
      | .error error => .error error
    | _, _ => .error (.unknownDeployedAfter name dependency)

/-- The graph of a descriptor. A pair counts once, however often it is
declared: readiness would not tell, but a count of the pairs would. -/
def ofDescriptor (descriptor : Descriptor) : Except ContentError DeploymentGraph := do
  let names := descriptor.modules.map (·.name)
  let edges ← descriptor.modules.mapM fun m => do
    edgesTo names m.name (← (descriptor.moduleScopes m).texts "deployed-after")
  return ⟨names, edges.flatten.eraseDups⟩

/-- The positions of all modules. -/
def positions (graph : DeploymentGraph) : List Nat := List.range graph.names.length

/-- A module is deployed after none of the remaining ones. One that is deployed
after itself is never ready while it remains. -/
def isReady (graph : DeploymentGraph) (remaining : List Nat) (position : Nat) : Bool :=
  graph.edges.all fun (first, second) => second ≠ position || !remaining.contains first

/-- Modules in an order one by one, and those that never become ready. After
every module the search starts at the first declared one again, so a module
that has just become ready may overtake those behind it. -/
def orderFrom (graph : DeploymentGraph) (remaining : List Nat) : List Nat × List Nat :=
  match _h : remaining.find? (graph.isReady remaining) with
  | none => ([], remaining)
  | some next =>
    let (order, stuck) := orderFrom graph (remaining.erase next)
    (next :: order, stuck)
termination_by remaining.length
decreasing_by
  -- The module that was taken out was among those that remained.
  have hmem := List.mem_of_find?_eq_some _h
  have hpos := List.length_pos_of_mem hmem
  rw [List.length_erase_of_mem hmem]
  omega

/-- The remaining modules that are not ready. What becomes ready within a wave
waits for the next one. -/
def waiting (graph : DeploymentGraph) (remaining : List Nat) : List Nat :=
  remaining.filter fun position => !graph.isReady remaining position

/-- Fewer modules wait than remain if one is ready. -/
theorem length_waiting_lt {graph : DeploymentGraph} {remaining : List Nat}
    (h : remaining.any (graph.isReady remaining) = true) :
    (graph.waiting remaining).length < remaining.length := by
  obtain ⟨position, hmem, hready⟩ := List.any_eq_true.1 h
  exact List.length_filter_lt_length_iff_exists.2 ⟨position, hmem, by simp [hready]⟩

/-- Modules in waves, and those that never become ready. A wave is made up
before any of its modules is taken out. -/
def wavesFrom (graph : DeploymentGraph) (remaining : List Nat) : List (List Nat) × List Nat :=
  if _h : remaining.any (graph.isReady remaining) then
    let (waves, stuck) := wavesFrom graph (graph.waiting remaining)
    (remaining.filter (graph.isReady remaining) :: waves, stuck)
  else ([], remaining)
termination_by remaining.length
decreasing_by exact length_waiting_lt _h

/-- The name of the module at a position, which is below the number of modules
wherever this is asked. -/
def nameAt (graph : DeploymentGraph) (position : Nat) : String := graph.names.getD position ""

/-- The modules one by one. If any never becomes ready, all that do not are
named and no order is given, not even of the others. -/
def sequential (graph : DeploymentGraph) : Except ContentError (List String) :=
  match graph.orderFrom graph.positions with
  | (order, []) => .ok (order.map graph.nameAt)
  | (_, stuck) => .error (.deploymentOrderCycle (stuck.map graph.nameAt))

/-- The modules in waves. It fails as `sequential` does, for the same
descriptors and with the same names. -/
def waves (graph : DeploymentGraph) : Except ContentError (List (List String)) :=
  match graph.wavesFrom graph.positions with
  | (waves, []) => .ok (waves.map (·.map graph.nameAt))
  | (_, stuck) => .error (.deploymentOrderCycle (stuck.map graph.nameAt))

end DeploymentGraph

/-- Ways to deploy modules. -/
inductive DeploymentMode where
  | sequential
  | parallel
  deriving DecidableEq, Repr

/-- The name of a way to deploy. -/
def DeploymentMode.name : DeploymentMode → String
  | sequential => "sequential"
  | parallel => "parallel"

/-- Waves of modules, deployed one after the other. -/
structure DeploymentOrder where
  mode : DeploymentMode
  waves : List (List String)
  deriving DecidableEq, Repr

namespace DeploymentOrder

/-- All modules in order. -/
def modules (order : DeploymentOrder) : List String := order.waves.flatten

/-- How the modules of a descriptor are deployed. Only the scope of the
descriptor is asked, and a null is refused like any other value that is no
boolean. -/
def modeOf (descriptor : Descriptor) : Except ContentError DeploymentMode :=
  match descriptor.parameters.get? "enable-parallel-deployments" with
  | none | some (.bool false) => .ok .sequential
  | some (.bool true) => .ok .parallel
  | some _ => .error (.invalidType descriptor.id "enable-parallel-deployments" "boolean")

/-- The order of the modules of a descriptor. One by one, every module is a
wave of its own. -/
def ofDescriptor (descriptor : Descriptor) : Except ContentError DeploymentOrder := do
  let mode ← modeOf descriptor
  let graph ← DeploymentGraph.ofDescriptor descriptor
  match mode with
  | .parallel => return ⟨mode, ← graph.waves⟩
  | .sequential => return ⟨mode, (← graph.sequential).map ([·])⟩

/-- An order as JSON. -/
def toJson (order : DeploymentOrder) : Json := .obj <|
  Json.entry "mode" (.str order.mode.name) ++
  Json.entry "waves" (.arr (order.waves.map Json.ofStrings))

end DeploymentOrder

end MultiTarget
