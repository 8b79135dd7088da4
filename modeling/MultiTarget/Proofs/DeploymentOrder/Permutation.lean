import MultiTarget.Proofs.DeploymentOrder

/-!
# `MultiTarget.Proofs.DeploymentOrder.Permutation`: nothing is lost or repeated

A run takes ready positions away from those that remain, one by one or a
wave at a time. What it has taken and what it leaves are, together, what
remained at its start (`orderFrom_perm`, `wavesFrom_perm`). So an order
that is found has every module of the descriptor as often as it is
declared (`DeploymentOrder.modules_perm`). No distinct names are needed,
since a run knows modules by their positions.
-/

set_option autoImplicit false

namespace MultiTarget

open List (Perm)

namespace DeploymentGraph

variable {graph : DeploymentGraph}

/-! ### What a run takes and what it leaves -/

/-- One by one, no position is lost or repeated: what was taken and what is
left are, together, what there was. -/
theorem orderFrom_perm (graph : DeploymentGraph) (remaining : List Nat) :
    ((graph.orderFrom remaining).1 ++ (graph.orderFrom remaining).2).Perm remaining := by
  fun_induction orderFrom graph remaining with
  | case1 remaining hnone => exact Perm.refl remaining
  | case2 remaining next hnext order stuck hrun ih =>
      rw [hrun] at ih
      have hmem : next ∈ remaining := List.mem_of_find?_eq_some hnext
      have hrest : (next :: (order ++ stuck)).Perm (next :: remaining.erase next) :=
        Perm.cons next ih
      exact hrest.trans (List.perm_cons_erase hmem).symm

/-- In waves, no position is lost or repeated. A wave and what waits are both
filtered out of what remains, by opposite tests. -/
theorem wavesFrom_perm (graph : DeploymentGraph) (remaining : List Nat) :
    ((graph.wavesFrom remaining).1.flatten ++ (graph.wavesFrom remaining).2).Perm remaining := by
  fun_induction wavesFrom graph remaining with
  | case1 remaining hsome waves stuck hrun ih =>
      rw [hrun] at ih
      let ready := remaining.filter (graph.isReady remaining)
      have hwave : (ready ++ (waves.flatten ++ stuck)).Perm (ready ++ graph.waiting remaining) :=
        ih.append_left ready
      -- A wave and what waits are the two halves of what remains.
      have hsplit : (ready ++ graph.waiting remaining).Perm remaining :=
        List.filter_append_perm (graph.isReady remaining) remaining
      show ((ready ++ waves.flatten) ++ stuck).Perm remaining
      rw [List.append_assoc]
      exact hwave.trans hsplit
  | case2 remaining hnone => exact Perm.refl remaining

/-! ### Orders that are found -/

/-- One by one, every module has its place. An order that is found leaves
nothing, so all positions were taken. -/
theorem sequential_perm {names : List String} (h : graph.sequential = .ok names) :
    names.Perm graph.names := by
  have hrun := graph.orderFrom_perm graph.positions
  unfold sequential at h
  split at h
  · rename_i order horder
    cases h
    rw [horder, List.append_nil] at hrun
    rw [← map_nameAt_positions graph]
    exact hrun.map graph.nameAt
  · cases h

/-- In waves, every module has its place in one of them, and none of them has a
name of no module. -/
theorem waves_perm {waves : List (List String)} (h : graph.waves = .ok waves) :
    waves.flatten.Perm graph.names := by
  have hrun := graph.wavesFrom_perm graph.positions
  unfold DeploymentGraph.waves at h
  split at h
  · rename_i found hfound
    cases h
    rw [hfound, List.append_nil] at hrun
    rw [← map_nameAt_positions graph, ← List.map_flatten]
    exact hrun.map graph.nameAt
  · cases h

end DeploymentGraph

/-- An order has the modules of the descriptor, each as often as it is
declared, in whatever mode it was found. A model builds its applications along
this list. -/
theorem DeploymentOrder.modules_perm {descriptor : Descriptor} {order : DeploymentOrder}
    (h : DeploymentOrder.ofDescriptor descriptor = .ok order) :
    order.modules.Perm (descriptor.modules.map (·.name)) := by
  unfold DeploymentOrder.ofDescriptor at h
  obtain ⟨mode, -, h⟩ := Outcome.bind_eq_ok.1 h
  obtain ⟨graph, hgraph, h⟩ := Outcome.bind_eq_ok.1 h
  rw [← DeploymentGraph.names_ofDescriptor hgraph]
  cases mode with
  | parallel =>
      simp only [Outcome.bind_eq_ok, Outcome.pure_eq_ok] at h
      obtain ⟨waves, hwaves, rfl⟩ := h
      exact DeploymentGraph.waves_perm hwaves
  | sequential =>
      simp only [Outcome.bind_eq_ok, Outcome.pure_eq_ok] at h
      obtain ⟨names, hnames, rfl⟩ := h
      -- One by one, each module is a wave of its own.
      have hflat : (names.map ([·])).flatten = names := by simp [← List.flatMap_def]
      show (names.map ([·])).flatten.Perm graph.names
      rw [hflat]
      exact DeploymentGraph.sequential_perm hnames

end MultiTarget
