import MultiTarget.Proofs.DeploymentOrder

/-!
# `MultiTarget.Proofs.DeploymentOrder.Counters`: readiness kept as numbers

Whether a module is ready is asked of the modules that remain
(`isReady`). The usual way is to ask only once: to count for each module the
edges that lead to it, and to count down when a module that it is deployed
after is taken. This module defines both runs in that way
(`sequentialByCounts`, `wavesByCounts`) and proves them equal to the ones
that ask.

The invariant is that the count of a module is the number of edges to it from
modules that remain (`pending`). `pending_eq_add` is the step: when a module
is taken, a count goes down by the edges that lead from it and no further, so
no subtraction ever stops at zero. A count is zero exactly for what is ready
(`pending_beq_zero`), and at the start every edge comes from a module that
remains (`pending_positions`).
-/

set_option autoImplicit false

namespace MultiTarget.DeploymentGraph

variable {descriptor : Descriptor} {graph : DeploymentGraph} {remaining : List Nat}
  {next position : Nat}

/-! ### Counting down -/

/-- How many edges lead to a position. Edges do not repeat in a graph, but
nothing here depends on it. -/
def inDegree (graph : DeploymentGraph) (position : Nat) : Nat :=
  graph.edges.countP fun edge => edge.2 == position

/-- Where the edges from a position lead, once for each edge. A module that is
named twice is counted twice on both sides. -/
def successors (graph : DeploymentGraph) (position : Nat) : List Nat :=
  (graph.edges.filter fun edge => edge.1 == position).map (·.2)

/-- Counts of which one is a step lower. On natural numbers the step stops at
zero, so that it is never taken too often has to be proved. -/
def decrement (counts : Nat → Nat) (position : Nat) : Nat → Nat := fun other =>
  if other = position then counts other - 1 else counts other

/-- The counts after a position is taken: all behind it wait for one less, and
nothing is searched again. -/
def countDown (graph : DeploymentGraph) (counts : Nat → Nat) (taken : Nat) : Nat → Nat :=
  (graph.successors taken).foldl decrement counts

/-- Modules in an order one by one by counts, and those whose count never
becomes zero. The counts are carried along and nothing else is asked of the
graph. -/
def countedFrom (graph : DeploymentGraph) (remaining : List Nat) (counts : Nat → Nat) :
    List Nat × List Nat :=
  match _h : remaining.find? (counts · == 0) with
  | none => ([], remaining)
  | some next =>
    let (order, stuck) := countedFrom graph (remaining.erase next) (graph.countDown counts next)
    (next :: order, stuck)
termination_by remaining.length
decreasing_by
  have hmem := List.mem_of_find?_eq_some _h
  have hpos := List.length_pos_of_mem hmem
  rw [List.length_erase_of_mem hmem]
  omega

/-- The modules one by one, by counts that start with the number of edges to
each module. -/
def sequentialByCounts (graph : DeploymentGraph) : Except ContentError (List String) :=
  let run := graph.countedFrom graph.positions graph.inDegree
  if run.2.isEmpty then .ok (run.1.map graph.nameAt)
  else .error (.deploymentOrderCycle (run.2.map graph.nameAt))

/-- Fewer positions are left when some of them are taken, which is why a run in
waves by counts ends. -/
theorem length_diff_lt {taken : List Nat} (hne : taken ≠ []) (hsub : taken ⊆ remaining) :
    (remaining.diff taken).length < remaining.length := by
  obtain ⟨next, rest, rfl⟩ := List.exists_cons_of_ne_nil hne
  have hmem : next ∈ remaining := hsub List.mem_cons_self
  have hpos : 0 < remaining.length := List.length_pos_of_mem hmem
  have hle : ((remaining.erase next).diff rest).length ≤ (remaining.erase next).length :=
    (List.diff_sublist _ _).length_le
  rw [List.diff_cons]
  rw [List.length_erase_of_mem hmem] at hle
  omega

/-- The positions that are ready by counts: nothing that they wait for is left
to be counted. -/
def readyByCounts (remaining : List Nat) (counts : Nat → Nat) : List Nat :=
  remaining.filter (counts · == 0)

/-- Modules in waves by counts, and those whose count never becomes zero. A
wave is settled before any of its modules is taken, so what becomes ready
meanwhile waits for the next one. -/
def countedWavesFrom (graph : DeploymentGraph) (remaining : List Nat) (counts : Nat → Nat) :
    List (List Nat) × List Nat :=
  let ready := readyByCounts remaining counts
  if _h : ready = [] then ([], remaining)
  else
    let (waves, stuck) := countedWavesFrom graph (remaining.diff ready)
      (ready.foldl graph.countDown counts)
    (ready :: waves, stuck)
termination_by remaining.length
decreasing_by exact length_diff_lt _h (List.filter_subset_self _)

/-- The modules in waves, by counts that start with the number of edges to each
module. -/
def wavesByCounts (graph : DeploymentGraph) : Except ContentError (List (List String)) :=
  let run := graph.countedWavesFrom graph.positions graph.inDegree
  if run.2.isEmpty then .ok (run.1.map (·.map graph.nameAt))
  else .error (.deploymentOrderCycle (run.2.map graph.nameAt))

/-! ### What is counted -/

/-- How many edges lead to a position from those that remain. It is what a
count should be at each moment, told without the history of the run. -/
def pending (graph : DeploymentGraph) (remaining : List Nat) (position : Nat) : Nat :=
  graph.edges.countP fun edge => edge.2 == position && remaining.contains edge.1

/-- A position is ready if no edge leads to it from those that remain. Here the
two ways to tell readiness meet. -/
theorem isReady_iff_pending :
    graph.isReady remaining position = true ↔ graph.pending remaining position = 0 := by
  rw [isReady_iff, pending, List.countP_eq_zero]
  constructor
  · rintro h ⟨first, second⟩ hedge htest
    simp only [Bool.and_eq_true, beq_iff_eq, List.contains_iff_mem] at htest
    obtain ⟨rfl, hmem⟩ := htest
    exact h first hedge hmem
  · intro h first hedge hmem
    exact h (first, position) hedge (by simpa using hmem)

/-- Positions of a list are counted down once for each time they stand in it.
The result is a subtraction on natural numbers, so it is right only if it does
not go below zero. -/
theorem foldl_decrement (positions : List Nat) (counts : Nat → Nat) (position : Nat) :
    positions.foldl decrement counts position = counts position - positions.count position := by
  induction positions generalizing counts with
  | nil => rfl
  | cons first rest ih =>
      rw [List.foldl_cons, ih, List.count_cons, decrement]
      by_cases h : position = first
      · subst h
        simp only [if_pos, BEq.rfl]
        omega
      · rw [if_neg h, if_neg (by simpa using Ne.symm h), Nat.add_zero]

/-- A position stands behind another one once for each edge between them, so
that counting down by edges leaves no remainder. -/
theorem count_successors (graph : DeploymentGraph) (next position : Nat) :
    (graph.successors next).count position
      = graph.edges.countP fun edge => edge.2 == position && edge.1 == next := by
  unfold successors
  rw [List.count, List.countP_map, List.countP_filter]
  rfl

/-- **The step of the counts.** When a position is taken from those that
remain, the edges from it are no longer counted, and all others still are. The
positions must be distinct, or else the one taken would remain. -/
theorem pending_eq_add (hnodup : remaining.Nodup) (hnext : next ∈ remaining) (position : Nat) :
    graph.pending remaining position
      = graph.pending (remaining.erase next) position
        + (graph.successors next).count position := by
  rw [count_successors]
  unfold pending
  -- Edge by edge: it comes from the position that is taken, or it is counted on both sides alike.
  induction graph.edges with
  | nil => rfl
  | cons edge rest ih =>
      obtain ⟨first, second⟩ := edge
      simp only [List.countP_cons, ih]
      by_cases h : first = next
      · subst h
        have hgone : first ∉ remaining.erase first := hnodup.not_mem_erase
        simp [hnext, hgone]
        omega
      · have hstays : first ∈ remaining.erase next ↔ first ∈ remaining := List.mem_erase_of_ne h
        simp [h, hstays]
        omega

/-- Counting down goes from what is counted before a position is taken to what
is counted after. By `pending_eq_add` the subtraction undoes an addition, so it
loses nothing. -/
theorem countDown_pending (graph : DeploymentGraph) (hnodup : remaining.Nodup)
    (hnext : next ∈ remaining) :
    graph.countDown (graph.pending remaining) next = graph.pending (remaining.erase next) := by
  funext position
  rw [countDown, foldl_decrement, pending_eq_add hnodup hnext, Nat.add_sub_cancel]

/-! ### The same run -/

/-- It is the same to ask the counts and to ask what remains, as tests on
positions. -/
theorem pending_beq_zero (graph : DeploymentGraph) (remaining : List Nat) :
    (graph.pending remaining · == 0) = graph.isReady remaining := by
  funext position
  rw [Bool.eq_iff_iff, isReady_iff_pending, beq_iff_eq]

/-- From right counts, a run by counts is the run that asks what remains: both
take the same position, and the counts are right again behind it. -/
theorem countedFrom_pending (hnodup : remaining.Nodup) :
    graph.countedFrom remaining (graph.pending remaining) = graph.orderFrom remaining := by
  -- Along the run that asks. The other one is unfolded once in each case.
  fun_induction orderFrom graph remaining with
  | case1 remaining hnone =>
      rw [← pending_beq_zero] at hnone
      unfold countedFrom
      split
      · rfl
      · rename_i next hnext
        rw [hnone] at hnext
        cases hnext
  | case2 remaining next hnext order stuck hrun ih =>
      have hcounts := countDown_pending graph hnodup (List.mem_of_find?_eq_some hnext)
      have hrest := ih (hnodup.erase next)
      rw [← pending_beq_zero] at hnext
      unfold countedFrom
      split
      · rename_i hnone
        rw [hnone] at hnext
        cases hnext
      · rename_i found hfound
        obtain rfl : found = next := Option.some.inj (hfound.symm.trans hnext)
        rw [hcounts, hrest, hrun]

/-- With right counts, the positions that are ready by counts are ready. Both
loops keep the counts right, and so take the positions that a search would
find. -/
theorem readyByCounts_pending (graph : DeploymentGraph) (remaining : List Nat) :
    readyByCounts remaining (graph.pending remaining)
      = remaining.filter (graph.isReady remaining) := by
  rw [readyByCounts, pending_beq_zero]

/-- Counting down goes on in this way for any number of positions, each of
which still remains when it is its turn. -/
theorem foldl_countDown_pending (graph : DeploymentGraph) {taken : List Nat}
    (hnodup : remaining.Nodup) (htaken : taken.Nodup) (hsub : taken ⊆ remaining) :
    taken.foldl graph.countDown (graph.pending remaining)
      = graph.pending (remaining.diff taken) := by
  induction taken generalizing remaining with
  | nil => rfl
  | cons next rest ih =>
      obtain ⟨hnext, hrest⟩ := List.nodup_cons.1 htaken
      have hkept : rest ⊆ remaining.erase next := fun p hp =>
        (List.mem_erase_of_ne (ne_of_mem_of_not_mem hp hnext)).2 (hsub (List.mem_cons_of_mem _ hp))
      rw [List.foldl_cons, countDown_pending graph hnodup (hsub List.mem_cons_self),
        ih (hnodup.erase next) hrest hkept, List.diff_cons]

/-- When all that is ready is taken, what waits is left. One run takes the wave
away, the other one keeps what is not in it. -/
theorem diff_filter_isReady (graph : DeploymentGraph) (hnodup : remaining.Nodup) :
    remaining.diff (remaining.filter (graph.isReady remaining)) = graph.waiting remaining := by
  rw [hnodup.sdiff_eq_filter, waiting]
  refine List.filter_congr fun p hp => ?_
  simp [List.mem_filter, hp]

/-- From right counts, a run in waves by counts is the run that asks what
remains. -/
theorem countedWavesFrom_pending (hnodup : remaining.Nodup) :
    graph.countedWavesFrom remaining (graph.pending remaining) = graph.wavesFrom remaining := by
  fun_induction wavesFrom graph remaining with
  | case1 remaining hsome waves stuck hrun ih =>
      -- The three equations turn a step by counts into a step that asks: the wave, what is left,
      -- and its counts.
      have hready : remaining.filter (graph.isReady remaining) ≠ [] := by
        obtain ⟨p, hp, htest⟩ := List.any_eq_true.1 hsome
        exact List.ne_nil_of_mem (List.mem_filter.2 ⟨hp, htest⟩)
      have hwaiting := diff_filter_isReady graph hnodup
      have hcounts : (remaining.filter (graph.isReady remaining)).foldl graph.countDown
          (graph.pending remaining) = graph.pending (graph.waiting remaining) := by
        rw [foldl_countDown_pending graph hnodup (hnodup.filter _) (List.filter_subset_self _),
          hwaiting]
      rw [← readyByCounts_pending] at hready hwaiting hcounts
      unfold countedWavesFrom
      rw [dif_neg hready, hwaiting, hcounts, ih (hnodup.filter _), hrun, readyByCounts_pending]
  | case2 remaining hnone =>
      have hready : remaining.filter (graph.isReady remaining) = [] := by
        simpa [List.filter_eq_nil_iff] using hnone
      rw [← readyByCounts_pending] at hready
      unfold countedWavesFrom
      rw [dif_pos hready]

/-- At the start all edges are counted, since each comes from the position of a
module. So the counts that a run starts with are right. -/
theorem pending_positions (hgraph : ofDescriptor descriptor = .ok graph) :
    graph.pending graph.positions = graph.inDegree := by
  funext position
  refine List.countP_congr fun edge hedge => ?_
  have hstart : edge.1 ∈ graph.positions := by
    obtain ⟨m, -, names, edges, -, hedges, hmem⟩ :=
      ((exists_of_ofDescriptor hgraph).2 edge).1 hedge
    obtain ⟨dependency, -, hfirst, -⟩ := (mem_edgesTo hedges).1 hmem
    obtain ⟨hlt, -⟩ := List.getElem?_eq_some_iff.1 (getElem?_of_position? hfirst)
    exact List.mem_range.2 hlt
  simp [hstart]

/-- **Counting gives the same order.** For the graph of a descriptor, modules
one by one by counts are the modules one by one, and if there is no such order,
the complaint is the same. -/
theorem sequentialByCounts_eq (hgraph : ofDescriptor descriptor = .ok graph) :
    graph.sequentialByCounts = graph.sequential := by
  have hnodup : graph.positions.Nodup := List.nodup_range
  unfold sequentialByCounts sequential
  rw [← pending_positions hgraph, countedFrom_pending hnodup]
  obtain ⟨order, stuck⟩ := graph.orderFrom graph.positions
  cases stuck <;> rfl

/-- **Counting gives the same waves.** For the graph of a descriptor, waves by
counts are the waves, and if there are none, the complaint is the same. -/
theorem wavesByCounts_eq (hgraph : ofDescriptor descriptor = .ok graph) :
    graph.wavesByCounts = graph.waves := by
  have hnodup : graph.positions.Nodup := List.nodup_range
  unfold wavesByCounts waves
  rw [← pending_positions hgraph, countedWavesFrom_pending hnodup]
  obtain ⟨waves, stuck⟩ := graph.wavesFrom graph.positions
  cases stuck <;> rfl

end MultiTarget.DeploymentGraph
