import MultiTarget.Proofs.DeploymentOrder.Permutation

/-!
# `MultiTarget.Proofs.DeploymentOrder.Reordering`: orders of reordered modules

A graph knows modules by their positions, and positions change when modules
are declared in another order. With distinct names nothing else does.

* Whether a module is ready is told by names: none of the names that it is
  deployed after remains (`isReady_iff_names`).
* So two runs in waves over the same names stay in step
  (`InStep.filter`), and by induction along the first run all waves have the
  same modules, if perhaps in another order (`InStep.wavesFrom`).
* Whether there is an order depends on the modules as a set: each has a
  readable list of known names, and none is on a cycle
  (`DeploymentOrder.exists_ofDescriptor_iff`).
-/

set_option autoImplicit false

namespace MultiTarget

open List (Perm)

/-- The descriptor with other modules, and everything else as it was. -/
def Descriptor.withModules (descriptor : Descriptor) (modules : List Module) : Descriptor :=
  { descriptor with modules }

namespace DeploymentGraph

/-- A graph is that of a descriptor whose modules have distinct names. The two
hypotheses go together in all that relates positions to names. -/
structure Describes (graph : DeploymentGraph) (descriptor : Descriptor) : Prop where
  ofDescriptor_eq : ofDescriptor descriptor = .ok graph
  nodup : (descriptor.modules.map (·.name)).Nodup

variable {descriptor other : Descriptor} {graph graph' : DeploymentGraph}
  {remaining remaining' : List Nat} {position : Nat}

/-! ### Readiness by names -/

/-- No name that a module is deployed after is among some names. It is
readiness without positions, so it can be asked in two descriptors at once. -/
def ReadyAmong (descriptor : Descriptor) (names : List String) (name : String) : Prop :=
  ∀ earlier, descriptor.DeployedAfter name earlier → earlier ∉ names

/-- Every position is the place of its name, since names are distinct. So
nothing is lost by speaking of names. -/
theorem Describes.place_nameAt (h : graph.Describes descriptor)
    (hp : position ∈ graph.positions) : graph.place (graph.nameAt position) = position := by
  have hnodup := h.nodup
  rw [← names_ofDescriptor h.ofDescriptor_eq] at hnodup
  exact DeploymentGraph.place_nameAt hnodup (List.mem_range.1 hp)

/-- A position is ready if no name that its module is deployed after remains.
What remains must be positions of modules, for others have no name. -/
theorem Describes.isReady_iff_names (h : graph.Describes descriptor)
    (hsub : remaining ⊆ graph.positions) (hp : position ∈ graph.positions) :
    graph.isReady remaining position = true
      ↔ ReadyAmong descriptor (remaining.map graph.nameAt) (graph.nameAt position) := by
  rw [isReady_iff]
  constructor
  · intro hready earlier hafter hmem
    obtain ⟨q, hq, rfl⟩ := List.mem_map.1 hmem
    have hedge := precedes_place h.ofDescriptor_eq hafter
    rw [h.place_nameAt (hsub hq), h.place_nameAt hp] at hedge
    exact hready q hedge hq
  · intro hready first hedge hmem
    exact hready _ (deployedAfter_nameAt h.ofDescriptor_eq hedge)
      (List.mem_map_of_mem hmem)

open Classical in
/-- The names of the positions that are ready, or that are not, are those of
the names that remain. The test stands for both halves, so that one lemma
serves waves and what waits. -/
theorem Describes.map_nameAt_filter (h : graph.Describes descriptor)
    (hsub : remaining ⊆ graph.positions) (test : Bool → Bool) :
    (remaining.filter fun p => test (graph.isReady remaining p)).map graph.nameAt
      = (remaining.map graph.nameAt).filter fun name =>
          test (decide (ReadyAmong descriptor (remaining.map graph.nameAt) name)) := by
  rw [List.filter_map]
  refine congrArg _ (List.filter_congr fun p hp => congrArg test ?_)
  rw [Bool.eq_iff_iff, decide_eq_true_iff]
  exact h.isReady_iff_names hsub (hsub hp)

/-! ### Waves by names -/

/-- Two runs are in step: in both descriptors the same names wait for each
other, and the positions that remain have the same names. Nothing is said about
the positions themselves, since they may all differ. -/
structure InStep (graph graph' : DeploymentGraph) (descriptor other : Descriptor)
    (remaining remaining' : List Nat) : Prop where
  describes : graph.Describes descriptor
  describes' : graph'.Describes other
  deployedAfter_eq : descriptor.DeployedAfter = other.DeployedAfter
  subset : remaining ⊆ graph.positions
  subset' : remaining' ⊆ graph'.positions
  perm : (remaining.map graph.nameAt).Perm (remaining'.map graph'.nameAt)

namespace InStep

/-- Of runs that are in step, the positions that are ready are, and so are
those that wait. -/
theorem filter (h : InStep graph graph' descriptor other remaining remaining')
    (test : Bool → Bool) :
    InStep graph graph' descriptor other
      (remaining.filter fun p => test (graph.isReady remaining p))
      (remaining'.filter fun p => test (graph'.isReady remaining' p)) where
  describes := h.describes
  describes' := h.describes'
  deployedAfter_eq := h.deployedAfter_eq
  subset _ hp := h.subset (List.mem_of_mem_filter hp)
  subset' _ hp := h.subset' (List.mem_of_mem_filter hp)
  perm := by
    classical
    -- Both sides ask the same question about each name, and have the same names.
    have hready : ∀ name, ReadyAmong descriptor (remaining.map graph.nameAt) name
        ↔ ReadyAmong other (remaining'.map graph'.nameAt) name := by
      intro name
      unfold ReadyAmong
      simp only [h.deployedAfter_eq, h.perm.mem_iff]
    rw [h.describes.map_nameAt_filter h.subset, h.describes'.map_nameAt_filter h.subset']
    simp only [hready]
    exact h.perm.filter _

/-- In runs that are in step, some position is ready in both or in neither, so
both stop at the same time. -/
theorem any_isReady_eq (h : InStep graph graph' descriptor other remaining remaining') :
    remaining.any (graph.isReady remaining) = remaining'.any (graph'.isReady remaining') := by
  have hany : ∀ (positions : List Nat) (test : Nat → Bool),
      positions.any test = true ↔ 0 < (positions.filter test).length := by
    intro positions test
    rw [List.any_eq_true, List.length_pos_iff_exists_mem]
    simp only [List.mem_filter]
  have hlength := (h.filter fun ready => ready).perm.length_eq
  rw [List.length_map, List.length_map] at hlength
  rw [Bool.eq_iff_iff, hany, hany, hlength]

/-- **Waves do not depend on the order of declaration.** Runs that are in step
take the same modules in every wave and leave the same ones. -/
theorem wavesFrom (h : InStep graph graph' descriptor other remaining remaining') :
    List.Forall₂ Perm ((graph.wavesFrom remaining).1.map (·.map graph.nameAt))
        ((graph'.wavesFrom remaining').1.map (·.map graph'.nameAt)) ∧
      ((graph.wavesFrom remaining).2.map graph.nameAt).Perm
        ((graph'.wavesFrom remaining').2.map graph'.nameAt) := by
  -- Along the first run. The second one is unfolded by its equation, as it takes the same branch.
  fun_induction DeploymentGraph.wavesFrom graph remaining generalizing remaining' with
  | case1 remaining hsome waves stuck hrun ih =>
      rw [h.any_isReady_eq] at hsome
      have hwave := (h.filter fun ready => ready).perm
      have hrest := ih (h.filter (!·))
      rw [hrun] at hrest
      rw [wavesFrom.eq_def graph', dif_pos hsome]
      exact ⟨.cons hwave hrest.1, hrest.2⟩
  | case2 remaining hnone =>
      rw [h.any_isReady_eq] at hnone
      rw [wavesFrom.eq_def graph', dif_neg hnone]
      exact ⟨.nil, h.perm⟩

end InStep

/-! ### Whether there is an order -/

/-- A name has a position exactly if it is there, be it repeated or not. -/
theorem exists_position?_iff {names : List String} {name : String} :
    (∃ place, position? names name = some place) ↔ name ∈ names := by
  constructor
  · rintro ⟨place, hplace⟩
    exact List.mem_of_getElem? (getElem?_of_position? hplace)
  · intro hmem
    obtain ⟨place, hplace⟩ := List.mem_iff_getElem?.1 hmem
    rw [← Option.isSome_iff_exists, position?, Option.isSome_map, List.find?_isSome]
    exact ⟨(name, place), List.mem_reverse.2 (List.mem_zipIdx_iff_getElem?.2 hplace), by simp⟩

/-- A module has edges if all that it names is known. It is known itself, which
is not a condition for modules of a descriptor. -/
theorem exists_edgesTo_iff {names : List String} {name : String} (hname : name ∈ names)
    {dependencies : List String} :
    (∃ edges, edgesTo names name dependencies = .ok edges) ↔ dependencies ⊆ names := by
  constructor
  · rintro ⟨edges, h⟩ dependency hmem
    obtain ⟨first, -, hfirst, -⟩ := exists_position_of_edgesTo h hmem
    exact exists_position?_iff.1 ⟨first, hfirst⟩
  · intro hknown
    obtain ⟨second, hsecond⟩ := exists_position?_iff.2 hname
    induction dependencies with
    | nil => exact ⟨[], rfl⟩
    | cons dependency rest ih =>
        obtain ⟨hfirst, hrest⟩ := List.cons_subset.1 hknown
        obtain ⟨first, hfirst⟩ := exists_position?_iff.2 hfirst
        obtain ⟨edges, hedges⟩ := ih hrest
        refine ⟨(first, second) :: edges, ?_⟩
        simp only [edgesTo, hfirst, hsecond, hedges]

/-- A descriptor has a graph if every module has a list of known names. The
condition does not depend on the order of the modules. -/
theorem exists_ofDescriptor_iff :
    (∃ graph, ofDescriptor descriptor = .ok graph) ↔
      ∀ m ∈ descriptor.modules, ∃ names,
        (descriptor.moduleScopes m).texts "deployed-after" = .ok names ∧
        names ⊆ descriptor.modules.map Module.name := by
  have hedges : (∃ graph, ofDescriptor descriptor = .ok graph) ↔
      ∀ m ∈ descriptor.modules, ∃ edges, (do
        edgesTo (descriptor.modules.map Module.name) m.name
          (← (descriptor.moduleScopes m).texts "deployed-after")) = .ok edges := by
    rw [← Outcome.exists_mapM_iff]
    unfold ofDescriptor
    simp only [Outcome.bind_eq_ok, Outcome.pure_eq_ok]
    constructor
    · rintro ⟨graph, edges, h, -⟩
      exact ⟨edges, h⟩
    · rintro ⟨edges, h⟩
      exact ⟨_, edges, h, rfl⟩
  rw [hedges]
  refine forall₂_congr fun m hm => ?_
  have hname : m.name ∈ descriptor.modules.map (·.name) := List.mem_map_of_mem hm
  simp only [Outcome.bind_eq_ok]
  constructor
  · rintro ⟨edges, names, hnames, h⟩
    exact ⟨names, hnames, (exists_edgesTo_iff hname).1 ⟨edges, h⟩⟩
  · rintro ⟨names, hnames, hknown⟩
    obtain ⟨edges, h⟩ := (exists_edgesTo_iff hname).2 hknown
    exact ⟨edges, names, hnames, h⟩

/-- A run that fails if something is left succeeds exactly if nothing is. It is
stated for any run, as it serves both modes. -/
theorem exists_ok_iff_of_outcome {α : Type} {stuck : List Nat} {run : Except ContentError α}
    {error : ContentError}
    (h : (stuck = [] ∧ ∃ found, run = .ok found) ∨ (stuck ≠ [] ∧ run = .error error)) :
    (∃ found, run = .ok found) ↔ stuck = [] := by
  rcases h with ⟨hnil, hok⟩ | ⟨hcons, herror⟩
  · exact iff_of_true hok hnil
  · refine iff_of_false ?_ hcons
    rw [herror]
    rintro ⟨found, hfound⟩
    cases hfound

/-- There is an order one by one exactly if no module is on a cycle. -/
theorem exists_sequential_iff (hgraph : ofDescriptor descriptor = .ok graph) :
    (∃ names, graph.sequential = .ok names) ↔ ¬ ∃ name, descriptor.OnCycle name := by
  classical
  rw [exists_ok_iff_of_outcome graph.sequential_outcome,
    snd_orderFrom graph _ fun _ => mem_positions_of_behindCycle hgraph,
    ← filter_behindCycle_ne_nil_iff hgraph, not_not]

/-- There are waves exactly if no module is on a cycle. The condition does not
look at the order of declaration. -/
theorem exists_waves_iff (hgraph : ofDescriptor descriptor = .ok graph) :
    (∃ waves, graph.waves = .ok waves) ↔ ¬ ∃ name, descriptor.OnCycle name := by
  classical
  rw [exists_ok_iff_of_outcome graph.waves_outcome,
    snd_wavesFrom graph _ fun _ => mem_positions_of_behindCycle hgraph,
    ← filter_behindCycle_ne_nil_iff hgraph, not_not]

/-- Waves of graphs whose modules have the same names and wait for the same
ones have the same modules, wave by wave. -/
theorem waves_perm_of_perm (h : graph.Describes descriptor) (h' : graph'.Describes other)
    (hafter : descriptor.DeployedAfter = other.DeployedAfter)
    (hnames : graph.names.Perm graph'.names) {waves waves' : List (List String)}
    (hwaves : graph.waves = .ok waves) (hwaves' : graph'.waves = .ok waves') :
    List.Forall₂ Perm waves waves' := by
  rw [← map_nameAt_positions graph, ← map_nameAt_positions graph'] at hnames
  have hstart : InStep graph graph' descriptor other graph.positions graph'.positions :=
    ⟨h, h', hafter, List.Subset.refl _, List.Subset.refl _, hnames⟩
  obtain ⟨hsame, -⟩ := hstart.wavesFrom
  unfold DeploymentGraph.waves at hwaves hwaves'
  split at hwaves
  · split at hwaves'
    · rename_i found hfound _ found' hfound'
      cases hwaves
      cases hwaves'
      rw [hfound, hfound'] at hsame
      exact hsame
    · cases hwaves'
  · cases hwaves

end DeploymentGraph

namespace DeploymentOrder

variable {descriptor : Descriptor} {modules : List Module} {order order' : DeploymentOrder}

/-- A descriptor has an order if its mode can be read, its modules have a
graph, and none of them is on a cycle. The mode does not matter for it. -/
theorem exists_ofDescriptor_iff : (∃ order, ofDescriptor descriptor = .ok order) ↔
    (∃ mode, modeOf descriptor = .ok mode) ∧
    (∃ graph, DeploymentGraph.ofDescriptor descriptor = .ok graph) ∧
    ¬ ∃ name, descriptor.OnCycle name := by
  unfold ofDescriptor
  simp only [Outcome.bind_eq_ok]
  constructor
  · rintro ⟨order, mode, hmode, graph, hgraph, h⟩
    refine ⟨⟨mode, hmode⟩, ⟨graph, hgraph⟩, ?_⟩
    cases mode with
    | parallel =>
        obtain ⟨waves, hwaves, -⟩ := Outcome.bind_eq_ok.1 h
        exact (DeploymentGraph.exists_waves_iff hgraph).1 ⟨waves, hwaves⟩
    | sequential =>
        obtain ⟨names, hnames, -⟩ := Outcome.bind_eq_ok.1 h
        exact (DeploymentGraph.exists_sequential_iff hgraph).1 ⟨names, hnames⟩
  · rintro ⟨⟨mode, hmode⟩, ⟨graph, hgraph⟩, hfree⟩
    cases mode with
    | parallel =>
        obtain ⟨waves, hwaves⟩ := (DeploymentGraph.exists_waves_iff hgraph).2 hfree
        exact ⟨_, _, hmode, graph, hgraph, Outcome.bind_eq_ok.2 ⟨waves, hwaves, rfl⟩⟩
    | sequential =>
        obtain ⟨names, hnames⟩ := (DeploymentGraph.exists_sequential_iff hgraph).2 hfree
        exact ⟨_, _, hmode, graph, hgraph, Outcome.bind_eq_ok.2 ⟨names, hnames, rfl⟩⟩

/-! ### Reordered modules -/

/-- Reordered modules are deployed after the same ones, for the relation is
about membership alone. -/
theorem deployedAfter_withModules (hperm : modules.Perm descriptor.modules) :
    (descriptor.withModules modules).DeployedAfter = descriptor.DeployedAfter := by
  funext later earlier
  show (∃ m ∈ modules, _) = ∃ m ∈ descriptor.modules, _
  simp only [hperm.mem_iff]
  rfl

/-- Reordered modules have an order if the modules have one. No distinct names
are needed for this. -/
theorem exists_ofDescriptor_withModules_iff (hperm : modules.Perm descriptor.modules) :
    (∃ order, ofDescriptor (descriptor.withModules modules) = .ok order)
      ↔ ∃ order, ofDescriptor descriptor = .ok order := by
  have hcycle : (descriptor.withModules modules).OnCycle = descriptor.OnCycle := by
    unfold Descriptor.OnCycle
    rw [deployedAfter_withModules hperm]
  have hknown : ∀ names, names ⊆ modules.map Module.name
      ↔ names ⊆ descriptor.modules.map Module.name := fun names =>
    forall₂_congr fun _ _ => (hperm.map Module.name).mem_iff
  rw [exists_ofDescriptor_iff, exists_ofDescriptor_iff, hcycle,
    DeploymentGraph.exists_ofDescriptor_iff, DeploymentGraph.exists_ofDescriptor_iff]
  refine and_congr Iff.rfl (and_congr ?_ Iff.rfl)
  show (∀ m ∈ modules, ∃ names, _ ∧ names ⊆ modules.map Module.name) ↔ _
  simp only [hknown, hperm.mem_iff]
  rfl

/-- Orders of reordered modules have one mode, and in parallel mode the same
modules in every wave. In sequential mode the order of declaration is meant to
decide, so nothing is said of it. -/
theorem waves_perm_withModules (hperm : modules.Perm descriptor.modules)
    (hnodup : (descriptor.modules.map (·.name)).Nodup)
    (h : ofDescriptor descriptor = .ok order)
    (h' : ofDescriptor (descriptor.withModules modules) = .ok order') :
    order'.mode = order.mode ∧
      (order.mode = .parallel → List.Forall₂ Perm order.waves order'.waves) := by
  unfold ofDescriptor at h h'
  obtain ⟨mode, hmode, h⟩ := Outcome.bind_eq_ok.1 h
  obtain ⟨graph, hgraph, h⟩ := Outcome.bind_eq_ok.1 h
  obtain ⟨mode', hmode', h'⟩ := Outcome.bind_eq_ok.1 h'
  obtain ⟨graph', hgraph', h'⟩ := Outcome.bind_eq_ok.1 h'
  -- The mode is read from the descriptor, not from its modules.
  obtain rfl : mode = mode' := Except.ok.inj (hmode.symm.trans hmode')
  cases mode with
  | sequential =>
      simp only [Outcome.bind_eq_ok, Outcome.pure_eq_ok] at h h'
      obtain ⟨names, -, rfl⟩ := h
      obtain ⟨names', -, rfl⟩ := h'
      exact ⟨rfl, fun hparallel => by cases hparallel⟩
  | parallel =>
      simp only [Outcome.bind_eq_ok, Outcome.pure_eq_ok] at h h'
      obtain ⟨waves, hwaves, rfl⟩ := h
      obtain ⟨waves', hwaves', rfl⟩ := h'
      have hnames : graph.names.Perm graph'.names := by
        rw [DeploymentGraph.names_ofDescriptor hgraph, DeploymentGraph.names_ofDescriptor hgraph']
        exact (hperm.map (·.name)).symm
      have hnodup' : (modules.map (·.name)).Nodup := (hperm.map (·.name)).nodup_iff.2 hnodup
      exact ⟨rfl, fun _ => DeploymentGraph.waves_perm_of_perm ⟨hgraph, hnodup⟩ ⟨hgraph', hnodup'⟩
        (deployedAfter_withModules hperm).symm hnames hwaves hwaves'⟩

end DeploymentOrder

end MultiTarget
