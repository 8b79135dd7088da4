import Mathlib.Order.Bounds.Basic
import MultiTarget.Proofs.DeploymentOrder.LeastOrder

/-!
# `MultiTarget.Proofs.DeploymentOrder.Depth`: waves by the longest chain

Deployed in waves, a module goes with the first wave before which all that it
is deployed after is gone. So the number of its wave is the length of the
longest chain of modules in front of it, each deployed after the next.

* A position is at the end of a walk along `n` edges (`WalkTo`) exactly if it
  still waits after `n` waves. `walkTo_succ_iff` is the step: the first wave
  takes one edge off every walk, at its start. From it
  `mem_wave_iff` says by induction along a run what is in each wave.
* The walks that end at the position of a module have the lengths of its
  chains of names (`Describes.walkTo_positions_iff`).
* `waves_by_depth` puts this together with the run that counts.
-/

set_option autoImplicit false

namespace MultiTarget

namespace Descriptor

/-- The lengths of the chains in front of a module: how many modules can be
named one after the other, each of which the one before it, and at first the
module itself, is deployed after. There is always the empty chain, so zero is
among them. -/
def chainLengths (descriptor : Descriptor) (name : String) : Set Nat :=
  {n | ∃ chain : List String, (name :: chain).IsChain descriptor.DeployedAfter ∧ chain.length = n}

variable {descriptor : Descriptor} {later earlier : String} {n : Nat}

/-- A chain in front of a module is one longer from a module that is deployed
after it. -/
theorem succ_mem_chainLengths (hafter : descriptor.DeployedAfter later earlier)
    (h : n ∈ descriptor.chainLengths earlier) : n + 1 ∈ descriptor.chainLengths later := by
  obtain ⟨chain, hchain, rfl⟩ := h
  exact ⟨earlier :: chain, List.isChain_cons_cons.2 ⟨hafter, hchain⟩, rfl⟩

/-- A chain that is not empty begins with a module that has the rest of it in
front. With the lemma before, chains are taken apart as walks are. -/
theorem exists_of_succ_mem_chainLengths (h : n + 1 ∈ descriptor.chainLengths later) :
    ∃ earlier, descriptor.DeployedAfter later earlier ∧ n ∈ descriptor.chainLengths earlier := by
  obtain ⟨chain, hchain, hlength⟩ := h
  cases chain with
  | nil => cases hlength
  | cons earlier rest =>
      obtain ⟨hafter, hrest⟩ := List.isChain_cons_cons.1 hchain
      exact ⟨earlier, hafter, rest, hrest, Nat.succ.inj hlength⟩

end Descriptor

namespace DeploymentGraph

variable {descriptor : Descriptor} {graph : DeploymentGraph} {remaining : List Nat}
  {position n i : Nat} {wave : List Nat}

/-! ### Walks -/

/-- A walk along some number of edges between remaining positions ends at a
position. All positions of the walk remain, not only its end. -/
def WalkTo (graph : DeploymentGraph) (remaining : List Nat) : Nat → Nat → Prop
  | 0, position => position ∈ remaining
  | n + 1, position =>
    position ∈ remaining ∧ ∃ first, graph.Precedes first position ∧ graph.WalkTo remaining n first

/-- A walk ends at a position that remains. So where nothing remains there is
no walk either. -/
theorem WalkTo.mem (h : graph.WalkTo remaining n position) : position ∈ remaining := by
  cases n with
  | zero => exact h
  | succ n => exact h.1

/-- A walk can be begun one edge later, so positions at the end of long walks
are at the end of shorter ones too. -/
theorem WalkTo.of_succ (h : graph.WalkTo remaining (n + 1) position) :
    graph.WalkTo remaining n position := by
  induction n generalizing position with
  | zero => exact h.1
  | succ n ih =>
      obtain ⟨hmem, first, hedge, hfirst⟩ := h
      exact ⟨hmem, first, hedge, ih hfirst⟩

/-- A walk can be begun any number of edges later, so that a long walk gives
walks of all smaller lengths. -/
theorem WalkTo.of_le {m : Nat} (h : graph.WalkTo remaining n position) (hle : m ≤ n) :
    graph.WalkTo remaining m position := by
  induction hle with
  | refl => exact h
  | step _ ih => exact ih h.of_succ

/-- What waits remains, with one of its predecessors. This is the negation of
readiness, without the test. -/
theorem mem_waiting_iff : position ∈ graph.waiting remaining ↔
    position ∈ remaining ∧ ∃ first, graph.Precedes first position ∧ first ∈ remaining := by
  unfold waiting
  rw [List.mem_filter, Bool.not_eq_true', ← Bool.not_eq_true, isReady_iff]
  push Not
  rfl

/-- **The step of the waves.** What is at the end of a walk still is when the
first wave is gone, with one edge less: the wave takes away the position that
the walk began at, and no other one of it. -/
theorem walkTo_succ_iff : graph.WalkTo remaining (n + 1) position ↔
    graph.WalkTo (graph.waiting remaining) n position := by
  -- On the length of the walk, for all its ends. The last edge stays, and the walk before it is
  -- shortened.
  induction n generalizing position with
  | zero => exact mem_waiting_iff.symm
  | succ n ih =>
      constructor
      · rintro ⟨hmem, first, hedge, hfirst⟩
        have hwaiting : position ∈ graph.waiting remaining :=
          mem_waiting_iff.2 ⟨hmem, first, hedge, hfirst.mem⟩
        exact ⟨hwaiting, first, hedge, ih.1 hfirst⟩
      · rintro ⟨hwaiting, first, hedge, hfirst⟩
        exact ⟨(mem_waiting_iff.1 hwaiting).1, first, hedge, ih.2 hfirst⟩

/-! ### Waves of positions -/

/-- A wave has the positions that wait for all waves before it and not for
itself. By the step, waiting for a number of waves is being at the end of a
walk of that length. -/
theorem mem_wave_iff (h : (graph.wavesFrom remaining).1[i]? = some wave) :
    position ∈ wave ↔
      graph.WalkTo remaining i position ∧ ¬ graph.WalkTo remaining (i + 1) position := by
  -- Along the run. The first wave is a test on what remains, and any later one is a wave of what
  -- waits.
  fun_induction wavesFrom graph remaining generalizing i with
  | case1 remaining hsome waves stuck hrun ih =>
      cases i with
      | zero =>
          cases h
          rw [walkTo_succ_iff, List.mem_filter]
          show _ ↔ position ∈ remaining ∧ position ∉ graph.waiting remaining
          rw [waiting, List.mem_filter]
          cases graph.isReady remaining position <;> simp
      | succ i =>
          rw [hrun] at ih
          rw [walkTo_succ_iff, walkTo_succ_iff]
          exact ih h
  | case2 remaining hnone => cases h

/-- No wave is empty, and each has its positions in order. A run goes on only
while something is ready. -/
theorem ne_nil_and_sublist_of_wave (h : (graph.wavesFrom remaining).1[i]? = some wave) :
    wave ≠ [] ∧ wave.Sublist remaining := by
  fun_induction wavesFrom graph remaining generalizing i with
  | case1 remaining hsome waves stuck hrun ih =>
      cases i with
      | zero =>
          cases h
          obtain ⟨p, hp, hready⟩ := List.any_eq_true.1 hsome
          exact ⟨List.ne_nil_of_mem (List.mem_filter.2 ⟨hp, hready⟩), List.filter_sublist⟩
      | succ i =>
          rw [hrun] at ih
          obtain ⟨hne, hsub⟩ := ih h
          exact ⟨hne, hsub.trans List.filter_sublist⟩
  | case2 remaining hnone => cases h

/-! ### Waves of names -/

/-- The walks to the position of a module have the lengths of the chains in
front of it. Distinct names are needed to come back from a name to the one
position that an edge leads to. -/
theorem Describes.walkTo_positions_iff (h : graph.Describes descriptor)
    (hp : position ∈ graph.positions) :
    graph.WalkTo graph.positions n position
      ↔ n ∈ descriptor.chainLengths (graph.nameAt position) := by
  induction n generalizing position with
  | zero => exact iff_of_true hp ⟨[], .singleton _, rfl⟩
  | succ n ih =>
      constructor
      · rintro ⟨-, first, hedge, hfirst⟩
        exact Descriptor.succ_mem_chainLengths (deployedAfter_nameAt h.ofDescriptor_eq hedge)
          ((ih hfirst.mem).1 hfirst)
      · intro hn
        obtain ⟨earlier, hafter, hchain⟩ := Descriptor.exists_of_succ_mem_chainLengths hn
        -- What a module is deployed after is a module, and so has a position.
        have hearlier := (h.mem_of_deployedAfter hafter).2
        rw [← h.map_nameAt_positions] at hearlier
        obtain ⟨first, hfirst, rfl⟩ := List.mem_map.1 hearlier
        have hedge := precedes_place h.ofDescriptor_eq hafter
        rw [h.place_nameAt hfirst, h.place_nameAt hp] at hedge
        exact ⟨hp, first, hedge, (ih hfirst).2 hchain⟩

/-- Waves that are found name the positions of a run. -/
theorem outcome_wavesFrom {waves : List (List String)} (h : graph.waves = .ok waves) :
    waves = (graph.wavesFrom graph.positions).1.map (·.map graph.nameAt) := by
  unfold DeploymentGraph.waves at h
  split at h
  · rename_i found hfound
    cases h
    rw [hfound]
  · cases h

/-- A name stands in the wave with a number, the first one being zero. Later it
is shown that a name stands in one wave only. -/
def InWave (waves : List (List String)) (i : Nat) (name : String) : Prop :=
  ∃ wave, waves[i]? = some wave ∧ name ∈ wave

namespace Describes

variable {waves : List (List String)} {name later earlier : String} {j : Nat}

/-- The number of the wave of a module is the length of the longest chain in
front of it. In particular there is a longest one. -/
theorem isGreatest_of_inWave (h : graph.Describes descriptor) (hwaves : graph.waves = .ok waves)
    (hname : InWave waves i name) : IsGreatest (descriptor.chainLengths name) i := by
  rw [outcome_wavesFrom hwaves] at hname
  obtain ⟨names, hnames, hname⟩ := hname
  rw [List.getElem?_map] at hnames
  obtain ⟨wave, hwave, rfl⟩ := Option.map_eq_some_iff.1 hnames
  obtain ⟨position, hposition, rfl⟩ := List.mem_map.1 hname
  obtain ⟨hwalk, hlonger⟩ := (mem_wave_iff hwave).1 hposition
  have hp : position ∈ graph.positions := hwalk.mem
  refine ⟨(h.walkTo_positions_iff hp).1 hwalk, fun n hn => ?_⟩
  -- A longer chain would be a walk that could be begun so much later that it is one edge longer.
  by_contra hgreater
  exact hlonger (((h.walkTo_positions_iff hp).2 hn).of_le (Nat.not_le.1 hgreater))

/-- Every module is in one wave. Its number is determined, since a set has at
most one greatest element. -/
theorem existsUnique_inWave (h : graph.Describes descriptor) (hwaves : graph.waves = .ok waves)
    (hname : name ∈ descriptor.modules.map (·.name)) : ∃! i, InWave waves i name := by
  rw [← names_ofDescriptor h.ofDescriptor_eq, ← (waves_perm hwaves).mem_iff,
    List.mem_flatten] at hname
  obtain ⟨wave, hwave, hname⟩ := hname
  obtain ⟨i, hi⟩ := List.mem_iff_getElem?.1 hwave
  refine ⟨i, ⟨wave, hi, hname⟩, fun j hj => ?_⟩
  exact (h.isGreatest_of_inWave hwaves hj).unique
    (h.isGreatest_of_inWave hwaves ⟨wave, hi, hname⟩)

/-- A module is in a later wave than what it is deployed after, because its
chains are longer by one. -/
theorem lt_of_deployedAfter (h : graph.Describes descriptor) (hwaves : graph.waves = .ok waves)
    (hafter : descriptor.DeployedAfter later earlier) (hlater : InWave waves i later)
    (hearlier : InWave waves j earlier) : j < i := by
  have hchain := (h.isGreatest_of_inWave hwaves hearlier).1
  exact (h.isGreatest_of_inWave hwaves hlater).2 (Descriptor.succ_mem_chainLengths hafter hchain)

/-- A module that is not in the first wave is deployed after one in the wave
before its own. So no module waits longer than it must. -/
theorem exists_deployedAfter_of_inWave_succ (h : graph.Describes descriptor)
    (hwaves : graph.waves = .ok waves) (hlater : InWave waves (i + 1) later) :
    ∃ earlier, descriptor.DeployedAfter later earlier ∧ InWave waves i earlier := by
  obtain ⟨hchain, hlongest⟩ := h.isGreatest_of_inWave hwaves hlater
  obtain ⟨earlier, hafter, hchain⟩ := Descriptor.exists_of_succ_mem_chainLengths hchain
  obtain ⟨j, hearlier, -⟩ :=
    h.existsUnique_inWave hwaves (h.mem_of_deployedAfter hafter).2
  -- The chain through this module is a longest one, so the rest of it is one as well.
  have hgreatest : IsGreatest (descriptor.chainLengths earlier) i :=
    ⟨hchain, fun n hn => Nat.le_of_succ_le_succ
      (hlongest (Descriptor.succ_mem_chainLengths hafter hn))⟩
  obtain rfl : j = i := (h.isGreatest_of_inWave hwaves hearlier).unique hgreatest
  exact ⟨earlier, hafter, hearlier⟩

/-- No wave is empty, and each has its modules in order of declaration. -/
theorem ne_nil_and_sublist_of_mem_waves (h : graph.Describes descriptor)
    (hwaves : graph.waves = .ok waves) {wave : List String} (hwave : wave ∈ waves) :
    wave ≠ [] ∧ wave.Sublist (descriptor.modules.map (·.name)) := by
  rw [outcome_wavesFrom hwaves] at hwave
  obtain ⟨positions, hpositions, rfl⟩ := List.mem_map.1 hwave
  obtain ⟨i, hi⟩ := List.mem_iff_getElem?.1 hpositions
  obtain ⟨hne, hsub⟩ := ne_nil_and_sublist_of_wave hi
  rw [← h.map_nameAt_positions]
  exact ⟨mt List.map_eq_nil_iff.1 hne, hsub.map graph.nameAt⟩

end Describes

/-- **Waves are layers of one depth.** Let the modules of a descriptor have
distinct names and readable lists of known modules that they are deployed
after, and let no module be, through others, deployed after itself. Then there
are waves, also by counts, and every module is in one of them. The number of
its wave is the length of the longest chain in front of it. So all that it is
deployed after is in earlier waves, and something is in the wave just before
its own. No wave is empty, and each has its modules in order of declaration. -/
theorem waves_by_depth (descriptor : Descriptor)
    (hnodup : (descriptor.modules.map (·.name)).Nodup)
    (hknown : ∀ m ∈ descriptor.modules, ∃ names,
      (descriptor.moduleScopes m).texts "deployed-after" = .ok names ∧
      names ⊆ descriptor.modules.map (·.name))
    (hacyclic : ¬ ∃ name, descriptor.OnCycle name) :
    ∃ graph waves, ofDescriptor descriptor = .ok graph ∧ graph.waves = .ok waves ∧
      graph.wavesByCounts = .ok waves ∧
      (∀ name ∈ descriptor.modules.map (·.name), ∃! i, InWave waves i name) ∧
      (∀ i name, InWave waves i name → IsGreatest (descriptor.chainLengths name) i) ∧
      (∀ i j later earlier, descriptor.DeployedAfter later earlier → InWave waves i later →
        InWave waves j earlier → j < i) ∧
      (∀ i later, InWave waves (i + 1) later →
        ∃ earlier, descriptor.DeployedAfter later earlier ∧ InWave waves i earlier) ∧
      ∀ wave ∈ waves, wave ≠ [] ∧ wave.Sublist (descriptor.modules.map (·.name)) := by
  obtain ⟨graph, hgraph⟩ := exists_ofDescriptor_iff.2 hknown
  obtain ⟨waves, hwaves⟩ := (exists_waves_iff hgraph).2 hacyclic
  have h : graph.Describes descriptor := ⟨hgraph, hnodup⟩
  have hcounted : graph.wavesByCounts = .ok waves := (wavesByCounts_eq hgraph).trans hwaves
  exact ⟨graph, waves, hgraph, hwaves, hcounted, fun _ => h.existsUnique_inWave hwaves,
    fun _ _ => h.isGreatest_of_inWave hwaves, fun _ _ _ _ => h.lt_of_deployedAfter hwaves,
    fun _ _ => h.exists_deployedAfter_of_inWave_succ hwaves,
    fun _ => h.ne_nil_and_sublist_of_mem_waves hwaves⟩

/-- A module that is deployed after another one twice: of its own accord, and
through two more that do not know of each other. -/
def diamond : Descriptor :=
  let after (names : List String) : Parameters :=
    .ofList [("deployed-after", .ofStrings names)]
  .plain ∅ [.plain "ui" (after ["db", "api", "auth", "api"]), .plain "docs" ∅,
    .plain "api" (after ["db"]), .plain "auth" (after ["db"]), .plain "db" ∅] []

/-- In the diamond the short way from the top to the bottom does not count. -/
theorem waves_by_depth_diamond : ∃ graph waves,
    (diamond.modules.map (·.name)).Nodup ∧ ¬ (∃ name, diamond.OnCycle name) ∧
    ofDescriptor diamond = .ok graph ∧ graph.waves = .ok waves ∧
    graph.wavesByCounts = .ok waves ∧ waves = [["docs", "db"], ["api", "auth"], ["ui"]] ∧
    InWave waves 2 "ui" ∧ IsGreatest (diamond.chainLengths "ui") 2 ∧
    InWave waves 0 "docs" ∧ IsGreatest (diamond.chainLengths "docs") 0 := by
  let graph : DeploymentGraph :=
    ⟨["ui", "docs", "api", "auth", "db"], [(4, 0), (2, 0), (3, 0), (4, 2), (4, 3)]⟩
  have hnodup : (diamond.modules.map (·.name)).Nodup := by decide
  have hgraph : ofDescriptor diamond = .ok graph := by rfl
  have hwaves : graph.waves = .ok [["docs", "db"], ["api", "auth"], ["ui"]] := by decide +kernel
  have hacyclic : ¬ ∃ name, diamond.OnCycle name := (exists_waves_iff hgraph).1 ⟨_, hwaves⟩
  obtain ⟨graph', waves, hgraph', hwaves', hcounted, -, hdepth, -⟩ :=
    waves_by_depth diamond hnodup (exists_ofDescriptor_iff.1 ⟨_, hgraph⟩) hacyclic
  obtain rfl : graph = graph' := Except.ok.inj (hgraph.symm.trans hgraph')
  have hfound : waves = [["docs", "db"], ["api", "auth"], ["ui"]] :=
    Except.ok.inj (hwaves'.symm.trans hwaves)
  have hui : InWave waves 2 "ui" := hfound ▸ ⟨["ui"], rfl, by decide⟩
  have hdocs : InWave waves 0 "docs" := hfound ▸ ⟨["docs", "db"], rfl, by decide⟩
  exact ⟨graph, waves, hnodup, hacyclic, hgraph, hwaves', hcounted, hfound, hui,
    hdepth 2 "ui" hui, hdocs, hdepth 0 "docs" hdocs⟩

end DeploymentGraph

end MultiTarget
