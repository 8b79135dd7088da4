import Mathlib.Data.List.Lex
import MultiTarget.Proofs.DeploymentOrder.Counters
import MultiTarget.Proofs.DeploymentOrder.Reordering

/-!
# `MultiTarget.Proofs.DeploymentOrder.LeastOrder`: the order nearest to the declaration

Deployed one by one, the next module is the first declared one of those
that are ready. Of all orders that respect what modules are deployed after,
this gives the one nearest to the order of declaration: read as a sequence
of places in the declaration it is the least one, in lexicographic order.

* `ReadyInTurn` says of a list of positions, without an algorithm, that
  each of them is ready in its turn and none is left over. A run is such a
  list (`readyInTurn_orderFrom`), and it is the least one
  (`orderFrom_le`): any other list has to start with a position that is
  ready, and the run has taken the least of these.
* With distinct names these lists are the orders of names that respect what
  modules are deployed after (`Describes.readyInTurn_map_place`,
  `Describes.idxOf_lt_of_readyInTurn`).
* `sequential_least` puts both together.
-/

set_option autoImplicit false

namespace MultiTarget

open List (Perm)

namespace Descriptor

/-- In an order, every module stands behind all that it is deployed after. For
names that are not in the order it says nothing of use, so it is stated
together with a permutation. -/
def Respects (descriptor : Descriptor) (order : List String) : Prop :=
  ∀ later earlier, descriptor.DeployedAfter later earlier →
    order.idxOf earlier < order.idxOf later

/-- The place of a module in the declaration, by which orders are compared. A
name of no module has the number of modules. -/
def declarationIndex (descriptor : Descriptor) (name : String) : Nat :=
  (descriptor.modules.map (·.name)).idxOf name

end Descriptor

namespace DeploymentGraph

variable {descriptor : Descriptor} {graph : DeploymentGraph} {remaining order other : List Nat}

/-! ### Orders of positions -/

/-- Each position of a list is ready when those before it are taken away from
the remaining ones, and in the end nothing remains. So the list is one of the
ways in which a run could go. -/
def ReadyInTurn (graph : DeploymentGraph) : List Nat → List Nat → Prop
  | remaining, [] => remaining = []
  | remaining, next :: rest =>
    next ∈ remaining ∧ graph.isReady remaining next = true ∧
      graph.ReadyInTurn (remaining.erase next) rest

/-- A run that leaves nothing takes positions that are ready, each in its turn.
None of them waits for one that is taken later. -/
theorem readyInTurn_orderFrom (h : (graph.orderFrom remaining).2 = []) :
    graph.ReadyInTurn remaining (graph.orderFrom remaining).1 := by
  fun_induction orderFrom graph remaining with
  | case1 remaining hnone => exact h
  | case2 remaining next hnext order stuck hrun ih =>
      rw [hrun] at ih
      exact ⟨List.mem_of_find?_eq_some hnext, List.find?_some hnext, ih h⟩

/-- The first item of an ascending list that passes a test is the least one
that does. -/
theorem le_of_find?_eq_some {items : List Nat} {test : Nat → Bool} {found item : Nat}
    (hascending : items.Pairwise (· < ·)) (hfound : items.find? test = some found)
    (hitem : item ∈ items) (htest : test item = true) : found ≤ item := by
  obtain ⟨-, before, behind, rfl, hbefore⟩ := List.find?_eq_some_iff_append.1 hfound
  obtain ⟨-, hfrom, -⟩ := List.pairwise_append.1 hascending
  rcases List.mem_append.1 hitem with hmem | hmem
  · have hfails := hbefore item hmem
    simp [htest] at hfails
  · rcases List.mem_cons.1 hmem with rfl | hmem
    · exact Nat.le_refl _
    · exact Nat.le_of_lt ((List.pairwise_cons.1 hfrom).1 item hmem)

/-- **A run is the least order.** Of all lists in which every position is ready
in its turn, a run over ascending positions finds the least one. A run is
greedy, and greed is right here since taking the least position never makes
another one wait. -/
theorem orderFrom_le (hascending : remaining.Pairwise (· < ·))
    (hother : graph.ReadyInTurn remaining other) : (graph.orderFrom remaining).1 ≤ other := by
  fun_induction orderFrom graph remaining generalizing other with
  | case1 remaining hnone => exact le_of_not_gt (List.not_lt_nil other)
  | case2 remaining next hnext order stuck hrun ih =>
      -- The other list takes a position too, since something remains. It is not below the first
      -- ready one.
      cases other with
      | nil =>
          have hmem : next ∈ remaining := List.mem_of_find?_eq_some hnext
          rw [show remaining = [] from hother] at hmem
          cases hmem
      | cons first rest =>
          obtain ⟨hfirst, hready, hrest⟩ := hother
          have hle : next ≤ first := le_of_find?_eq_some hascending hnext hfirst hready
          rcases Nat.lt_or_eq_of_le hle with hlt | rfl
          · exact le_of_lt (List.Lex.rel hlt)
          · -- Both take the same position, and the rest is decided later.
            have hle := ih (hascending.erase next) hrest
            rw [hrun] at hle
            exact List.cons_le_cons next hle

/-! ### Orders of names -/

/-- Behind the first item, the others stand in the order of the rest. It
reduces a statement about an order to one about its tail. -/
theorem idxOf_cons_lt_idxOf_cons_iff {first a b : String} {rest : List String} (ha : a ≠ first)
    (hb : b ≠ first) :
    (first :: rest).idxOf a < (first :: rest).idxOf b ↔ rest.idxOf a < rest.idxOf b := by
  rw [List.idxOf_cons_ne rest ha.symm, List.idxOf_cons_ne rest hb.symm, Nat.succ_lt_succ_iff]

/-- Names, of which each stands behind those that it is deployed after, have
places that are ready in turn. So every order that an author could think of is
among those that a run is compared with. -/
theorem Describes.readyInTurn_map_place (h : graph.Describes descriptor) {names : List String}
    (hnodup : names.Nodup) (hsub : remaining ⊆ graph.positions)
    (hperm : (remaining.map graph.nameAt).Perm names)
    (hbehind : ∀ later ∈ names, ∀ earlier ∈ names, descriptor.DeployedAfter later earlier →
      names.idxOf earlier < names.idxOf later) :
    graph.ReadyInTurn remaining (names.map graph.place) := by
  induction names generalizing remaining with
  | nil => exact List.map_eq_nil_iff.1 hperm.eq_nil
  | cons name rest ih =>
      obtain ⟨hfirst, hrest⟩ := List.nodup_cons.1 hnodup
      obtain ⟨position, hposition, rfl⟩ := List.mem_map.1 (hperm.mem_iff.2 List.mem_cons_self)
      have hready : graph.isReady remaining position = true := by
        rw [h.isReady_iff_names hsub (hsub hposition)]
        intro earlier hafter hmem
        -- Nothing stands before the first name, so it is deployed after none of the names.
        have hlt := hbehind _ List.mem_cons_self earlier (hperm.mem_iff.1 hmem) hafter
        rw [List.idxOf_cons_self] at hlt
        exact Nat.not_lt_zero _ hlt
      have hperm : ((remaining.erase position).map graph.nameAt).Perm rest := by
        have hfront := (List.perm_cons_erase hposition).map graph.nameAt
        exact (hfront.symm.trans hperm).cons_inv
      rw [List.map_cons, h.place_nameAt (hsub hposition)]
      refine ⟨hposition, hready, ih hrest (fun p hp => hsub (List.mem_of_mem_erase hp)) hperm ?_⟩
      intro later hlater earlier hearlier hafter
      rw [← idxOf_cons_lt_idxOf_cons_iff (ne_of_mem_of_not_mem hearlier hfirst)
        (ne_of_mem_of_not_mem hlater hfirst)]
      exact hbehind later (List.mem_cons_of_mem _ hlater) earlier
        (List.mem_cons_of_mem _ hearlier) hafter

/-- Positions that are ready in turn have names, of which each stands behind
those that it is deployed after. -/
theorem Describes.idxOf_lt_of_readyInTurn (h : graph.Describes descriptor)
    (hsub : remaining ⊆ graph.positions) (hready : graph.ReadyInTurn remaining order)
    {later earlier : String} (hafter : descriptor.DeployedAfter later earlier)
    (hlater : later ∈ remaining.map graph.nameAt)
    (hearlier : earlier ∈ remaining.map graph.nameAt) :
    (order.map graph.nameAt).idxOf earlier < (order.map graph.nameAt).idxOf later := by
  induction order generalizing remaining with
  | nil =>
      rw [show remaining = [] from hready] at hlater
      cases hlater
  | cons position rest ih =>
      obtain ⟨hposition, hready, hrest⟩ := hready
      rw [h.isReady_iff_names hsub (hsub hposition)] at hready
      -- The later name is not the first one: that would be ready although the earlier name
      -- remains.
      have hne : later ≠ graph.nameAt position := by
        rintro rfl
        exact hready earlier hafter hearlier
      have hkept : ∀ name ∈ remaining.map graph.nameAt, name ≠ graph.nameAt position →
          name ∈ (remaining.erase position).map graph.nameAt := by
        intro name hname hne
        obtain ⟨p, hp, rfl⟩ := List.mem_map.1 hname
        have hne : p ≠ position := fun heq => hne (congrArg graph.nameAt heq)
        exact List.mem_map_of_mem ((List.mem_erase_of_ne hne).2 hp)
      rw [List.map_cons]
      by_cases hfirst : earlier = graph.nameAt position
      · rw [hfirst, List.idxOf_cons_self, List.idxOf_cons_ne _ hne.symm]
        exact Nat.succ_pos _
      · rw [idxOf_cons_lt_idxOf_cons_iff hfirst hne]
        exact ih (fun p hp => hsub (List.mem_of_mem_erase hp)) hrest (hkept later hlater hne)
          (hkept earlier hearlier hfirst)

/-- With distinct names, the position of a module is its place in the
declaration. -/
theorem Describes.place_eq_declarationIndex (h : graph.Describes descriptor) {name : String}
    (hname : name ∈ descriptor.modules.map (·.name)) :
    graph.place name = descriptor.declarationIndex name := by
  have hplace := position?_of_nodup h.nodup (List.getElem?_idxOf hname)
  rw [place, names_ofDescriptor h.ofDescriptor_eq, hplace]
  rfl

/-- What a module is deployed after is a module of the descriptor, for else the
descriptor would have no graph. -/
theorem Describes.mem_of_deployedAfter (h : graph.Describes descriptor) {later earlier : String}
    (hafter : descriptor.DeployedAfter later earlier) :
    later ∈ descriptor.modules.map (·.name) ∧ earlier ∈ descriptor.modules.map (·.name) := by
  obtain ⟨m, hm, rfl, names, hnames, hmem⟩ := hafter
  obtain ⟨known, hknown, hsub⟩ := exists_ofDescriptor_iff.1 ⟨graph, h.ofDescriptor_eq⟩ m hm
  obtain rfl : known = names := Except.ok.inj (hknown.symm.trans hnames)
  exact ⟨List.mem_map_of_mem hm, hsub hmem⟩

/-- An order that is found names the positions of a run that leaves nothing. -/
theorem outcome_orderFrom {names : List String} (h : graph.sequential = .ok names) :
    (graph.orderFrom graph.positions).2 = [] ∧
      names = (graph.orderFrom graph.positions).1.map graph.nameAt := by
  unfold sequential at h
  split at h
  · rename_i order horder
    cases h
    rw [horder]
    exact ⟨rfl, rfl⟩
  · cases h

namespace Describes

variable {names names' : List String}

/-- The names of all positions are those of the modules. -/
theorem map_nameAt_positions (h : graph.Describes descriptor) :
    graph.positions.map graph.nameAt = descriptor.modules.map (·.name) :=
  (DeploymentGraph.map_nameAt_positions graph).trans (names_ofDescriptor h.ofDescriptor_eq)

/-- An order that is found respects what modules are deployed after. It is one
half of the result; the other is that none is smaller. -/
theorem respects_of_sequential (h : graph.Describes descriptor)
    (hnames : graph.sequential = .ok names) : descriptor.Respects names := by
  intro later earlier hafter
  obtain ⟨hnone, rfl⟩ := outcome_orderFrom hnames
  obtain ⟨hlater, hearlier⟩ := h.mem_of_deployedAfter hafter
  rw [← h.map_nameAt_positions] at hlater hearlier
  exact h.idxOf_lt_of_readyInTurn (List.Subset.refl _) (readyInTurn_orderFrom hnone) hafter
    hlater hearlier

/-- The places of an order of all modules in the declaration are positions, so
orders are compared as a run compares them. -/
theorem map_declarationIndex (h : graph.Describes descriptor)
    (hperm : names.Perm (descriptor.modules.map (·.name))) :
    names.map descriptor.declarationIndex = names.map graph.place :=
  List.map_congr_left fun _ hname => (h.place_eq_declarationIndex (hperm.mem_iff.1 hname)).symm

/-- The order that is found is the least one that respects what modules are
deployed after. Any other one is a list of positions that are ready in turn,
and the run is the least of these. -/
theorem sequential_le (h : graph.Describes descriptor) (hnames : graph.sequential = .ok names)
    (hperm : names'.Perm (descriptor.modules.map (·.name)))
    (hrespects : descriptor.Respects names') :
    names.map descriptor.declarationIndex ≤ names'.map descriptor.declarationIndex := by
  have hfound : names.Perm (descriptor.modules.map (·.name)) :=
    names_ofDescriptor h.ofDescriptor_eq ▸ sequential_perm hnames
  obtain ⟨-, hrun⟩ := outcome_orderFrom hnames
  have hplaces : names.map graph.place = (graph.orderFrom graph.positions).1 := by
    have hsub : ∀ p ∈ (graph.orderFrom graph.positions).1, p ∈ graph.positions := fun p hp =>
      (graph.orderFrom_perm graph.positions).mem_iff.1 (List.mem_append_left _ hp)
    rw [hrun, List.map_map]
    exact (List.map_congr_left fun p hp => h.place_nameAt (hsub p hp)).trans (List.map_id _)
  have hturn : graph.ReadyInTurn graph.positions (names'.map graph.place) :=
    h.readyInTurn_map_place (hperm.nodup_iff.2 h.nodup) (List.Subset.refl _)
      (h.map_nameAt_positions ▸ hperm.symm) fun later _ earlier _ => hrespects later earlier
  rw [h.map_declarationIndex hfound, h.map_declarationIndex hperm, hplaces]
  exact orderFrom_le List.pairwise_lt_range hturn

end Describes

/-- **One by one, modules are deployed in the least order.** Let the modules of
a descriptor have distinct names and readable lists of known modules that they
are deployed after, and let no module be, through others, deployed after
itself. Then there is an order one by one, also by counts. It has every module,
each behind those that it is deployed after. Of all such orders it is the one
whose places in the declaration come first in lexicographic order. -/
theorem sequential_least (descriptor : Descriptor)
    (hnodup : (descriptor.modules.map (·.name)).Nodup)
    (hknown : ∀ m ∈ descriptor.modules, ∃ names,
      (descriptor.moduleScopes m).texts "deployed-after" = .ok names ∧
      names ⊆ descriptor.modules.map (·.name))
    (hacyclic : ¬ ∃ name, descriptor.OnCycle name) :
    ∃ graph order, ofDescriptor descriptor = .ok graph ∧ graph.sequential = .ok order ∧
      graph.sequentialByCounts = .ok order ∧
      order.Perm (descriptor.modules.map (·.name)) ∧ descriptor.Respects order ∧
      ∀ other : List String, other.Perm (descriptor.modules.map (·.name)) →
        descriptor.Respects other →
        order.map descriptor.declarationIndex ≤ other.map descriptor.declarationIndex := by
  obtain ⟨graph, hgraph⟩ := exists_ofDescriptor_iff.2 hknown
  obtain ⟨order, horder⟩ := (exists_sequential_iff hgraph).2 hacyclic
  have h : graph.Describes descriptor := ⟨hgraph, hnodup⟩
  have hcounted : graph.sequentialByCounts = .ok order :=
    (sequentialByCounts_eq hgraph).trans horder
  have hperm : order.Perm (descriptor.modules.map (·.name)) :=
    names_ofDescriptor hgraph ▸ sequential_perm horder
  exact ⟨graph, order, hgraph, horder, hcounted, hperm, h.respects_of_sequential horder,
    fun other => h.sequential_le horder⟩

/-- Three modules that wait for each other in a row, declared the other way
round, and one that waits for nothing. -/
def pipeline : Descriptor :=
  let after (names : List String) : Parameters :=
    .ofList [("deployed-after", .ofStrings names)]
  .plain ∅ [.plain "ui" (after ["api"]), .plain "docs" ∅, .plain "api" (after ["db", "db"]),
    .plain "db" ∅] []

/-- In the pipeline the module that waits for nothing comes first, although it
could come last. -/
theorem sequential_least_pipeline : ∃ graph order,
    (pipeline.modules.map (·.name)).Nodup ∧ ¬ (∃ name, pipeline.OnCycle name) ∧
    ofDescriptor pipeline = .ok graph ∧ graph.sequential = .ok order ∧
    order = ["docs", "db", "api", "ui"] ∧ pipeline.Respects order ∧
    ∀ other : List String, other.Perm (pipeline.modules.map (·.name)) →
      pipeline.Respects other →
      order.map pipeline.declarationIndex ≤ other.map pipeline.declarationIndex := by
  have hnodup : (pipeline.modules.map (·.name)).Nodup := by decide
  have hgraph : ofDescriptor pipeline
      = .ok ⟨["ui", "docs", "api", "db"], [(2, 0), (3, 2)]⟩ := by rfl
  have hnames : DeploymentGraph.sequential ⟨["ui", "docs", "api", "db"], [(2, 0), (3, 2)]⟩
      = .ok ["docs", "db", "api", "ui"] := by decide +kernel
  have hacyclic : ¬ ∃ name, pipeline.OnCycle name :=
    (exists_sequential_iff hgraph).1 ⟨_, hnames⟩
  obtain ⟨graph, order, hgraph', horder, -, -, hrespects, hleast⟩ :=
    sequential_least pipeline hnodup (exists_ofDescriptor_iff.1 ⟨_, hgraph⟩) hacyclic
  obtain rfl := Except.ok.inj (hgraph.symm.trans hgraph')
  have hfound : order = ["docs", "db", "api", "ui"] := Except.ok.inj (horder.symm.trans hnames)
  exact ⟨_, order, hnodup, hacyclic, hgraph, horder, hfound, hrespects, hleast⟩

end DeploymentGraph

end MultiTarget
