import Mathlib.Data.Fintype.Card
import Mathlib.Logic.Relation
import Mathlib.Order.Preorder.Finite
import MultiTarget.DeploymentOrder
import MultiTarget.Proofs.Support.Outcome
import MultiTarget.Proofs.Support.Plain

/-!
# `MultiTarget.Proofs.DeploymentOrder`: which modules never become ready

Deployed one by one or in waves, a module is removed from those that
remain once none of its predecessors remains. Both ways stop when nothing
is ready. The modules that remain then are the same ones: those behind a
cycle (`BehindCycle`).

* `BehindCycle.exists_precedes`: a position behind a cycle has a
  predecessor behind a cycle, so it is not ready while all such positions
  remain (`not_behindCycle_of_isReady`, the step lemma).
* `behindCycle_of_closed`: positions each of which has a predecessor among
  them lie behind a cycle, because they are finitely many.
* `snd_orderFrom` and `snd_wavesFrom`: from both facts, what is left at
  the end of either run.

The rest goes from positions to the names of modules: the edges of the
graph of a descriptor are the relation that its author wrote down
(`deployedAfter_nameAt`, `precedes_place`), and
`waves_sequential_fail_iff` says that either way fails exactly on a cycle
of that relation, with the same complaint.
-/

set_option autoImplicit false

namespace MultiTarget

open Relation (TransGen ReflTransGen)

/-! ### What an author wrote down -/

namespace Descriptor

/-- One name is the name of a module whose scopes list the other one under
`deployed-after`. It is stated with names and the parameter, so that it can be
read without the graph. -/
def DeployedAfter (descriptor : Descriptor) (later earlier : String) : Prop :=
  ∃ m ∈ descriptor.modules, m.name = later ∧
    ∃ names, (descriptor.moduleScopes m).texts "deployed-after" = .ok names ∧ earlier ∈ names

/-- A module that is, through others, deployed after itself. A module that
names itself is one, too. -/
def OnCycle (descriptor : Descriptor) (name : String) : Prop :=
  TransGen descriptor.DeployedAfter name name

/-- A module on a cycle, or deployed, through others, after one that is. Such a
module waits for ever, although it may be on no cycle itself. -/
def Blocked (descriptor : Descriptor) (name : String) : Prop :=
  descriptor.OnCycle name ∨
    ∃ start, descriptor.OnCycle start ∧ TransGen descriptor.DeployedAfter name start

end Descriptor

namespace DeploymentGraph

/-! ### Positions behind a cycle -/

/-- The module at one position is deployed before the one at another. It is the
direct relation, of which chains are made. -/
def Precedes (graph : DeploymentGraph) (first second : Nat) : Prop :=
  (first, second) ∈ graph.edges

/-- A position on a cycle, or after one that is. The path from the cycle may be
empty, so positions on it are included. -/
def BehindCycle (graph : DeploymentGraph) (position : Nat) : Prop :=
  ∃ start, TransGen graph.Precedes start start ∧ ReflTransGen graph.Precedes start position

variable {descriptor : Descriptor} {graph : DeploymentGraph} {remaining : List Nat}
  {position : Nat}

/-- A position is ready if none of its predecessors remains. The program tests
all edges of the graph, those that lead elsewhere included. -/
theorem isReady_iff :
    graph.isReady remaining position = true
      ↔ ∀ first, graph.Precedes first position → first ∉ remaining := by
  simp only [isReady, Precedes, List.all_eq_true, Bool.or_eq_true, decide_eq_true_eq,
    Bool.not_eq_true', List.contains_eq_mem, decide_eq_false_iff_not]
  constructor
  · intro h first hedge
    exact (h (first, position) hedge).resolve_left fun hne => hne rfl
  · rintro h ⟨first, second⟩ hedge
    by_cases hsecond : second = position
    · subst hsecond
      exact .inr (h first hedge)
    · exact .inl hsecond

/-- A position behind a cycle has a predecessor behind a cycle. This is why it
can never be the first one of them to become ready. -/
theorem BehindCycle.exists_precedes (h : graph.BehindCycle position) :
    ∃ first, graph.Precedes first position ∧ graph.BehindCycle first := by
  obtain ⟨start, hcycle, hpath⟩ := h
  rcases ReflTransGen.cases_tail hpath with rfl | ⟨first, hbefore, hlast⟩
  · -- The position is on the cycle: the last step of the cycle leads to it.
    obtain ⟨first, hbefore, hlast⟩ := TransGen.tail'_iff.1 hcycle
    exact ⟨first, hlast, position, hcycle, hbefore⟩
  · exact ⟨first, hlast, start, hcycle, hbefore⟩

/-- While every position behind a cycle remains, none of them is ready. It is
the step that both runs preserve. -/
theorem not_behindCycle_of_isReady (hall : ∀ p, graph.BehindCycle p → p ∈ remaining)
    (hready : graph.isReady remaining position = true) : ¬ graph.BehindCycle position := by
  intro h
  obtain ⟨first, hedge, hfirst⟩ := h.exists_precedes
  exact isReady_iff.1 hready first hedge (hall first hfirst)

/-- Positions that each have a predecessor among them lie behind a cycle. A
walk back from any of them never leaves them, so it visits a position twice. -/
theorem behindCycle_of_closed {positions : List Nat}
    (hclosed : ∀ p ∈ positions, ∃ first ∈ positions, graph.Precedes first p) :
    ∀ p ∈ positions, graph.BehindCycle p := by
  intro p hp
  -- Some predecessor of each position, as a function, so that a walk is an iteration.
  choose! back hmem hback using hclosed
  let walk (n : Nat) : Nat := back^[n] p
  have hwalk : ∀ n, walk n ∈ positions := by
    intro n
    induction n with
    | zero => exact hp
    | succ n ih =>
        show back^[n + 1] p ∈ positions
        rw [Function.iterate_succ_apply']
        exact hmem _ ih
  have hstep : ∀ n, graph.Precedes (walk (n + 1)) (walk n) := by
    intro n
    show graph.Precedes (back^[n + 1] p) (back^[n] p)
    rw [Function.iterate_succ_apply']
    exact hback _ (hwalk n)
  have hpath : ∀ m k, ReflTransGen graph.Precedes (walk (m + k)) (walk m) := by
    intro m k
    induction k with
    | zero => exact .refl
    | succ k ih => exact .head (hstep (m + k)) ih
  obtain ⟨m, n, hlt, heq⟩ :=
    (List.finite_toSet positions).exists_lt_map_eq_of_forall_mem hwalk
  -- The walk is at the same position after `m` and after `n` steps.
  obtain ⟨k, rfl⟩ : ∃ k, n = m + 1 + k := ⟨n - m - 1, by omega⟩
  have hround : TransGen graph.Precedes (walk (m + 1 + k)) (walk m) :=
    TransGen.tail' (hpath (m + 1) k) (hstep m)
  have hfrom : ReflTransGen graph.Precedes (walk (0 + m)) (walk 0) := hpath 0 m
  rw [← heq] at hround
  rw [Nat.zero_add] at hfrom
  exact ⟨walk m, hround, hfrom⟩

/-! ### What either run leaves -/

open Classical in
/-- Positions none of which is ready all lie behind a cycle, so nothing else is
left when a run stops. -/
theorem filter_behindCycle_of_not_isReady
    (hnone : ∀ p ∈ remaining, ¬ graph.isReady remaining p = true) :
    remaining.filter (fun p => graph.BehindCycle p) = remaining := by
  rw [List.filter_eq_self]
  intro p hp
  refine decide_eq_true (behindCycle_of_closed ?_ p hp)
  intro p hp
  have hnot := hnone p hp
  rw [isReady_iff] at hnot
  push Not at hnot
  obtain ⟨first, hedge, hfirst⟩ := hnot
  exact ⟨first, hfirst, hedge⟩

open Classical in
/-- One by one, the positions behind a cycle are left. The hypothesis that all
of them remain holds at the start, and each step keeps it. -/
theorem snd_orderFrom (graph : DeploymentGraph) (remaining : List Nat)
    (hall : ∀ p, graph.BehindCycle p → p ∈ remaining) :
    (graph.orderFrom remaining).2 = remaining.filter (fun p => graph.BehindCycle p) := by
  fun_induction orderFrom graph remaining with
  | case1 remaining hnone =>
      rw [filter_behindCycle_of_not_isReady]
      simpa using List.find?_eq_none.1 hnone
  | case2 remaining next hnext order stuck hrun ih =>
      -- What is removed lies behind no cycle, so all that does stays.
      have hfree : ¬ graph.BehindCycle next :=
        not_behindCycle_of_isReady hall (List.find?_some hnext)
      have hrest : ∀ p, graph.BehindCycle p → p ∈ remaining.erase next := by
        intro p hp
        have hne : p ≠ next := fun heq => hfree (heq ▸ hp)
        exact (List.mem_erase_of_ne hne).2 (hall p hp)
      have hstuck := ih hrest
      rw [hrun] at hstuck
      show stuck = _
      rw [show stuck = _ from hstuck, ← List.erase_filter]
      exact List.erase_of_not_mem (by simp [hfree])

open Classical in
/-- In waves, the positions behind a cycle are left. The same invariant carries
the proof, for a whole wave at a time. -/
theorem snd_wavesFrom (graph : DeploymentGraph) (remaining : List Nat)
    (hall : ∀ p, graph.BehindCycle p → p ∈ remaining) :
    (graph.wavesFrom remaining).2 = remaining.filter (fun p => graph.BehindCycle p) := by
  fun_induction wavesFrom graph remaining with
  | case1 remaining hsome waves stuck hrun ih =>
      -- A whole wave is removed at once, and none of it lies behind a cycle.
      have hfree : ∀ p, graph.BehindCycle p → graph.isReady remaining p = false := by
        intro p hp
        by_contra hready
        rw [Bool.not_eq_false] at hready
        exact not_behindCycle_of_isReady hall hready hp
      have hrest : ∀ p, graph.BehindCycle p → p ∈ graph.waiting remaining := fun p hp =>
        List.mem_filter.2 ⟨hall p hp, by simp [hfree p hp]⟩
      have hstuck := ih hrest
      rw [hrun] at hstuck
      show stuck = _
      rw [show stuck = _ from hstuck, waiting, List.filter_filter]
      refine List.filter_congr fun p _ => ?_
      by_cases hp : graph.BehindCycle p
      · simp [hp, hfree p hp]
      · simp [hp]
  | case2 remaining hnone =>
      rw [filter_behindCycle_of_not_isReady]
      simpa using hnone

/-! ### The graph of a descriptor -/

/-- A name stands at its position. With repeated names the position is that of
the last module with the name. -/
theorem getElem?_of_position? {names : List String} {name : String} {place : Nat}
    (h : position? names name = some place) : names[place]? = some name := by
  unfold position? at h
  obtain ⟨⟨found, place'⟩, hfind, rfl⟩ := Option.map_eq_some_iff.1 h
  have hmem := List.mem_reverse.1 (List.mem_of_find?_eq_some hfind)
  have hname : found = name := by simpa using List.find?_some hfind
  rw [← hname]
  exact List.mem_zipIdx_iff_getElem?.1 hmem

/-- Among distinct names the place of a name is its position, so names and
positions stand for each other. -/
theorem position?_of_nodup {names : List String} (hnodup : names.Nodup) {name : String}
    {place : Nat} (h : names[place]? = some name) : position? names name = some place := by
  have hsome : (position? names name).isSome = true := by
    unfold position?
    rw [Option.isSome_map, List.find?_isSome]
    exact ⟨(name, place), List.mem_reverse.2 (List.mem_zipIdx_iff_getElem?.2 h), by simp⟩
  obtain ⟨found, hfound⟩ := Option.isSome_iff_exists.1 hsome
  have hplace := getElem?_of_position? hfound
  rw [hfound]
  obtain ⟨hlt, hget⟩ := List.getElem?_eq_some_iff.1 hplace
  obtain ⟨hlt', hget'⟩ := List.getElem?_eq_some_iff.1 h
  exact congrArg some ((hnodup.getElem_inj_iff).1 (hget.trans hget'.symm))

/-- The edges to a module come from the positions of the modules it names. One
that names another twice has the edge once, which membership does not see. -/
theorem mem_edgesTo {names : List String} {name : String} {dependencies : List String}
    {edges : List (Nat × Nat)} (h : edgesTo names name dependencies = .ok edges)
    {first second : Nat} :
    (first, second) ∈ edges ↔
      ∃ dependency ∈ dependencies, position? names dependency = some first ∧
        position? names name = some second := by
  -- Along the names of the list. One that is unknown ends the construction, so both positions
  -- exist.
  induction dependencies generalizing edges with
  | nil =>
      cases h
      simp
  | cons dependency rest ih =>
      unfold edgesTo at h
      split at h
      · rename_i first' second' hfirst hsecond
        split at h
        · rename_i others hothers
          cases h
          simp only [List.mem_cons, exists_eq_or_imp, ih hothers, hfirst, hsecond,
            Option.some.injEq, Prod.mk.injEq]
          exact or_congr (and_congr eq_comm eq_comm) Iff.rfl
        · cases h
      · cases h

/-- Every module that a module names has a position, or else there is no
graph. -/
theorem exists_position_of_edgesTo {names : List String} {name : String}
    {dependencies : List String} {edges : List (Nat × Nat)}
    (h : edgesTo names name dependencies = .ok edges) {dependency : String}
    (hmem : dependency ∈ dependencies) :
    ∃ first second, position? names dependency = some first ∧
      position? names name = some second := by
  induction dependencies generalizing edges with
  | nil => cases hmem
  | cons head rest ih =>
      unfold edgesTo at h
      split at h
      · rename_i first second hfirst hsecond
        split at h
        · rename_i others hothers
          rcases List.mem_cons.1 hmem with rfl | hrest
          · exact ⟨first, second, hfirst, hsecond⟩
          · exact ih hothers hrest
        · cases h
      · cases h

/-- The graph of a descriptor has the names of its modules in order. -/
theorem names_ofDescriptor (h : ofDescriptor descriptor = .ok graph) :
    graph.names = descriptor.modules.map (·.name) := by
  unfold ofDescriptor at h
  simp only [Outcome.bind_eq_ok, Outcome.pure_eq_ok] at h
  obtain ⟨-, -, rfl⟩ := h
  rfl

/-- What the steps of the construction of a graph say: every module has its
list, and the edges are those of all modules. -/
theorem exists_of_ofDescriptor (h : ofDescriptor descriptor = .ok graph) :
    (∀ m ∈ descriptor.modules, ∃ names edges,
      (descriptor.moduleScopes m).texts "deployed-after" = .ok names ∧
      edgesTo graph.names m.name names = .ok edges) ∧
    ∀ edge, edge ∈ graph.edges ↔ ∃ m ∈ descriptor.modules, ∃ names edges,
      (descriptor.moduleScopes m).texts "deployed-after" = .ok names ∧
      edgesTo graph.names m.name names = .ok edges ∧ edge ∈ edges := by
  unfold ofDescriptor at h
  simp only [Outcome.bind_eq_ok, Outcome.pure_eq_ok] at h
  obtain ⟨lists, hlists, rfl⟩ := h
  constructor
  · intro m hm
    obtain ⟨edges, -, hedges⟩ := Outcome.exists_result_of_mem hlists hm
    obtain ⟨names, hnames, hedges⟩ := Outcome.bind_eq_ok.1 hedges
    exact ⟨names, edges, hnames, hedges⟩
  · intro edge
    rw [List.mem_eraseDups, List.mem_flatten]
    constructor
    · rintro ⟨edges, hmem, hedge⟩
      obtain ⟨m, hm, hedges⟩ := Outcome.exists_item_of_mem hlists hmem
      obtain ⟨names, hnames, hedges⟩ := Outcome.bind_eq_ok.1 hedges
      exact ⟨m, hm, names, edges, hnames, hedges, hedge⟩
    · rintro ⟨m, hm, names, edges, hnames, hedges, hedge⟩
      obtain ⟨edges', hmem, hedges'⟩ := Outcome.exists_result_of_mem hlists hm
      rw [hnames] at hedges'
      have heq : edges = edges' := Except.ok.inj (hedges.symm.trans hedges')
      exact ⟨edges, heq ▸ hmem, hedge⟩

/-! ### From positions to names -/

/-- The position of a name, and any number for a name without one. As a total
function it can be mapped over paths of names. -/
def place (graph : DeploymentGraph) (name : String) : Nat :=
  (position? graph.names name).getD 0

/-- The name at the position of a name is this name, whether or not it is
repeated. -/
theorem nameAt_of_position? {name : String} {place : Nat}
    (h : position? graph.names name = some place) : graph.nameAt place = name := by
  rw [nameAt, List.getD_eq_getElem?_getD, getElem?_of_position? h, Option.getD_some]

/-- Among distinct names, the place of the name at a position is this position.
With repeated names it would be that of the last module with the name. -/
theorem place_nameAt (hnodup : graph.names.Nodup) {position : Nat}
    (hlt : position < graph.names.length) : graph.place (graph.nameAt position) = position := by
  have hname : graph.names[position]? = some (graph.nameAt position) := by
    rw [nameAt, List.getD_eq_getElem?_getD, List.getElem?_eq_getElem hlt, Option.getD_some]
  rw [place, position?_of_nodup hnodup hname, Option.getD_some]

/-- The positions in order have the names in order, so an order of positions is
read as one of names. -/
theorem map_nameAt_positions (graph : DeploymentGraph) :
    graph.positions.map graph.nameAt = graph.names := by
  refine List.ext_getElem (by simp [positions]) fun i hi hi' => ?_
  simp [positions, nameAt, List.getD_eq_getElem?_getD, hi']

/-- An edge leads to a module that names the one it comes from. So a cycle of
the graph is one that the author wrote down. -/
theorem deployedAfter_nameAt (hgraph : ofDescriptor descriptor = .ok graph)
    {first second : Nat} (hedge : graph.Precedes first second) :
    descriptor.DeployedAfter (graph.nameAt second) (graph.nameAt first) := by
  obtain ⟨m, hm, names, edges, hnames, hedges, hmem⟩ :=
    ((exists_of_ofDescriptor hgraph).2 _).1 hedge
  obtain ⟨dependency, hdependency, hfirst, hsecond⟩ := (mem_edgesTo hedges).1 hmem
  rw [nameAt_of_position? hfirst, nameAt_of_position? hsecond]
  exact ⟨m, hm, rfl, names, hnames, hdependency⟩

/-- A module that names another one has an edge from it. The graph exists, so
the name is known and has a place. -/
theorem precedes_place (hgraph : ofDescriptor descriptor = .ok graph)
    {later earlier : String} (hafter : descriptor.DeployedAfter later earlier) :
    graph.Precedes (graph.place earlier) (graph.place later) := by
  obtain ⟨m, hm, rfl, names, hnames, hearlier⟩ := hafter
  obtain ⟨names', edges, hnames', hedges⟩ := (exists_of_ofDescriptor hgraph).1 m hm
  have heq : names = names' := Except.ok.inj (hnames.symm.trans hnames')
  subst heq
  obtain ⟨first, second, hfirst, hsecond⟩ := exists_position_of_edgesTo hedges hearlier
  refine ((exists_of_ofDescriptor hgraph).2 _).2 ⟨m, hm, names, edges, hnames, hedges, ?_⟩
  rw [place, place, hfirst, hsecond]
  exact (mem_edgesTo hedges).2 ⟨earlier, hearlier, hfirst, hsecond⟩

/-- Paths of edges are paths of names, walked in the other direction: an edge
leads from what is deployed first to what waits for it. -/
theorem transGen_nameAt (hgraph : ofDescriptor descriptor = .ok graph) {first second : Nat}
    (h : TransGen graph.Precedes first second) :
    TransGen descriptor.DeployedAfter (graph.nameAt second) (graph.nameAt first) := by
  induction h with
  | single hedge => exact .single (deployedAfter_nameAt hgraph hedge)
  | tail _ hedge ih => exact .head (deployedAfter_nameAt hgraph hedge) ih

/-- Paths of names are paths of edges, walked in the other direction. Names of
no module would break the path, and none is on it. -/
theorem transGen_place (hgraph : ofDescriptor descriptor = .ok graph) {later earlier : String}
    (h : TransGen descriptor.DeployedAfter later earlier) :
    TransGen graph.Precedes (graph.place earlier) (graph.place later) := by
  induction h with
  | single hafter => exact .single (precedes_place hgraph hafter)
  | tail _ hafter ih => exact .head (precedes_place hgraph hafter) ih

/-- A position lies behind a cycle if its module never becomes ready. Among
finitely many modules there is no other reason to wait for ever. -/
theorem behindCycle_place (hgraph : ofDescriptor descriptor = .ok graph) {name : String}
    (h : descriptor.Blocked name) : graph.BehindCycle (graph.place name) := by
  rcases h with hcycle | ⟨start, hcycle, hpath⟩
  · exact ⟨_, transGen_place hgraph hcycle, .refl⟩
  · exact ⟨_, transGen_place hgraph hcycle, (transGen_place hgraph hpath).to_reflTransGen⟩

/-- The module at a position behind a cycle never becomes ready. Together with
the converse it tells which modules an error lists. -/
theorem blocked_nameAt (hgraph : ofDescriptor descriptor = .ok graph) {position : Nat}
    (h : graph.BehindCycle position) : descriptor.Blocked (graph.nameAt position) := by
  obtain ⟨start, hcycle, hpath⟩ := h
  rcases Relation.reflTransGen_iff_eq_or_transGen.1 hpath with rfl | hpath
  · exact .inl (transGen_nameAt hgraph hcycle)
  · exact .inr ⟨_, transGen_nameAt hgraph hcycle, transGen_nameAt hgraph hpath⟩

/-- With distinct names, a position lies behind a cycle exactly if its module
never becomes ready. If names repeat, edges lead to the last module with a name
only, and the two come apart. -/
theorem behindCycle_iff (hgraph : ofDescriptor descriptor = .ok graph)
    (hnodup : graph.names.Nodup) {position : Nat} (hlt : position < graph.names.length) :
    graph.BehindCycle position ↔ descriptor.Blocked (graph.nameAt position) := by
  refine ⟨blocked_nameAt hgraph, fun h => ?_⟩
  have hplace : graph.place (graph.nameAt position) = position := place_nameAt hnodup hlt
  exact hplace ▸ behindCycle_place hgraph h

/-- Every position behind a cycle is that of a module, since an edge leads to
it. -/
theorem mem_positions_of_behindCycle (hgraph : ofDescriptor descriptor = .ok graph)
    {position : Nat} (h : graph.BehindCycle position) : position ∈ graph.positions := by
  obtain ⟨first, hedge, -⟩ := h.exists_precedes
  obtain ⟨m, -, names, edges, -, hedges, hmem⟩ :=
    ((exists_of_ofDescriptor hgraph).2 _).1 hedge
  obtain ⟨-, -, -, hsecond⟩ := (mem_edgesTo hedges).1 hmem
  obtain ⟨hlt, -⟩ := List.getElem?_eq_some_iff.1 (getElem?_of_position? hsecond)
  exact List.mem_range.2 hlt

open Classical in
/-- The names of the positions behind a cycle are the modules that never become
ready, in order of declaration. This is the list that both complaints name. -/
theorem map_nameAt_behindCycle (hgraph : ofDescriptor descriptor = .ok graph)
    (hnodup : (descriptor.modules.map (·.name)).Nodup) :
    (graph.positions.filter fun p => graph.BehindCycle p).map graph.nameAt
      = (descriptor.modules.map (·.name)).filter fun name => descriptor.Blocked name := by
  have hnames := names_ofDescriptor hgraph
  rw [← hnames] at hnodup ⊢
  conv_rhs => rw [← map_nameAt_positions graph]
  rw [List.filter_map]
  refine congrArg _ (List.filter_congr fun p hp => ?_)
  exact decide_eq_decide.2 (behindCycle_iff hgraph hnodup (List.mem_range.1 hp))

/-! ### When an order fails -/

/-- One by one, the modules have an order unless some are left; these are named
by the complaint. -/
theorem sequential_outcome (graph : DeploymentGraph) :
    ((graph.orderFrom graph.positions).2 = [] ∧ ∃ names, graph.sequential = .ok names) ∨
    ((graph.orderFrom graph.positions).2 ≠ [] ∧ graph.sequential =
      .error (.deploymentOrderCycle ((graph.orderFrom graph.positions).2.map graph.nameAt))) := by
  unfold sequential
  obtain ⟨order, stuck⟩ := graph.orderFrom graph.positions
  cases stuck with
  | nil => exact .inl ⟨rfl, _, rfl⟩
  | cons p rest => exact .inr ⟨List.cons_ne_nil _ _, rfl⟩

/-- In waves, the modules have an order unless some are left; these are named
by the complaint. -/
theorem waves_outcome (graph : DeploymentGraph) :
    ((graph.wavesFrom graph.positions).2 = [] ∧ ∃ names, graph.waves = .ok names) ∨
    ((graph.wavesFrom graph.positions).2 ≠ [] ∧ graph.waves =
      .error (.deploymentOrderCycle ((graph.wavesFrom graph.positions).2.map graph.nameAt))) := by
  unfold waves
  obtain ⟨waves, stuck⟩ := graph.wavesFrom graph.positions
  cases stuck with
  | nil => exact .inl ⟨rfl, _, rfl⟩
  | cons p rest => exact .inr ⟨List.cons_ne_nil _ _, rfl⟩

open Classical in
/-- Some position lies behind a cycle exactly if some module is on one. A
module behind a cycle leads back to the cycle. -/
theorem filter_behindCycle_ne_nil_iff (hgraph : ofDescriptor descriptor = .ok graph) :
    (graph.positions.filter fun p => graph.BehindCycle p) ≠ []
      ↔ ∃ name, descriptor.OnCycle name := by
  constructor
  · intro hne
    obtain ⟨p, hp⟩ := List.exists_mem_of_ne_nil _ hne
    have hbehind : graph.BehindCycle p := by simpa using (List.mem_filter.1 hp).2
    obtain ⟨start, hcycle, -⟩ := hbehind
    exact ⟨_, transGen_nameAt hgraph hcycle⟩
  · rintro ⟨name, hcycle⟩
    have hbehind := behindCycle_place hgraph (.inl hcycle)
    exact List.ne_nil_of_mem (List.mem_filter.2
      ⟨mem_positions_of_behindCycle hgraph hbehind, decide_eq_true hbehind⟩)

open Classical in
/-- **Both ways to order modules refuse the same descriptors.** Take a
descriptor with distinct names of modules whose graph can be made. Waves fail
exactly if an order one by one fails, that is if a module is, through others,
deployed after itself. Either complaint then lists, in order of declaration,
the modules that are on a cycle or, through others, deployed after one that
is. -/
theorem waves_sequential_fail_iff (descriptor : Descriptor) (graph : DeploymentGraph)
    (hnodup : (descriptor.modules.map (·.name)).Nodup)
    (hgraph : ofDescriptor descriptor = .ok graph) :
    ((∃ error, graph.waves = .error error) ↔ ∃ error, graph.sequential = .error error) ∧
    ((∃ error, graph.sequential = .error error) ↔ ∃ name, descriptor.OnCycle name) ∧
    ((∃ name, descriptor.OnCycle name) →
      graph.waves = .error (.deploymentOrderCycle
        ((descriptor.modules.map (·.name)).filter fun name => descriptor.Blocked name)) ∧
      graph.sequential = .error (.deploymentOrderCycle
        ((descriptor.modules.map (·.name)).filter fun name => descriptor.Blocked name))) := by
  -- The invariant of both runs, at their start.
  have hall : ∀ p, graph.BehindCycle p → p ∈ graph.positions := fun _ =>
    mem_positions_of_behindCycle hgraph
  have hwaves := graph.waves_outcome
  have hsequential := graph.sequential_outcome
  rw [snd_wavesFrom graph _ hall] at hwaves
  rw [snd_orderFrom graph _ hall] at hsequential
  rw [← filter_behindCycle_ne_nil_iff hgraph, ← map_nameAt_behindCycle hgraph hnodup]
  -- Both runs leave the same positions, so both succeed or both fail.
  rcases hwaves with ⟨hnil, waves, hok⟩ | ⟨hcons, herror⟩
  · rcases hsequential with ⟨-, order, hok'⟩ | ⟨hcons', -⟩
    · simp [hnil, hok, hok']
    · exact absurd hnil hcons'
  · rcases hsequential with ⟨hnil', -⟩ | ⟨-, herror'⟩
    · exact absurd hnil' hcons
    · simp [hcons, herror, herror']

/-- Two modules that wait for each other, one that waits for the first of them,
and one that waits for nothing. -/
def ring : Descriptor :=
  let after (names : List String) : Parameters :=
    .ofList [("deployed-after", .ofStrings names)]
  .plain ∅ [.plain "a" (after ["b"]), .plain "b" (after ["a"]), .plain "c" ∅,
    .plain "d" (after ["a", "a", "c"])] []

open Classical in
/-- In the ring both orders fail with the same complaint, which also names the
module behind the cycle. -/
theorem waves_sequential_fail_ring : ∃ graph,
    (ring.modules.map (·.name)).Nodup ∧ ofDescriptor ring = .ok graph ∧ ring.OnCycle "a" ∧
    graph.waves = .error (.deploymentOrderCycle
      ((ring.modules.map (·.name)).filter fun name => ring.Blocked name)) ∧
    graph.sequential = .error (.deploymentOrderCycle
      ((ring.modules.map (·.name)).filter fun name => ring.Blocked name)) := by
  have hnodup : (ring.modules.map (·.name)).Nodup := by decide
  have hgraph : ofDescriptor ring
      = .ok ⟨["a", "b", "c", "d"], [(1, 0), (0, 1), (0, 3), (2, 3)]⟩ := by rfl
  have hab : ring.DeployedAfter "a" "b" :=
    ⟨_, List.mem_cons_self, rfl, ["b"], rfl, List.mem_cons_self⟩
  have hba : ring.DeployedAfter "b" "a" :=
    ⟨_, List.mem_cons_of_mem _ List.mem_cons_self, rfl, ["a"], rfl, List.mem_cons_self⟩
  have hcycle : ring.OnCycle "a" := .tail (.single hab) hba
  obtain ⟨-, -, hfail⟩ := waves_sequential_fail_iff ring _ hnodup hgraph
  exact ⟨_, hnodup, hgraph, hcycle, hfail ⟨"a", hcycle⟩⟩

end DeploymentGraph

end MultiTarget
