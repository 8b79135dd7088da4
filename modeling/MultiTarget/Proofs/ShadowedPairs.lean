import MultiTarget.Proofs.Agreement.Application
import MultiTarget.Proofs.Support.Outcome

/-!
# `MultiTarget.Proofs.ShadowedPairs`: pairs in more general scopes

A name and its plural are meant to be declared together: the most specific
scope that has either name shadows both of them in all scopes that are more
general. A chain is divided at this scope (`ScopeChain.Division`), and the
pair is taken out of what is above it (`Division.pruned`).

Hosts, domains and ports of either family of routes are read from the scope
that declares them and from no other (`Division.pair_under`), so they are the
same afterwards, complaints included (`Division.routing_readAlike`). Buildpacks
are not read in this way. Their plural is looked for in the whole chain before
the other name is looked at, so buildpacks for all modules overrule the one
that a module names for itself (`Division.Overruled`). `pruned_reads_iff` says
that this is the only case in which the pair is seen in a scope above.
-/

set_option autoImplicit false

namespace MultiTarget

/-- The buildpacks of staging are those that are read. So what is said of one
reader is said of staging as a whole. -/
theorem Staging.buildpacksOf_of_ofScopes {chain : ScopeChain} {staging : Staging}
    (h : Staging.ofScopes chain = .ok staging) : buildpacksOf chain = .ok staging.buildpacks := by
  simp only [Staging.ofScopes, Outcome.bind_eq_ok, Outcome.pure_eq_ok] at h
  grind

namespace ScopeChain

/-- A chain divided at the most specific scope that has either name of a pair.
The conditions are fields, so that a division is always one at this scope. -/
structure Division (names : String × String) where
  owner : String
  /-- The scopes above the dividing one. -/
  general : List Parameters
  /-- The dividing scope, which has either name. -/
  declaring : Parameters
  /-- The scopes below it, which have neither. -/
  specific : List Parameters
  declares : declaring.contains names.1 = true ∨ declaring.contains names.2 = true
  silent : ∀ scope ∈ specific, scope.get? names.1 = none ∧ scope.get? names.2 = none

namespace Division

variable {names : String × String} {key : String} {above : List Parameters}

/-- The scopes from the dividing one on, with others above them. What is above
is left open, since one division serves for two chains. -/
def under (d : Division names) (above : List Parameters) : ScopeChain :=
  ⟨d.owner, above ++ d.declaring :: d.specific⟩

/-- The chain that is divided: the dividing scope and those below, with the
general ones above them. -/
def chain (d : Division names) : ScopeChain := d.under d.general

/-- The chain without the pair in all scopes that are more general. All other
parameters of these scopes stay. -/
def pruned (d : Division names) : ScopeChain :=
  d.under (d.general.map (·.without [names.1, names.2]))

/-- Every chain can be divided where a pair is read from. So nothing is lost by
speaking of divisions. -/
theorem exists_chain_eq {chain : ScopeChain} {scope : Parameters}
    (h : chain.pairScope? names.1 names.2 = some scope) :
    ∃ d : Division names, d.chain = chain ∧ d.declaring = scope := by
  obtain ⟨hscope, later, earlier, hreverse, hlater⟩ := List.find?_eq_some_iff_append.1 h
  -- The scope is found from the most specific one on, so the list is turned round twice.
  have hscopes : chain.scopes = earlier.reverse ++ scope :: later.reverse := by
    rw [← List.reverse_reverse chain.scopes, hreverse]
    simp
  refine ⟨⟨chain.owner, earlier.reverse, scope, later.reverse, by simpa using hscope,
    fun other hother => ?_⟩, by rw [Division.chain, under, ← hscopes], rfl⟩
  simpa [OrderedMap.contains] using hlater other (List.mem_reverse.1 hother)

/-! ### What is read -/

/-- Whatever is above, the pair is read from the dividing scope. -/
theorem pairScope?_under (d : Division names) :
    (d.under above).pairScope? names.1 names.2 = some d.declaring := by
  have hsilent : d.specific.reverse.find?
      (fun scope => scope.contains names.1 || scope.contains names.2) = none := by
    rw [List.find?_eq_none]
    intro scope hscope
    obtain ⟨hsingular, hplural⟩ := d.silent scope (List.mem_reverse.1 hscope)
    simp [OrderedMap.contains, hsingular, hplural]
  have hdeclares : (d.declaring.contains names.1 || d.declaring.contains names.2) = true := by
    simpa using d.declares
  unfold pairScope? under
  rw [List.reverse_append, List.reverse_cons, List.append_assoc, List.find?_append, hsilent,
    Option.none_or, List.singleton_append, List.find?_cons, hdeclares]

/-- The pair is the same, with its complaints, whatever is above. -/
theorem pair_under (d : Division names) (above above' : List Parameters) :
    (d.under above).pair names.1 names.2 = (d.under above').pair names.1 names.2 := by
  unfold pair
  rw [d.pairScope?_under, d.pairScope?_under]
  rfl

/-- A single name of the pair is looked for above as well. This is where a
reader of single names goes astray. -/
theorem get?_under (d : Division names) (hkey : key ∈ [names.1, names.2]) :
    (d.under above).get? key
      = (d.declaring.get? key).or (above.reverse.findSome? (·.get? key)) := by
  have hsilent : d.specific.reverse.findSome? (·.get? key) = none := by
    rw [List.findSome?_eq_none_iff]
    intro scope hscope
    obtain ⟨hsingular, hplural⟩ := d.silent scope (List.mem_reverse.1 hscope)
    rcases List.mem_pair.1 hkey with rfl | rfl
    · exact hsingular
    · exact hplural
  unfold ScopeChain.get? under
  rw [List.reverse_append, List.reverse_cons, List.append_assoc, List.findSome?_append, hsilent,
    Option.none_or, List.singleton_append, List.findSome?_cons]
  cases d.declaring.get? key <;> rfl

/-- Nothing of the pair is left above, so that a single name is read from the
dividing scope or not at all. -/
theorem get?_pruned (d : Division names) (hkey : key ∈ [names.1, names.2]) :
    d.pruned.get? key = d.declaring.get? key := by
  have hnone : (d.general.map (·.without [names.1, names.2])).reverse.findSome? (·.get? key)
      = none := by
    rw [List.findSome?_eq_none_iff]
    intro scope hscope
    obtain ⟨whole, -, rfl⟩ := List.mem_map.1 (List.mem_reverse.1 hscope)
    rw [OrderedMap.get?_without, if_pos hkey]
  rw [pruned, d.get?_under hkey, hnone, Option.or_none]

theorem agreeOn_pruned (d : Division names) :
    d.chain.AgreeOn (· ∉ [names.1, names.2]) d.pruned := by
  refine ⟨rfl, List.rel_append ?_ (List.forall₂_same.2 fun _ _ => .refl _ _)⟩
  exact List.forall₂_map_right_iff.2
    (List.forall₂_same.2 fun scope _ => OrderedMap.AgreeOn.without_right scope _)

/-! ### Routes -/

/-- Routes see the pair in the dividing scope alone, since they read it as a
pair. All else that they read is no name of the pair. -/
theorem routing_readAlike (hnames : names ∈ Application.pairNames) (d : Division names)
    (family : RouteFamily) : Routing.ReadAlike family d.chain d.pruned where
  single := by
    have hsingle : ∀ names ∈ Application.pairNames, ∀ key ∈ Routing.singleNames family,
        key ∉ [names.1, names.2] := by cases family <;> decide
    exact (d.agreeOn_pruned.mono (hsingle names hnames)).values.readAlike
  pair := by
    -- Two pairs are the same or have no name in common.
    have hdistinct : ∀ names ∈ Application.pairNames, ∀ other ∈ Routing.pairNames family,
        other = names ∨ other.1 ∉ [names.1, names.2] ∧ other.2 ∉ [names.1, names.2] := by
      cases family <;> decide
    intro other hother
    rcases hdistinct names hnames other hother with rfl | ⟨hsingular, hplural⟩
    · exact d.pair_under _ _
    · exact d.agreeOn_pruned.pair hsingular hplural

/-! ### Buildpacks -/

/-- Once the pair is taken out above, the chain has a name of it if the
dividing scope has. -/
theorem contains_pruned (d : Division names) (hkey : key ∈ [names.1, names.2]) :
    d.pruned.contains key = d.declaring.contains key := by
  rw [ScopeChain.contains, d.get?_pruned hkey, OrderedMap.contains]

/-- A chain has a name of the pair if the dividing scope has it, or any scope
above. -/
theorem contains_chain_iff (d : Division names) (hkey : key ∈ [names.1, names.2]) :
    d.chain.contains key = true ↔
      d.declaring.contains key = true ∨ ∃ scope ∈ d.general, scope.contains key = true := by
  rw [ScopeChain.contains, chain, d.get?_under hkey, Option.isSome_or, Bool.or_eq_true,
    List.findSome?_isSome_iff]
  simp only [List.mem_reverse, OrderedMap.contains]

/-- A name that the dividing scope has is read from there, whatever is
above. -/
theorem texts_pruned (d : Division names) (hkey : key ∈ [names.1, names.2])
    (hown : d.declaring.contains key = true) : d.pruned.texts key = d.chain.texts key := by
  obtain ⟨value, hvalue⟩ := Option.isSome_iff_exists.1 hown
  have hsame : d.pruned.SameValuesOn (· = key) d.chain := by
    refine ⟨rfl, ?_⟩
    rintro _ rfl
    rw [d.get?_pruned hkey, chain, d.get?_under hkey, hvalue, Option.some_or]
  exact hsame.texts rfl

/-- The buildpacks of a scope above overrule those of the dividing scope, which
has no plural, and are others. The last condition matters: a plural above may
happen to say the same. -/
def Overruled (d : Division names) : Prop :=
  names = ("buildpack", "buildpacks") ∧ d.declaring.contains "buildpacks" = false ∧
    (∃ scope ∈ d.general, scope.contains "buildpacks" = true) ∧
    d.chain.texts "buildpacks" ≠ d.chain.texts "buildpack"

/-- Buildpacks are the same without those above exactly if they were not
overruled by these. For any other pair they are the same in any case. -/
theorem buildpacksOf_pruned_iff (hnames : names ∈ Application.pairNames) (d : Division names) :
    Staging.buildpacksOf d.pruned = Staging.buildpacksOf d.chain ↔ ¬ d.Overruled := by
  -- Only the pair of buildpacks concerns them; names of other pairs are not read here.
  by_cases hpair : names = ("buildpack", "buildpacks")
  · subst hpair
    unfold Staging.buildpacksOf
    rw [d.contains_pruned (by simp)]
    cases hplural : d.declaring.contains "buildpacks" with
    | true =>
        -- The plural is found first in either chain, and in the dividing scope.
        have hchain : d.chain.contains "buildpacks" = true :=
          (d.contains_chain_iff (by simp)).2 (.inl hplural)
        rw [if_pos rfl, if_pos hchain, d.texts_pruned (by simp) hplural]
        exact iff_of_true rfl fun h => absurd (hplural.symm.trans h.2.1) Bool.noConfusion
    | false =>
        have hsingular : d.declaring.contains "buildpack" = true :=
          d.declares.resolve_right (by simp [hplural])
        have habove : d.chain.contains "buildpacks" = true ↔ _ := d.contains_chain_iff (by simp)
        simp only [hplural, Bool.false_eq_true, false_or] at habove
        rw [if_neg Bool.false_ne_true, d.texts_pruned (by simp) hsingular]
        simp only [Overruled, hplural, true_and, ← habove]
        cases d.chain.contains "buildpacks" with
        | true => simp [eq_comm]
        | false => simp
  · have hother : ∀ names ∈ Application.pairNames, names ≠ ("buildpack", "buildpacks") →
        ∀ key ∈ ["buildpack", "buildpacks"], key ∉ [names.1, names.2] := by decide
    have hsame := d.agreeOn_pruned.mono (hother names hnames hpair)
    exact iff_of_true (Staging.buildpacksOf_congr hsame.values).symm fun h => hpair h.1

/-- Staging as a whole is the same with them. Everything else of it is read
from single names of no pair. -/
theorem staging_pruned (hnames : names ∈ Application.pairNames) (d : Division names)
    (hkept : ¬ d.Overruled) : Staging.ofScopes d.pruned = Staging.ofScopes d.chain := by
  have hother : ∀ names ∈ Application.pairNames, ∀ key ∈ Staging.settingNames,
      key ∉ [names.1, names.2] := by decide
  have hsettings := (d.agreeOn_pruned.mono (hother names hnames)).values.readAlike
  exact (Staging.ofScopes_of_buildpacksOf_eq hsettings
    ((buildpacksOf_pruned_iff hnames d).2 hkept).symm).symm

/-! ### Main theorem -/

/-- **Where pairs are seen.** A chain can be divided at the most specific
scope with either name of a pair. Without the pair in the scopes above, hosts,
domains and ports of either family have the same results, errors included.
So have buildpacks exactly if no plural above overrules the buildpack of the
dividing scope, and staging as a whole is then the same. -/
theorem pruned_reads_iff (names : String × String) (hnames : names ∈ Application.pairNames) :
    (∀ (chain : ScopeChain) (scope : Parameters),
      chain.pairScope? names.1 names.2 = some scope →
        ∃ d : Division names, d.chain = chain ∧ d.declaring = scope) ∧
    ∀ d : Division names,
      (∀ family : RouteFamily,
        Routing.hosts d.pruned family.parameters = Routing.hosts d.chain family.parameters ∧
        Routing.domainNames d.pruned family = Routing.domainNames d.chain family ∧
        Routing.portNumbers d.pruned family.parameters
          = Routing.portNumbers d.chain family.parameters) ∧
      (Staging.buildpacksOf d.pruned = Staging.buildpacksOf d.chain ↔ ¬ d.Overruled) ∧
      (¬ d.Overruled → Staging.ofScopes d.pruned = Staging.ofScopes d.chain) ∧
      ∀ x y, Staging.ofScopes d.chain = .ok x → Staging.ofScopes d.pruned = .ok y →
        (y.buildpacks = x.buildpacks ↔ ¬ d.Overruled) := by
  refine ⟨fun _ _ => exists_chain_eq, fun d => ⟨fun family => ?_, buildpacksOf_pruned_iff hnames d,
    staging_pruned hnames d, fun x y hx hy => ?_⟩⟩
  · have h := routing_readAlike hnames d family
    exact ⟨h.hosts.symm, h.domainNames.symm, h.portNumbers.symm⟩
  · rw [← buildpacksOf_pruned_iff hnames d, Staging.buildpacksOf_of_ofScopes hx,
      Staging.buildpacksOf_of_ofScopes hy, Except.ok.injEq]

/-- A module names its own buildpack, and the descriptor has a list of them for
all modules. -/
def ownBuildpack : Division ("buildpack", "buildpacks") where
  owner := "web"
  general := [.ofList [("buildpacks", .arr [.str "shared_buildpack"])]]
  declaring := .ofList [("buildpack", .str "own_buildpack")]
  specific := []
  declares := by decide
  silent := by simp

/-- The buildpack of the module is read only where the list is taken away. With
the list there, it is as if the module named none. -/
theorem pruned_reads_iff_ownBuildpack :
    ("buildpack", "buildpacks") ∈ Application.pairNames ∧ ownBuildpack.Overruled ∧
    Staging.buildpacksOf ownBuildpack.chain = .ok ["shared_buildpack"] ∧
    Staging.buildpacksOf ownBuildpack.pruned = .ok ["own_buildpack"] ∧
    Staging.ofScopes ownBuildpack.pruned ≠ Staging.ofScopes ownBuildpack.chain := by
  have hnames : ("buildpack", "buildpacks") ∈ Application.pairNames := by decide
  have hoverruled : ownBuildpack.Overruled := by
    refine ⟨rfl, ?_, ?_, ?_⟩ <;> decide +kernel
  obtain ⟨-, -, -, hstaging⟩ := (pruned_reads_iff _ hnames).2 ownBuildpack
  refine ⟨hnames, hoverruled, by decide +kernel, by decide +kernel, fun h => ?_⟩
  have hsome : (Staging.ofScopes ownBuildpack.chain).toOption.isSome = true := by decide +kernel
  obtain ⟨staging, hstaged⟩ := Option.isSome_iff_exists.1 hsome
  have hchain := Outcome.toOption_eq_some.1 hstaged
  exact (hstaging staging staging hchain (h.trans hchain)).1 rfl hoverruled

end Division

end ScopeChain

end MultiTarget
