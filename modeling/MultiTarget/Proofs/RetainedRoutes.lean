import MultiTarget.Proofs.KeptRoutes

/-!
# `MultiTarget.Proofs.RetainedRoutes`: the routes of a module that was deployed before

The routes of a module are those of a first deployment, and behind them the
routes that it keeps (`Routing.uris_eq`). Both lists may have routes in
common, and the second one may repeat its own. What is added in the end are
the `newcomers`: each route that the module has not got, at its first place in
the list of the application.

The lemma behind this is `eraseDups_append_eq`. Repetitions are erased from
the whole, and it says what is left of the second part, by induction on this
part from its end: a last route is left if it stands nowhere before.

`Routing.uris_retained` is the statement about modules. It also says whose
routes these are, namely those of the first application in the snapshot that
serves traffic for the module (`DeployedApplication.ServesFor`).
-/

set_option autoImplicit false

namespace MultiTarget

/-! ### Items that are new to a list -/

/-- The items that are not known already, each at the first of its places. It
is stated by positions and not by a recursion, so that it can be read without
running it. -/
def newcomers (known items : List String) : List String :=
  (items.zipIdx.filter fun entry => entry.1 ∉ known ∧ entry.1 ∉ items.take entry.2).map Prod.fst

/-- A last item is new if it is neither known nor among the items before. This
is the step from the end of the list. -/
theorem newcomers_append_singleton (known items : List String) (item : String) :
    newcomers known (items ++ [item])
      = newcomers known items ++ if item ∈ known ∨ item ∈ items then [] else [item] := by
  -- Nothing changes for the items before it, since each looks at those in front of it alone.
  have hbefore : ∀ entry ∈ items.zipIdx,
      decide (entry.1 ∉ known ∧ entry.1 ∉ (items ++ [item]).take entry.2)
        = decide (entry.1 ∉ known ∧ entry.1 ∉ items.take entry.2) := by
    intro entry hentry
    have hplace : entry.2 < items.length := by
      simpa using List.snd_lt_of_mem_zipIdx hentry
    rw [List.take_append_of_le_length hplace.le]
  unfold newcomers
  rw [List.zipIdx_append, List.filter_append, List.map_append, List.filter_congr hbefore]
  by_cases hnew : item ∈ known ∨ item ∈ items
  · rw [if_pos hnew]
    rcases hnew with hknown | hitem <;> simp [*]
  · rw [if_neg hnew]
    rw [not_or] at hnew
    simp [hnew]

/-- What is put behind a list without repetitions leaves its newcomers there.
The first list must be without repetitions, since those in it would be erased
as well. -/
theorem eraseDups_append_eq {known : List String} (hknown : known.Nodup) (items : List String) :
    (known ++ items).eraseDups = known ++ newcomers known items := by
  -- From the end, as erasing keeps the first of equal items: a last one changes nothing before it.
  induction items using List.reverseRecOn with
  | nil => simp [newcomers, eraseDups_of_nodup hknown]
  | append_singleton items item ih =>
      rw [← List.append_assoc, List.eraseDups_append, ih, newcomers_append_singleton,
        List.append_assoc]
      have hlast : ([item].removeAll (known ++ items)).eraseDups
          = if item ∈ known ∨ item ∈ items then [] else [item] := by
        by_cases hseen : item ∈ known ∨ item ∈ items
        · rw [if_pos hseen]
          rcases hseen with hknown | hitem <;> simp [List.removeAll, *]
        · rw [if_neg hseen]
          rw [not_or] at hseen
          simp [List.removeAll, hseen, eraseDups_of_nodup]
      rw [hlast]

/-! ### The application whose routes are kept -/

/-- A deployed application serves traffic for a module: its module has this
name but for the case of ASCII letters, and it is not the one that waits for a
swap. -/
def DeployedApplication.ServesFor (app : DeployedApplication) (moduleName : String) : Prop :=
  Text.equalIgnoringCase app.moduleName moduleName = true ∧ app.state = .live

namespace Deployed

variable {deployed : Deployed} {moduleName : String}

/-- What a look-up tests of an application is whether it serves traffic for the
module. -/
theorem find_serves_iff {app : DeployedApplication} :
    (Text.equalIgnoringCase app.moduleName moduleName && app.state == .live) = true
      ↔ app.ServesFor moduleName := by
  simp [DeployedApplication.ServesFor]

/-- The first application that serves traffic for a module is found. Others
behind it are passed over, also if they have routes. -/
theorem application?_eq_some {before after : List DeployedApplication} {app : DeployedApplication}
    (happlications : deployed.applications = before ++ app :: after)
    (hserves : app.ServesFor moduleName) (hfirst : ∀ other ∈ before, ¬ other.ServesFor moduleName) :
    deployed.application? moduleName = some app := by
  refine List.find?_eq_some_iff_append.2 ⟨find_serves_iff.2 hserves, before, after,
    happlications, fun other hother => ?_⟩
  rw [Bool.not_eq_true', ← Bool.not_eq_true]
  exact mt find_serves_iff.1 (hfirst other hother)

/-- None is found if none serves traffic for the module, even if an idle one of
it is there. -/
theorem application?_eq_none
    (hnone : ∀ app ∈ deployed.applications, ¬ app.ServesFor moduleName) :
    deployed.application? moduleName = none :=
  List.find?_eq_none.2 fun app happ => mt find_serves_iff.1 (hnone app happ)

end Deployed

/-! ### Routes of a module -/

namespace Routing

variable {routing : Routing} {m : Module} {chain : ScopeChain} {uris : List String}

/-- Whether a module keeps its routes: what its scopes say, else what the
options say. A value that is no flag counts as none here; where routes are
computed it is an error. -/
def keepsRoutes (routing : Routing) (chain : ScopeChain) : Bool :=
  ((chain.get? "keep-existing-routes").bind Json.flag?).getD routing.options.keepExistingRoutes

/-- No route stands twice among those of a module, with those that are kept or
without. -/
theorem nodup_uris (huris : routing.uris m chain = .ok uris) : uris.Nodup := by
  unfold Routing.uris at huris
  obtain ⟨routes, -, huris⟩ := Outcome.bind_eq_ok.1 huris
  obtain ⟨keep, -, huris⟩ := Outcome.bind_eq_ok.1 huris
  cases keep with
  | false => exact Outcome.pure_eq_ok.1 huris ▸ nodup_eraseDups _
  | true => exact Outcome.pure_eq_ok.1 huris ▸ nodup_eraseDups _

/-- Where there are routes, it could be read whether they are kept. So the
default for a value that is no flag does not matter. -/
theorem keptRoutes_of_uris (huris : routing.uris m chain = .ok uris) :
    routing.keptRoutes m chain
      = if routing.keepsRoutes chain then routing.deployedRoutes m else [] := by
  unfold Routing.uris at huris
  obtain ⟨routes, -, huris⟩ := Outcome.bind_eq_ok.1 huris
  obtain ⟨keep, hkeep, -⟩ := Outcome.bind_eq_ok.1 huris
  have hflag : routing.keepsRoutes chain = keep := (ScopeChain.flag_eq_ok_iff.1 hkeep).2
  unfold keptRoutes
  rw [hkeep, hflag]
  cases keep <;> rfl

/-- **Which routes a module retains.** Without the deployed state it has
other routes, none of them twice. With it these come first. If the module
keeps its routes, the newcomers of the first application that serves traffic
for it follow. If it does not, or if there is no such application, nothing
follows. -/
theorem uris_retained (routing : Routing) (m : Module) (chain : ScopeChain) (uris : List String)
    (huris : routing.uris m chain = .ok uris) :
    ∃ computed, routing.fresh.uris m chain = .ok computed ∧ computed.Nodup ∧
      (∀ deployed before app after, routing.deployed = some deployed →
        deployed.applications = before ++ app :: after → app.ServesFor m.name →
        (∀ other ∈ before, ¬ other.ServesFor m.name) → routing.keepsRoutes chain = true →
        uris = computed ++ newcomers computed app.uris) ∧
      (routing.keepsRoutes chain = false → uris = computed) ∧
      ((∀ deployed, routing.deployed = some deployed →
          ∀ app ∈ deployed.applications, ¬ app.ServesFor m.name) → uris = computed) := by
  have hrun := uris_eq routing m chain
  rw [huris] at hrun
  obtain ⟨computed, hcomputed, hadded⟩ := Outcome.map_eq_ok.1 hrun.symm
  have hnodup : computed.Nodup := nodup_uris hcomputed
  have hclosed : uris = computed ++ newcomers computed
      (if routing.keepsRoutes chain then routing.deployedRoutes m else []) := by
    rw [← eraseDups_append_eq hnodup, ← keptRoutes_of_uris huris]
    exact hadded.symm
  have hnothing : computed ++ newcomers computed [] = computed := List.append_nil computed
  refine ⟨computed, hcomputed, hnodup, ?_, fun hkeeps => ?_, fun hnone => ?_⟩
  · intro deployed before app after hdeployed happlications hserves hfirst hkeeps
    have hroutes : routing.deployedRoutes m = app.uris := by
      unfold deployedRoutes
      rw [hdeployed, Option.bind_some,
        Deployed.application?_eq_some happlications hserves hfirst]
    rw [hclosed, if_pos hkeeps, hroutes]
  · rw [hclosed, hkeeps, if_neg Bool.false_ne_true, hnothing]
  · have hroutes : routing.deployedRoutes m = [] := by
      unfold deployedRoutes
      cases hdeployed : routing.deployed with
      | none => rfl
      | some deployed =>
          rw [Option.bind_some, Deployed.application?_eq_none (hnone deployed hdeployed)]
    rw [hclosed, hroutes, ite_self, hnothing]

/-- A snapshot in which two applications serve traffic for one module, behind
one that waits for its swap. -/
def relaunched : Deployed where
  id := "shop"
  version := none
  namespaceName := none
  applications := [
    ⟨"web", "web-idle", ["idle.example.com"], [], .idle⟩,
    ⟨"WEB", "web", ["old.example.com", "new.example.com", "old.example.com",
      "older.example.com"], [], .live⟩,
    ⟨"web", "web-2", ["oldest.example.com"], [], .live⟩]
  services := []

/-- The first of the two has a route of its own twice and one that the module
has anyway. Only what is new of it is added, once. -/
theorem uris_retained_relaunched :
    let routing : Routing := ⟨.standard, Target.plain.placeholderValues, some relaunched⟩
    let m := Module.plain "web" ∅
    let chain : ScopeChain := ⟨"web", [.ofList [("route", .str "new.example.com"),
      ("keep-existing-routes", .bool true)]]⟩
    ∃ uris, routing.uris m chain = .ok uris ∧ routing.keepsRoutes chain = true ∧
      routing.fresh.uris m chain = .ok ["new.example.com"] ∧
      uris = ["new.example.com", "old.example.com", "older.example.com"] := by
  intro routing m chain
  obtain ⟨uris, huris⟩ : ∃ uris, routing.uris m chain = .ok uris :=
    ⟨["new.example.com", "old.example.com", "older.example.com"], by decide +kernel⟩
  have hkeeps : routing.keepsRoutes chain = true := by decide
  have hfresh : routing.fresh.uris m chain = .ok ["new.example.com"] := by decide +kernel
  obtain ⟨computed, hcomputed, -, hkept, -⟩ := uris_retained routing m chain uris huris
  obtain rfl : ["new.example.com"] = computed := Except.ok.inj (hfresh.symm.trans hcomputed)
  refine ⟨uris, huris, hkeeps, hfresh, ?_⟩
  have hwaits : ∀ other ∈ relaunched.applications.take 1, ¬ other.ServesFor m.name := by
    rintro other hother ⟨-, hlive⟩
    obtain rfl := List.mem_singleton.1 hother
    cases hlive
  rw [hkept relaunched _ _ _ rfl rfl ⟨by decide, rfl⟩ hwaits hkeeps]
  decide

end Routing

end MultiTarget
