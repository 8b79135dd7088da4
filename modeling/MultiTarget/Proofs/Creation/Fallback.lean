import Mathlib.Data.List.Basic
import MultiTarget.Proofs.Creation.Record
import MultiTarget.Proofs.Support.Plain

/-!
# `MultiTarget.Proofs.Creation.Fallback`: from offering to offering

A service names the labels of offerings that it may be created from. What
is tried in turn are its `targets`: for each label the first listed
offering, with its first plan of the right name, if it has one.

A platform that forbids one of these moves the attempt on to the next one.
So the trials of an attempt are some that were forbidden, and then either
there is nothing left to try or one that was not forbidden ends it
(`observe_createFrom_cases`). `Fallback` states what follows for the whole
attempt, and `create_fallback` proves it for every platform with a state.

The first offering with a label stands for all of them. `exists_creation_iff`
says what that leaves out: of two offerings with one label the second is
never tried, even if it alone has the plan.
-/

set_option autoImplicit false

namespace MultiTarget

/-- A platform forbids a creation by the status 403. The statements below name
the status, since that is what a platform sends. -/
theorem PlatformError.isForbidden_iff {error : PlatformError} :
    error.isForbidden = true ↔ error.status = some 403 := by
  simp [isForbidden, forbidden]

/-! ### Trials -/

/-- An offering and a plan that a service was to be created from, and what the
platform answered. -/
structure Trial where
  offering : Offering
  plan : Plan
  answer : Except PlatformError Unit

namespace Trial

variable {trial : Trial}

/-- What was tried: the trial without its answer, which is an offering and one
of its plans. -/
def target (trial : Trial) : Offering × Plan := (trial.offering, trial.plan)

/-- The exchange with the platform that the trial is. No trial is made without
one. -/
def exchange (service : Service) (trial : Trial) : Exchange :=
  .creation service trial.offering.label trial.plan trial.answer

/-- The platform forbade the creation. Any other error is not a reason to try
something else. -/
def Forbidden (trial : Trial) : Prop :=
  ∃ error, trial.answer = .error error ∧ error.status = some 403

/-- What an attempt comes to that a trial ends. A forbidden trial ends none,
but it has an outcome all the same, so that this is a function. -/
def outcome (trial : Trial) : Except CreationError String :=
  match trial.answer with
  | .ok () => .ok trial.offering.label
  | .error error => .error (.platform error)

/-- A forbidden trial created nothing, so that going on to the next one cannot
create a service twice. -/
theorem Forbidden.answer_ne_ok (h : trial.Forbidden) : trial.answer ≠ .ok () := by
  obtain ⟨error, herror, -⟩ := h
  simp [herror]

/-- The error of a forbidden trial has its status, by which a fallback tells
errors that end an attempt from those that do not. -/
theorem Forbidden.status_eq (h : trial.Forbidden) {error : PlatformError}
    (herror : trial.answer = .error error) : error.status = some 403 := by
  obtain ⟨error', herror', hstatus⟩ := h
  rw [herror] at herror'
  cases herror'
  exact hstatus

/-- An attempt that a trial ends creates the service exactly if the platform
did, and under the label of the trial. -/
theorem outcome_eq_ok_iff {label : String} :
    trial.outcome = .ok label ↔ trial.answer = .ok () ∧ trial.offering.label = label := by
  unfold outcome
  cases trial.answer <;> simp

/-- An attempt that a trial ends fails exactly with the error that the platform
answered. -/
theorem outcome_eq_platform_iff {error : PlatformError} :
    trial.outcome = .error (.platform error) ↔ trial.answer = .error error := by
  unfold outcome
  cases trial.answer <;> simp

/-- No trial ends an attempt with a fault of the service itself. These are
found before or after all trials. -/
theorem outcome_ne_content (error : ContentError) :
    trial.outcome ≠ .error (.content error) := by
  unfold outcome
  cases trial.answer <;> simp

end Trial

namespace Service

open Platform (observe observe_pure observe_keep observe_bind observe_bind_pure)

variable {σ : Type} {platform : Platform (StateM σ)} {service : Service}

/-! ### What there is to try -/

/-- For each label of a service the first offering listed with it, and the
first plan of that offering with a name. In one pass over the labels, unlike
the computation, which goes over offerings and plans one after the other. -/
def targets (service : Service) (plan : String) (offerings : List Offering) :
    List (Offering × Plan) :=
  service.candidates.filterMap fun label => do
    let offering ← offerings.find? (·.label == label)
    let found ← offering.plan? plan
    return (offering, found)

/-- Some offering is listed with a label, whatever plans it has. It tells an
offering that is missing from one without the plan. -/
def Listed (offerings : List Offering) (label : String) : Prop :=
  ∃ offering ∈ offerings, offering.label = label

/-- The labels of a service that are listed, in the order of the service. An
error that no offering has the plan names these. -/
def listedLabels (service : Service) (offerings : List Offering) : List String :=
  service.candidates.filter fun label => offerings.any (·.label == label)

/-- Looking for offerings first and for plans then finds the targets. From here
on the two passes are not looked at again. -/
theorem withPlan_listedOfferings (service : Service) (plan : String)
    (offerings : List Offering) :
    withPlan plan (listedOfferings service.candidates offerings)
      = service.targets plan offerings := by
  unfold withPlan listedOfferings targets
  rw [List.filterMap_filterMap]
  refine List.filterMap_congr fun label _ => ?_
  cases offerings.find? (·.label == label) with
  | none => rfl
  | some offering =>
      show (offering.plan? plan).map _ = (offering.plan? plan).bind _
      exact Option.map_eq_bind ..

/-- The offerings found have the labels that are listed, in the same order. So
an error may be told by labels alone. -/
theorem map_label_listedOfferings (labels : List String) (offerings : List Offering) :
    (listedOfferings labels offerings).map (·.label)
      = labels.filter fun label => offerings.any (·.label == label) := by
  unfold listedOfferings
  induction labels with
  | nil => rfl
  | cons label rest ih =>
      -- A label is found under itself, so both sides keep the same labels.
      cases hfind : offerings.find? (·.label == label) with
      | none =>
          have hnone : offerings.any (·.label == label) = false := by simpa using hfind
          rw [List.filterMap_cons_none (by exact hfind),
            List.filter_cons_of_neg (by simp [hnone]), ih]
      | some offering =>
          have hlabel : offering.label = label := by simpa using List.find?_some hfind
          have hsome : offerings.any (·.label == label) = true :=
            List.any_eq_true.2 ⟨offering, List.mem_of_find?_eq_some hfind, by simp [hlabel]⟩
          rw [List.filterMap_cons_some (by exact hfind),
            List.filter_cons_of_pos (by simpa using hsome), List.map_cons, ih, hlabel]

/-- No offering is found exactly if no label of the service is listed. This
decides which of two errors is reported. -/
theorem listedOfferings_eq_nil_iff (labels : List String) (offerings : List Offering) :
    listedOfferings labels offerings = [] ↔ ∀ label ∈ labels, ¬ Listed offerings label := by
  simp [listedOfferings, Listed]

/-- Without a listed label there is nothing to try, whatever the plan is. -/
theorem targets_eq_nil_of_unlisted {plan : String} {offerings : List Offering}
    (h : ∀ label ∈ service.candidates, ¬ Listed offerings label) :
    service.targets plan offerings = [] := by
  rw [← withPlan_listedOfferings, (listedOfferings_eq_nil_iff _ _).2 h]
  rfl

/-! ### One trial after the other -/

/-- A trial that is not forbidden ends the attempt, with success or with its
error. The targets behind it are not asked for. -/
theorem observe_createFrom_of_not_forbidden (exhausted : CreationError) (trial : Trial)
    {state after : σ}
    (hanswer : (platform.create service trial.offering.label trial.plan).run state
      = (trial.answer, after)) (h : ¬ trial.Forbidden) (rest : List (Offering × Plan)) :
    observe (createFrom platform.recorded service exhausted (trial.target :: rest)) state
      = ⟨.ofResult trial.outcome, [trial.exchange service], after⟩ := by
  rw [Trial.target, createFrom]
  unfold Trial.outcome Trial.exchange
  cases htrial : trial.answer with
  | ok _ =>
      rw [htrial] at hanswer
      exact observe_bind (observe_keep _ hanswer) rfl (.pure _)
  | error error =>
      have hstatus : ¬ error.isForbidden = true := fun hstatus =>
        h ⟨error, htrial, PlatformError.isForbidden_iff.1 hstatus⟩
      rw [htrial] at hanswer
      exact observe_bind (observe_keep _ hanswer) (if_neg hstatus) (.pure _)

/-- A trial that is forbidden moves the attempt on to the rest, in the state
that it left, with a warning in front. -/
theorem observe_createFrom_of_forbidden (exhausted : CreationError) (trial : Trial)
    {state after : σ}
    (hanswer : (platform.create service trial.offering.label trial.plan).run state
      = (trial.answer, after)) {error : PlatformError} (herror : trial.answer = .error error)
    (h : error.status = some 403) (rest : List (Offering × Plan)) :
    observe (createFrom platform.recorded service exhausted (trial.target :: rest)) state
      = let later := observe (createFrom platform.recorded service exhausted rest) after
        ⟨later.value.after [.creationForbidden service.name trial.offering.label error.message],
          trial.exchange service :: later.exchanges, later.state⟩ := by
  rw [herror] at hanswer
  rw [Trial.target, Trial.exchange, herror, createFrom]
  refine (observe_bind (observe_keep _ hanswer) (if_pos (PlatformError.isForbidden_iff.2 h))
    (.bind (records_createFrom ..) fun _ => .pure _)).trans ?_
  rw [observe_bind_pure]
  rfl

/-- **How trying plans in turn goes.** Some trials are forbidden, and then
either no plan is left or a trial that is not forbidden ends it. The trials are
given as lists, so the statement has no recursion in it. -/
theorem observe_createFrom_cases (platform : Platform (StateM σ)) (service : Service)
    (exhausted : CreationError) (targets : List (Offering × Plan)) (state : σ) :
    let run := observe (createFrom platform.recorded service exhausted targets) state
    ∃ refused : List Trial, (∀ trial ∈ refused, trial.Forbidden) ∧
      ((targets = refused.map Trial.target ∧
          run.exchanges = refused.map (Trial.exchange service) ∧
          run.value.result = .error exhausted) ∨
        ∃ last rest, ¬ last.Forbidden ∧
          targets = refused.map Trial.target ++ last.target :: rest ∧
          run.exchanges = (refused ++ [last]).map (Trial.exchange service) ∧
          run.value.result = last.outcome) := by
  induction targets generalizing state with
  | nil => exact ⟨[], by simp, .inl ⟨rfl, rfl, rfl⟩⟩
  | cons target rest ih =>
      obtain ⟨answer, after, hanswer⟩ : ∃ answer after,
        (platform.create service target.1.label target.2).run state = (answer, after) :=
        ⟨_, _, rfl⟩
      -- The trial of the first target has the answer that the platform gives in this state.
      let trial : Trial := ⟨target.1, target.2, answer⟩
      have htarget : target = trial.target := rfl
      by_cases h : trial.Forbidden
      · obtain ⟨error, herror, hstatus⟩ := h
        have hrun := observe_createFrom_of_forbidden exhausted trial hanswer herror hstatus rest
        obtain ⟨refused, hrefused, hcases⟩ := ih after
        refine ⟨trial :: refused,
          List.forall_mem_cons.2 ⟨⟨error, herror, hstatus⟩, hrefused⟩, ?_⟩
        -- What came of the rest comes of the whole, with one more trial in front.
        rw [htarget, hrun]
        refine hcases.imp ?_ ?_
        · rintro ⟨hrest, hexchanges, hresult⟩
          exact ⟨congrArg (trial.target :: ·) hrest,
            congrArg (trial.exchange service :: ·) hexchanges, hresult⟩
        · rintro ⟨last, others, hlast, hrest, hexchanges, hresult⟩
          exact ⟨last, others, hlast, congrArg (trial.target :: ·) hrest,
            congrArg (trial.exchange service :: ·) hexchanges, hresult⟩
      · have hrun := observe_createFrom_of_not_forbidden exhausted trial hanswer h rest
        exact ⟨[], by simp, .inr ⟨trial, rest, h, rfl, congrArg (·.exchanges) hrun,
          congrArg (·.value.result) hrun⟩⟩

/-! ### The whole attempt -/

/-- How an attempt goes, given the answer to the listing, the trials and the
outcome. Each possible outcome is told by an equivalence, so together they say
which one it is. -/
structure Fallback (service : Service) (plan : String)
    (listing : Except PlatformError (List Offering)) (trials : List Trial)
    (outcome : Except CreationError String) : Prop where
  /-- Without a listing nothing is tried. -/
  untried : ∀ error, listing = .error error → trials = []
  /-- The targets are tried in order, from the first one on. -/
  in_order : ∀ offerings, listing = .ok offerings →
    trials.map Trial.target <+: service.targets plan offerings
  /-- All trials but the last one were forbidden. -/
  forbidden : ∀ trial ∈ trials.dropLast, trial.Forbidden
  /-- The service is created by the last trial or not at all. -/
  ok_iff : ∀ label, outcome = .ok label ↔
    ∃ last ∈ trials.getLast?, last.answer = .ok () ∧ last.offering.label = label
  /-- An error of the platform is that of the listing or of the last trial,
  unless this one was forbidden. -/
  platform_iff : ∀ error, outcome = .error (.platform error) ↔ listing = .error error ∨
    ∃ last ∈ trials.getLast?, last.answer = .error error ∧ error.status ≠ some 403
  /-- No plan was found in any of the listed offerings. -/
  noOfferingsMatchPlan_iff : ∀ name labels planName,
    outcome = .error (.content (.noOfferingsMatchPlan name labels planName)) ↔
      name = service.name ∧ planName = plan ∧ ∃ offerings, listing = .ok offerings ∧
        labels = service.listedLabels offerings ∧ service.targets plan offerings = [] ∧
        ∃ label ∈ service.candidates, Listed offerings label
  /-- No label is listed, or everything was tried and forbidden. -/
  cannotCreateService_iff : ∀ name labels,
    outcome = .error (.content (.cannotCreateService name labels)) ↔
      name = service.name ∧ labels = service.candidates ∧ ∃ offerings, listing = .ok offerings ∧
        ((∀ label ∈ service.candidates, ¬ Listed offerings label) ∨
          service.targets plan offerings ≠ [] ∧
          trials.map Trial.target = service.targets plan offerings ∧
          ∀ trial ∈ trials, trial.Forbidden)
  /-- No other fault is found with the service. -/
  content_cases : ∀ error, outcome = .error (.content error) →
    (∃ name labels planName, error = .noOfferingsMatchPlan name labels planName) ∨
    ∃ name labels, error = .cannotCreateService name labels

/-- The platform lists nothing: the attempt fails with its error, and nothing
is tried. -/
theorem fallback_of_listing_error (service : Service) (plan : String) (error : PlatformError) :
    Fallback service plan (.error error) [] (.error (.platform error)) where
  untried _ _ := rfl
  in_order _ h := by cases h
  forbidden := by simp
  ok_iff := by simp
  platform_iff := by simp
  noOfferingsMatchPlan_iff := by simp
  cannotCreateService_iff := by simp
  content_cases := by simp

/-- Some labels are listed, but none of the offerings has the plan. The error
names the labels that were listed. -/
theorem fallback_of_targets_eq_nil {plan : String} {offerings : List Offering}
    (hnil : service.targets plan offerings = [])
    (hlisted : ∃ label ∈ service.candidates, Listed offerings label) :
    Fallback service plan (.ok offerings) [] (.error (.content (.noOfferingsMatchPlan
      service.name (service.listedLabels offerings) plan))) where
  untried _ h := by cases h
  in_order _ _ := List.nil_prefix
  forbidden := by simp
  ok_iff := by simp
  platform_iff := by simp
  noOfferingsMatchPlan_iff name labels planName := by
    simp only [Except.error.injEq, CreationError.content.injEq,
      ContentError.noOfferingsMatchPlan.injEq]
    constructor
    · rintro ⟨rfl, rfl, rfl⟩
      exact ⟨rfl, rfl, offerings, rfl, rfl, hnil, hlisted⟩
    · rintro ⟨rfl, rfl, _, ⟨⟩, rfl, -⟩
      exact ⟨rfl, rfl, rfl⟩
  cannotCreateService_iff name labels := by
    simp only [Except.error.injEq, CreationError.content.injEq, reduceCtorEq, false_iff]
    rintro ⟨-, -, _, ⟨⟩, hunlisted | ⟨hne, -⟩⟩
    · obtain ⟨label, hlabel, hlisted⟩ := hlisted
      exact hunlisted label hlabel hlisted
    · exact hne hnil
  content_cases := by simp

/-- Everything there is to try was forbidden, if there was anything; what was
listed had a plan to try. The last hypothesis excludes the case before, which
has an error of its own. -/
theorem fallback_of_all_forbidden {plan : String} {offerings : List Offering}
    {refused : List Trial} (hrefused : ∀ trial ∈ refused, trial.Forbidden)
    (htargets : service.targets plan offerings = refused.map Trial.target)
    (husable : service.targets plan offerings ≠ [] ∨
      ∀ label ∈ service.candidates, ¬ Listed offerings label) :
    Fallback service plan (.ok offerings) refused (.error (.content (.cannotCreateService
      service.name service.candidates))) where
  untried _ h := by cases h
  in_order _ h := by
    cases h
    exact htargets ▸ List.prefix_rfl
  forbidden trial h := hrefused trial (List.dropLast_subset _ h)
  ok_iff label := by
    simp only [reduceCtorEq, false_iff]
    rintro ⟨last, hlast, hok, -⟩
    exact (hrefused last (List.mem_of_getLast? hlast)).answer_ne_ok hok
  platform_iff error := by
    simp only [reduceCtorEq, Except.error.injEq, false_or, false_iff]
    rintro ⟨last, hlast, herror, hstatus⟩
    exact hstatus ((hrefused last (List.mem_of_getLast? hlast)).status_eq herror)
  noOfferingsMatchPlan_iff name labels planName := by
    simp only [Except.error.injEq, CreationError.content.injEq, reduceCtorEq, false_iff]
    -- Such an error needs a listed label and no target, which `husable` excludes.
    rintro ⟨-, -, _, ⟨⟩, -, hnil, label, hlabel, hlisted⟩
    exact husable.elim (fun hne => hne hnil) fun hnone => hnone label hlabel hlisted
  cannotCreateService_iff name labels := by
    simp only [Except.error.injEq, CreationError.content.injEq,
      ContentError.cannotCreateService.injEq]
    constructor
    · rintro ⟨rfl, rfl⟩
      refine ⟨rfl, rfl, offerings, rfl, husable.symm.imp_right fun hne => ?_⟩
      exact ⟨hne, htargets.symm, hrefused⟩
    · rintro ⟨rfl, rfl, -⟩
      exact ⟨rfl, rfl⟩
  content_cases error h := by
    cases h
    exact .inr ⟨_, _, rfl⟩

/-- After some trials that were forbidden, one was not. It decides the outcome,
whatever there would have been to try behind it. -/
theorem fallback_of_last {plan : String} {offerings : List Offering}
    {refused : List Trial} {last : Trial} {rest : List (Offering × Plan)}
    (hrefused : ∀ trial ∈ refused, trial.Forbidden) (hlast : ¬ last.Forbidden)
    (htargets : service.targets plan offerings
      = refused.map Trial.target ++ last.target :: rest) :
    Fallback service plan (.ok offerings) (refused ++ [last]) last.outcome where
  untried _ h := by cases h
  in_order _ h := by
    cases h
    rw [htargets, List.map_append]
    exact ⟨rest, by simp⟩
  forbidden trial h := hrefused trial (by simpa using h)
  ok_iff label := by
    rw [Trial.outcome_eq_ok_iff]
    simp
  platform_iff error := by
    rw [Trial.outcome_eq_platform_iff]
    simp only [reduceCtorEq, List.getLast?_concat, Option.mem_some, exists_eq_left', false_or]
    exact ⟨fun herror => ⟨herror, fun hstatus => hlast ⟨error, herror, hstatus⟩⟩, And.left⟩
  noOfferingsMatchPlan_iff name labels planName := by
    simp only [Trial.outcome_ne_content, false_iff]
    rintro ⟨-, -, _, ⟨⟩, -, hnil, -⟩
    simp [htargets] at hnil
  cannotCreateService_iff name labels := by
    simp only [Trial.outcome_ne_content, false_iff]
    rintro ⟨-, -, _, ⟨⟩, hunlisted | ⟨-, -, hall⟩⟩
    · -- There was something to try, so some label is listed.
      have hnil : service.targets plan offerings = [] := targets_eq_nil_of_unlisted hunlisted
      simp [htargets] at hnil
    · exact hlast (hall last (by simp))
  content_cases error h := absurd h (Trial.outcome_ne_content error)

/-- The offerings of a list are tried in turn, and what comes of it is a
fallback. The trials exist, since they carry the answers that the platform
happened to give. -/
theorem exists_fallback_createAmong (platform : Platform (StateM σ)) (service : Service)
    (plan : String) (offerings : List Offering) (state : σ) :
    let run := observe
      (createAmong platform.recorded service service.candidates plan offerings) state
    ∃ trials, run.exchanges = trials.map (Trial.exchange service) ∧
      Fallback service plan (.ok offerings) trials run.value.result := by
  unfold createAmong
  simp only [withPlan_listedOfferings, map_label_listedOfferings]
  split
  · rename_i hnone
    obtain ⟨hnil, hlisted⟩ : service.targets plan offerings = [] ∧
        ∃ label ∈ service.candidates, Listed offerings label := by
      simpa [listedOfferings_eq_nil_iff] using hnone
    exact ⟨[], rfl, fallback_of_targets_eq_nil hnil hlisted⟩
  · rename_i hsome
    have husable : service.targets plan offerings ≠ [] ∨
        ∀ label ∈ service.candidates, ¬ Listed offerings label := by
      simpa [listedOfferings_eq_nil_iff, or_iff_not_imp_left] using hsome
    -- The warnings in front change neither the exchanges nor the outcome.
    rw [observe_bind_pure]
    obtain ⟨refused, hrefused, ⟨htargets, hexchanges, hresult⟩ |
      ⟨last, rest, hlast, htargets, hexchanges, hresult⟩⟩ :=
      observe_createFrom_cases platform service
        (.content (.cannotCreateService service.name service.candidates))
        (service.targets plan offerings) state
    · exact ⟨refused, hexchanges, hresult ▸ fallback_of_all_forbidden hrefused htargets husable⟩
    · exact ⟨refused ++ [last], hexchanges, hresult ▸ fallback_of_last hrefused hlast htargets⟩

/-- A service is asked for if it has a label and a plan. The label is missed
first if both are missing. -/
theorem request_cases (service : Service) :
    (service.candidates = [] ∧ service.request = .error (service.lacks "service")) ∨
    (service.candidates ≠ [] ∧ service.plan = none ∧
      service.request = .error (service.lacks "service-plan")) ∨
    ∃ plan, service.candidates ≠ [] ∧ service.plan = some plan ∧
      service.request = .ok (service.candidates, plan) := by
  unfold request
  cases hcandidates : service.candidates with
  | nil => exact .inl ⟨rfl, rfl⟩
  | cons label others =>
      cases hplan : service.plan with
      | none => exact .inr (.inl ⟨List.cons_ne_nil _ _, rfl, rfl⟩)
      | some plan => exact .inr (.inr ⟨plan, List.cons_ne_nil _ _, rfl, rfl⟩)

/-- A service that lacks a label or a plan is refused before the platform is
asked for anything. -/
theorem observe_create_of_request_error {error : CreationError}
    (h : service.request = .error error) (state : σ) :
    observe (create platform.recorded service) state = ⟨.ofResult (.error error), [], state⟩ := by
  unfold create
  rw [h]
  exact observe_pure _ _

/-- If the offerings cannot be listed, the attempt ends with the listing as its
only exchange. -/
theorem observe_create_of_listing_error {labels : List String} {plan : String}
    (h : service.request = .ok (labels, plan)) {error : PlatformError} {state after : σ}
    (hlisting : platform.offerings.run state = (.error error, after)) :
    observe (create platform.recorded service) state
      = ⟨.ofResult (.error (.platform error)), [.listing (.error error)], after⟩ := by
  unfold create
  rw [h]
  exact observe_bind (observe_keep _ hlisting) rfl (.pure _)

/-- Once the offerings are listed, the rest of the attempt is that for their
list, in the state after the listing. -/
theorem observe_create_of_listing {labels : List String} {plan : String}
    (h : service.request = .ok (labels, plan)) {offerings : List Offering} {state after : σ}
    (hlisting : platform.offerings.run state = (.ok offerings, after)) :
    observe (create platform.recorded service) state
      = let run := observe (createAmong platform.recorded service labels plan offerings) after
        ⟨run.value, .listing (.ok offerings) :: run.exchanges, run.state⟩ := by
  unfold create
  rw [h]
  exact observe_bind (observe_keep _ hlisting) rfl (records_createAmong ..)

/-- An attempt for a service that is asked for lists the offerings once, at
first, and then goes from offering to offering. -/
theorem exists_fallback_create (platform : Platform (StateM σ)) {plan : String}
    (h : service.request = .ok (service.candidates, plan)) (state : σ) :
    let run := observe (create platform.recorded service) state
    ∃ trials, run.exchanges = .listing (platform.offerings.run state).1
        :: trials.map (Trial.exchange service) ∧
      Fallback service plan (platform.offerings.run state).1 trials run.value.result := by
  obtain ⟨listing, after, hlisting⟩ : ∃ listing after,
    platform.offerings.run state = (listing, after) := ⟨_, _, rfl⟩
  cases listing with
  | error error =>
      rw [observe_create_of_listing_error h hlisting, hlisting]
      exact ⟨[], rfl, fallback_of_listing_error service plan error⟩
  | ok offerings =>
      rw [observe_create_of_listing h hlisting, hlisting]
      obtain ⟨trials, hexchanges, hfallback⟩ :=
        exists_fallback_createAmong platform service plan offerings after
      exact ⟨trials, congrArg (.listing (.ok offerings) :: ·) hexchanges, hfallback⟩

/-- Nothing is tried only if there is nothing to try. It follows from the
fields of a fallback alone, which shows that they leave no outcome open. -/
theorem Fallback.trials_eq_nil_iff {plan : String} {offerings : List Offering}
    {trials : List Trial} {outcome : Except CreationError String}
    (h : Fallback service plan (.ok offerings) trials outcome) :
    trials = [] ↔ service.targets plan offerings = [] := by
  constructor
  · rintro rfl
    -- Without a trial only the faults found with the service are left.
    match outcome, h with
    | .ok label, h =>
        obtain ⟨last, hlast, -⟩ := (h.ok_iff label).1 rfl
        cases hlast
    | .error (.platform error), h =>
        rcases (h.platform_iff error).1 rfl with hlisting | ⟨last, hlast, -⟩
        · cases hlisting
        · cases hlast
    | .error (.content error), h =>
        rcases h.content_cases error rfl with ⟨name, labels, planName, rfl⟩ | ⟨name, labels, rfl⟩
        · obtain ⟨-, -, _, ⟨⟩, -, hnil, -⟩ := (h.noOfferingsMatchPlan_iff ..).1 rfl
          exact hnil
        · obtain ⟨-, -, _, ⟨⟩, hunlisted | ⟨-, hall, -⟩⟩ := (h.cannotCreateService_iff ..).1 rfl
          · exact targets_eq_nil_of_unlisted hunlisted
          · exact hall.symm
  · intro hnil
    have hprefix := h.in_order offerings rfl
    rw [hnil, List.prefix_nil] at hprefix
    exact List.map_eq_nil_iff.1 hprefix

/-- An offering has a plan of a name exactly if one of its plans has the name.
Which one is found if there are several does not matter here. -/
theorem exists_plan?_iff {offering : Offering} {plan : String} :
    (∃ found, offering.plan? plan = some found) ↔ ∃ found ∈ offering.plans, found.name = plan := by
  rw [← Option.isSome_iff_exists]
  simp [Offering.plan?]

/-- The offering found for a label has it, and none that is listed before
has. -/
theorem find?_label_eq_some_iff {offerings : List Offering} {label : String}
    {offering : Offering} :
    offerings.find? (·.label == label) = some offering ↔ offering.label = label ∧
      ∃ before later, offerings = before ++ offering :: later ∧
        ∀ earlier ∈ before, earlier.label ≠ label := by
  simp [List.find?_eq_some_iff_append]

/-- A target is the first offering with a label of the service, and its first
plan of the name. -/
theorem mem_targets_iff {plan : String} {offerings : List Offering} {offering : Offering}
    {found : Plan} :
    (offering, found) ∈ service.targets plan offerings ↔ ∃ label ∈ service.candidates,
      offerings.find? (·.label == label) = some offering ∧ offering.plan? plan = some found := by
  unfold targets
  simp only [List.mem_filterMap, Option.bind_eq_bind, Option.bind_eq_some_iff, Option.pure_def,
    Option.some.injEq, Prod.mk.injEq]
  constructor
  · rintro ⟨label, hlabel, _, hfind, _, hplan, rfl, rfl⟩
    exact ⟨label, hlabel, hfind, hplan⟩
  · rintro ⟨label, hlabel, hfind, hplan⟩
    exact ⟨label, hlabel, offering, hfind, found, hplan, rfl, rfl⟩

/-- There is something to try if an offering with a label of the service has
the plan and no offering before it has the same label. The condition is on the
offerings as listed, without a search in it. -/
theorem targets_ne_nil_iff {plan : String} {offerings : List Offering} :
    service.targets plan offerings ≠ [] ↔
      ∃ before offering later, offerings = before ++ offering :: later ∧
        (∀ earlier ∈ before, earlier.label ≠ offering.label) ∧
        offering.label ∈ service.candidates ∧ ∃ found ∈ offering.plans, found.name = plan := by
  constructor
  · intro hne
    obtain ⟨⟨offering, found⟩, htarget⟩ := List.exists_mem_of_ne_nil _ hne
    obtain ⟨label, hlabel, hfind, hplan⟩ := mem_targets_iff.1 htarget
    obtain ⟨rfl, before, later, hofferings, hfirst⟩ := find?_label_eq_some_iff.1 hfind
    exact ⟨before, offering, later, hofferings, hfirst, hlabel, exists_plan?_iff.1 ⟨found, hplan⟩⟩
  · rintro ⟨before, offering, later, hofferings, hfirst, hlabel, hplan⟩
    obtain ⟨found, hplan⟩ := exists_plan?_iff.2 hplan
    have hfind := find?_label_eq_some_iff.2 ⟨rfl, before, later, hofferings, hfirst⟩
    exact List.ne_nil_of_mem (mem_targets_iff.2 ⟨offering.label, hlabel, hfind, hplan⟩)

/-- **Which offerings are tried at all.** An attempt for a service with a plan
on a platform that lists offerings asks for a creation exactly if an offering
has one of its labels and the plan, and no offering listed before has the same
label. So an offering with the plan may be overlooked. -/
theorem exists_creation_iff (platform : Platform (StateM σ)) (service : Service) {plan : String}
    (hplan : service.plan = some plan) {state : σ} {offerings : List Offering}
    (hlisting : (platform.offerings.run state).1 = .ok offerings) :
    (∃ label found answer, .creation service label found answer
        ∈ (observe (create platform.recorded service) state).exchanges) ↔
      ∃ before offering later, offerings = before ++ offering :: later ∧
        (∀ earlier ∈ before, earlier.label ≠ offering.label) ∧
        offering.label ∈ service.candidates ∧ ∃ found ∈ offering.plans, found.name = plan := by
  rw [← targets_ne_nil_iff]
  rcases service.request_cases with ⟨hnone, hrequest⟩ | ⟨-, hplan', -⟩ |
    ⟨plan', -, hplan', hrequest⟩
  · -- Without a label nothing is asked, and there is nothing to try.
    rw [observe_create_of_request_error hrequest]
    simp [targets, hnone]
  · -- The service has a plan.
    rw [hplan] at hplan'
    cases hplan'
  · rw [hplan] at hplan'
    cases hplan'
    obtain ⟨trials, hexchanges, hfallback⟩ := exists_fallback_create platform hrequest state
    rw [hlisting] at hexchanges hfallback
    rw [ne_eq, ← hfallback.trials_eq_nil_iff, hexchanges]
    cases trials with
    | nil => simp
    | cons trial rest =>
        simp only [reduceCtorEq, not_false_eq_true, iff_true]
        exact ⟨trial.offering.label, trial.plan, trial.answer,
          List.mem_cons_of_mem _ List.mem_cons_self⟩

/-- Two offerings with one label, of which the second one alone has a free
plan. -/
def twins : List Offering :=
  [⟨"postgresql", [⟨"large", "guid-large"⟩]⟩, ⟨"postgresql", [⟨"free", "guid-free"⟩]⟩]

/-- The second of the twins is overlooked: it has the label and the plan of the
service, but no creation is asked for. -/
theorem exists_creation_twins :
    let platform := Platform.plain twins
    let service := Service.plain "db" "postgresql" "free"
    service.plan = some "free" ∧ (platform.offerings.run ()).1 = .ok twins ∧
    (∃ offering ∈ twins, offering.label ∈ service.candidates ∧
      ∃ found ∈ offering.plans, found.name = "free") ∧
    ¬ ∃ label found answer, .creation service label found answer
      ∈ (observe (create platform.recorded service) ()).exchanges := by
  refine ⟨rfl, rfl, by decide, ?_⟩
  rw [exists_creation_iff (Platform.plain twins) (Service.plain "db" "postgresql" "free") rfl rfl]
  rintro ⟨before, offering, later, hofferings, hfirst, -, hplan⟩
  -- The first twin lacks the plan, and the second one has the first in front of it.
  match before, hofferings with
  | [], hofferings =>
      cases hofferings
      revert hplan
      decide
  | [first], hofferings =>
      cases hofferings
      exact hfirst _ List.mem_cons_self rfl
  | _ :: _ :: _, hofferings => simp [twins] at hofferings

end Service

end MultiTarget
