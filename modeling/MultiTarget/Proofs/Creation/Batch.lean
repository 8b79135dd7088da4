import MultiTarget.Proofs.Creation.Record

/-!
# `MultiTarget.Proofs.Creation.Batch`: services created one after the other

`Service.attempts` goes through a list of services and tries to create each
of them, in the state that the attempt before left the platform in. It
stops for nothing and leaves nothing out.

A batch makes the first of these attempts for the managed services of its
list, up to one that is fatal, a failure of a service that is not optional
(`Attempt.upToFatal`). `createAll_attempts` says that the platform is asked
for these attempts and nothing else, and what the batch comes to.
-/

set_option autoImplicit false

namespace MultiTarget

/-- An attempt to create a service, with the exchanges in order. Warnings have
no part in it, for they decide nothing. -/
structure Attempt where
  service : Service
  exchanges : List Exchange
  result : Except CreationError String

namespace Attempt

/-- The error of an attempt that failed for a service that is not optional. It
is what ends a batch. -/
def fatal? (attempt : Attempt) : Option CreationError :=
  match attempt.result with
  | .ok _ => none
  | .error error => if attempt.service.isOptional then none else some error

/-- The service that an attempt created, with the label of the offering that it
was created from. -/
def created? (attempt : Attempt) : Option CreatedService :=
  match attempt.result with
  | .ok label => some ⟨attempt.service.name, label⟩
  | .error _ => none

/-- The attempts up to the first one that is fatal, and that one. Without a
fatal one these are all. -/
def upToFatal (attempts : List Attempt) : List Attempt :=
  attempts.takeWhile (·.fatal?.isNone) ++ (attempts.find? (·.fatal?.isSome)).toList

/-- An attempt that is not fatal is made, and those behind it are looked at. -/
theorem upToFatal_cons_of_eq_none {attempt : Attempt} (h : attempt.fatal? = none)
    (rest : List Attempt) : upToFatal (attempt :: rest) = attempt :: upToFatal rest := by
  simp [upToFatal, h]

/-- A fatal attempt is made, and it is the last one. -/
theorem upToFatal_cons_of_eq_some {attempt : Attempt} {error : CreationError}
    (h : attempt.fatal? = some error) (rest : List Attempt) :
    upToFatal (attempt :: rest) = [attempt] := by
  simp [upToFatal, h]

end Attempt

namespace Service

open Platform (observe observe_pure observe_bind observe_bind_pure)

variable {σ : Type} {platform : Platform (StateM σ)} {service : Service}

/-! ### One service of a batch -/

/-- Services of other kinds than managed ones are passed over without an
exchange, so a batch is told by its managed services alone. -/
theorem createAll_cons_of_kind_ne (h : service.kind ≠ .managed) (rest : List Service) :
    createAll platform.recorded (service :: rest) = createAll platform.recorded rest := by
  rw [createAll, if_neg h]

section Managed

variable (hmanaged : service.kind = .managed) {state after : σ} {warnings : List Warning}
  {exchanges : List Exchange}

include hmanaged

/-- A service that was created stands in front of what comes of the rest, which
runs in the state that the attempt left. -/
theorem observe_createAll_of_created {label : String}
    (hrun : observe (create platform.recorded service) state
      = ⟨⟨warnings, .ok label⟩, exchanges, after⟩) (rest : List Service) :
    observe (createAll platform.recorded (service :: rest)) state
      = let others := observe (createAll platform.recorded rest) after
        ⟨(others.value.map (⟨service.name, label⟩ :: ·)).after warnings,
          exchanges ++ others.exchanges, others.state⟩ := by
  rw [createAll, if_pos hmanaged]
  refine (observe_bind hrun rfl (.bind (records_createAll ..) fun _ => .pure _)).trans ?_
  rw [observe_bind_pure]

/-- An optional service that was not created is left out. Its exchanges were
made all the same, and a warning says what happened. -/
theorem observe_createAll_of_optional {error : CreationError}
    (hrun : observe (create platform.recorded service) state
      = ⟨⟨warnings, .error error⟩, exchanges, after⟩) (h : service.isOptional = true)
    (rest : List Service) :
    observe (createAll platform.recorded (service :: rest)) state
      = let others := observe (createAll platform.recorded rest) after
        ⟨others.value.after (warnings ++ [.optionalSkipped service.name error.message]),
          exchanges ++ others.exchanges, others.state⟩ := by
  rw [createAll, if_pos hmanaged]
  refine (observe_bind hrun (if_pos h) (.bind (records_createAll ..) fun _ => .pure _)).trans ?_
  rw [observe_bind_pure]

/-- Any other service that was not created ends the batch, whatever services
come behind it. -/
theorem observe_createAll_of_mandatory {error : CreationError}
    (hrun : observe (create platform.recorded service) state
      = ⟨⟨warnings, .error error⟩, exchanges, after⟩) (h : ¬ service.isOptional = true)
    (rest : List Service) :
    observe (createAll platform.recorded (service :: rest)) state
      = ⟨⟨warnings, .error error⟩, exchanges, after⟩ := by
  rw [createAll, if_pos hmanaged]
  refine (observe_bind hrun (if_neg h) (.pure _)).trans ?_
  -- Nothing is exchanged afterwards.
  rw [observe_pure]
  simp only [List.append_nil]

end Managed

/-! ### The whole batch -/

/-- The attempt to create a service on a platform in a state, as what a
recorded run of it came to. -/
def attempt (platform : Platform (StateM σ)) (service : Service) (state : σ) : Attempt :=
  let run := observe (create platform.recorded service) state
  ⟨service, run.exchanges, run.value.result⟩

/-- The attempts to create some services, each in the state that the one before
it left. It does not know of fatal ones, so these attempts are more than a
batch makes. -/
def attempts (platform : Platform (StateM σ)) : List Service → σ → List Attempt
  | [], _ => []
  | service :: rest, state =>
    attempt platform service state ::
      attempts platform rest (observe (create platform.recorded service) state).state

/-- There is one attempt for each service, in order, so nothing is left out of
the attempts. -/
theorem map_service_attempts (platform : Platform (StateM σ)) (services : List Service)
    (state : σ) : (attempts platform services state).map (·.service) = services := by
  induction services generalizing state with
  | nil => rfl
  | cons service rest ih => rw [attempts, List.map_cons, ih]; rfl

/-- What a batch comes to, given the attempts that it could make. Both fields
are closed forms in the attempts, and the recursion of the batch is in
neither. -/
structure FollowsAttempts (all : List Attempt) (exchanges : List Exchange)
    (result : Except CreationError (List CreatedService)) : Prop where
  /-- The attempts are made one after the other, up to one that is fatal. -/
  exchanges_eq : exchanges = (Attempt.upToFatal all).flatMap (·.exchanges)
  /-- The outcome is the first fatal error. Without one it is what was
  created. -/
  result_eq : result = match all.findSome? Attempt.fatal? with
    | some error => .error error
    | none => .ok (all.filterMap Attempt.created?)

namespace FollowsAttempts

variable {service : Service} {made exchanges : List Exchange} {all : List Attempt}
  {result : Except CreationError (List CreatedService)}

/-- A batch without services makes no attempt and creates nothing, which is
where the induction on a batch begins. -/
theorem nil : FollowsAttempts [] [] (.ok []) where
  exchanges_eq := rfl
  result_eq := rfl

/-- A service that was created stands in front of the others. The outcome of
the rest is kept, as success with one more or as the error that it is. -/
theorem cons_of_created (h : FollowsAttempts all exchanges result) (label : String) :
    FollowsAttempts (⟨service, made, .ok label⟩ :: all) (made ++ exchanges)
      (result.map (⟨service.name, label⟩ :: ·)) where
  exchanges_eq := by
    rw [h.exchanges_eq, Attempt.upToFatal_cons_of_eq_none rfl, List.flatMap_cons]
  result_eq := by
    have hfirst : Attempt.fatal? ⟨service, made, .ok label⟩ = none := rfl
    rw [h.result_eq, List.findSome?_cons, hfirst]
    cases all.findSome? Attempt.fatal? <;> rfl

/-- An optional service that was not created leaves the outcome as it is. Only
its exchanges come in front. -/
theorem cons_of_optional (h : FollowsAttempts all exchanges result)
    (hoptional : service.isOptional = true) (error : CreationError) :
    FollowsAttempts (⟨service, made, .error error⟩ :: all) (made ++ exchanges) result := by
  have hfirst : Attempt.fatal? ⟨service, made, .error error⟩ = none := if_pos hoptional
  constructor
  · rw [h.exchanges_eq, Attempt.upToFatal_cons_of_eq_none hfirst, List.flatMap_cons]
  · rw [h.result_eq, List.findSome?_cons, hfirst]
    rfl

/-- Nothing follows after any other service that was not created. The attempts
behind it are arbitrary, as none of them is made. -/
theorem cons_of_mandatory (hoptional : ¬ service.isOptional = true) (error : CreationError)
    (all : List Attempt) :
    FollowsAttempts (⟨service, made, .error error⟩ :: all) made (.error error) := by
  have hfirst : Attempt.fatal? ⟨service, made, .error error⟩ = some error := if_neg hoptional
  constructor
  · rw [Attempt.upToFatal_cons_of_eq_some hfirst, List.flatMap_singleton]
  · rw [List.findSome?_cons, hfirst]

end FollowsAttempts

/-- A batch follows the attempts for its managed services. The attempts are
those of a run that stops for nothing, so up to the fatal one their states are
the same as in the batch. -/
theorem followsAttempts_createAll (platform : Platform (StateM σ)) (services : List Service)
    (state : σ) :
    let run := observe (createAll platform.recorded services) state
    FollowsAttempts (attempts platform (services.filter (·.kind = .managed)) state)
      run.exchanges run.value.result := by
  -- The state changes from one service to the next, so the induction is for all states.
  induction services generalizing state with
  | nil => exact .nil
  | cons service rest ih =>
      by_cases hmanaged : service.kind = .managed
      · rw [List.filter_cons_of_pos (by simpa using hmanaged), attempts]
        -- The three cases are those of the run equations above, and each of
        -- them has its own rule for what follows.
        rcases hrun : observe (create platform.recorded service) state with
          ⟨⟨warnings, result⟩, exchanges, after⟩
        have hattempt : attempt platform service state = ⟨service, exchanges, result⟩ := by
          rw [attempt, hrun]
        rw [hattempt]
        cases result with
        | ok label =>
            rw [observe_createAll_of_created hmanaged hrun]
            exact (ih after).cons_of_created label
        | error error =>
            by_cases hoptional : service.isOptional = true
            · rw [observe_createAll_of_optional hmanaged hrun hoptional]
              exact (ih after).cons_of_optional hoptional error
            · rw [observe_createAll_of_mandatory hmanaged hrun hoptional]
              exact .cons_of_mandatory hoptional error _
      · rw [createAll_cons_of_kind_ne hmanaged, List.filter_cons_of_neg (by simpa using hmanaged)]
        exact ih state

/-- **How services are created one after the other.** On every platform with a
state, what a batch asks for is what the attempts for its managed services ask
for, each in the state that the one before left, up to the first one that fails
for a service that is not optional. The error of that one is the outcome;
without it the outcome is each service created, with the label of its offering.
The record changes neither the outcome nor the state that the platform is left
in. -/
theorem createAll_attempts (platform : Platform (StateM σ)) (services : List Service)
    (state : σ) :
    let run := observe (createAll platform.recorded services) state
    let all := attempts platform (services.filter (·.kind = .managed)) state
    (createAll platform services).run state = (run.value, run.state) ∧
    run.exchanges = (Attempt.upToFatal all).flatMap (·.exchanges) ∧
    run.value.result = match all.findSome? Attempt.fatal? with
      | some error => .error error
      | none => .ok (all.filterMap Attempt.created?) := by
  have hfollows := followsAttempts_createAll platform services state
  exact ⟨(records_createAll platform services).run_eq_observe state, hfollows.exchanges_eq,
    hfollows.result_eq⟩

end Service

end MultiTarget
