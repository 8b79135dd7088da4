import MultiTarget.Creation

/-!
# `MultiTarget.Proofs.Creation.Record`: what a record shows

A recorded platform answers as the platform itself and writes every
exchange behind what it has written before. `Platform.Records` says so of
a computation, and holds of all that this library does on a platform
(`Service.records_create`, `Service.records_createAll`), whatever the
effects of the platform are.

A platform with a state may answer in view of everything that it was asked
before. For these, `Platform.observe` runs a computation from a state with
an empty record. `observe_bind` puts a run together from the runs of its
parts, and `Records.run_eq_observe` says that the run without a record has
the same value and leaves the same state.
-/

set_option autoImplicit false

namespace MultiTarget

namespace Platform

/-! ### Computations that write behind a record -/

section Records

variable {m : Type → Type} [Monad m] [LawfulMonad m] {α β : Type}

/-- A computation on a recorded platform does what another one does without a
record. What it writes does not depend on what was written before, which is
what makes runs composable. -/
structure Records (recording : StateT (List Exchange) m α) (plain : m α) : Prop where
  /-- The exchanges are written behind the record. -/
  run_eq : ∀ record, recording.run record
    = (fun noted => (noted.1, record ++ noted.2)) <$> recording.run []
  /-- Without what is written there is no difference. -/
  fst_run : Prod.fst <$> recording.run [] = plain

/-- An exchange is written behind the record, with the answer that the platform
gave. -/
theorem run_keep (exchange : α → Exchange) (ask : m α) (record : List Exchange) :
    (keep exchange ask).run record
      = (fun answer => (answer, record ++ [exchange answer])) <$> ask := by
  simp [keep, StateT.run_bind]

namespace Records

theorem pure (value : α) :
    Records (Pure.pure value : StateT (List Exchange) m α) (Pure.pure value) where
  run_eq record := by simp
  fst_run := by simp

/-- One exchange is written, and the platform is asked as it is without a
record. -/
theorem keep (exchange : α → Exchange) (ask : m α) :
    Records (Platform.keep exchange ask) ask where
  run_eq record := by simp [run_keep]
  fst_run := by simp [run_keep]

/-- A sequence writes what its parts write. The second part may depend on the
value of the first, so it has to record for every value. -/
theorem bind {recording : StateT (List Exchange) m α} {plain : m α}
    {next : α → StateT (List Exchange) m β} {plainNext : α → m β}
    (h : Records recording plain) (hnext : ∀ value, Records (next value) (plainNext value)) :
    Records (recording >>= next) (plain >>= plainNext) where
  run_eq record := by
    -- The second part writes behind what the first one wrote, which `run_eq` moves in front of
    -- both.
    rw [StateT.run_bind, StateT.run_bind, h.run_eq, bind_map_left, map_bind]
    refine bind_congr fun noted => ?_
    rw [(hnext _).run_eq, (hnext _).run_eq noted.2, Functor.map_map]
    simp only [List.append_assoc]
  fst_run := by
    rw [StateT.run_bind, map_bind, ← h.fst_run, bind_map_left]
    refine bind_congr fun noted => ?_
    rw [(hnext _).run_eq, Functor.map_map]
    exact (hnext _).fst_run

end Records

end Records

/-! ### Runs on platforms with a state -/

/-- What a computation on a recorded platform came to: its value, what was
exchanged, and what is left of the platform. -/
structure Run (σ α : Type) where
  value : α
  /-- The exchanges in order. -/
  exchanges : List Exchange
  /-- The state that the platform is left in. -/
  state : σ

variable {σ α β : Type}

/-- Run a computation on a recorded platform from a state, with nothing written
before. All statements about exchanges are about such runs. -/
def observe (recording : StateT (List Exchange) (StateM σ) α) (state : σ) : Run σ α :=
  let ((value, exchanges), after) := (recording.run []).run state
  ⟨value, exchanges, after⟩

theorem observe_pure (value : α) (state : σ) :
    observe (pure value) state = ⟨value, [], state⟩ := rfl

/-- Another view of the value changes nothing else, so warnings that are added
afterwards leave the exchanges alone. -/
theorem observe_bind_pure (recording : StateT (List Exchange) (StateM σ) α) (view : α → β)
    (state : σ) :
    observe (recording >>= fun value => pure (view value)) state
      = let run := observe recording state
        ⟨view run.value, run.exchanges, run.state⟩ := rfl

namespace Records

variable {recording : StateT (List Exchange) (StateM σ) α} {plain : StateM σ α}

/-- A run behind a record writes what it writes with nothing before, so a part
of a run may be looked at as a run of its own. -/
theorem run_observe (h : Records recording plain) (record : List Exchange) (state : σ) :
    (recording.run record).run state
      = (((observe recording state).value, record ++ (observe recording state).exchanges),
        (observe recording state).state) :=
  congrFun (h.run_eq record) state

/-- The run without a record has the same value and leaves the same state. So
what is proved of recorded runs holds of the real ones. -/
theorem run_eq_observe (h : Records recording plain) (state : σ) :
    plain.run state = ((observe recording state).value, (observe recording state).state) := by
  rw [← h.fst_run]
  rfl

end Records

/-- A sequence is run from state to state, and its exchanges are those of its
parts. What follows is given under its own form, `continued`, since in a run
the value of the first part is known and decides a branch. -/
theorem observe_bind {recording : StateT (List Exchange) (StateM σ) α} {state after : σ}
    {value : α} {exchanges : List Exchange}
    (hrun : observe recording state = ⟨value, exchanges, after⟩)
    {next : α → StateT (List Exchange) (StateM σ) β}
    {continued : StateT (List Exchange) (StateM σ) β} (hnext : next value = continued)
    {plain : StateM σ β} (h : Records continued plain) :
    observe (recording >>= next) state
      = let rest := observe continued after
        ⟨rest.value, exchanges ++ rest.exchanges, rest.state⟩ := by
  obtain ⟨rfl, rfl, rfl⟩ := Run.mk.inj hrun
  have hbehind : ((recording >>= next).run []).run state
      = (continued.run (observe recording state).exchanges).run
          (observe recording state).state := by
    rw [← hnext]
    rfl
  -- What is written behind the first part is what is written behind nothing.
  rw [h.run_observe] at hbehind
  exact congrArg (fun noted => (⟨noted.1.1, noted.1.2, noted.2⟩ : Run σ β)) hbehind

/-- One exchange is the question and its answer. The answer is a hypothesis, so
that the branch behind it can be taken in `observe_bind`. -/
theorem observe_keep (exchange : α → Exchange) {ask : StateM σ α} {state after : σ} {answer : α}
    (hask : ask.run state = (answer, after)) :
    observe (keep exchange ask) state = ⟨answer, [exchange answer], after⟩ := by
  have hrun : ((keep exchange ask).run []).run state = ((answer, [exchange answer]), after) := by
    rw [run_keep, StateT.run_map, hask]
    rfl
  exact congrArg (fun noted => (⟨noted.1.1, noted.1.2, noted.2⟩ : Run σ α)) hrun

end Platform

namespace Service

open Platform (Records)

variable {m : Type → Type} [Monad m] [LawfulMonad m]

/-- Trying plans in turn is recorded, whether it goes on after an answer or
ends there. -/
theorem records_createFrom (platform : Platform m) (service : Service)
    (exhausted : CreationError) (targets : List (Offering × Plan)) :
    Records (createFrom platform.recorded service exhausted targets)
      (createFrom platform service exhausted targets) := by
  -- Along the targets. After an answer the computation ends, or it is the one for the rest.
  induction targets with
  | nil => exact .pure _
  | cons target rest ih =>
      refine .bind (.keep _ _) fun answer => ?_
      cases answer with
      | ok _ => exact .pure _
      | error error =>
          dsimp only
          split
          · exact .bind ih fun _ => .pure _
          · exact .pure _

/-- Trying the offerings of a list is recorded. If there is nothing to try,
nothing is exchanged. -/
theorem records_createAmong (platform : Platform m) (service : Service) (labels : List String)
    (plan : String) (offerings : List Offering) :
    Records (createAmong platform.recorded service labels plan offerings)
      (createAmong platform service labels plan offerings) := by
  unfold createAmong
  dsimp only
  split
  · exact .pure _
  · exact .bind (records_createFrom ..) fun _ => .pure _

/-- Creating a service is recorded: the listing of the offerings, and what
follows on it. -/
theorem records_create (platform : Platform m) (service : Service) :
    Records (create platform.recorded service) (create platform service) := by
  unfold create
  split
  · exact .pure _
  · refine .bind (.keep _ _) fun listing => ?_
    cases listing with
    | error error => exact .pure _
    | ok offerings => exact records_createAmong ..

/-- Creating the services of a list is recorded, for any list and any platform.
So a whole run can be told by its exchanges. -/
theorem records_createAll (platform : Platform m) (services : List Service) :
    Records (createAll platform.recorded services) (createAll platform services) := by
  induction services with
  | nil => exact .pure _
  | cons service rest ih =>
      unfold createAll
      split
      · refine .bind (records_create platform service) fun creation => ?_
        cases creation.result with
        | ok label => exact .bind ih fun _ => .pure _
        | error error =>
            dsimp only
            split
            · exact .bind ih fun _ => .pure _
            · exact .pure _
      · exact ih

end Service

end MultiTarget
