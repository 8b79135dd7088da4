import MultiTarget.Platform

/-!
# `MultiTarget.Creation`: services created on a platform

A managed service names the offerings it may be created from.
`Service.create` tries them in turn:

* offerings that the platform does not list are left out, and then those
  without the plan;
* a creation that is forbidden moves on to the next offering;
* any other failure ends the attempt.

`Service.createAll` creates the managed services of a list in order. A
service that is optional and cannot be created is left out.

Specification 4.7 and 5. `create` and `createAll` are `create` and
`create_all`; at most one request is under way at a time, so a run is a
sequence.
-/

set_option autoImplicit false

namespace MultiTarget

/-- Why services are not created. -/
inductive CreationError where
  | content (error : ContentError)
  | platform (error : PlatformError)
  deriving DecidableEq, Repr

/-- The error in words. -/
def CreationError.message : CreationError → String
  | content error => error.message
  | platform error => error.message

/-- What an attempt came to, with the warnings raised on the way. -/
structure Creation (α : Type) where
  /-- The warnings in the order raised. -/
  warnings : List Warning
  /-- The outcome. -/
  result : Except CreationError α

namespace Creation

variable {α β : Type}

/-- An outcome without warnings. -/
def ofResult (result : Except CreationError α) : Creation α := ⟨[], result⟩

/-- Warnings raised before. -/
def after (warnings : List Warning) (creation : Creation α) : Creation α :=
  ⟨warnings ++ creation.warnings, creation.result⟩

/-- Another view of the value. -/
def map (f : α → β) (creation : Creation α) : Creation β :=
  ⟨creation.warnings, creation.result.map f⟩

end Creation

/-- A service that was created and the label of its offering. -/
structure CreatedService where
  name : String
  label : String
  deriving DecidableEq, Repr

/-- A created service as JSON. -/
def CreatedService.toJson (created : CreatedService) : Json := .obj <|
  Json.entry "name" (.str created.name) ++ Json.entry "label" (.str created.label)

namespace Service

/-! ### What to try -/

/-- The error of a service without a parameter. -/
def lacks (service : Service) (parameter : String) : CreationError :=
  .content (.missingParameter service.resourceName service.kind.name parameter)

/-- The labels to try and the name of the plan. A service with nothing to try
lacks its label, whether or not it has a plan. -/
def request (service : Service) : Except CreationError (List String × String) :=
  match service.candidates, service.plan with
  | [], _ => .error (service.lacks "service")
  | _ :: _, none => .error (service.lacks "service-plan")
  | label :: others, some plan => .ok (label :: others, plan)

/-- The listed offerings with the labels in order; of several with one label
the first counts, even if only a later one has the plan. -/
def listedOfferings (labels : List String) (offerings : List Offering) : List Offering :=
  labels.filterMap fun label => offerings.find? (·.label == label)

/-- The offerings that have a plan, each with its first plan of that
name. -/
def withPlan (plan : String) (offerings : List Offering) : List (Offering × Plan) :=
  offerings.filterMap fun offering => (offering.plan? plan).map fun found => (offering, found)

/-- The warnings about labels that are not listed. -/
def unlistedWarnings (service : Service) (labels : List String) (offerings : List Offering) :
    List Warning :=
  (labels.filter fun label => !offerings.any (·.label == label)).map
    (.offeringMissing service.name)

/-- The warnings about offerings without the plan. -/
def planWarnings (service : Service) (plan : String) (offerings : List Offering) :
    List Warning :=
  (offerings.filter fun offering => (offering.plan? plan).isNone).map fun offering =>
    .planMissing service.name offering.label plan

/-! ### Trying -/

variable {m : Type → Type} [Monad m]

/-- Try plans in turn until one is not forbidden. Only the refusal of the
caller moves on; whatever else the platform says is final. -/
def createFrom (platform : Platform m) (service : Service) (exhausted : CreationError) :
    List (Offering × Plan) → m (Creation String)
  | [] => return .ofResult (.error exhausted)
  | (offering, plan) :: rest => do
    match ← platform.create service offering.label plan with
    | .ok () => return .ofResult (.ok offering.label)
    | .error error =>
      if error.isForbidden then
        let later ← createFrom platform service exhausted rest
        -- The warning is raised before the next offering is tried, so it stands first.
        return later.after [.creationForbidden service.name offering.label error.message]
      else
        return .ofResult (.error (.platform error))

/-- Try the offerings of a list. If some are listed and none has the plan,
nothing is asked of the platform; if none is listed, no plan can be missing and
the service cannot be created. -/
def createAmong (platform : Platform m) (service : Service) (labels : List String)
    (plan : String) (offerings : List Offering) : m (Creation String) := do
  let listed := listedOfferings labels offerings
  -- All labels are looked at before any plan is, so their warnings stand first.
  let warnings := service.unlistedWarnings labels offerings ++ service.planWarnings plan listed
  let usable := withPlan plan listed
  -- An empty list of listed offerings ends in the other error, below.
  if usable.isEmpty && !listed.isEmpty then
    return ⟨warnings, .error <| .content <|
      .noOfferingsMatchPlan service.name (listed.map (·.label)) plan⟩
  let created ← createFrom platform service
    (.content (.cannotCreateService service.name labels)) usable
  return created.after warnings

/-- Create a service; the value is the label of its offering. The offerings are
listed only for a service that has a label and a plan. -/
def create (platform : Platform m) (service : Service) : m (Creation String) :=
  match service.request with
  | .error error => return .ofResult (.error error)
  | .ok (labels, plan) => do
    match ← platform.offerings with
    | .error error => return .ofResult (.error (.platform error))
    | .ok offerings => createAmong platform service labels plan offerings

/-- Create the managed services of a list in order. A service that is not
optional and fails ends the run, and those created before it are not undone. -/
def createAll (platform : Platform m) : List Service → m (Creation (List CreatedService))
  | [] => return .ofResult (.ok [])
  | service :: rest =>
    if service.kind = .managed then do
      let creation ← create platform service
      match creation.result with
      | .ok label =>
        let others ← createAll platform rest
        return (others.map (⟨service.name, label⟩ :: ·)).after creation.warnings
      | .error error =>
        -- Whatever the reason was, a failing listing included: the next service asks again.
        if service.isOptional then
          let others ← createAll platform rest
          return others.after (creation.warnings ++ [.optionalSkipped service.name error.message])
        else
          return ⟨creation.warnings, .error error⟩
    else createAll platform rest

end Service

end MultiTarget
