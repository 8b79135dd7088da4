import MultiTarget.Service

/-!
# `MultiTarget.Platform`: what a platform offers and answers

A platform lists its offerings, each with plans, and creates services
from a plan. It is reached through the effects of a monad, so an answer
may depend on everything that was asked before. `Platform.recorded` is
the same platform with a record of what was asked and answered.

Specification 4.7 and X.6.14. `offerings` and `create` are
`service_offerings` and `create_service`, and `isForbidden` is
`is_forbidden`.
-/

set_option autoImplicit false

namespace MultiTarget

/-- A call of the platform that failed. -/
structure PlatformError where
  /-- The status of the answer, if there was one. -/
  status : Option Nat
  detail : String
  deriving DecidableEq, Repr

namespace PlatformError

/-- The status of an answer to a caller who may not do what was asked. -/
def forbidden : Nat := 403

/-- The caller may not do what was asked. -/
def isForbidden (error : PlatformError) : Bool := error.status == some forbidden

/-- The error in words. -/
def message (error : PlatformError) : String :=
  match error.status with
  | some status => s!"platform call failed with status {status}: {error.detail}"
  | none => s!"platform call failed: {error.detail}"

end PlatformError

/-- A plan of an offering. -/
structure Plan where
  name : String
  guid : String
  deriving DecidableEq, Repr

/-- An offering that services are created from. -/
structure Offering where
  label : String
  plans : List Plan
  deriving DecidableEq, Repr

/-- The first plan of an offering that has a name. -/
def Offering.plan? (offering : Offering) (name : String) : Option Plan :=
  offering.plans.find? (·.name == name)

/-- A platform. -/
structure Platform (m : Type → Type) where
  /-- All offerings that the caller may see. -/
  offerings : m (Except PlatformError (List Offering))
  /-- Create a service from a plan of the offering with a label. -/
  create : Service → (label : String) → Plan → m (Except PlatformError Unit)

/-! ### Records -/

/-- What a platform was asked, and its answer. -/
inductive Exchange where
  | listing (answer : Except PlatformError (List Offering))
  | creation (service : Service) (label : String) (plan : Plan)
      (answer : Except PlatformError Unit)

namespace Platform

variable {m : Type → Type} [Monad m]

/-- Put an exchange at the end of the record and pass its answer on. The
platform does not see the record. -/
def keep {α : Type} (exchange : α → Exchange) (ask : m α) : StateT (List Exchange) m α := do
  let answer ← StateT.lift ask
  modify (· ++ [exchange answer])
  return answer

/-- A platform that keeps a record of its exchanges. -/
def recorded (platform : Platform m) : Platform (StateT (List Exchange) m) where
  offerings := keep .listing platform.offerings
  create service label plan :=
    keep (.creation service label plan) (platform.create service label plan)

end Platform

/-! ### Reading -/

/-- Read a plan. -/
def Plan.read? {σ : Type} [Source σ] (tree : σ) : Option Plan := do
  let r ← Record.read? (Record.plainFields ["name", "guid"]) tree
  return { name := ← r.required "name" Source.text?, guid := ← r.required "guid" Source.text? }

/-- Read an offering. -/
def Offering.read? {σ : Type} [Source σ] (tree : σ) : Option Offering := do
  let r ← Record.read? (Record.plainFields ["label", "plans"]) tree
  return {
    label := ← r.required "label" Source.text?
    plans := ← r.orElse "plans" (Source.list? Plan.read?) [] }

/-- A plan as JSON. -/
def Plan.toJson (plan : Plan) : Json := .obj <|
  Json.entry "name" (.str plan.name) ++ Json.entry "guid" (.str plan.guid)

/-- An offering as JSON. -/
def Offering.toJson (offering : Offering) : Json := .obj <|
  Json.entry "label" (.str offering.label) ++
  Json.entry "plans" (.arr (offering.plans.map Plan.toJson))

end MultiTarget
