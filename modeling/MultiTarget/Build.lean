import MultiTarget.ContentError

/-!
# `MultiTarget.Build`: computations that fail and warn

Building a model may fail with a content error and raises warnings as it
goes; those raised before a failure are kept. `Build.result` is a
homomorphism into `Except`, so a statement about results alone never
sees the warnings.

Specification 7: content errors end a build, and warnings do not alter it.
They are returned as values as well (X.2), so they belong to the outcome
here.
-/

set_option autoImplicit false

namespace MultiTarget

/-- Something worth telling that stops nothing. -/
inductive Warning where
  | unsupportedParameter (owner parameter : String)
  | ignoredLabel (service label : String)
  | offeringMissing (service offering : String)
  | planMissing (service offering plan : String)
  | creationForbidden (service offering error : String)
  | optionalSkipped (service error : String)
  deriving DecidableEq, Repr

namespace Warning

/-- The warning in words. -/
def message : Warning → String
  | unsupportedParameter .. => "unsupported parameter"
  | ignoredLabel .. => "ignoring label of user-provided service"
  | offeringMissing .. => "service offering does not exist, skipping"
  | planMissing .. => "service offering does not provide service plan, skipping"
  | creationForbidden .. => "creation forbidden, trying next offering"
  | optionalSkipped .. => "skipping optional service"

/-- What the warning is about. -/
def fields : Warning → List (String × String)
  | unsupportedParameter owner parameter => [("owner", owner), ("parameter", parameter)]
  | ignoredLabel service label => [("service", service), ("label", label)]
  | offeringMissing service offering => [("service", service), ("offering", offering)]
  | planMissing service offering plan =>
    [("service", service), ("offering", offering), ("plan", plan)]
  | creationForbidden service offering error =>
    [("service", service), ("offering", offering), ("error", error)]
  | optionalSkipped service error => [("service", service), ("error", error)]

end Warning

/-- A result or a content error, with the warnings raised on the way. -/
structure Build (α : Type) where
  /-- The warnings in the order raised. -/
  warnings : List Warning
  /-- The outcome. -/
  result : Except ContentError α

namespace Build

variable {α β : Type}

/-- Raise warnings. -/
def warn (warnings : List Warning) : Build Unit := ⟨warnings, .ok ()⟩

/-- An outcome without warnings. Lifted like this, readers that only fail stand
in computations that also warn. -/
def ofExcept (result : Except ContentError α) : Build α := ⟨[], result⟩

/-- The second computation runs only after the first succeeded. Its warnings
stand behind those of the first, which stay if it fails. -/
protected def bind (first : Build α) (next : α → Build β) : Build β :=
  match first.result with
  | .error error => ⟨first.warnings, .error error⟩
  | .ok value => ⟨first.warnings ++ (next value).warnings, (next value).result⟩

instance : Monad Build where
  pure value := ⟨[], .ok value⟩
  bind := Build.bind

instance : MonadLift (Except ContentError) Build := ⟨ofExcept⟩

@[simp] theorem result_pure (value : α) : (pure value : Build α).result = .ok value := rfl

@[simp] theorem warnings_pure (value : α) : (pure value : Build α).warnings = [] := rfl

@[simp] theorem result_ofExcept (result : Except ContentError α) :
    (ofExcept result).result = result := rfl

@[simp] theorem result_warn (warnings : List Warning) : (warn warnings).result = .ok () := rfl

@[simp] theorem result_bind (first : Build α) (next : α → Build β) :
    (first >>= next).result = first.result >>= fun value => (next value).result := by
  show (Build.bind first next).result = _
  unfold Build.bind
  cases first.result <;> rfl

/-- A failure keeps the warnings before it and adds none. -/
theorem warnings_bind_of_error {first : Build α} {next : α → Build β} {error : ContentError}
    (h : first.result = .error error) : (first >>= next).warnings = first.warnings := by
  show (Build.bind first next).warnings = _
  unfold Build.bind
  rw [h]

/-- After a success the warnings of both computations stand in order. -/
theorem warnings_bind_of_ok {first : Build α} {next : α → Build β} {value : α}
    (h : first.result = .ok value) :
    (first >>= next).warnings = first.warnings ++ (next value).warnings := by
  show (Build.bind first next).warnings = _
  unfold Build.bind
  rw [h]

/-- Computations over a list, in order, up to the first failure. The warnings
of those before it and its own stay, as in a loop that returns early. -/
def forEach (run : α → Build β) : List α → Build (List β)
  | [] => pure []
  | item :: rest => do
    let first ← run item
    let others ← forEach run rest
    return first :: others

end Build

end MultiTarget
