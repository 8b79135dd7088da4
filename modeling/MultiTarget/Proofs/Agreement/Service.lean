import MultiTarget.Proofs.Agreement
import MultiTarget.Service

/-!
# `MultiTarget.Proofs.Agreement.Service`: what a service is read from

A service and its keys are read from the parameters `Service.names`. On
chains that agree on these the service is the same; so are its warnings
where the same parameters are unsupported. What services of every kind have
in common is read from a part of them (`Service.baseNames`), which has no
credentials.
-/

set_option autoImplicit false

namespace MultiTarget

namespace Service

/-- The parameters that a service and its keys are read from, those that hold
credentials included. -/
abbrev names : List String := [
  "service", "service-name", "service-plan", "service-provider", "service-broker",
  "service-version", "service-alternatives", "service-tags", "config", "syslog-drain-url",
  "skip-service-updates", "ignore-update-errors", "optional", "service-keys"]

/-- The parameters that services of every kind are read from. None of them
holds a credential, so what is read from these is the same after secrets are
taken out. -/
abbrev baseNames : List String := [
  "service", "service-name", "service-plan", "skip-service-updates", "ignore-update-errors",
  "optional"]

/-- Two chains agree on the parameters that services of every kind are read
from. These are fewer than those of one kind. -/
abbrev BaseAgree (a b : ScopeChain) : Prop := a.AgreeOn (· ∈ baseNames) b

/-- Two chains agree on the parameters that a service is read from. -/
abbrev Agree (a b : ScopeChain) : Prop := a.AgreeOn (· ∈ names) b

variable {a b : ScopeChain}

namespace BaseAgree

/-- The same parameters that a kind needs are missing. The check asks whether a
scope has them, so a null counts as present in both. -/
theorem checkParameters (h : BaseAgree a b) (resource : Resource) (kind : ServiceKind) :
    checkParameters resource kind a = checkParameters resource kind b := by
  have hmissing : missingParameter? kind a = missingParameter? kind b := by
    -- Every kind needs a short list of its own, and all of these are among the names.
    unfold missingParameter?
    cases kind <;>
      simp (disch := simp) only [ServiceKind.requiredParameters, List.find?_cons, List.find?_nil,
        h.values.contains]
  unfold Service.checkParameters
  rw [hmissing]

/-- The updates that are skipped are the same, as they are flags inside of one
map. -/
theorem skippedUpdates (h : BaseAgree a b) : skippedUpdatesOf a = skippedUpdatesOf b := by
  simp (disch := simp) only [skippedUpdatesOf, h.values.map?, h.values.innerFlag]

/-- What services of every kind have in common is the same, for the same name
and resource. -/
theorem base (h : BaseAgree a b) (name : String) (resource : Resource) (kind : ServiceKind) :
    base name resource kind a = base name resource kind b := by
  simp (disch := simp) only [Service.base, h.values.flag, h.skippedUpdates]

end BaseAgree

namespace Agree

/-- Chains that agree on all parameters of services agree on those of every
kind. -/
theorem toBase (h : Agree a b) : BaseAgree a b := h.mono (by decide)

/-- The credentials are the same. They are taken over as they stand, so the
value itself is needed. -/
theorem credentials (h : Agree a b) (name : String) :
    credentialsOf name a = credentialsOf name b := by
  simp (disch := simp) only [credentialsOf, h.values.get?]

/-- A managed service is the same on top of the same base, with its label, its
plan and its alternatives. -/
theorem managed (h : Agree a b) (base : Service) : managed base a = managed base b := by
  simp (disch := simp) only [Service.managed, h.values.text?, h.values.texts,
    h.credentials]

/-- A user-provided service is the same on top of the same base, with the
warning about its label. -/
theorem userProvided (h : Agree a b) (base : Service) :
    userProvided base a = userProvided base b := by
  simp (disch := simp) only [Service.userProvided, h.values.text?, h.values.texts,
    h.credentials]

/-- **What a service is read from.** On chains that agree on the parameters of
services and warn of the same ones, a service has the same result and the same
warnings. The second condition is separate, since warnings are about the
parameters that are not in the list. -/
theorem ofKind (h : Agree a b)
    (hwarn : a.warnUnsupported knownParameters = b.warnUnsupported knownParameters)
    (naming : ServiceNaming) (resource : Resource) (kind : ServiceKind) :
    ofKind naming resource a kind = ofKind naming resource b kind := by
  unfold Service.ofKind
  simp only [h.toBase.checkParameters, hwarn, h.toBase.base, h.managed, h.userProvided]

end Agree

end Service

namespace Descriptor

variable {p : String → Prop} {descriptor : Descriptor} {general : Parameters}

/-- Another scope of the descriptor that agrees on the parameters of services,
and on all that are unsupported, changes no service. The class is a predicate,
because what is unsupported has no list. -/
theorem services_withParameters (h : descriptor.parameters.AgreeOn p general)
    (hnames : ∀ key ∈ Service.names, p key)
    (hknown : ∀ key, key ∉ Service.knownParameters.flatten → p key) (naming : ServiceNaming) :
    descriptor.services naming = (descriptor.withParameters general).services naming := by
  have hservice : descriptor.service naming
      = (descriptor.withParameters general).service naming := by
    funext resource
    have hscopes := resourceScopes_withParameters h resource
    have hagree : Service.Agree _ _ := hscopes.mono hnames
    -- The kind is read from the resource itself, so both sides take the same branch.
    unfold service
    simp only [hagree.ofKind (hscopes.warnUnsupported hknown)]
  unfold services
  rw [hservice]
  rfl

/-- Another scope of the descriptor that agrees on the parameters of services
changes no key. Keys raise no warnings, so nothing is asked of unsupported
parameters. -/
theorem serviceKeys_withParameters
    (h : descriptor.parameters.AgreeOn (· ∈ Service.names) general) (naming : ServiceNaming) :
    descriptor.serviceKeys naming = (descriptor.withParameters general).serviceKeys naming := by
  have hkeys : descriptor.keysOf naming = (descriptor.withParameters general).keysOf naming := by
    funext resource
    have hscopes := resourceScopes_withParameters h resource
    simp (disch := simp) only [keysOf, hscopes.values.list?]
  unfold serviceKeys
  rw [hkeys]
  rfl

end Descriptor

end MultiTarget
