import MultiTarget.Proofs.Creation.Fallback
import MultiTarget.Proofs.ScopeChain
import MultiTarget.Proofs.Service

/-!
# `MultiTarget.Proofs.RequiredParameters`: required parameters that are null

A managed service must have an offering and a plan. That it has them is
asked when its resource is read (`Service.checkParameters`), and again when
it is created (`Service.request`). The two disagree about a null. The check
takes it for a value, since some scope has the key. The reader takes it for
none (`ScopeChain.isSome_iff_of_contains`), and it hides a value that is set
for the whole descriptor.

`managed_complete_iff` says what follows: which services lack a label or a
plan after the check, and for which ones an attempt to create them ends in
the complaint that the check should have made.
-/

set_option autoImplicit false

namespace MultiTarget

/-- Where some scope has a key, something is read exactly if it is no null. A
null in the scope of a resource counts, even if the descriptor has a value: it
is the first one that is found. -/
theorem ScopeChain.isSome_iff_of_contains {α : Type} {chain : ScopeChain} {key expected : String}
    {view : Json → Option α} {seen? : Option α} (hcontains : chain.contains key = true)
    (h : chain.read? key expected view = .ok seen?) :
    seen?.isSome = true ↔ chain.get? key ≠ some .null := by
  obtain ⟨value, hvalue⟩ := Option.isSome_iff_exists.1 hcontains
  rw [isSome_iff_of_read?_eq_ok h, hvalue]
  simp

namespace Service

open Platform (observe)

variable {naming : ServiceNaming} {resource : Resource} {kind : ServiceKind}
  {chain : ScopeChain} {service : Service}

/-- A resource that passes the check has all parameters that its kind needs, in
some scope. Nothing is said of their values. -/
theorem contains_of_checkParameters (h : checkParameters resource kind chain = .ok ())
    {parameter : String} (hrequired : parameter ∈ kind.requiredParameters) :
    chain.contains parameter = true := by
  unfold checkParameters at h
  cases hmissing : missingParameter? kind chain with
  | some missing =>
      rw [hmissing] at h
      cases h
  | none => simpa using List.find?_eq_none.1 hmissing parameter hrequired

/-- The label and the plan of a managed service are read as texts, so neither
can be of another kind. -/
theorem outcome_managed {common : Service} (h : managed common chain = .ok service) :
    chain.text? "service" = .ok service.label ∧
      chain.text? "service-plan" = .ok service.plan := by
  unfold managed at h
  simp only [Outcome.bind_eq_ok, Outcome.pure_eq_ok] at h
  obtain ⟨label, hlabel, plan, hplan, _, -, _, -, _, -, _, -, _, -, _, -, rfl⟩ := h
  exact ⟨hlabel, hplan⟩

/-- A managed service has a label, and a plan, exactly if its resource has no
null in place of it. That they are there at all is what the check has seen
to. -/
theorem isSome_iff_of_ofKind
    (h : (ofKind naming resource chain .managed).result = .ok (some service)) :
    (service.label.isSome = true ↔ chain.get? "service" ≠ some .null) ∧
      (service.plan.isSome = true ↔ chain.get? "service-plan" ≠ some .null) := by
  unfold ofKind at h
  simp only [Build.result_bind, Build.result_pure, Outcome.bind_eq_ok, Outcome.result_liftM,
    Except.ok.injEq, Option.some.injEq] at h
  obtain ⟨⟨⟩, hcheck, _, -, _, -, common, -, _, hmanaged, rfl⟩ := h
  obtain ⟨hlabel, hplan⟩ := outcome_managed hmanaged
  exact ⟨ScopeChain.isSome_iff_of_contains (contains_of_checkParameters hcheck (by decide)) hlabel,
    ScopeChain.isSome_iff_of_contains (contains_of_checkParameters hcheck (by decide)) hplan⟩

/-! ### What creation complains of -/

/-- An attempt ended in the complaint that a parameter is missing, whichever it
is and of whatever service. -/
def LacksParameter (outcome : Except CreationError String) : Prop :=
  ∃ name kind parameter, outcome = .error (.content (.missingParameter name kind parameter))

/-- An attempt that tries offerings never complains of a parameter. What it
complains of is about offerings and plans. -/
theorem Fallback.not_lacksParameter {plan : String}
    {listing : Except PlatformError (List Offering)} {trials : List Trial}
    {outcome : Except CreationError String}
    (h : Fallback service plan listing trials outcome) : ¬ LacksParameter outcome := by
  rintro ⟨name, kind, parameter, rfl⟩
  rcases h.content_cases _ rfl with ⟨_, _, _, hsame⟩ | ⟨_, _, hsame⟩ <;> cases hsame

/-- On every platform, a service lacks a parameter exactly if it has no label
to try or no plan. Both are asked before the platform is. -/
theorem lacksParameter_create_iff {σ : Type} (platform : Platform (StateM σ))
    (service : Service) (state : σ) :
    LacksParameter ((create platform service).run state).1.result ↔
      service.candidates = [] ∨ service.plan = none := by
  rw [(records_create platform service).run_eq_observe state]
  -- A service cannot be requested for want of a label, or of a plan; or it can.
  rcases service.request_cases with ⟨hnone, hrequest⟩ | ⟨-, hplan, hrequest⟩ |
    ⟨plan, hsome, hplan, hrequest⟩
  · rw [observe_create_of_request_error hrequest]
    exact iff_of_true ⟨_, _, _, rfl⟩ (.inl hnone)
  · rw [observe_create_of_request_error hrequest]
    exact iff_of_true ⟨_, _, _, rfl⟩ (.inr hplan)
  · -- There are offerings to try, and trying them asks for no parameter.
    obtain ⟨trials, -, hfallback⟩ := exists_fallback_create platform hrequest state
    refine iff_of_false hfallback.not_lacksParameter ?_
    simp [hsome, hplan]

end Service

namespace Descriptor

/-- **When a managed service is complete.** A managed service that a
resource is built to has a label exactly if the resource has no null for the
offering, and a plan exactly if it has no null for the plan, be it in its
own scope or in that of the descriptor. On every platform, an attempt to
create the service ends in the complaint that a parameter is missing exactly
if the plan is null, or if the offering is null and there are no
alternatives. -/
theorem managed_complete_iff (descriptor : Descriptor) (naming : ServiceNaming)
    (resource : Resource) (service : Service)
    (h : (descriptor.service naming resource).result = .ok (some service))
    (hkind : service.kind = .managed) :
    let chain := descriptor.resourceScopes resource
    (service.label.isSome = true ↔ chain.get? "service" ≠ some .null) ∧
    (service.plan.isSome = true ↔ chain.get? "service-plan" ≠ some .null) ∧
    ∀ {σ : Type} (platform : Platform (StateM σ)) (state : σ),
      Service.LacksParameter ((Service.create platform service).run state).1.result ↔
        chain.get? "service-plan" = some .null ∨
        chain.get? "service" = some .null ∧ service.alternatives = [] := by
  intro chain
  obtain ⟨kind, name, -, -, hstands, hrun⟩ := exists_kind_of_service h
  obtain rfl : kind = .managed := hstands.kind_eq.symm.trans hkind
  obtain ⟨hlabel, hplan⟩ := Service.isSome_iff_of_ofKind hrun
  refine ⟨hlabel, hplan, fun platform state => ?_⟩
  -- What is missing after the check is missing for a null.
  have hnoPlan : service.plan = none ↔ chain.get? "service-plan" = some .null := by
    rw [← Option.not_isSome_iff_eq_none, hplan, not_not]
  have hnoLabel : service.label = none ↔ chain.get? "service" = some .null := by
    rw [← Option.not_isSome_iff_eq_none, hlabel, not_not]
  have hnone : service.candidates = [] ↔ service.label = none ∧ service.alternatives = [] := by
    unfold Service.candidates
    rw [List.append_eq_nil_iff, Option.toList_eq_nil_iff]
  rw [Service.lacksParameter_create_iff, hnone, hnoLabel, hnoPlan, or_comm]

/-- A plan for all services of a descriptor, and one of them that sets its own
plan to null. This is how an author might try to unset it. -/
def unplanned : Resource :=
  .plain "db" "managed-service" (.ofList [("service", .str "postgresql"),
    ("service-plan", .null)])

/-- The null hides the plan and passes the check. The service has no plan,
and it cannot be created where the plan is offered. -/
theorem managed_complete_unplanned : ∃ service,
    let descriptor : Descriptor :=
      .plain (.ofList [("service-plan", .str "free")]) [] [unplanned]
    let platform := Platform.plain [⟨"postgresql", [⟨"free", "guid-free"⟩]⟩]
    (descriptor.service ⟨none, false, false, false⟩ unplanned).result = .ok (some service) ∧
    service.kind = .managed ∧ service.label = some "postgresql" ∧ service.plan = none ∧
    Service.LacksParameter ((Service.create platform service).run ()).1.result := by
  let descriptor : Descriptor := .plain (.ofList [("service-plan", .str "free")]) [] [unplanned]
  have hrun : ((descriptor.service ⟨none, false, false, false⟩ unplanned).result.map fun service? =>
      service?.map fun service => (service.kind, service.label))
        = .ok (some (.managed, some "postgresql")) := by decide +kernel
  obtain ⟨service?, hservice, hsome⟩ := Outcome.map_eq_ok.1 hrun
  obtain ⟨service, rfl, hfacts⟩ := Option.map_eq_some_iff.1 hsome
  obtain ⟨hkind, hlabel⟩ := Prod.mk.inj hfacts
  have hnull : (descriptor.resourceScopes unplanned).get? "service-plan" = some .null := by
    decide +kernel
  obtain ⟨-, hplan, hlacks⟩ := managed_complete_iff _ _ _ service hservice hkind
  have hnone : service.plan = none := by
    rw [← Option.not_isSome_iff_eq_none, hplan, not_not]
    exact hnull
  exact ⟨service, hservice, hkind, hlabel, hnone, (hlacks _ ()).2 (.inl hnull)⟩

end Descriptor

end MultiTarget
