import Mathlib.Data.List.Forall2
import MultiTarget.Proofs.Kubernetes.Secrets
import MultiTarget.Proofs.Support.Plain

/-!
# `MultiTarget.Proofs.Confidentiality`: where secrets are seen

Two descriptors that differ in the secrets of their resources at most are
the same after a redaction (`Descriptor.DifferInSecrets.redacted_eq`). So
their models are that of one redacted descriptor, but for credentials of
services, and their manifests are its manifests, but for the data of secrets
and the parameters of service instances. Neither names, routes,
environments and keys nor a warning or the fingerprint of a configuration
tells the two apart (`builds_eq_of_differInSecrets`).

Both builds have to succeed: an error does tell that a secret is
ill-shaped.
-/

set_option autoImplicit false

namespace MultiTarget

/-- Two resources differ in the presence or the values of secrets at most.
Presence counts, so a resource with a password may be compared with one that
has none. -/
def Resource.DifferInSecrets (a b : Resource) : Prop :=
  ∃ parameters, a.parameters.AgreeOn (· ∉ secretNames) parameters ∧ b = { a with parameters }

/-- Two descriptors differ in the secrets of their resources at most. The
resources are paired in order, and nothing else may differ. -/
def Descriptor.DifferInSecrets (a b : Descriptor) : Prop :=
  ∃ resources, List.Forall₂ Resource.DifferInSecrets a.resources resources ∧
    b = { a with resources }

/-- A redaction leaves the same of two such resources: it writes over all the
secrets, whether they were there or not. -/
theorem Resource.DifferInSecrets.redacted_eq {a b : Resource} (h : a.DifferInSecrets b) :
    a.redacted = b.redacted := by
  obtain ⟨parameters, hagree, rfl⟩ := h
  have hparameters : a.parameters.insertAll redactions = parameters.insertAll redactions := by
    refine OrderedMap.ext_get? fun key => ?_
    have hascending : Ascending redactions := by decide
    rw [OrderedMap.get?_insertAll_of_ascending _ hascending,
      OrderedMap.get?_insertAll_of_ascending _ hascending]
    by_cases hkey : key ∈ secretNames
    · -- What a secret is replaced by does not depend on what it was.
      have hreplaced : ∀ key ∈ secretNames, (Entries.lookup key redactions).isSome = true := by
        decide
      obtain ⟨value, hvalue⟩ := Option.isSome_iff_exists.1 (hreplaced key hkey)
      rw [hvalue]
      rfl
    · rw [hagree key hkey]
  exact congrArg (fun parameters => { a with parameters }) hparameters

/-- A redaction leaves the same of two such descriptors. So both are compared
with one redacted descriptor, and not with each other. -/
theorem Descriptor.DifferInSecrets.redacted_eq {a b : Descriptor} (h : a.DifferInSecrets b) :
    a.redacted = b.redacted := by
  obtain ⟨resources, hresources, rfl⟩ := h
  have hsame : a.resources.map Resource.redacted = resources.map Resource.redacted := by
    rw [← List.forall₂_eq_eq_eq, List.forall₂_map_left_iff, List.forall₂_map_right_iff]
    exact hresources.imp fun _ _ hpair => hpair.redacted_eq
  exact congrArg (fun resources => { a with resources }) hsame

/-- **Secrets stay where they belong.** Let two descriptors differ in the
presence and the values of `config`, `data`, `registry`, `username` and
`password` in the parameters of their resources at most. If both have a model,
the models are equal but for the credentials of services. If both have
manifests, these are equal but for the data of secrets and the parameters of
service instances. -/
theorem builds_eq_of_differInSecrets (options : Options) (target : Target)
    (deployed : Option Deployed) (a b : Descriptor) (h : a.DifferInSecrets b) :
    (∀ model other, (CloudModel.ofDescriptor options target deployed a).result = .ok model →
      (CloudModel.ofDescriptor options target deployed b).result = .ok other →
        model.withoutCredentials = other.withoutCredentials) ∧
    ∀ manifests others, Kubernetes.manifestsFor options target a = .ok manifests →
      Kubernetes.manifestsFor options target b = .ok others →
        manifests.map Kubernetes.Manifest.withoutSecrets
          = others.map Kubernetes.Manifest.withoutSecrets := by
  have hredacted : a.redacted = b.redacted := h.redacted_eq
  constructor
  · intro model other hmodel hother
    -- Each model, without credentials, is that of the redacted descriptor, of which there is one.
    have hfirst := CloudModel.ofDescriptor_redacted hmodel
    have hsecond := CloudModel.ofDescriptor_redacted hother
    rw [hredacted] at hfirst
    exact Except.ok.inj (hfirst.symm.trans hsecond)
  · intro manifests others hmanifests hothers
    obtain ⟨first, hfirst, hview⟩ := Kubernetes.manifestsFor_redacted hmanifests
    obtain ⟨second, hsecond, hview'⟩ := Kubernetes.manifestsFor_redacted hothers
    rw [hredacted] at hfirst
    obtain rfl : first = second := Except.ok.inj (hfirst.symm.trans hsecond)
    exact hview.symm.trans hview'

/-- A resource with secrets put in, to make two descriptors that differ in
these alone. -/
def Resource.holding (resource : Resource) (secrets : List (String × Json)) : Resource :=
  { resource with parameters := resource.parameters.insertAll secrets }

/-- Whatever secrets two copies of a resource hold, they differ in secrets at
most. The keys of both lists must be among the names of secrets, which is
decided for literal ones. -/
theorem Resource.differInSecrets_holding (resource : Resource)
    {secrets others : List (String × Json)} (hsecrets : ∀ e ∈ secrets, e.1 ∈ secretNames)
    (hothers : ∀ e ∈ others, e.1 ∈ secretNames) :
    (resource.holding secrets).DifferInSecrets (resource.holding others) := by
  have hagree : (resource.parameters.insertAll secrets).AgreeOn (· ∉ secretNames)
      (resource.parameters.insertAll others) :=
    (OrderedMap.AgreeOn.refl _ resource.parameters).insertAll_of_notMem
      (fun e he hopen => hopen (hsecrets e he)) fun e he hopen => hopen (hothers e he)
  exact ⟨_, hagree, rfl⟩

/-- A module that requires a managed service with secrets. Its credentials are
the one place of a model where these are seen. -/
def vault (secrets : List (String × Json)) : Descriptor :=
  .plain ∅ [{ Module.plain "web" (.ofList [("no-route", .bool true)]) with
      requires := [.plain "store" ∅] }]
    [(Resource.plain "store" "managed-service" (.ofList [("service", .str "postgresql"),
      ("service-plan", .str "small")])).holding secrets]

/-- A module whose image is pulled with a password, which is written into a
secret of the cluster. -/
def gallery (password : String) : Descriptor :=
  .plain ∅ [{ Module.plain "web" (.ofList [("container-image", .str "web:1")]) with
      requires := [.plain "pull" ∅] }]
    [(Resource.plain "pull" "docker-secret" ∅).holding [("registry", .str "registry.example.com"),
      ("username", .str "bot"), ("password", .str password)]]

/-- The data of all secrets, by which two lists of manifests are told apart. -/
def secretData (manifests : List Kubernetes.Manifest) : List (OrderedMap String) :=
  manifests.filterMap fun
    | .secret object => some object.data
    | _ => none

/-- A service with a password and one without credentials have models that
differ in these alone. An image that is pulled with another password has
manifests that differ in a secret alone. -/
theorem builds_eq_of_differInSecrets_vault :
    (∃ model other,
      (vault [("config", .obj [("password", .str "one")])]).DifferInSecrets (vault []) ∧
      (CloudModel.ofDescriptor .standard .plain none
        (vault [("config", .obj [("password", .str "one")])])).result = .ok model ∧
      (CloudModel.ofDescriptor .standard .plain none (vault [])).result = .ok other ∧
      model.services.map (·.credentials) ≠ other.services.map (·.credentials) ∧
      model.withoutCredentials = other.withoutCredentials) ∧
    ∃ manifests others, (gallery "one").DifferInSecrets (gallery "two") ∧
      Kubernetes.manifestsFor .standard .plain (gallery "one") = .ok manifests ∧
      Kubernetes.manifestsFor .standard .plain (gallery "two") = .ok others ∧
      secretData manifests ≠ secretData others ∧
      manifests.map Kubernetes.Manifest.withoutSecrets
        = others.map Kubernetes.Manifest.withoutSecrets := by
  constructor
  · have hdiffer : (vault [("config", .obj [("password", .str "one")])]).DifferInSecrets
        (vault []) :=
      ⟨_, .cons (Resource.differInSecrets_holding _ (by decide) (by decide)) .nil, rfl⟩
    have hfirst : ((CloudModel.ofDescriptor .standard .plain none
        (vault [("config", .obj [("password", .str "one")])])).result.map
          fun model => model.services.map (·.credentials))
        = .ok [.ofList [("password", .str "one")]] := by decide +kernel
    have hsecond : ((CloudModel.ofDescriptor .standard .plain none (vault [])).result.map
        fun model => model.services.map (·.credentials)) = .ok [∅] := by decide +kernel
    obtain ⟨model, hmodel, hcredentials⟩ := Outcome.map_eq_ok.1 hfirst
    obtain ⟨other, hother, hnone⟩ := Outcome.map_eq_ok.1 hsecond
    refine ⟨model, other, hdiffer, hmodel, hother, ?_,
      (builds_eq_of_differInSecrets _ _ _ _ _ hdiffer).1 model other hmodel hother⟩
    rw [hcredentials, hnone]
    decide
  · have hdiffer : (gallery "one").DifferInSecrets (gallery "two") :=
      ⟨_, .cons (Resource.differInSecrets_holding _ (by decide) (by decide)) .nil, rfl⟩
    have hkinds : ∀ password ∈ ["one", "two"],
        ((Kubernetes.manifestsFor .standard .plain (gallery password)).map fun manifests =>
          manifests.map (·.kind)) = .ok ["ConfigMap", "Deployment", "Service", "Secret"] := by
      decide +kernel
    have hdata : (Kubernetes.manifestsFor .standard .plain (gallery "one")).map secretData
        ≠ (Kubernetes.manifestsFor .standard .plain (gallery "two")).map secretData := by
      decide +kernel
    obtain ⟨manifests, hmanifests, -⟩ := Outcome.map_eq_ok.1 (hkinds "one" (by simp))
    obtain ⟨others, hothers, -⟩ := Outcome.map_eq_ok.1 (hkinds "two" (by simp))
    refine ⟨manifests, others, hdiffer, hmanifests, hothers, fun hsame => hdata ?_,
      (builds_eq_of_differInSecrets _ _ none _ _ hdiffer).2 manifests others hmanifests hothers⟩
    rw [hmanifests, hothers]
    exact congrArg Except.ok hsame

end MultiTarget
