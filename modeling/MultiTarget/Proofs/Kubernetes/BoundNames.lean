import MultiTarget.Proofs.Binding
import MultiTarget.Proofs.Kubernetes.Selectors

/-!
# `MultiTarget.Proofs.Kubernetes.BoundNames`: names of required resources

A module in a cluster is given the names of resources that it requires: its
environment those of service instances, and its pods those of secrets for
pulling images. Both lists come from the requirements of the module
(`requiredNames_eq`): each requirement that is met has its name there, in
order. Nothing is erased, so a resource that is required twice is named twice,
unlike the services that an application is bound to.

`boundNames_nodup_iff` says when a list has no repetitions: no name that is
met may be required twice. Requirements that are not met may repeat. Without
their repetitions the names always are the ones expected
(`eraseDups_requiredNames`).
-/

set_option autoImplicit false

namespace MultiTarget.Kubernetes.Synthesis

variable {s : Synthesis} {m : Module} {type : ResourceType} {block : List Manifest}

/-- A requirement of a name is met by a resource of a type: the first one with
the name is active and of the type. A later resource of the same name is not
asked, even if it would do. -/
def meets (s : Synthesis) (type : ResourceType) (name : String) : Bool :=
  (s.descriptor.resource? name).any (isOfType type)

/-- The names that a module requires and that are met by a type, each once and
in the order of their first requirement. This is what one would expect of the
list. -/
def distinctNames (s : Synthesis) (m : Module) (type : ResourceType) : List String :=
  (m.requires.map (·.name)).eraseDups.filter (s.meets type)

/-- A module requires no resource of a type twice. Only requirements that are
met count, so a name without a resource may be required as often as one
likes. -/
def RequiresOnce (s : Synthesis) (m : Module) (type : ResourceType) : Prop :=
  (m.requires.map (·.name)).Pairwise fun a b => s.meets type a = true → a ≠ b

/-- The list of requirements is finite, so the condition can be evaluated for a
module at hand. -/
instance (s : Synthesis) (m : Module) (type : ResourceType) : Decidable (s.RequiresOnce m type) :=
  inferInstanceAs (Decidable (List.Pairwise _ _))

/-! ### Names of one type -/

/-- A module is given the name of each requirement that is met. The builder
looks resources up and returns their names; here the names of the requirements
are filtered instead. -/
theorem requiredNames_eq (s : Synthesis) (m : Module) (type : ResourceType) :
    s.requiredNames m type = (m.requires.map (·.name)).filter (s.meets type) := by
  unfold requiredNames
  dsimp only
  -- On the requirements: each of them adds its name or nothing, on both sides.
  induction m.requires with
  | nil => rfl
  | cons dependency rest ih =>
      rw [List.map_cons, List.filter_cons, List.filterMap_cons, ← ih, meets]
      cases hfound : s.descriptor.resource? dependency.name with
      | none => rfl
      | some resource =>
          -- A resource is found by its name, so its own name is that of the requirement.
          have hbeq := List.find?_some hfound
          have hname : resource.name = dependency.name := eq_of_beq hbeq
          rw [Option.any_some, List.filter_cons]
          cases isOfType type resource with
          | false => rfl
          | true => exact congrArg (· :: _) hname

/-- But for repetitions, the names are in the order of first requirement:
erasing them before or after the filter is the same. -/
theorem eraseDups_requiredNames (s : Synthesis) (m : Module) (type : ResourceType) :
    (s.requiredNames m type).eraseDups = s.distinctNames m type := by
  rw [requiredNames_eq, eraseDups_filter, distinctNames]

/-- A name is there twice exactly if it is met and required twice. In the
condition only one of two equal names is asked for, which is enough. -/
theorem nodup_requiredNames_iff (s : Synthesis) (m : Module) (type : ResourceType) :
    (s.requiredNames m type).Nodup ↔ s.RequiresOnce m type := by
  rw [requiredNames_eq, List.Nodup, List.pairwise_filter, RequiresOnce]
  -- Where two names are equal, it is enough to ask whether one of them is met.
  refine List.Pairwise.iff fun a b => ⟨fun h hmeets heq => ?_, fun h hmeets _ => h hmeets⟩
  exact h hmeets (heq ▸ hmeets) heq

/-- The names that a module is given for its requirements of a type, with
everything that holds of such a list. -/
structure NamesRequired (s : Synthesis) (m : Module) (type : ResourceType)
    (names : List String) : Prop where
  /-- There is one for each requirement that is met. -/
  each : names = (m.requires.map (·.name)).filter (s.meets type)
  /-- They first appear in the order of first requirement. -/
  first : names.eraseDups = s.distinctNames m type
  /-- They are those expected exactly if no resource is required twice. -/
  once_iff : names.Nodup ∧ names = s.distinctNames m type ↔ s.RequiresOnce m type

/-- The names that a module is given are those required, for every type of
resource and without a hypothesis. -/
theorem namesRequired_requiredNames (s : Synthesis) (m : Module) (type : ResourceType) :
    s.NamesRequired m type (s.requiredNames m type) where
  each := s.requiredNames_eq m type
  first := s.eraseDups_requiredNames m type
  once_iff := by
    -- A list without repetitions is the one with its repetitions erased.
    rw [← nodup_requiredNames_iff]
    refine ⟨And.left, fun hnodup => ⟨hnodup, ?_⟩⟩
    rw [← eraseDups_requiredNames, eraseDups_of_nodup hnodup]

/-! ### Manifests -/

/-- **Bound names repeat with their requirements.** A module that has
manifests has one configuration, made from the environment with the names of
the service instances that it requires, and one template of pods, with the
names of the secrets for pulling images. Either list has a name for each
requirement that is met, and it has no repetitions exactly if no resource of
the type is required twice. The services that an application of the module is
bound to have no repetitions in any case. -/
theorem boundNames_nodup_iff (h : s.moduleManifests m = .ok block) :
    ∃ config env t services,
      (∀ c, .configMap c ∈ block ↔ c = config) ∧
      config.data = env.texts s.prettyPrinting ∧
      Environment.ofModule s.values none s.descriptor m services = .ok env ∧
      s.NamesRequired m .serviceInstance services ∧
      podTemplates block = [t] ∧ s.NamesRequired m .dockerSecret t.pullSecrets ∧
      ∀ naming names, s.descriptor.boundServices naming m = .ok names → names.Nodup := by
  obtain ⟨config, hconfig, hmem⟩ := exists_configMap_mem_iff h
  obtain ⟨-, env, henv, hdata⟩ := outcome_configMap hconfig
  obtain ⟨t, _, _, _, hone, htemplate⟩ := exists_podTemplate h
  obtain ⟨-, -, -, hsecrets⟩ := outcome_podTemplate htemplate
  refine ⟨config, env, t, s.requiredNames m .serviceInstance, hmem, hdata, henv,
    s.namesRequired_requiredNames m _, hone, ?_, fun naming names hnames => ?_⟩
  · rw [hsecrets]
    exact s.namesRequired_requiredNames m _
  · obtain ⟨bindings, -, hnames⟩ := Outcome.bind_eq_ok.1 hnames
    exact (Descriptor.outcome_bindingNames hnames).1

/-- A module that requires a service instance and a secret twice each, so that
both of its lists repeat. -/
def insistent : Module :=
  { Module.plain "web" (.ofList [("container-image", .str "web:1")]) with
    requires := [.plain "catalog" ∅, .plain "pull" ∅, .plain "catalog" ∅, .plain "pull" ∅] }

/-- The cluster with this module alone. The resources stay, so all four
requirements are met. -/
def insistentCluster : Synthesis := { cluster with descriptor.modules := [insistent] }

/-- The module is given both names twice, in the text of its environment and in
the template of its pods. -/
theorem boundNames_nodup_insistent :
    ∃ block config t,
      insistentCluster.moduleManifests insistent = .ok block ∧ .configMap config ∈ block ∧
      config.data.get? "MTA_SERVICES" = some "[\"catalog\",\"catalog\"]" ∧
      podTemplates block = [t] ∧ t.pullSecrets = ["pull", "pull"] ∧
      ¬ insistentCluster.RequiresOnce insistent .serviceInstance ∧
      ¬ insistentCluster.RequiresOnce insistent .dockerSecret := by
  have hbuilt : (insistentCluster.moduleManifests insistent).map (fun _ => ()) = .ok () := by
    decide +kernel
  have htext : (Environment.ofModule insistentCluster.values none insistentCluster.descriptor
      insistent ["catalog", "catalog"]).map (fun env => (env.texts false).get? "MTA_SERVICES")
        = .ok (some "[\"catalog\",\"catalog\"]") := by decide +kernel
  obtain ⟨block, hblock, -⟩ := Outcome.map_eq_ok.1 hbuilt
  obtain ⟨config, env, t, services, hconfig, hdata, henv, hservices, hone, hsecrets, -⟩ :=
    boundNames_nodup_iff hblock
  -- The environment that was evaluated is the one that the module has.
  obtain rfl : services = ["catalog", "catalog"] := hservices.each.trans (by decide +kernel)
  obtain ⟨_, hfound, htext⟩ := Outcome.map_eq_ok.1 htext
  obtain rfl := Except.ok.inj (henv.symm.trans hfound)
  refine ⟨block, config, t, hblock, (hconfig config).2 rfl, ?_, hone,
    hsecrets.each.trans (by decide +kernel), by decide +kernel, by decide +kernel⟩
  rw [hdata]
  exact htext

end MultiTarget.Kubernetes.Synthesis
