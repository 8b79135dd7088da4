import MultiTarget.Proofs.Support.Maps
import MultiTarget.Proofs.Visibility

/-!
# `MultiTarget.Proofs.PublishedEntries`: the entries of all modules

The version of an application is read for the first entry that needs it and
kept for those that follow. What is kept is always what would be read
(`Known`), and so a run with a kept version tracks the same run that reads the
version for each entry anew: `tracks_versionOnce` is the step, `Tracks.mapM`
carries it through the dependencies of a module and the modules of a
descriptor, and `ofDescriptor_eq` is the whole.

Without the kept version it is plain what comes first. A version that cannot be
read is met before the first entry, wherever that is, and nothing else fails in
this way (`ofDependency_ne_invalidVersion`). Any other descriptor has the
entries that it has with one version given beforehand (`ofDescriptor_versioned`).
-/

set_option autoImplicit false

namespace MultiTarget

/-! ### Runs that remember -/

namespace Outcome

variable {σ ε α β : Type} {right : σ → Prop}

/-- A run that remembers something does what a computation without a memory
does, and what it remembers stays right. Both outcomes are told, since errors
are to be the same. -/
structure Tracks (right : σ → Prop) (run : StateT σ (Except ε) α) (plain : Except ε α) :
    Prop where
  value : ∀ memory y, right memory → plain = .ok y →
    ∃ later, run.run memory = .ok (y, later) ∧ right later
  failure : ∀ memory error, right memory → plain = .error error →
    run.run memory = .error error

/-- A computation that does not look at the memory tracks itself, and the
memory stays as it is. -/
theorem tracks_liftM (plain : Except ε α) :
    Tracks right (liftM plain : StateT σ (Except ε) α) plain where
  value memory y hright h := ⟨memory, by rw [h]; rfl, hright⟩
  failure memory error _ h := by rw [h]; rfl

theorem tracks_pure (y : α) : Tracks right (pure y : StateT σ (Except ε) α) (pure y) :=
  tracks_liftM (pure y)

/-- One run after the other. The memory of the first is handed to the second,
which may rely on its being right. -/
theorem Tracks.bind {first : StateT σ (Except ε) α} {plain : Except ε α}
    {next : α → StateT σ (Except ε) β} {other : α → Except ε β} (h : Tracks right first plain)
    (hnext : ∀ y, Tracks right (next y) (other y)) :
    Tracks right (first >>= next) (plain >>= other) where
  value memory z hright hz := by
    obtain ⟨y, hy, hz⟩ := bind_eq_ok.1 hz
    obtain ⟨between, hrun, hbetween⟩ := h.value memory y hright hy
    obtain ⟨later, hlater, hright'⟩ := (hnext y).value between z hbetween hz
    refine ⟨later, ?_, hright'⟩
    rw [StateT.run_bind, hrun]
    exact hlater
  failure memory error hright herror := by
    rw [StateT.run_bind]
    rcases bind_eq_error.1 herror with hfirst | ⟨y, hy, hz⟩
    · rw [h.failure memory error hright hfirst]
      rfl
    · obtain ⟨between, hrun, hbetween⟩ := h.value memory y hright hy
      rw [hrun]
      exact (hnext y).failure between error hbetween hz

/-- A traversal tracks the plain one if its step does. This carries the
invariant from one entry to all of them. -/
theorem Tracks.mapM {run : α → StateT σ (Except ε) β} {plain : α → Except ε β}
    (h : ∀ x, Tracks right (run x) (plain x)) (items : List α) :
    Tracks right (items.mapM run) (items.mapM plain) := by
  -- On the items: a step, and then the rest with what is remembered after it.
  induction items with
  | nil => exact tracks_pure []
  | cons x rest ih =>
      rw [List.mapM_cons, List.mapM_cons]
      exact (h x).bind fun y => ih.bind fun ys => tracks_pure (y :: ys)

/-- In the end the memory is forgotten, and what is left is the plain
computation. It must be right at the start. -/
theorem Tracks.run'_eq {run : StateT σ (Except ε) α} {plain : Except ε α}
    (h : Tracks right run plain) {memory : σ} (hright : right memory) :
    run.run' memory = plain := by
  cases hplain : plain with
  | ok y =>
      obtain ⟨later, hrun, -⟩ := h.value memory y hright hplain
      rw [StateT.run'_eq, hrun]
      rfl
  | error error =>
      rw [StateT.run'_eq, h.failure memory error hright hplain]
      rfl

end Outcome

/-- A version is read, or its text is refused as it stands. There is no other
error. -/
theorem Version.parse_cases (mta text : String) :
    (∃ version, parse mta text = .ok version) ∨
      parse mta text = .error (.invalidVersion mta text) := by
  unfold parse
  cases ofText? text with
  | some version => exact .inl ⟨version, rfl⟩
  | none => exact .inr rfl

namespace ConfigurationEntry

open Outcome (Tracks)

variable {target : Target} {descriptor : Descriptor} {dependency : ProvidedDependency}
  {version : Version} {m : Module}

/-! ### The kept version -/

/-- What is kept is the version of the descriptor, if anything is. This is the
invariant of the memory. -/
def Known (descriptor : Descriptor) (kept : Option Version) : Prop :=
  ∀ version, kept = some version →
    Version.parse descriptor.id descriptor.version = .ok version

/-- A version that is kept need not be read. It would be the same, which is
what the invariant says, so the outcome does not tell whether it was. -/
theorem tracks_versionOnce (descriptor : Descriptor) :
    Tracks (Known descriptor) (versionOnce descriptor)
      (Version.parse descriptor.id descriptor.version) where
  value kept version hkept hread := by
    refine ⟨some version, ?_, fun other hother => Option.some.inj hother ▸ hread⟩
    -- Either the version is read now, or the one that is kept is the one that would be read.
    cases kept with
    | none => simp [versionOnce, hread]
    | some known =>
        obtain rfl := Except.ok.inj ((hkept known rfl).symm.trans hread)
        rfl
  failure kept error hkept hread := by
    cases kept with
    | none => simp [versionOnce, hread]
    | some known => cases (hkept known rfl).symm.trans hread

/-- The entries of a module, with the version read for each of them. Here no
entry depends on those before it. -/
def entriesOf (target : Target) (descriptor : Descriptor) (m : Module) :
    Except ContentError (List ConfigurationEntry) :=
  (published m).mapM fun dependency => do
    ofDependency target descriptor (← Version.parse descriptor.id descriptor.version) dependency

/-- The entries of a module with its name, under which they are kept. -/
def named (target : Target) (descriptor : Descriptor) (m : Module) :
    Except ContentError (String × List ConfigurationEntry) := do
  return (m.name, ← entriesOf target descriptor m)

/-- A module builds its entries as if the version were read for each of
them. -/
theorem tracks_ofModule (target : Target) (descriptor : Descriptor) (m : Module) :
    Tracks (Known descriptor) (ofModule target descriptor m) (entriesOf target descriptor m) :=
  .mapM (fun dependency => (tracks_versionOnce descriptor).bind fun version =>
    Outcome.tracks_liftM (ofDependency target descriptor version dependency)) _

/-- It does not matter that the version is kept. From here on there is no
memory to be reasoned about. -/
theorem ofDescriptor_eq (target : Target) (descriptor : Descriptor) :
    ofDescriptor target descriptor = do
      return .ofList (← descriptor.modules.mapM (named target descriptor)) := by
  have hmodules : Tracks (Known descriptor)
      (descriptor.modules.mapM fun m => do return (m.name, ← ofModule target descriptor m))
      (descriptor.modules.mapM (named target descriptor)) :=
    .mapM (fun m => (tracks_ofModule target descriptor m).bind fun entries =>
      Outcome.tracks_pure (m.name, entries)) _
  have hnone : Known descriptor none := fun version h => by cases h
  unfold ofDescriptor
  simp only [hmodules.run'_eq hnone]

/-! ### Errors -/

/-- The namespace and the visibility of a dependency may be refused, and this
is never for the version. So an error about the version tells that it was
read. -/
theorem ofDependency_ne_invalidVersion (target : Target) (descriptor : Descriptor)
    (version : Version) (dependency : ProvidedDependency) (mta text : String) :
    ofDependency target descriptor version dependency ≠ .error (.invalidVersion mta text) := by
  intro h
  rcases Outcome.bind_eq_error.1 h with hnamespace | ⟨name, -, h⟩
  · unfold namespaceOf at hnamespace
    split at hnamespace <;> cases hnamespace
  · rcases Outcome.bind_eq_error.1 h with hvisibility | ⟨spaces, -, h⟩
    · obtain ⟨reason, -, herror⟩ := visibilityOf_eq_error_iff.1 hvisibility
      cases herror
    · cases h

/-! ### One version for all -/

/-- Some module publishes a dependency: it is public and has properties. Only
then is the version needed at all. -/
def Publishes (descriptor : Descriptor) : Prop :=
  ∃ m ∈ descriptor.modules, ∃ dependency ∈ m.provides,
    dependency.isPublic = true ∧ dependency.properties ≠ ∅

/-- The entries of a module with its name, all of them with one version that is
given. -/
def namedWith (target : Target) (descriptor : Descriptor) (version : Version) (m : Module) :
    Except ContentError (String × List ConfigurationEntry) := do
  return (m.name, ← (published m).mapM (ofDependency target descriptor version))

/-- The entries of all modules, where every entry has the same version. This is
what a reader would write down. -/
def ofVersion (target : Target) (descriptor : Descriptor) (version : Version) :
    Except ContentError (OrderedMap (List ConfigurationEntry)) := do
  return .ofList (← descriptor.modules.mapM (namedWith target descriptor version))

/-- What a module publishes are the dependencies that it provides, that are
public and that have properties. -/
theorem mem_published_iff : dependency ∈ published m ↔
    dependency ∈ m.provides ∧ dependency.isPublic = true ∧ dependency.properties ≠ ∅ := by
  have hempty : dependency.properties.isEmpty = true ↔ dependency.properties = ∅ :=
    OrderedMap.isEmpty_iff_eq_empty
  simp [published, ← hempty]

/-- Where nothing is published, no module has a dependency to publish. It then
has an empty list of entries, and is listed with it. -/
theorem published_eq_nil (h : ¬ Publishes descriptor) (hm : m ∈ descriptor.modules) :
    published m = [] := by
  refine List.eq_nil_iff_forall_not_mem.2 fun dependency hdependency => h ?_
  obtain ⟨hprovided, hpublic⟩ := mem_published_iff.1 hdependency
  exact ⟨m, hm, dependency, hprovided, hpublic⟩

/-- With a version that can be read, it does not matter when it is read. -/
theorem ofDescriptor_of_version
    (hversion : Version.parse descriptor.id descriptor.version = .ok version) :
    ofDescriptor target descriptor = ofVersion target descriptor version := by
  have hnamed : named target descriptor = namedWith target descriptor version := by
    funext m
    unfold named entriesOf namedWith
    rw [hversion]
    rfl
  rw [ofDescriptor_eq, hnamed]
  rfl

/-- Where nothing is published, no version is read. Any version gives the same,
and it is not asked whether that of the descriptor can be read. -/
theorem ofDescriptor_of_not_publishes (h : ¬ Publishes descriptor) (version : Version) :
    ofDescriptor target descriptor = ofVersion target descriptor version := by
  have hnamed : ∀ m ∈ descriptor.modules, named target descriptor m = .ok (m.name, []) := by
    intro m hm
    unfold named entriesOf
    rw [published_eq_nil h hm]
    rfl
  have hwith : ∀ m ∈ descriptor.modules,
      namedWith target descriptor version m = .ok (m.name, []) := by
    intro m hm
    unfold namedWith
    rw [published_eq_nil h hm]
    rfl
  unfold ofVersion
  rw [ofDescriptor_eq, Outcome.mapM_eq_ok_map hnamed, Outcome.mapM_eq_ok_map hwith]

/-- A version that cannot be read is met before anything else can fail: the
first module with anything to publish fails with its first entry, and the
modules before have nothing to fail with. -/
theorem ofDescriptor_of_refused {error : ContentError} (h : Publishes descriptor)
    (hversion : Version.parse descriptor.id descriptor.version = .error error) :
    ofDescriptor target descriptor = .error error := by
  have hrefused : ∀ m, published m ≠ [] → named target descriptor m = .error error := by
    intro m hm
    obtain ⟨dependency, rest, hpublished⟩ := List.exists_cons_of_ne_nil hm
    unfold named entriesOf
    rw [hpublished, List.mapM_cons, hversion]
    rfl
  obtain ⟨m, hm, dependency, hprovided, hpublic⟩ := h
  have hsome : published m ≠ [] :=
    List.ne_nil_of_mem (mem_published_iff.2 ⟨hprovided, hpublic⟩)
  rw [ofDescriptor_eq]
  cases hresult : descriptor.modules.mapM (named target descriptor) with
  | ok found =>
      obtain ⟨y, -, hy⟩ := Outcome.exists_result_of_mem hresult hm
      cases (hrefused m hsome).symm.trans hy
  | error other =>
      -- The first module that fails publishes something, and fails with its first entry.
      obtain ⟨before, first, after, -, -, hfirst⟩ := Outcome.mapM_eq_error_iff.1 hresult
      by_cases hnone : published first = []
      · unfold named entriesOf at hfirst
        rw [hnone] at hfirst
        cases hfirst
      · rw [hrefused first hnone] at hfirst
        cases hfirst
        rfl

/-- With one version given, nothing fails for the version. So an invalid
version is found before any entry is made. -/
theorem ofVersion_ne_invalidVersion (target : Target) (descriptor : Descriptor)
    (version : Version) (mta text : String) :
    ofVersion target descriptor version ≠ .error (.invalidVersion mta text) := by
  intro h
  have hmodules := Outcome.bind_pure_eq_error.1 h
  obtain ⟨_, m, _, -, -, hm⟩ := Outcome.mapM_eq_error_iff.1 hmodules
  have hentries := Outcome.bind_pure_eq_error.1 hm
  obtain ⟨_, dependency, _, -, -, hdependency⟩ := Outcome.mapM_eq_error_iff.1 hentries
  exact ofDependency_ne_invalidVersion _ _ _ _ _ _ hdependency

/-- With distinct names, every module is found with its own entries, and
nothing else is. If two modules had one name, the later one would take the
place of the earlier one. -/
theorem of_ofVersion_eq_ok {entries : OrderedMap (List ConfigurationEntry)}
    (hnames : (descriptor.modules.map (·.name)).Nodup)
    (h : ofVersion target descriptor version = .ok entries) :
    (∀ name, name ∈ entries.keys ↔ ∃ m ∈ descriptor.modules, m.name = name) ∧
    ∀ m ∈ descriptor.modules, ∃ list, entries.get? m.name = some list ∧
      List.Forall₂ (fun dependency entry =>
        ofDependency target descriptor version dependency = .ok entry) (published m) list := by
  obtain ⟨found, hfound, h⟩ := Outcome.bind_eq_ok.1 h
  obtain rfl := Outcome.pure_eq_ok.1 h
  have hkeys : found.map (·.1) = descriptor.modules.map (·.name) :=
    Outcome.map_eq_map_of_mapM (fun m entry hentry => (Outcome.named_eq_ok.1 hentry).1) hfound
  have hdistinct : (found.map (·.1)).Nodup := hkeys ▸ hnames
  constructor
  · intro name
    rw [OrderedMap.mem_keys_ofList_iff hdistinct, hkeys, List.mem_map]
  · intro m hm
    obtain ⟨⟨name, list⟩, hmem, hentry⟩ := Outcome.exists_result_of_mem hfound hm
    obtain ⟨hsame, hlist⟩ := Outcome.named_eq_ok.1 hentry
    refine ⟨list, ?_, Outcome.mapM_eq_ok_iff.1 hlist⟩
    rw [OrderedMap.get?_ofList_eq_some_iff hdistinct]
    exact hsame ▸ hmem

/-- **One version for all entries.** The entries of a descriptor fail for the
version, which is that of the descriptor, exactly if something is published and
the version cannot be read. Otherwise they are those with the one version that
is read beforehand, and with any version where nothing is published; every
module is found with the entries of what it publishes, in the order declared. -/
theorem ofDescriptor_versioned (target : Target) (descriptor : Descriptor)
    (hnames : (descriptor.modules.map (·.name)).Nodup) :
    (∀ mta text, ofDescriptor target descriptor = .error (.invalidVersion mta text) ↔
      (mta = descriptor.id ∧ text = descriptor.version) ∧ Publishes descriptor ∧
        ∃ error, Version.parse descriptor.id descriptor.version = .error error) ∧
    (∀ version, Version.parse descriptor.id descriptor.version = .ok version ∨
        ¬ Publishes descriptor →
      ofDescriptor target descriptor = ofVersion target descriptor version) ∧
    ∀ version entries, ofVersion target descriptor version = .ok entries →
      (∀ name, name ∈ entries.keys ↔ ∃ m ∈ descriptor.modules, m.name = name) ∧
      ∀ m ∈ descriptor.modules, ∃ list, entries.get? m.name = some list ∧
        List.Forall₂ (fun dependency entry =>
          ofDependency target descriptor version dependency = .ok entry) (published m) list := by
  have hplain : ∀ version, Version.parse descriptor.id descriptor.version = .ok version ∨
      ¬ Publishes descriptor →
        ofDescriptor target descriptor = ofVersion target descriptor version := by
    rintro version (hversion | hnothing)
    · exact ofDescriptor_of_version hversion
    · exact ofDescriptor_of_not_publishes hnothing version
  refine ⟨fun mta text => ⟨fun h => ?_, ?_⟩, hplain,
    fun version entries => of_ofVersion_eq_ok hnames⟩
  · have hpublishes : Publishes descriptor := by
      by_contra hnothing
      -- Any version will do here, since none is looked at.
      rw [hplain ⟨0, 0, 0, none⟩ (.inr hnothing)] at h
      exact ofVersion_ne_invalidVersion _ _ _ _ _ h
    rcases Version.parse_cases descriptor.id descriptor.version with ⟨version, hversion⟩ | herror
    · rw [hplain version (.inl hversion)] at h
      exact absurd h (ofVersion_ne_invalidVersion _ _ _ _ _)
    · rw [ofDescriptor_of_refused hpublishes herror] at h
      cases h
      exact ⟨⟨rfl, rfl⟩, hpublishes, _, herror⟩
  · rintro ⟨⟨rfl, rfl⟩, hpublishes, error, hversion⟩
    rw [ofDescriptor_of_refused hpublishes hversion]
    rcases Version.parse_cases descriptor.id descriptor.version with ⟨version, hread⟩ | herror
    · cases hversion.symm.trans hread
    · rw [Except.error.inj (hversion.symm.trans herror)]

/-- A module that keeps its dependency to itself and one that publishes it in a
namespace that is none. Two things are wrong with the second. -/
def press (version : String) : Descriptor :=
  let url : Parameters := .ofList [("url", .str "https://press.example.com")]
  let nowhere : Parameters := .ofList [("namespace", .int 1)]
  { Descriptor.plain ∅
      [{ Module.plain "archive" ∅ with provides := [⟨"files", false, nowhere, url⟩] },
        { Module.plain "printer" ∅ with provides := [⟨"sheets", true, nowhere, url⟩] }] [] with
    version }

/-- The version is met before the namespace; once it can be read, the namespace
is what is left. The module that keeps its dependency to itself fails for
neither. -/
theorem ofDescriptor_versioned_press :
    ((press "1.x").modules.map (·.name)).Nodup ∧
    ofDescriptor Target.plain (press "1.x") = .error (.invalidVersion "shop" "1.x") ∧
    ofDescriptor Target.plain (press "1.0") = ofVersion Target.plain (press "1.0") ⟨1, 0, 0, none⟩ ∧
    ofVersion Target.plain (press "1.0") ⟨1, 0, 0, none⟩
      = .error (.invalidType "sheets" "namespace" "string") := by
  have hnames : ∀ version, ((press version).modules.map (·.name)).Nodup := by
    intro version
    show ["archive", "printer"].Nodup
    decide
  have hpublishes : Publishes (press "1.x") :=
    ⟨_, List.mem_cons_of_mem _ List.mem_cons_self, _, List.mem_cons_self, rfl, by decide +kernel⟩
  have hrefused : ofDescriptor Target.plain (press "1.x") = .error (.invalidVersion "shop" "1.x") :=
    ((ofDescriptor_versioned Target.plain (press "1.x") (hnames _)).1 "shop" "1.x").2
      ⟨⟨rfl, rfl⟩, hpublishes, .invalidVersion "shop" "1.x", by decide +kernel⟩
  have hread : ofDescriptor Target.plain (press "1.0")
      = ofVersion Target.plain (press "1.0") ⟨1, 0, 0, none⟩ :=
    (ofDescriptor_versioned Target.plain (press "1.0") (hnames _)).2.1 _
      (.inl (by decide +kernel))
  exact ⟨hnames _, hrefused, hread, by rfl⟩

end ConfigurationEntry

end MultiTarget
