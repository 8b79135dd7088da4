import MultiTarget.ConfigurationEntry
import MultiTarget.Proofs.Support.Distinct
import MultiTarget.Proofs.Support.Outcome
import MultiTarget.Proofs.Support.Plain

/-!
# `MultiTarget.Proofs.Visibility`: from where a dependency may be used

A declaration of visibility is a list of maps. Each of them declares a space
(`Declares`) or offends for one reason (`Offends`), and these two say all that
is read from an item (`declaredSpace_eq_ok_iff`, `declaredSpace_eq_error_iff`).

The spaces of a list are those declared and that of the producer, which comes
first. Repetitions are erased, and `Joins` says what is left without the
function that erases them: `joins_iff` shows that there is one such list.

So a declaration tells which spaces a dependency is visible from
(`VisibleFrom`) or why it is refused (`RefusedFor`), and `visibilityOf_decided`
shows that reading it does nothing else.
-/

set_option autoImplicit false

namespace MultiTarget.ConfigurationEntry

variable {dependency : ProvidedDependency} {entries : List (String × Json)} {key name : String}
  {item : Json} {space producer : SpaceName} {declared spaces : List SpaceName}
  {error : ContentError}

/-! ### Declarations -/

/-- What a part of a declared space stands for: the text that is there, and any
text where it is absent or null. The asterisk is what stands for any. -/
inductive PartOf (entries : List (String × Json)) (key : String) : String → Prop where
  | absent (h : Entries.lookup key entries = none) : PartOf entries key "*"
  | null (h : Entries.lookup key entries = some .null) : PartOf entries key "*"
  | text {name : String} (h : Entries.lookup key entries = some (.str name)) :
      PartOf entries key name

/-- A part that is there and neither null nor a text. -/
def Misplaced (entries : List (String × Json)) (key : String) (value : Json) : Prop :=
  Entries.lookup key entries = some value ∧ value ≠ .null ∧ ∀ name, value ≠ .str name

/-- The space that an item declares. Other entries of the map do not matter. -/
def Declares (item : Json) (space : SpaceName) : Prop :=
  ∃ entries, item = .obj entries ∧ PartOf entries "org" space.org ∧
    PartOf entries "space" space.space

/-- Why an item declares no space. The organisation is looked at first, so that
an item has one reason at most. -/
inductive Offends : Json → String → Prop where
  | shape {item : Json} (h : ∀ entries, item ≠ .obj entries) :
      Offends item s!"expected a map target, got {item.kind}"
  | org {entries : List (String × Json)} {value : Json} (h : Misplaced entries "org" value) :
      Offends (.obj entries) s!"\"org\" must be a string, got {value.kind}"
  | space {entries : List (String × Json)} {name : String} {value : Json}
      (horg : PartOf entries "org" name) (h : Misplaced entries "space" value) :
      Offends (.obj entries) s!"\"space\" must be a string, got {value.kind}"

/-! ### Reading -/

/-- A part is read as what it stands for, and every part that stands for
something is read. -/
theorem spacePart_eq_ok_iff : spacePart dependency entries key = .ok name ↔
    PartOf entries key name := by
  unfold spacePart
  constructor
  · intro h
    split at h
    · rename_i habsent
      cases h
      exact .absent habsent
    · rename_i hnull
      cases h
      exact .null hnull
    · rename_i text htext
      cases h
      exact .text htext
    · cases h
  · rintro (h | h | h) <;> rw [h]

/-- A part is refused exactly if it is misplaced. The error names the
dependency, the part and the kind of the value. -/
theorem spacePart_eq_error_iff : spacePart dependency entries key = .error error ↔
    ∃ value, Misplaced entries key value ∧
      error = invalid dependency s!"\"{key}\" must be a string, got {value.kind}" := by
  unfold spacePart
  constructor
  · intro h
    split at h
    · cases h
    · cases h
    · cases h
    · rename_i value hnull htext hvalue
      cases h
      exact ⟨value, ⟨hvalue, hnull, htext⟩, rfl⟩
  · rintro ⟨value, ⟨hvalue, hnull, htext⟩, rfl⟩
    rw [hvalue]
    cases value with
    | null => exact absurd rfl hnull
    | str name => exact absurd rfl (htext name)
    | bool | int | double | arr | obj => rfl

/-- An item is read as the space that it declares, and only maps declare
one. -/
theorem declaredSpace_eq_ok_iff : declaredSpace dependency item = .ok space ↔
    Declares item space := by
  cases item with
  | obj entries =>
      simp only [declaredSpace, Outcome.bind_eq_ok, Outcome.pure_eq_ok, spacePart_eq_ok_iff]
      constructor
      · rintro ⟨org, horg, name, hname, rfl⟩
        exact ⟨entries, rfl, horg, hname⟩
      · rintro ⟨_, hitem, horg, hname⟩
        obtain rfl := Json.obj.inj hitem
        exact ⟨space.org, horg, space.space, hname, rfl⟩
  | null | bool | int | double | str | arr => simp [declaredSpace, Declares]

/-- An item is refused for the reason for which it declares no space. The error
has the words of the reason. -/
theorem declaredSpace_eq_error_iff : declaredSpace dependency item = .error error ↔
    ∃ reason, Offends item reason ∧ error = .invalidVisibility dependency.name reason := by
  have hshape : ∀ item : Json, (∀ entries, item ≠ .obj entries) →
      (declaredSpace dependency item = .error error ↔
        ∃ reason, Offends item reason ∧ error = .invalidVisibility dependency.name reason) := by
    intro item hitem
    have hread : declaredSpace dependency item
        = .error (invalid dependency s!"expected a map target, got {item.kind}") := by
      cases item with
      | obj entries => exact absurd rfl (hitem entries)
      | null | bool | int | double | str | arr => rfl
    rw [hread]
    constructor
    · intro h
      cases h
      exact ⟨_, .shape hitem, rfl⟩
    · rintro ⟨reason, hoffends, rfl⟩
      cases hoffends with
      | shape => rfl
      | org => exact absurd rfl (hitem _)
      | space => exact absurd rfl (hitem _)
  -- Only a map is looked into; anything else is refused for its shape.
  by_cases hitem : ∃ entries, item = .obj entries
  · obtain ⟨entries, rfl⟩ := hitem
    simp only [declaredSpace, Outcome.bind_eq_error, Outcome.pure_ne_error, and_false,
      exists_false, or_false, spacePart_eq_ok_iff, spacePart_eq_error_iff]
    constructor
    · rintro (⟨value, horg, rfl⟩ | ⟨name, hname, value, hspace, rfl⟩)
      · exact ⟨_, .org horg, rfl⟩
      · exact ⟨_, .space hname hspace, rfl⟩
    · rintro ⟨reason, hoffends, rfl⟩
      cases hoffends with
      | shape h => exact absurd rfl (h entries)
      | org h => exact .inl ⟨_, h, rfl⟩
      | space hname h => exact .inr ⟨_, hname, _, h, rfl⟩
  · exact hshape item fun entries h => hitem ⟨entries, h⟩

/-! ### Lists of spaces -/

/-- The space of a producer and behind it the declared ones, each where it is
declared first and none of them twice. If the producer's own space is declared,
it stands in front all the same. -/
structure Joins (producer : SpaceName) (declared spaces : List SpaceName) : Prop where
  starts : spaces.head? = some producer
  nodup : spaces.Nodup
  mem_iff : ∀ space, space ∈ spaces ↔ space = producer ∨ space ∈ declared
  ordered : spaces.tail.Pairwise fun a b => declared.idxOf a < declared.idxOf b

/-- Without repetitions, the declared spaces follow that of the producer. It is
what is computed. -/
theorem joins_eraseDups (producer : SpaceName) (declared : List SpaceName) :
    Joins producer declared (producer :: declared).eraseDups := by
  refine ⟨by simp [List.eraseDups_cons], nodup_eraseDups _, by simp, ?_⟩
  rw [List.eraseDups_cons, List.tail_cons, eraseDups_filter]
  exact (pairwise_idxOf_eraseDups declared).filter _

/-- No two lists join the same spaces: they have the same items, each behind
the head where it is declared. So the four conditions determine the list. -/
theorem Joins.unique {others : List SpaceName} (h : Joins producer declared spaces)
    (hothers : Joins producer declared others) : spaces = others := by
  have hcons : ∀ {list}, Joins producer declared list → list = producer :: list.tail :=
    fun {list} hlist => (List.cons_head?_tail hlist.starts).symm
  have hmem : ∀ {list}, Joins producer declared list →
      ∀ space, space ∈ list.tail ↔ space ≠ producer ∧ space ∈ declared := by
    intro list hlist space
    have hnodup := hlist.nodup
    have hiff := hlist.mem_iff space
    rw [hcons hlist, List.nodup_cons] at hnodup
    rw [hcons hlist, List.mem_cons] at hiff
    constructor
    · intro hspace
      have hne : space ≠ producer := by
        rintro rfl
        exact hnodup.1 hspace
      exact ⟨hne, (hiff.1 (.inr hspace)).resolve_left hne⟩
    · rintro ⟨hne, hspace⟩
      exact (hiff.2 (.inr hspace)).resolve_left hne
  have hnodup : ∀ {list}, Joins producer declared list → list.tail.Nodup :=
    fun {list} hlist => hlist.nodup.tail
  -- Behind the head both have the same spaces, and both in the order declared.
  have hperm : spaces.tail.Perm others.tail :=
    (List.perm_ext_iff_of_nodup (hnodup h) (hnodup hothers)).2 fun space =>
      (hmem h space).trans (hmem hothers space).symm
  have htail : spaces.tail = others.tail :=
    hperm.eq_of_pairwise (fun a b _ _ hab hba => absurd hab (Nat.lt_asymm hba)) h.ordered
      hothers.ordered
  rw [hcons h, hcons hothers, htail]

/-- What is left of the producer's space and the declared ones, told with the
function that erases repetitions and without it. -/
theorem joins_iff : Joins producer declared spaces ↔
    (producer :: declared).eraseDups = spaces := by
  constructor
  · intro h
    exact (joins_eraseDups producer declared).unique h
  · rintro rfl
    exact joins_eraseDups producer declared

/-! ### Visibility -/

/-- The spaces that a dependency is visible from, by its declaration. Without
one these are all spaces of the organisation of the producer. -/
inductive VisibleFrom (target : Target) (dependency : ProvidedDependency) :
    List SpaceName → Prop where
  | undeclared (h : dependency.parameters.get? "visibility" = none) :
      VisibleFrom target dependency [⟨target.org, "*"⟩]
  | declared {items : List Json} {declared spaces : List SpaceName}
      (h : dependency.parameters.get? "visibility" = some (.arr items))
      (hitems : List.Forall₂ Declares items declared)
      (hspaces : Joins ⟨target.org, target.space⟩ declared spaces) :
      VisibleFrom target dependency spaces

/-- Why the declaration of a dependency is refused: it is no list, or this is
what is wrong with the first item that declares no space. -/
inductive RefusedFor (dependency : ProvidedDependency) : String → Prop where
  | shape {value : Json} (h : dependency.parameters.get? "visibility" = some value)
      (hvalue : ∀ items, value ≠ .arr items) :
      RefusedFor dependency s!"expected a list, got {value.kind}"
  | item {before after : List Json} {item : Json} {reason : String}
      (h : dependency.parameters.get? "visibility" = some (.arr (before ++ item :: after)))
      (hbefore : ∀ other ∈ before, ∃ space, Declares other space) (hitem : Offends item reason) :
      RefusedFor dependency reason

/-- The visibility of a dependency without a declaration, with a list, and with
anything else. A null is a declaration, and no list. -/
theorem outcome_visibilityOf (target : Target) (dependency : ProvidedDependency) :
    (dependency.parameters.get? "visibility" = none ∧
      visibilityOf target dependency = .ok [⟨target.org, "*"⟩]) ∨
    (∃ items, dependency.parameters.get? "visibility" = some (.arr items) ∧
      visibilityOf target dependency = (items.mapM (declaredSpace dependency)).map fun declared =>
        ((⟨target.org, target.space⟩ : SpaceName) :: declared).eraseDups) ∨
    ∃ value, dependency.parameters.get? "visibility" = some value ∧
      (∀ items, value ≠ .arr items) ∧ visibilityOf target dependency =
        .error (.invalidVisibility dependency.name s!"expected a list, got {value.kind}") := by
  unfold visibilityOf
  split
  · rename_i hnone
    exact .inl ⟨hnone, rfl⟩
  · rename_i items hitems
    refine .inr (.inl ⟨items, hitems, ?_⟩)
    cases items.mapM (declaredSpace dependency) <;> rfl
  · rename_i value hlist hvalue
    exact .inr (.inr ⟨value, hvalue, hlist, rfl⟩)

/-- A visibility that is accepted has the spaces of the declaration. Both sides
determine the list, so this says what is returned. -/
theorem visibilityOf_eq_ok_iff {target : Target} : visibilityOf target dependency = .ok spaces ↔
    VisibleFrom target dependency spaces := by
  -- By the declaration. Each of the two rules is for one case, and none for the third.
  rcases outcome_visibilityOf target dependency with
    ⟨hnone, hread⟩ | ⟨items, hitems, hread⟩ | ⟨value, hvalue, hlist, hread⟩
  · rw [hread]
    constructor
    · intro h
      cases h
      exact .undeclared hnone
    · rintro (_ | ⟨h, -, -⟩)
      · rfl
      · exact absurd (hnone.symm.trans h) (by simp)
  · rw [hread]
    simp only [Outcome.map_eq_ok, Outcome.mapM_eq_ok_iff, declaredSpace_eq_ok_iff]
    constructor
    · rintro ⟨declared, hdeclared, hspaces⟩
      exact .declared hitems hdeclared (joins_iff.2 hspaces)
    · rintro (h | ⟨h, hdeclared, hspaces⟩)
      · exact absurd (h.symm.trans hitems) (by simp)
      · obtain rfl := Json.arr.inj (Option.some.inj (h.symm.trans hitems))
        exact ⟨_, hdeclared, joins_iff.1 hspaces⟩
  · rw [hread]
    constructor
    · intro h
      cases h
    · rintro (h | ⟨h, -, -⟩)
      · exact absurd (h.symm.trans hvalue) (by simp)
      · exact absurd (Option.some.inj (hvalue.symm.trans h)) (hlist _)

/-- A visibility is refused for what is wrong with the declaration, and for
nothing else. -/
theorem visibilityOf_eq_error_iff {target : Target} :
    visibilityOf target dependency = .error error ↔
      ∃ reason, RefusedFor dependency reason ∧
        error = .invalidVisibility dependency.name reason := by
  -- By the declaration. A list is refused at the first item that is; without a declaration nothing
  -- is.
  rcases outcome_visibilityOf target dependency with
    ⟨hnone, hread⟩ | ⟨items, hitems, hread⟩ | ⟨value, hvalue, hlist, hread⟩
  · rw [hread]
    constructor
    · intro h
      cases h
    · rintro ⟨reason, ⟨h, -⟩ | ⟨h, -, -⟩, -⟩
      · exact absurd (hnone.symm.trans h) (by simp)
      · exact absurd (hnone.symm.trans h) (by simp)
  · rw [hread, Outcome.map_eq_error, Outcome.mapM_eq_error_iff]
    simp only [declaredSpace_eq_ok_iff, declaredSpace_eq_error_iff]
    constructor
    · rintro ⟨before, item, after, rfl, hbefore, reason, hoffends, rfl⟩
      exact ⟨reason, .item hitems hbefore hoffends, rfl⟩
    · rintro ⟨reason, ⟨h, hlist⟩ | ⟨h, hbefore, hoffends⟩, rfl⟩
      · exact absurd (Option.some.inj (h.symm.trans hitems)) (hlist items)
      · obtain rfl := Json.arr.inj (Option.some.inj (h.symm.trans hitems))
        exact ⟨_, _, _, rfl, hbefore, reason, hoffends, rfl⟩
  · rw [hread]
    constructor
    · intro h
      cases h
      exact ⟨_, .shape hvalue hlist, rfl⟩
    · rintro ⟨reason, ⟨h, -⟩ | ⟨h, -, -⟩, rfl⟩
      · rw [Option.some.inj (h.symm.trans hvalue)]
      · exact absurd (Option.some.inj (hvalue.symm.trans h)) (hlist _)

/-- **Who may use a dependency.** A visibility is accepted exactly if it is not
declared or a list of which every item declares a space. Not declared, it is
any space of the producer's organisation; a list gives the space of the
producer and those declared, in the order declared and none twice. All else is
refused, and the reason is that of the first item that declares no space. -/
theorem visibilityOf_decided (target : Target) (dependency : ProvidedDependency) :
    ((∃ spaces, visibilityOf target dependency = .ok spaces) ↔
      dependency.parameters.get? "visibility" = none ∨
      ∃ items, dependency.parameters.get? "visibility" = some (.arr items) ∧
        ∀ item ∈ items, ∃ space, Declares item space) ∧
    (∀ spaces, visibilityOf target dependency = .ok spaces ↔
      VisibleFrom target dependency spaces) ∧
    ∀ error, visibilityOf target dependency = .error error ↔
      ∃ reason, RefusedFor dependency reason ∧
        error = .invalidVisibility dependency.name reason := by
  refine ⟨?_, fun spaces => visibilityOf_eq_ok_iff, fun error => visibilityOf_eq_error_iff⟩
  rcases outcome_visibilityOf target dependency with
    ⟨hnone, hread⟩ | ⟨items, hitems, hread⟩ | ⟨value, hvalue, hlist, hread⟩
  · simp [hread, hnone]
  · have hall : (∃ declared, items.mapM (declaredSpace dependency) = .ok declared) ↔
        ∀ item ∈ items, ∃ space, declaredSpace dependency item = .ok space :=
      Outcome.exists_mapM_iff
    simp only [declaredSpace_eq_ok_iff] at hall
    simp [hread, hitems, Outcome.map_eq_ok, ← hall]
  · simp [hread, hvalue, hlist]

/-- A declaration of the producer's own space and one that is made twice add
nothing. -/
example : visibilityOf Target.plain
    { name := "api"
      isPublic := true
      parameters := .ofList [("visibility", .arr [
        .obj [("org", .str "partner"), ("space", .null)],
        .obj [("space", .str "dev"), ("org", .str "acme")],
        .obj [("org", .str "partner")],
        .obj []])]
      properties := ∅ }
    = .ok [⟨"acme", "dev"⟩, ⟨"partner", "*"⟩, ⟨"*", "*"⟩] := by
  decide +kernel

end MultiTarget.ConfigurationEntry
