import Mathlib.Data.List.Forall2
import MultiTarget.Build

/-!
# `MultiTarget.Proofs.Support.Outcome`: computations that succeeded

What a successful computation says about its steps. A sequence succeeds
only if every step does (`bind_eq_ok`), and a traversal succeeds exactly
with one result for each item, in order (`mapM_eq_ok_iff`); it fails with the
error of the first item that has none (`mapM_eq_error_iff`).
`Build.forEach` is that traversal with warnings (`result_forEach`).

These lemmas belong to no single part of a model, so this module sits
outside the modules for those parts.
-/

set_option autoImplicit false

namespace MultiTarget

namespace Outcome

variable {ε α β : Type}

/-- A sequence of two computations succeeds if the first does, and the second
does with its value. A successful build is taken apart with it, step by step,
and nothing has to be unfolded. -/
theorem bind_eq_ok {first : Except ε α} {next : α → Except ε β} {result : β} :
    (first >>= next) = .ok result ↔ ∃ value, first = .ok value ∧ next value = .ok result := by
  cases first <;> simp [bind, Except.bind]

/-- `pure` succeeds with its value alone, which ends the sequences that
`bind_eq_ok` takes apart. -/
theorem pure_eq_ok {value result : α} :
    (pure value : Except ε α) = .ok result ↔ value = result := by
  simp [pure, Except.pure]

/-- A result that is kept under a name comes from a computation that succeeds
with it. Tables of names and of published entries are made of such steps. -/
theorem named_eq_ok {γ : Type} {name : γ} {run : Except ε α} {entry : γ × α} :
    (do return (name, ← run) : Except ε (γ × α)) = .ok entry ↔
      entry.1 = name ∧ run = .ok entry.2 := by
  simp only [bind_eq_ok, pure_eq_ok]
  constructor
  · rintro ⟨value, hrun, rfl⟩
    exact ⟨rfl, hrun⟩
  · rintro ⟨rfl, hrun⟩
    exact ⟨entry.2, hrun, rfl⟩

/-- A computation succeeds with what is left of it as an option. Conditions are
stated with options where the error does not matter. -/
theorem toOption_eq_some {result : Except ε α} {value : α} :
    result.toOption = some value ↔ result = .ok value := by
  cases result <;> simp [Except.toOption]

/-- What a result is mapped to comes from a result, so a view of a build says
something of the build itself. -/
theorem map_eq_ok {result : Except ε α} {f : α → β} {y : β} :
    result.map f = .ok y ↔ ∃ x, result = .ok x ∧ f x = y := by
  cases result <;> simp [Except.map]

/-- A traversal succeeds exactly with the results of the items, in order. The
relation on the right keeps each result with its item, which membership would
lose. -/
theorem mapM_eq_ok_iff {f : α → Except ε β} {items : List α} {results : List β} :
    items.mapM f = .ok results ↔ List.Forall₂ (fun x y => f x = .ok y) items results := by
  induction items generalizing results with
  | nil =>
      rw [List.mapM_nil, pure_eq_ok, List.forall₂_nil_left_iff]
      exact eq_comm
  | cons x rest ih =>
      rw [List.mapM_cons]
      simp only [bind_eq_ok, pure_eq_ok, ih, List.forall₂_cons_left_iff]
      constructor
      · rintro ⟨y, hy, ys, hys, rfl⟩
        exact ⟨y, ys, hy, hys, rfl⟩
      · rintro ⟨y, ys, hy, hys, rfl⟩
        exact ⟨y, hy, ys, hys, rfl⟩

/-- Every item of a traversal that succeeds has a result, and it is among the
results of the traversal. -/
theorem exists_result_of_mem {f : α → Except ε β} {items : List α} {results : List β}
    (h : items.mapM f = .ok results) {x : α} (hx : x ∈ items) :
    ∃ y ∈ results, f x = .ok y := by
  induction mapM_eq_ok_iff.1 h with
  | nil => cases hx
  | @cons x' y' xs ys hxy hrest ih =>
      rcases List.mem_cons.1 hx with rfl | hmem
      · exact ⟨y', List.mem_cons_self, hxy⟩
      · obtain ⟨y, hy, hfy⟩ := ih (mapM_eq_ok_iff.2 hrest) hmem
        exact ⟨y, List.mem_cons_of_mem _ hy, hfy⟩

/-- Every result of a traversal is that of an item, so what holds of the
results of single items holds of all results. -/
theorem exists_item_of_mem {f : α → Except ε β} {items : List α} {results : List β}
    (h : items.mapM f = .ok results) {y : β} (hy : y ∈ results) :
    ∃ x ∈ items, f x = .ok y := by
  induction mapM_eq_ok_iff.1 h with
  | nil => cases hy
  | @cons x' y' xs ys hxy hrest ih =>
      rcases List.mem_cons.1 hy with rfl | hmem
      · exact ⟨x', List.mem_cons_self, hxy⟩
      · obtain ⟨x, hx, hfx⟩ := ih (mapM_eq_ok_iff.2 hrest) hmem
        exact ⟨x, List.mem_cons_of_mem _ hx, hfx⟩

/-- A traversal succeeds exactly if every item has a result. Which results
these are does not matter, so the order of the items does not either. -/
theorem exists_mapM_iff {f : α → Except ε β} {items : List α} :
    (∃ results, items.mapM f = .ok results) ↔ ∀ x ∈ items, ∃ y, f x = .ok y := by
  constructor
  · rintro ⟨results, h⟩ x hx
    obtain ⟨y, -, hy⟩ := exists_result_of_mem h hx
    exact ⟨y, hy⟩
  · intro h
    induction items with
    | nil => exact ⟨[], rfl⟩
    | cons x rest ih =>
        obtain ⟨y, hy⟩ := h x List.mem_cons_self
        obtain ⟨ys, hys⟩ := ih fun x' hx' => h x' (List.mem_cons_of_mem _ hx')
        refine ⟨y :: ys, ?_⟩
        rw [List.mapM_cons, hy, hys]
        rfl

/-- A traversal of items each of which has a known result has these results.
The knowledge is asked for items of the list only. -/
theorem mapM_eq_ok_map {f : α → Except ε β} {g : α → β} {items : List α}
    (h : ∀ x ∈ items, f x = .ok (g x)) : items.mapM f = .ok (items.map g) := by
  rw [mapM_eq_ok_iff, List.forall₂_map_right_iff]
  exact List.forall₂_same.2 h

/-- The results for those items that pass a test are results for all items,
where any other item has an empty one. So blocks of manifests can be told for
all resources in order, although inactive ones are never looked at. -/
theorem exists_forall₂_of_mapM_filter {f : α → Except ε (List β)} {p : α → Bool}
    {relation : α → List β → Prop} (hpass : ∀ x y, p x = true → f x = .ok y → relation x y)
    (hfail : ∀ x, p x = false → relation x []) {items : List α} {results : List (List β)}
    (h : (items.filter p).mapM f = .ok results) :
    ∃ blocks, List.Forall₂ relation items blocks ∧ blocks.flatten = results.flatten := by
  -- Along all items. The traversal shortens only at those that pass, hence the case distinction
  -- first.
  induction items generalizing results with
  | nil =>
      cases h
      exact ⟨[], .nil, rfl⟩
  | cons x rest ih =>
      cases hx : p x with
      | false =>
          -- The item is passed over, so that its block is empty.
          rw [List.filter_cons_of_neg (by simp [hx])] at h
          obtain ⟨blocks, hblocks, hflatten⟩ := ih h
          exact ⟨[] :: blocks, .cons (hfail x hx) hblocks, hflatten⟩
      | true =>
          rw [List.filter_cons_of_pos hx, mapM_eq_ok_iff,
            List.forall₂_cons_left_iff] at h
          obtain ⟨y, ys, hy, hys, rfl⟩ := h
          obtain ⟨blocks, hblocks, hflatten⟩ := ih (mapM_eq_ok_iff.2 hys)
          refine ⟨y :: blocks, .cons (hpass x y hx hy) hblocks, ?_⟩
          rw [List.flatten_cons, List.flatten_cons, hflatten]

/-- What every item has in common with its result, items and results have in
common in order. A name that is kept by each step is an example. -/
theorem map_eq_map_of_mapM {γ : Type} {f : α → Except ε β} {p : α → γ} {q : β → γ}
    (hf : ∀ x y, f x = .ok y → q y = p x) {items : List α} {results : List β}
    (h : items.mapM f = .ok results) : results.map q = items.map p := by
  induction mapM_eq_ok_iff.1 h with
  | nil => rfl
  | @cons x y xs ys hxy hrest ih =>
      rw [List.map_cons, List.map_cons, hf x y hxy, ih (mapM_eq_ok_iff.2 hrest)]

/-- A traversal of other items, each of which has the mapped result of the
first one, has the mapped results. It fails as the first one does, since the
equation is between the outcomes. -/
theorem mapM_map_eq_map {γ δ : Type} {run : α → Except ε β} {other : γ → Except ε δ}
    {f : α → γ} {g : β → δ} (h : ∀ x, other (f x) = g <$> run x) (items : List α) :
    (items.map f).mapM other = List.map g <$> items.mapM run := by
  induction items with
  | nil => rfl
  | cons x rest ih =>
      rw [List.map_cons, List.mapM_cons, List.mapM_cons, h, ih]
      simp only [map_bind, bind_map_left, map_pure, List.map_cons]

/-- A traversal of other items, each of which has a result that looks like that
of the first one, has results that look alike. Unlike in `mapM_map_eq_map` no
function makes one result of the other, so the results exist and agree in a
view. -/
theorem exists_mapM_map {γ δ : Type} {run : α → Except ε β} {other : γ → Except ε β}
    {f : α → γ} {view : β → δ}
    (h : ∀ x y, run x = .ok y → ∃ z, other (f x) = .ok z ∧ view z = view y)
    {items : List α} {results : List β} (hrun : items.mapM run = .ok results) :
    ∃ others, (items.map f).mapM other = .ok others ∧ others.map view = results.map view := by
  induction mapM_eq_ok_iff.1 hrun with
  | nil => exact ⟨[], rfl, rfl⟩
  | @cons x y xs ys hxy hrest ih =>
      obtain ⟨z, hz, hview⟩ := h x y hxy
      obtain ⟨zs, hzs, hviews⟩ := ih (mapM_eq_ok_iff.2 hrest)
      refine ⟨z :: zs, ?_, by rw [List.map_cons, List.map_cons, hview, hviews]⟩
      rw [List.map_cons, List.mapM_cons, hz, hzs]
      rfl

/-! ### Failures -/

/-- A sequence of two computations fails if the first does, or if the second
does with its value. The error is that of the step that failed. -/
theorem bind_eq_error {first : Except ε α} {next : α → Except ε β} {error : ε} :
    (first >>= next) = .error error ↔
      first = .error error ∨ ∃ value, first = .ok value ∧ next value = .error error := by
  cases first <;> simp [bind, Except.bind]

/-- What is mapped fails as it did before, and only then. -/
theorem map_eq_error {result : Except ε α} {f : α → β} {error : ε} :
    result.map f = .error error ↔ result = .error error := by
  cases result <;> simp [Except.map]

/-- No value is an error, so the last step of a sequence never fails. -/
theorem pure_ne_error {value : α} {error : ε} : (pure value : Except ε α) ≠ .error error := by
  simp [pure, Except.pure]

/-- What is made of a result fails as the result does, because the step behind
it cannot fail. -/
theorem bind_pure_eq_error {run : Except ε α} {f : α → β} {error : ε} :
    (run >>= fun value => pure (f value)) = .error error ↔ run = .error error := by
  simp only [bind_eq_error, pure_ne_error, and_false, exists_false, or_false]

/-- A traversal fails as the first item without a result does. All items before
it have results, which tells which error wins if several items fail. -/
theorem mapM_eq_error_iff {f : α → Except ε β} {items : List α} {error : ε} :
    items.mapM f = .error error ↔ ∃ before x after, items = before ++ x :: after ∧
      (∀ other ∈ before, ∃ y, f other = .ok y) ∧ f x = .error error := by
  induction items with
  | nil => simp [pure_ne_error]
  | cons x rest ih =>
      rw [List.mapM_cons]
      simp only [bind_eq_error, pure_ne_error, and_false, exists_false, or_false, ih]
      constructor
      · rintro (hx | ⟨y, hy, before, x', after, rfl, hbefore, hx'⟩)
        · exact ⟨[], x, rest, rfl, by simp, hx⟩
        · refine ⟨x :: before, x', after, rfl, ?_, hx'⟩
          intro other hother
          rcases List.mem_cons.1 hother with rfl | hmem
          · exact ⟨y, hy⟩
          · exact hbefore other hmem
      · rintro ⟨before, x', after, hitems, hbefore, hx'⟩
        -- The items are divided at the failing one, which is the head or stands behind it.
        cases before with
        | nil =>
            obtain ⟨rfl, rfl⟩ := List.cons.inj hitems
            exact .inl hx'
        | cons first before =>
            obtain ⟨rfl, rfl⟩ := List.cons.inj hitems
            obtain ⟨y, hy⟩ := hbefore x List.mem_cons_self
            exact .inr ⟨y, hy, before, x', after, rfl,
              fun other hother => hbefore other (List.mem_cons_of_mem _ hother), hx'⟩

/-- A computation fails, with an error of its own or as another one does. It
compares a build that is sure to fail with one that may fail earlier, so the
error alone is not determined. -/
def FailsOwnOrAs (own : ε) (other run : Except ε α) : Prop :=
  ∃ error, run = .error error ∧ (error = own ∨ other = .error error)

/-- After a step that both share, what follows decides. If the step fails, both
fail with its error, which is the second case of the definition. -/
theorem FailsOwnOrAs.bind {own : ε} (step : Except ε α) {next other : α → Except ε β}
    (h : ∀ value, FailsOwnOrAs own (other value) (next value)) :
    FailsOwnOrAs own (step >>= other) (step >>= next) := by
  cases step with
  | error error => exact ⟨error, rfl, .inr rfl⟩
  | ok value => exact h value

/-- Nothing follows the failure of a step: if it has the error in question, the
computation has it, whatever the other one does. -/
theorem FailsOwnOrAs.of_step {own : ε} {step : Except ε α} (h : step = .error own)
    (other : Except ε β) (next : α → Except ε β) : FailsOwnOrAs own other (step >>= next) :=
  ⟨own, by rw [h]; rfl, .inl rfl⟩

/-! ### Results without warnings -/

/-- A computation without warnings has its own result when it is lifted to a
build. -/
@[simp] theorem result_liftM (result : Except ContentError α) :
    (liftM result : Build α).result = result := rfl

/-- The results of a traversal that may warn are those of the traversal without
warnings. So the lemmas above on `mapM` apply to builds, as long as only
results are asked for. -/
theorem result_forEach (run : α → Build β) (items : List α) :
    (Build.forEach run items).result = items.mapM fun item => (run item).result := by
  induction items with
  | nil => rfl
  | cons item rest ih =>
      rw [Build.forEach, List.mapM_cons, Build.result_bind]
      simp only [Build.result_bind, Build.result_pure, ih]
      rfl

end Outcome

end MultiTarget
