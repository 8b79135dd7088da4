import MultiTarget.Proofs.Support.Outcome

/-!
# `MultiTarget.Proofs.Support.Lawful`: builds as a monad

Builds obey the laws of a monad, warnings included. So an equation between
two builds is proved by moving what is done to a result (`<$>`) through the
steps, and it says at once that results, errors and warnings agree.

A traversal whose steps differ by what is done to their results is the
other traversal with the same done to all results (`forEach_eq_map`). One
that succeeds raises the warnings of all its steps (`warnings_forEach`).
-/

set_option autoImplicit false

namespace MultiTarget.Build

variable {α β γ : Type}

/-! ### The laws -/

/-- Doing nothing to a result changes no build. The warnings of the step behind
are none, so appending them leaves the list. -/
protected theorem id_map (build : Build α) : id <$> build = build := by
  obtain ⟨warnings, result⟩ := build
  show Build.bind ⟨warnings, result⟩ (fun value => pure value) = _
  cases result with
  | error error => rfl
  | ok value =>
      show Build.mk (warnings ++ []) (.ok value) = _
      rw [List.append_nil]

/-- Steps may be grouped in either way. A failure ends the build in both
groupings with the warnings that were raised until then, in the same order. -/
protected theorem bind_assoc (build : Build α) (f : α → Build β) (g : β → Build γ) :
    build >>= f >>= g = build >>= fun value => f value >>= g := by
  obtain ⟨warnings, result⟩ := build
  show Build.bind (Build.bind ⟨warnings, result⟩ f) g
    = Build.bind ⟨warnings, result⟩ fun value => Build.bind (f value) g
  cases result with
  | error error => rfl
  | ok value =>
      -- Warnings are three lists in a row if the second step succeeds, and two if it fails.
      cases hf : (f value).result <;> simp [Build.bind, hf]

/-- The laws of a monad, so that the lemmas of the library about `map` and
`bind` may rewrite builds. -/
instance : LawfulMonad Build :=
  LawfulMonad.mk' Build Build.id_map (fun _ _ => rfl) Build.bind_assoc

/-! ### Results that are mapped -/

/-- Warnings do not depend on what is done to the result, whether the build
succeeds or fails. -/
@[simp] theorem warnings_map (f : α → β) (build : Build α) :
    (f <$> build).warnings = build.warnings := by
  obtain ⟨warnings, result⟩ := build
  show (Build.bind ⟨warnings, result⟩ fun value => pure (f value)).warnings = warnings
  cases result with
  | error error => rfl
  | ok value => exact List.append_nil warnings

/-- What is done to a build is done to its result, and an error stays the error
it was. -/
@[simp] theorem result_map (f : α → β) (build : Build α) :
    (f <$> build).result = f <$> build.result := by
  show (build >>= fun value => pure (f value)).result = _
  rw [result_bind, map_eq_pure_bind]
  rfl

/-- Functions that agree on the result do the same to a build. A build that
fails has no result, so nothing is asked of the functions there. -/
theorem map_congr {f g : α → β} {build : Build α}
    (h : ∀ value, build.result = .ok value → f value = g value) : f <$> build = g <$> build := by
  obtain ⟨warnings, result⟩ := build
  show Build.bind ⟨warnings, result⟩ (fun value => pure (f value))
    = Build.bind ⟨warnings, result⟩ fun value => pure (g value)
  cases result with
  | error error => rfl
  | ok value => simp only [Build.bind, h value rfl]

/-- What is done to an outcome without warnings is done to the build that it is
lifted to. So mappings are moved to the front before they meet a step that may
warn. -/
theorem liftM_map (f : α → β) (result : Except ContentError α) :
    (liftM (f <$> result) : Build β) = f <$> (liftM result : Build α) := by
  cases result <;> rfl

/-- Two traversals whose steps differ by what is done to the results differ by
the same. The steps are compared as builds, so results, errors and warnings of
the traversals agree at once. -/
theorem forEach_eq_map {run : α → Build β} {other : α → Build γ} {f : γ → β} {items : List α}
    (h : ∀ item ∈ items, run item = f <$> other item) :
    forEach run items = List.map f <$> forEach other items := by
  induction items with
  | nil => simp only [forEach, map_pure, List.map_nil]
  | cons item rest ih =>
      have hfirst := h item List.mem_cons_self
      have hrest := ih fun next hnext => h next (List.mem_cons_of_mem _ hnext)
      simp only [forEach, hfirst, hrest, bind_map_left, map_bind, map_pure, List.map_cons]

/-- A traversal that succeeds raises the warnings of all items, in order. One
that fails stops at an item and lacks the warnings of those behind it, so
success is asked for. -/
theorem warnings_forEach {run : α → Build β} {items : List α} {results : List β}
    (h : (forEach run items).result = .ok results) :
    (forEach run items).warnings = items.flatMap fun item => (run item).warnings := by
  induction items generalizing results with
  | nil => rfl
  | cons item rest ih =>
      rw [forEach] at h ⊢
      simp only [result_bind, result_pure, Outcome.bind_eq_ok] at h
      -- The traversal succeeded, so its first step and the rest did. Each part then shows its
      -- warnings.
      obtain ⟨first, hfirst, others, hothers, -⟩ := h
      rw [warnings_bind_of_ok hfirst, warnings_bind_of_ok hothers, warnings_pure,
        List.append_nil, ih hothers, List.flatMap_cons]

end MultiTarget.Build
