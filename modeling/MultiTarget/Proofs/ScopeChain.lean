import MultiTarget.Proofs.Support.Outcome
import MultiTarget.ScopeChain

/-!
# `MultiTarget.Proofs.ScopeChain`: what readers return

A chain of two scopes has the value of the specific one, else that of the
general one (`get?_twoScopes`). The typed readers see that value through
their view; a null is no value to them (`read?_eq_ok_none_iff`,
`read?_eq_ok_some_iff`). The other lemmas say what single readers return
where a key has no value at all, and where it has a text.
-/

set_option autoImplicit false

namespace MultiTarget.ScopeChain

variable {α : Type} {chain : ScopeChain} {key singular plural : String}

/-- A chain of two scopes has the value of the specific scope, else that of the
general one. Chains of modules and of resources are of this kind, so their
look-ups compute with it. -/
theorem get?_twoScopes (owner : String) (general own : Parameters) (key : String) :
    (ScopeChain.mk owner [general, own]).get? key
      = (own.get? key).or (general.get? key) := by
  show ([general, own].reverse.findSome? fun scope => scope.get? key) = _
  cases ho : own.get? key <;> cases hg : general.get? key <;> simp [ho, hg]

/-- A chain of one scope has the value of that scope, as the chain of a
flattened module has. -/
theorem get?_oneScope (owner : String) (own : Parameters) (key : String) :
    (ScopeChain.mk owner [own]).get? key = own.get? key := by
  show ([own].reverse.findSome? fun scope => scope.get? key) = _
  cases ho : own.get? key <;> simp [ho]

/-- A key is without a value exactly if no scope has it. A null in a scope is a
value here, although readers do not see it. -/
theorem get?_eq_none_iff :
    chain.get? key = none ↔ ∀ scope ∈ chain.scopes, scope.get? key = none := by
  unfold get?
  simp [List.findSome?_eq_none_iff]

/-- Nothing is read where there is no value, and nothing is complained about,
whatever the reader expects. -/
theorem read?_of_get?_eq_none (h : chain.get? key = none) (expected : String)
    (view : Json → Option α) : chain.read? key expected view = .ok none := by
  rw [read?, h]

/-- A value that is no null is read if it has a view, and complained about
otherwise. A null is excluded since readers pass over it before they look at
it. -/
theorem read?_of_get?_eq_some {value : Json} (h : chain.get? key = some value)
    (hnull : value ≠ .null) (expected : String) (view : Json → Option α) :
    chain.read? key expected view =
      match view value with
      | some seen => .ok (some seen)
      | none => .error (chain.invalid key expected) := by
  unfold read?
  rw [h]
  cases value <;> first | exact absurd rfl hnull | rfl

/-- Nothing is read exactly where there is no value or a null. It is an
equivalence, so a parameter that is read as absent tells what the author can
have written. -/
theorem read?_eq_ok_none_iff {expected : String} {view : Json → Option α} :
    chain.read? key expected view = .ok none ↔
      ∀ value, chain.get? key = some value → value = .null := by
  cases hget : chain.get? key with
  | none => simp [read?_of_get?_eq_none hget]
  | some value =>
      -- A null is the only value that is read like none.
      by_cases hnull : value = .null
      · subst hnull
        simp [read?, hget]
      · rw [read?_of_get?_eq_some hget hnull]
        cases view value <;> simp [hnull]

/-- What is read is the view of a value that is no null. The view must be
defined there, which says that the value has the expected shape. -/
theorem read?_eq_ok_some_iff {expected : String} {view : Json → Option α} {seen : α} :
    chain.read? key expected view = .ok (some seen) ↔
      ∃ value, chain.get? key = some value ∧ value ≠ .null ∧ view value = some seen := by
  cases hget : chain.get? key with
  | none => simp [read?_of_get?_eq_none hget]
  | some value =>
      by_cases hnull : value = .null
      · subst hnull
        simp [read?, hget]
      · rw [read?_of_get?_eq_some hget hnull]
        cases hview : view value <;> simp [hnull, hview]

/-- Where nothing is wrong, something is read exactly if there is a value that
is no null. Presence alone does not suffice, and the difference is what a null
makes. -/
theorem isSome_iff_of_read?_eq_ok {expected : String} {view : Json → Option α}
    {seen? : Option α} (h : chain.read? key expected view = .ok seen?) :
    seen?.isSome = true ↔ ∃ value, chain.get? key = some value ∧ value ≠ .null := by
  cases seen? with
  | none =>
      refine iff_of_false (by simp) ?_
      rintro ⟨value, hvalue, hnull⟩
      exact hnull (read?_eq_ok_none_iff.1 h value hvalue)
  | some seen =>
      obtain ⟨value, hvalue, hnull, -⟩ := read?_eq_ok_some_iff.1 h
      exact iff_of_true rfl ⟨value, hvalue, hnull⟩

/-- A text is read as it is, even the empty one. -/
theorem text?_of_get?_eq_str {text : String} (h : chain.get? key = some (.str text)) :
    chain.text? key = .ok (some text) := by
  rw [text?, read?, h]
  rfl

/-- A flag without a value is that of its absence, which each caller names. -/
theorem flag_of_get?_eq_none (h : chain.get? key = none) (absent : Bool) :
    chain.flag key absent = .ok absent := by
  rw [flag, flag?, read?_of_get?_eq_none h]
  rfl

/-- A flag is read unless its key has a value that is neither a null nor a
flag. What is read is the flag, else that of its absence. Texts of flags count
as flags, which `Json.flag?` decides. -/
theorem flag_eq_ok_iff {absent flag : Bool} : chain.flag key absent = .ok flag ↔
    (∀ value, chain.get? key = some value → value = .null ∨ (Json.flag? value).isSome = true) ∧
      ((chain.get? key).bind Json.flag?).getD absent = flag := by
  unfold ScopeChain.flag flag?
  cases hget : chain.get? key with
  | none =>
      rw [read?_of_get?_eq_none hget]
      exact Outcome.pure_eq_ok.trans (and_iff_right nofun).symm
  | some value =>
      -- The three cases of the reader: no value, a null, and a value with or without a view.
      by_cases hnull : value = .null
      · subst hnull
        rw [read?_eq_ok_none_iff.2 (by simp [hget])]
        simp [Outcome.pure_eq_ok, bind, Except.bind, Json.flag?]
      · rw [read?_of_get?_eq_some hget hnull]
        cases hflag : Json.flag? value <;>
          simp [Outcome.pure_eq_ok, bind, Except.bind, hflag, hnull]

/-- No scope is looked at for a pair of keys that both have no value. If one of
them has a value, be it a null, its scope is the one that is read. -/
theorem pairScope?_eq_none (hsingular : chain.get? singular = none)
    (hplural : chain.get? plural = none) : chain.pairScope? singular plural = none := by
  rw [get?_eq_none_iff] at hsingular hplural
  unfold pairScope?
  rw [List.find?_eq_none]
  intro scope hscope
  have hmem := List.mem_reverse.1 hscope
  simp [OrderedMap.contains, hsingular scope hmem, hplural scope hmem]

/-- A pair of keys that both have no value is an empty list, whatever is
expected of its items. -/
theorem pairOf_of_get?_eq_none (hsingular : chain.get? singular = none)
    (hplural : chain.get? plural = none) (expected : String) (view : Json → Option α) :
    chain.pairOf singular plural expected view = .ok [] := by
  unfold pairOf pair
  rw [pairScope?_eq_none hsingular hplural]
  rfl

end MultiTarget.ScopeChain
