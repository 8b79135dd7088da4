import Mathlib.Data.List.Nodup
import Mathlib.Data.List.Perm.Basic
import MultiTarget.Proofs.Agreement
import MultiTarget.Proofs.Support.Outcome

/-!
# `MultiTarget.Proofs.Support.Reordered`: lists in another order

A traversal of reordered items has the results reordered, if both succeed
(`mapM_perm`); which error wins is another matter. A map has no order of its
own, so entries with distinct keys make the same map in whatever order they
are put in (`OrderedMap.ofList_perm`).
-/

set_option autoImplicit false

namespace MultiTarget

open List (Perm)

/-- Traversals of the same items in another order have the same results in
another order. Both must succeed: which error wins depends on the order. -/
theorem Outcome.mapM_perm {ε α β : Type} {f : α → Except ε β} {items items' : List α}
    (hperm : items.Perm items') {results results' : List β}
    (h : items.mapM f = .ok results) (h' : items'.mapM f = .ok results') :
    results.Perm results' := by
  -- The permutation is moved in front of the relation between items and results.
  obtain ⟨found, hfound, hresults⟩ := List.perm_comp_forall₂ hperm (mapM_eq_ok_iff.1 h')
  obtain rfl : found = results := Except.ok.inj ((mapM_eq_ok_iff.2 hfound).symm.trans h)
  exact hresults

namespace OrderedMap

variable {α : Type}

/-- Entries of different keys may be put in in either order. With equal keys
the later one wins, so the keys must differ. -/
theorem insert_comm (m : OrderedMap α) {key other : String} (hne : key ≠ other)
    (value value' : α) :
    (m.insert key value).insert other value' = (m.insert other value').insert key value := by
  refine ext_get? fun k => ?_
  simp only [get?_insert]
  -- Under one of the two keys its own entry is found, and under any other key what was there.
  by_cases hkey : k = key
  · subst hkey
    rw [if_neg hne, if_pos rfl, if_pos rfl]
  · rw [if_neg hkey, if_neg hkey]

/-- Entries are put in from the first to the last. As a fold, the lemma of the
library about permuted folds applies. -/
theorem insertAll_eq_foldl (m : OrderedMap α) (entries : List (String × α)) :
    m.insertAll entries = entries.foldl (fun m e => m.insert e.1 e.2) m := by
  induction entries generalizing m with
  | nil => rfl
  | cons entry rest ih =>
      obtain ⟨key, value⟩ := entry
      rw [insertAll_cons, ih, List.foldl_cons]

/-- Entries with distinct keys make one map, whatever their order. Keys that
stand twice are excluded, since the last of their entries would win. -/
theorem ofList_perm {xs ys : List (String × α)} (hkeys : (xs.map (·.1)).Nodup)
    (hperm : xs.Perm ys) : ofList xs = ofList ys := by
  unfold ofList
  rw [insertAll_eq_foldl, insertAll_eq_foldl]
  refine hperm.foldl_eq' (fun x hx y hy m => ?_) empty
  by_cases hsame : x = y
  · rw [hsame]
  · -- Two entries of the list that differ have different keys.
    have hne : x.1 ≠ y.1 := fun hkey => hsame (List.inj_on_of_nodup_map hkeys hx hy hkey)
    exact m.insert_comm hne x.2 y.2

end OrderedMap

end MultiTarget
