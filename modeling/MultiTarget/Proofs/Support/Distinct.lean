import Mathlib.Data.List.Basic
import Mathlib.Data.List.Induction

/-!
# `MultiTarget.Proofs.Support.Distinct`: first appearances

Names, routes and hosts are listed in the order of their first appearance
(`List.eraseDups`, `pairwise_idxOf_eraseDups`), where nothing stands twice
(`nodup_eraseDups`, `eraseDups_of_nodup`). It does not matter whether such a
list is filtered before or after its repetitions are erased
(`eraseDups_filter`), and repetitions that are erased from what is mapped need
not be erased before (`eraseDups_map_eraseDups`). Where a list is put behind
another one, only what is new to it is added, so that adding the whole again
adds nothing (`eraseDups_append_eraseDups_append`).

Most proofs follow the recursion of `List.eraseDups`: the head stays, and
what follows goes on without any item equal to it. So they are by induction
on the length.
-/

set_option autoImplicit false

namespace MultiTarget

variable {α β : Type} [BEq α] [LawfulBEq α] [BEq β] [LawfulBEq β]

/-- Nothing stands twice in a list whose repetitions are erased. Routes, hosts
and joined lists are written this way, and all that is said about their
repetitions starts here. -/
theorem nodup_eraseDups (items : List α) : items.eraseDups.Nodup := by
  match items with
  | [] => simp
  | x :: rest =>
      rw [List.eraseDups_cons, List.nodup_cons]
      refine ⟨?_, nodup_eraseDups _⟩
      simp
termination_by items.length
decreasing_by exact Nat.lt_succ_of_le (List.length_filter_le ..)

omit [LawfulBEq α] in
/-- Only a list without items has no first appearances. This needs no lawful
equality, since the head is kept before anything is compared. -/
theorem eraseDups_eq_nil_iff {items : List α} : items.eraseDups = [] ↔ items = [] := by
  cases items <;> simp [List.eraseDups_cons]

/-- Nothing is erased where there are no repetitions, so a list that is known
to be distinct may be read without its erasure. -/
theorem eraseDups_of_nodup {items : List α} (h : items.Nodup) : items.eraseDups = items := by
  induction items with
  | nil => simp
  | cons x rest ih =>
      obtain ⟨hx, hrest⟩ := List.nodup_cons.1 h
      have hothers : (rest.filter fun y => !y == x) = rest :=
        List.filter_eq_self.2 fun y hy => by simp [show y ≠ x from fun heq => hx (heq ▸ hy)]
      rw [List.eraseDups_cons, hothers, ih hrest]

/-- What is left stands in the order of first appearances. Together with
`nodup_eraseDups` and the items themselves this determines the list, so that a
joined list can be told without naming the function. -/
theorem pairwise_idxOf_eraseDups (items : List α) :
    items.eraseDups.Pairwise fun x y => items.idxOf x < items.idxOf y := by
  -- By induction from the back: an item at the end is new and the last one, or nothing.
  induction items using List.reverseRecOn with
  | nil => simp
  | append_singleton front last ih =>
      have hfront : ∀ x ∈ front.eraseDups, (front ++ [last]).idxOf x = front.idxOf x :=
        fun x hx => List.idxOf_append_of_mem (List.mem_eraseDups.1 hx)
      have hpairs : front.eraseDups.Pairwise fun x y =>
          (front ++ [last]).idxOf x < (front ++ [last]).idxOf y := by
        refine ih.imp_of_mem fun {x y} hx hy hlt => ?_
        rwa [hfront x hx, hfront y hy]
      rw [List.eraseDups_append]
      by_cases hlast : last ∈ front
      · simpa [List.removeAll, hlast] using hpairs
      · have hnew : ([last].removeAll front).eraseDups = [last] := by
          simp [List.removeAll, hlast, List.eraseDups_cons]
        rw [hnew, List.pairwise_append]
        refine ⟨hpairs, List.pairwise_singleton _ _, fun x hx y hy => ?_⟩
        obtain rfl := List.mem_singleton.1 hy
        have hbound : front.idxOf x < front.length :=
          List.idxOf_lt_length_iff.2 (List.mem_eraseDups.1 hx)
        rw [hfront x hx, List.idxOf_append_of_notMem hlast]
        omega

/-- A list may be filtered before or after its repetitions are erased. The test
sees the item alone, so all the appearances of an item pass it or none does. -/
theorem eraseDups_filter (p : α → Bool) (items : List α) :
    (items.filter p).eraseDups = items.eraseDups.filter p := by
  match items with
  | [] => simp
  | x :: rest =>
      have ih := eraseDups_filter p (rest.filter fun y => !y == x)
      by_cases hx : p x = true
      · rw [List.filter_cons_of_pos hx, List.eraseDups_cons, List.eraseDups_cons,
          List.filter_cons_of_pos hx, ← ih, List.filter_comm]
      · -- What passes the test is no repetition of the head, which fails it.
        have hrest : (rest.filter fun y => !y == x).filter p = rest.filter p := by
          rw [List.filter_filter]
          refine List.filter_congr fun y _ => ?_
          by_cases hy : y = x
          · simp [hy, hx]
          · simp [hy]
        rw [List.filter_cons_of_neg hx, List.eraseDups_cons, List.filter_cons_of_neg hx, ← ih,
          hrest]
termination_by items.length
decreasing_by exact Nat.lt_succ_of_le (List.length_filter_le ..)

/-- Repetitions that are erased from what is mapped need not be erased before.
Routes with one host are such a case: hosts of distinct routes may still be
equal. -/
theorem eraseDups_map_eraseDups (f : α → β) (items : List α) :
    (items.eraseDups.map f).eraseDups = (items.map f).eraseDups := by
  match items with
  | [] => simp
  | x :: rest =>
      have ih := eraseDups_map_eraseDups f (rest.filter fun y => !f y == f x)
      -- Of what is equal to the head after the mapping, nothing is left either way.
      have hrest : ((rest.filter fun y => !y == x).eraseDups.filter fun y => !f y == f x)
          = (rest.filter fun y => !f y == f x).eraseDups := by
        rw [← eraseDups_filter, List.filter_filter]
        refine congrArg _ (List.filter_congr fun y _ => ?_)
        by_cases hy : y = x
        · simp [hy]
        · simp [hy]
      rw [List.eraseDups_cons, List.map_cons, List.eraseDups_cons, List.map_cons,
        List.eraseDups_cons, List.filter_map, List.filter_map]
      exact congrArg _ ((congrArg (fun ys => (ys.map f).eraseDups) hrest).trans ih)
termination_by items.length
decreasing_by exact Nat.lt_succ_of_le (List.length_filter_le ..)

/-- Repetitions are erased once and for all: the function is idempotent, so it
does not matter how often a list of routes passes it. -/
theorem eraseDups_eraseDups (items : List α) : items.eraseDups.eraseDups = items.eraseDups := by
  simpa using eraseDups_map_eraseDups id items

/-- Repetitions in the front part of a list need not be erased before what
follows is put behind it. -/
theorem eraseDups_eraseDups_append (xs ys : List α) :
    (xs.eraseDups ++ ys).eraseDups = (xs ++ ys).eraseDups := by
  -- What is removed from the second list depends on which items the first one has, not on how
  -- often.
  have hrest : ys.removeAll xs.eraseDups = ys.removeAll xs := by
    unfold List.removeAll
    refine List.filter_congr fun y _ => ?_
    simp
  rw [List.eraseDups_append, List.eraseDups_append, eraseDups_eraseDups, hrest]

/-- A list without repetitions does not change if its front part is put in
front of it again. A redeployment puts the routes that it keeps in front of its
own, and doing so twice is doing so once. -/
theorem eraseDups_append_eraseDups_append (xs ys : List α) :
    (xs ++ (xs ++ ys).eraseDups).eraseDups = (xs ++ ys).eraseDups := by
  have hfront : xs.filter (fun x => !xs.elem x) = [] := by
    rw [List.filter_eq_nil_iff]
    intro x hx
    simp [hx]
  -- Behind the front part, only what is not in it is left, and that is the same.
  have hrest : ((xs ++ ys).eraseDups.removeAll xs).eraseDups = (ys.removeAll xs).eraseDups := by
    show ((xs ++ ys).eraseDups.filter fun x => !xs.elem x).eraseDups = _
    rw [← eraseDups_filter, eraseDups_eraseDups, List.filter_append, hfront, List.nil_append]
    rfl
  rw [List.eraseDups_append, hrest, List.eraseDups_append]

end MultiTarget
